import PackageIndex.Text

/-!
# Arguments

A command line is read against a description of its commands. Options may stand before and after
operands, short ones may be joined, and what follows `--` is operands only. A group of commands has
a tier of its own: what is given before the name of a command belongs to the group, what is given
behind it to the command. What an option or operand holds is looked at only when reading goes on to
the next one, or ends.
-/
namespace PackageIndex.CommandLine

/-- What a value has to be. -/
inductive Check where
  | any
  | filled
  | oneOf (choices : List String)
  deriving DecidableEq, Repr

def Check.accepts : Check → String → Bool
  | any, _ => true
  | filled, value => value ≠ ""
  | oneOf choices, value => value ∈ choices

inductive OptionKind where
  /-- Given once, without a value. -/
  | flag
  /-- Counts how often it is given. -/
  | counter
  /-- Given once, with a value. -/
  | single (check : Check)
  | repeated (check : Check)
  deriving DecidableEq, Repr

structure OptionSpec where
  name : String
  short : Option Char
  kind : OptionKind
  deriving DecidableEq, Repr

def OptionSpec.check? (option : OptionSpec) : Option Check :=
  match option.kind with
  | .flag | .counter => none
  | .single check | .repeated check => some check

structure Operand where
  name : String
  check : Check
  deriving DecidableEq, Repr

/-- What is given at one tier: the values of an option in order, and a flag has empty ones. -/
structure Given where
  options : List (String × List String)
  operands : List String
  deriving DecidableEq, Repr

namespace Given

def empty : Given := ⟨[], []⟩

def values (given : Given) (name : String) : List String :=
  ((given.options.find? fun option => option.1 = name).map Prod.snd).getD []

def has (given : Given) (name : String) : Bool := given.options.any fun option => option.1 = name

def value? (given : Given) (name : String) : Option String := (given.values name).head?

def operand (given : Given) (index : Nat) : String := (given.operands[index]?).getD ""

/-- Adds a value to those of an option. -/
def add (given : Given) (name value : String) : Given :=
  let rec put : List (String × List String) → List (String × List String)
    | [] => [(name, [value])]
    | (other, values) :: rest =>
      if other = name then (name, values ++ [value]) :: rest else (other, values) :: put rest
  { given with options := put given.options }

end Given

inductive Spec (Command : Type) where
  | command (name : String) (options : List OptionSpec) (operands : List Operand)
    (build : Given → Command)
  | group (name : String) (members : List (Spec Command))
  /-- The same under one more name. -/
  | named (name : String) (spec : Spec Command)

namespace Spec

variable {Command : Type}

def answersTo (name : String) : Spec Command → Bool
  | command own _ _ _ => own = name
  | group own _ => own = name
  | named other spec => other = name || spec.answersTo name

def options : Spec Command → List OptionSpec
  | command _ options _ _ => options
  | group _ _ => []
  | named _ spec => spec.options

def operands : Spec Command → List Operand
  | command _ _ operands _ => operands
  | group _ _ => []
  | named _ spec => spec.operands

/-- The commands of a group. -/
def members? : Spec Command → Option (List (Spec Command))
  | command _ _ _ _ => none
  | group _ members => some members
  | named _ spec => spec.members?

def find? (spec : Spec Command) (name : String) : Option (Spec Command) :=
  (spec.members?.getD []).find? (answersTo name)

def build? (spec : Spec Command) (given : Given) : Option Command :=
  match spec with
  | command _ _ _ build => some (build given)
  | group _ _ => none
  | named _ spec => spec.build? given

end Spec

/-- Why reading ended without a command. -/
inductive Stop where
  | help
  | version
  | misuse
  deriving DecidableEq, Repr

/-! ## Tiers -/

/-- What was given last and has not been looked at. -/
inductive Pending where
  | nothing
  | option (option : OptionSpec)
  | value (option : OptionSpec) (value : String)
  | operand (operand : Operand) (value : String)
  deriving DecidableEq, Repr

structure Tier (Command : Type) where
  spec : Spec Command
  given : Given
  pending : Pending

namespace Tier

variable {Command : Type}

def start (spec : Spec Command) : Tier Command := ⟨spec, .empty, .nothing⟩

/-- Takes in an option with its value. -/
def take (tier : Tier Command) (option : OptionSpec) (value : String) :
    Except Stop (Tier Command) :=
  let isRepeatable := match option.kind with
    | .counter | .repeated _ => true
    | .flag | .single _ => false
  let isFit := match option.check? with
    | some check => check.accepts value
    | none => true
  if !isFit || (!isRepeatable && tier.given.has option.name) then .error .misuse
  else .ok { tier with given := tier.given.add option.name value, pending := .nothing }

/-- Takes in what is pending. -/
def settle (tier : Tier Command) : Except Stop (Tier Command) :=
  match tier.pending with
  | .nothing => .ok tier
  | .option _ => .error .misuse
  | .value option value => tier.take option value
  | .operand operand value =>
    if operand.check.accepts value then
      .ok { tier with
        given := { tier.given with operands := tier.given.operands ++ [value] }
        pending := .nothing }
    else .error .misuse

/-- Two options that exclude each other where they stand at the same tier. -/
structure Conflict where
  one : String
  other : String

/-- The end of a tier: every operand has to be there, and a group has to have led to a command. -/
def finish (conflicts : List Conflict) (isLast : Bool) (tier : Tier Command) :
    Except Stop Given := do
  let tier ← tier.settle
  let isGroup := tier.spec.members?.isSome
  let clash := conflicts.any fun conflict =>
    tier.given.has conflict.one && tier.given.has conflict.other
  if clash || (isGroup && isLast) || tier.given.operands.length < tier.spec.operands.length then
    .error .misuse
  else .ok tier.given

end Tier

/-! ## Reading -/

/-- What holds at every tier of a command line. -/
structure Shared where
  options : List OptionSpec
  conflicts : List Tier.Conflict

namespace Shared

variable {Command : Type}

/-- The option that asks for help, and the one for the version at the outermost tier. -/
def helpOption : OptionSpec := ⟨"help", some 'h', .flag⟩
def versionOption : OptionSpec := ⟨"version", some 'V', .flag⟩

def optionsAt (shared : Shared) (isOutermost : Bool) (spec : Spec Command) : List OptionSpec :=
  spec.options ++ shared.options ++ [helpOption]
    ++ if isOutermost then [versionOption] else []

/-- An option without a value. Help and version are told once all before them is in order. -/
def raise (tier : Tier Command) (option : OptionSpec) : Except Stop (Tier Command) := do
  let tier ← tier.settle
  if option = helpOption then .error .help
  else if option = versionOption then .error .version
  else tier.take option ""

/-- An option that has its value with it, or waits for one. -/
def meet (tier : Tier Command) (option : OptionSpec) (value : Option String) :
    Except Stop (Tier Command) := do
  match option.check?, value with
  | none, some _ => .error .misuse
  | none, none => raise tier option
  | some _, some value => do
    let tier ← tier.settle
    tier.take option value
  | some _, none => do
    let tier ← tier.settle
    .ok { tier with pending := .option option }

/-- An argument that begins with two dashes. -/
def readLong (shared : Shared) (isOutermost : Bool) (tier : Tier Command)
    (argument : List Char) : Except Stop (Tier Command) :=
  let name := String.ofList (argument.takeWhile fun c => c ≠ '=')
  let value := match argument.dropWhile fun c => c ≠ '=' with
    | [] => none
    | _ :: value => some (String.ofList value)
  match (shared.optionsAt isOutermost tier.spec).find? fun option => option.name = name with
  | some option => meet tier option value
  | none => .error .misuse

/-- Letters that were joined behind one dash; the rest after one with a value is its value. -/
def readShort (shared : Shared) (isOutermost : Bool) :
    Tier Command → (letters : List Char) → Except Stop (Tier Command)
  | tier, [] => .ok tier
  | tier, letter :: rest =>
    match (shared.optionsAt isOutermost tier.spec).find? fun option =>
      option.short = some letter with
    | none => .error .misuse
    | some option =>
      if option.check?.isSome then
        let value := match rest with
          | [] => none
          | '=' :: rest => some (String.ofList rest)
          | rest => some (String.ofList rest)
        meet tier option value
      else do
        let tier ← raise tier option
        readShort shared isOutermost tier rest

end Shared

/-- A command line being read: its tiers, the deepest one first. -/
structure Progress (Command : Type) where
  tier : Tier Command
  above : List (Tier Command)
  /-- Whether only operands may follow. -/
  isPlain : Bool

namespace Progress

variable {Command : Type}

/-- An argument that is a value or an operand. -/
def readPlain (tier : Tier Command) (argument : String) : Except Stop (Tier Command) := do
  let tier ← tier.settle
  match tier.spec.operands[tier.given.operands.length]? with
  | some operand => .ok { tier with pending := .operand operand argument }
  | none => .error .misuse

/-- Whether an argument asks for options: it begins with a dash and goes on. -/
inductive Form where
  | ending
  | long (rest : List Char)
  | short (letters : List Char)
  | plain

def form (argument : String) : Form :=
  match argument.toList with
  | ['-', '-'] => .ending
  | '-' :: '-' :: rest => .long rest
  | '-' :: letter :: rest => .short (letter :: rest)
  | _ => .plain

/-- Whether the commands of a group are named, one inside the other. -/
def leadsTo : Spec Command → (names : List String) → Bool
  | _, [] => true
  | spec, name :: names =>
    match spec.find? name with
    | some member => leadsTo member names
    | none => name = "help" && spec.members?.isSome && names.isEmpty

/-- The word that asks for help about what follows it. -/
def helpWord : String := "help"

def read (shared : Shared) : Progress Command → List String → Except Stop (Progress Command)
  | progress, [] => .ok progress
  | ⟨tier, above, isPlain⟩, argument :: rest =>
    let goOn (tier : Tier Command) (isPlain : Bool) : Except Stop (Progress Command) :=
      read shared ⟨tier, above, isPlain⟩ rest
    if isPlain then do
      let tier ← readPlain tier argument
      goOn tier true
    else
      let isWaiting := match tier.pending with
        | .option _ => true
        | _ => false
      let member := if isWaiting then none else tier.spec.find? argument
      match member with
      | some member => read shared ⟨.start member, tier :: above, false⟩ rest
      | none =>
        if ¬ isWaiting ∧ argument = helpWord ∧ tier.spec.members?.isSome then
          .error (if leadsTo tier.spec rest then .help else .misuse)
        else match form argument with
        | .ending => goOn tier true
        | .long argument => do
          let tier ← shared.readLong above.isEmpty tier argument
          goOn tier false
        | .short letters => do
          let tier ← shared.readShort above.isEmpty tier letters
          goOn tier false
        | .plain =>
          match tier.pending with
          | .option option => goOn { tier with pending := .value option argument } false
          | _ => do
            let tier ← readPlain tier argument
            goOn tier false

end Progress

/-- A command with what was given at every tier that led to it, the deepest one first. -/
structure Invocation (Command : Type) where
  command : Command
  tiers : List Given

namespace Invocation

variable {Command : Type}

/-- The values of an option at the deepest tier that it was given at. -/
def values (invocation : Invocation Command) (name : String) : List String :=
  ((invocation.tiers.find? fun given => given.has name).map fun given =>
    given.values name).getD []

def value? (invocation : Invocation Command) (name : String) : Option String :=
  (invocation.values name).head?

def has (invocation : Invocation Command) (name : String) : Bool :=
  invocation.tiers.any fun given => given.has name

/-- Reads the arguments behind the name of the program. -/
def read (shared : Shared) (program : Spec Command) (arguments : List String) :
    Except Stop (Invocation Command) := do
  let progress ← Progress.read shared ⟨.start program, [], false⟩ arguments
  let last ← progress.tier.finish shared.conflicts true
  let above ← progress.above.mapM fun tier => tier.finish shared.conflicts false
  match progress.tier.spec.build? last with
  | some command => .ok ⟨command, last :: above⟩
  | none => .error .misuse

end Invocation

end PackageIndex.CommandLine

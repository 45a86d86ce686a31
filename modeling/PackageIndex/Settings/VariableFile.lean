import PackageIndex.Settings
import PackageIndex.Text.Blank
import PackageIndex.Text.Letter

/-!
# Files of variables

A file may give values to environment variables, one a line and written as for a shell: with
quotes, escapes and the values of other variables. A variable that has a value already keeps it.
Lines count up to the first one that is not of that form.
-/
namespace PackageIndex.VariableFile

def fileName : String := ".env"

/-! ## Lines -/

/-- Where in a line a character stands; an open quote goes on to the next line. -/
inductive Position where
  | plain
  | blank
  | escape
  | single
  | singleEscape
  | double
  | doubleEscape
  deriving DecidableEq, Repr

/-- The position after a character. -/
def Position.next (position : Position) (c : Char) : Position :=
  let start : Position :=
    if c = '\\' then .escape else if c = '"' then .double else if c = '\x27' then .single
    else .plain
  match position with
  | .blank => start
  | .plain => if Text.isBlank c ∧ c ≠ '\n' ∧ c ≠ '\r' then .blank else start
  | .escape => .plain
  | .single => if c = '\\' then .singleEscape else if c = '\x27' then .plain else .single
  | .singleEscape => .single
  | .double => if c = '\\' then .doubleEscape else if c = '"' then .plain else .double
  | .doubleEscape => .double

/-- A logical line and what follows it. -/
structure Line where
  text : List Char
  rest : List Char

namespace Line

def skip (text : List Char) : List Char := (text.dropWhile fun c => c ≠ '\n').tail

/-- Reads on to the end of a line that is not inside quotes. A comment, which begins with a hash
after a blank, is left out. Nothing comes of a line that does not end. -/
def readFrom : (position : Position) → List Char → Option Line
  | position, [] => if position = .plain then some ⟨[], []⟩ else none
  | position, c :: rest =>
    if position = .blank ∧ c = '#' then some ⟨[], skip rest⟩
    else
      let next := position.next c
      if c = '\n' ∧ next = .plain then some ⟨[], rest⟩
      else (readFrom next rest).map fun line => ⟨c :: line.text, line.rest⟩

/-- A line that begins with a hash is empty, whatever quotes it holds. -/
def read? (text : List Char) : Option Line :=
  match text.dropWhile fun c => Text.isBlank c && c ≠ '\n' with
  | '#' :: rest => some ⟨[], skip rest⟩
  | _ => readFrom .plain text

end Line

def linesWithin : (bound : Nat) → List Char → List (Option (List Char))
  | 0, _ => []
  | _, [] => []
  | bound + 1, text =>
    match Line.read? text with
    | some line => some line.text :: linesWithin bound line.rest
    | none => [none]

def lines (text : List Char) : List (Option (List Char)) := linesWithin text.length text

/-! ## Values -/

/-- How a value is being read. -/
inductive Mode where
  | bare
  | single
  | double
  /-- After a value, where only a comment may follow. -/
  | after
  deriving DecidableEq, Repr

def unescape? (c : Char) : Option Char :=
  match c with
  | '\\' | '\x27' | '"' | '$' | ' ' => some c
  | 'n' => some '\n'
  | _ => none

def valueOf (known : Environment) (name : List Char) : List Char :=
  ((known.valueOf? (String.ofList name)).getD "").toList

/-- Reads a value. `name` is set while the name of a variable is read: whether it stands in braces,
and its letters so far, the last one first. `isEscaped` tells of a backslash just before. -/
def valueFrom (known : Environment) :
    (mode : Mode) → (isEscaped : Bool) → (name : Option (Bool × List Char)) → List Char →
    Option (List Char)
  | mode, _, name, [] =>
    match mode, name with
    | .single, _ | .double, _ | _, some (true, _) => none
    | _, some (false, name) => some (valueOf known name.reverse)
    | _, none => some []
  | .after, _, _, c :: rest =>
    if c = ' ' ∨ c = '\t' then valueFrom known .after false none rest
    else if c = '#' then some [] else none
  | mode, true, name, c :: rest => do
    let c ← unescape? c
    (valueFrom known mode false name rest).map (c :: ·)
  | .single, false, name, c :: rest =>
    if c = '\x27' then valueFrom known .bare false name rest
    else (valueFrom known .single false name rest).map (c :: ·)
  | mode, false, some (true, name), c :: rest =>
    if c = '\x7d' then (valueFrom known mode false none rest).map (valueOf known name.reverse ++ ·)
    else valueFrom known mode false (some (true, c :: name)) rest
  | mode, false, some (false, name), c :: rest =>
    if Text.isAlphanumeric c then valueFrom known mode false (some (false, c :: name)) rest
    else if c = '\x7b' ∧ name = [] then valueFrom known mode false (some (true, [])) rest
    else
      let value := valueOf known name.reverse
      if c = '$' then (valueFrom known mode false (some (false, [])) rest).map (value ++ ·)
      else (valueFrom known mode false none rest).map (value ++ c :: ·)
  | mode, false, none, c :: rest =>
    if c = '$' then valueFrom known mode false (some (false, [])) rest
    else if c = '\\' then valueFrom known mode true none rest
    else match mode with
    | .double =>
      if c = '"' then valueFrom known .bare false none rest
      else (valueFrom known .double false none rest).map (c :: ·)
    | _ =>
      if c = '\x27' then valueFrom known .single false none rest
      else if c = '"' then valueFrom known .double false none rest
      else if c = ' ' ∨ c = '\t' then valueFrom known .after false none rest
      else (valueFrom known mode false none rest).map (c :: ·)

/-! ## Entries -/

def isNameCharacter (c : Char) : Bool := c.isAlphanum || c = '_' || c = '.'

/-- A name and what follows it and the space behind it. -/
def name? (text : List Char) : Option (String × List Char) :=
  match text with
  | c :: _ =>
    if c.isAlpha ∨ c = '_' then
      some (String.ofList (text.takeWhile isNameCharacter),
        Text.dropBlank (text.dropWhile isNameCharacter))
    else none
  | [] => none

/-- A name and the text of its value. The word `export` in front of a name is passed over. -/
def assignment? (text : List Char) : Option (String × List Char) := do
  let (name, text) ← name? text
  match text with
  | '=' :: rest => some (name, Text.dropBlank rest)
  | text =>
    if name ≠ "export" then none
    else do
      let (name, text) ← name? text
      match text with
      | '=' :: rest => some (name, Text.dropBlank rest)
      | _ => none

/-- The environment after a line, which may be empty. -/
def takeLine? (known : Environment) (line : List Char) : Option Environment :=
  match Text.dropBlank (Text.dropBlankEnd line) with
  | [] | '#' :: _ => some known
  | text => do
    let (name, text) ← assignment? text
    let value ← match text with
      | [] | '#' :: _ => some []
      | text => valueFrom known .bare false none text
    some (known.addNew name (String.ofList value))

def takeLines : Environment → List (Option (List Char)) → Environment
  | known, [] => known
  | known, line :: rest =>
    match line.bind (takeLine? known) with
    | some known => takeLines known rest
    | none => known

/-- The environment with those variables of a file that had no value before. -/
def extend (known : Environment) (text : String) : Environment :=
  takeLines known (lines (Settings.dropMark text).toList)

end PackageIndex.VariableFile

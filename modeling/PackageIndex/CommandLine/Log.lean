import PackageIndex.Event
import PackageIndex.Text
import PackageIndex.Text.Blank
import PackageIndex.Text.Letter

/-!
# Logging

Which events are told, and how they are written. A filter has a level for every event, or levels for
the events of parts of the program; of several that fit the one for the longest part counts.
-/
namespace PackageIndex.CommandLine

/-- How much is told about the events of one part; every part's name begins with the empty one. -/
structure Directive where
  target : String
  /-- How many levels are told, the weightiest first. -/
  detail : Nat
  deriving DecidableEq, Repr

def Directive.fits (directive : Directive) (event : Event) : Bool :=
  Text.startsWith event.target directive.target

structure LogFilter where
  directives : List Directive
  deriving DecidableEq, Repr

namespace LogFilter

/-- The more particular of two directives, and of equally particular ones the later. -/
def prefer (best : Option Directive) (directive : Directive) : Option Directive :=
  match best with
  | none => some directive
  | some other =>
    if directive.target.length < other.target.length then some other else some directive

def best? (filter : LogFilter) (event : Event) : Option Directive :=
  (filter.directives.filter fun directive => directive.fits event).foldl prefer none

def passes (filter : LogFilter) (event : Event) : Bool :=
  match filter.best? event with
  | some directive => event.level.detail ≤ directive.detail
  | none => false

/-! ## Reading -/

/-- The detail that tells everything, which a part without a level has. -/
def fullDetail : Nat := 5

/-- A number that is a detail. Zeros and a plus may stand in front. -/
def number? (word : List Char) : Option Nat :=
  let digits := match word with
    | '+' :: digits => digits
    | digits => digits
  if digits = [] ∨ ¬ digits.all Char.isDigit then none
  else
    let n := digits.foldl (fun n digit => n * 10 + (digit.toNat - '0'.toNat)) 0
    if n ≤ fullDetail then some n else none

/-- A level by name or number. -/
def detail? (word : String) : Option Nat :=
  match word.toLower with
  | "off" => some 0
  | "error" => some 1
  | "warn" => some 2
  | "info" => some 3
  | "debug" => some 4
  | "trace" => some 5
  | _ => number? word.toList

/-- Whether a directive can begin with a character. -/
def isStart (c : Char) : Bool := Text.isAlphanumeric c || c = '-' || c = ':' || c = '_'

/-- A level, a part, or a part with its level. Blanks around it belong to what they stand at, and no
part with its level begins with any. -/
def directive? (piece : String) : Option Directive :=
  let text := piece.toList
  match Text.dropBlank text with
  | [] => some ⟨"", fullDetail⟩
  | first :: _ =>
    if ¬ isStart first ∨ '[' ∈ text then none
    else match text.dropWhile fun c => c ≠ '=' with
    | [] =>
      match detail? piece with
      | some detail => some ⟨"", detail⟩
      | none => some ⟨piece, fullDetail⟩
    | _ :: level =>
      if text.head?.any Text.isBlank then none
      else
        let detail := if level = [] then some fullDetail else detail? (String.ofList level)
        detail.map fun detail => ⟨String.ofList (text.takeWhile fun c => c ≠ '='), detail⟩

/-- A filter without directives tells errors. -/
def ofText? (text : String) : Option LogFilter := do
  let pieces := (Text.pieces ',' text).filter fun piece => piece ≠ ""
  let directives ← pieces.mapM directive?
  some ⟨if directives.isEmpty then [⟨"", 1⟩] else directives⟩

/-- The parts that a preference for more or less detail is about. -/
def ownParts : List String := ["rigger", "rigger_core", "rigger_adapters"]

def ofVerbosity (isQuiet : Bool) (verbosity : Nat) : LogFilter :=
  let detail := if isQuiet then 1 else min (verbosity + 2) fullDetail
  ⟨ownParts.map fun target => ⟨target, detail⟩⟩

end LogFilter

end PackageIndex.CommandLine

namespace PackageIndex.Event

open Json (Value)

/-- All that an event says, the message among the named values. -/
def contents (event : Event) : List (String × Value) :=
  ("message", .string event.message) :: event.fields

def toJson (event : Event) : Value :=
  .object [("level", .string event.level.text), ("fields", .object event.contents),
    ("target", .string event.target)]

end PackageIndex.Event

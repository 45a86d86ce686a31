import PackageIndex.Fault
import PackageIndex.Json.Value

/-!
# Writing JSON

Values are laid out over several lines, one item or member a line, with a fixed indentation a
level; an empty array or object stays on its line. In a string only what has to be escaped is.
-/
namespace PackageIndex.Json

def hexDigit (n : Nat) : Char := Nat.digitChar (n % 16)

/-- The written form of a character inside a string. -/
def escape (c : Char) : List Char :=
  if c = '"' then ['\\', '"']
  else if c = '\\' then ['\\', '\\']
  else if c = '\x08' then ['\\', 'b']
  else if c = '\x0c' then ['\\', 'f']
  else if c = '\n' then ['\\', 'n']
  else if c = '\r' then ['\\', 'r']
  else if c = '\t' then ['\\', 't']
  else if c.toNat < 0x20 then ['\\', 'u', '0', '0', hexDigit (c.toNat / 16), hexDigit c.toNat]
  else [c]

def quoted (s : String) : List Char := '"' :: s.toList.flatMap escape ++ ['"']

/-- A line break and the indentation of a level. -/
def newline (indent level : Nat) : List Char := '\n' :: List.replicate (indent * level) ' '

namespace Value

mutual
def write (indent level : Nat) : Value → List Char
  | null => "null".toList
  | bool b => (if b then "true" else "false").toList
  | number n => n.text.toList
  | string s => quoted s
  | array [] => ['[', ']']
  | array (item :: rest) =>
    '[' :: newline indent (level + 1) ++ write indent (level + 1) item
      ++ writeItems indent (level + 1) rest ++ newline indent level ++ [']']
  | object [] => ['\x7b', '\x7d']
  | object ((name, value) :: rest) =>
    '\x7b' :: newline indent (level + 1) ++ quoted name ++ [':', ' ']
      ++ write indent (level + 1) value
      ++ writeMembers indent (level + 1) rest ++ newline indent level ++ ['\x7d']
/-- The items after the first one. -/
def writeItems (indent level : Nat) : List Value → List Char
  | [] => []
  | item :: rest =>
    ',' :: newline indent level ++ write indent level item ++ writeItems indent level rest
def writeMembers (indent level : Nat) : List (String × Value) → List Char
  | [] => []
  | (name, value) :: rest =>
    ',' :: newline indent level ++ quoted name ++ [':', ' '] ++ write indent level value
      ++ writeMembers indent level rest
end

/-- The form in which documents are kept: four spaces a level and a line break at the end. -/
def document (value : Value) : String := String.ofList (value.write 4 0 ++ ['\n'])

/-- The form in which results are shown: two spaces a level. -/
def shown (value : Value) : String := String.ofList (value.write 2 0)

/-- What a value is written as where a name has to stand. -/
def asName? : Value → Option String
  | string s => some s
  | number n => some n.text
  | bool b => some (if b then "true" else "false")
  | null | array _ | object _ => none

end Value

/-- The document of an object with these members, in this order and with repeats. -/
def documentOfPairs (name : String) (pairs : List (Value × Value)) : Except Fault String :=
  match pairs.mapM fun (key, value) => key.asName?.map fun key => (key, value) with
  | some members => .ok (Value.object members).document
  | none => .error (.unencodable name "key must be a string")

end PackageIndex.Json

import PackageIndex.Json.Value

/-!
# Settings from outside

What a settings file or the environment says, before it is known what it is meant for. A scalar is
taken as a flag or as a text wherever that makes sense, so that a file may say `"yes"`, `1` or
`true`.
-/
namespace PackageIndex

/-- A double, or one of the values that settings files write by name. -/
inductive Double where
  | finite (value : Binary64)
  | infinite (negative : Bool)
  | undefined
  deriving DecidableEq, Repr

namespace Double

def isZero : Double → Bool
  | finite value => value.units = 0
  | _ => false

/-- All digits are written, however many there are, and a whole number has no point. -/
def layout : NumberLayout := ⟨-400, 400, false, false⟩

def text : Double → String
  | finite value => layout.render value
  | infinite negative => if negative then "-inf" else "inf"
  | undefined => "NaN"

end Double

inductive Setting where
  /-- Nothing, which a list may hold in the place of an item. -/
  | absent
  | flag (b : Bool)
  | integer (n : Int)
  | real (value : Double)
  | text (s : String)
  | list (items : List Setting)
  | table (entries : List (String × Setting))
  deriving Repr

namespace Setting

/-- The integers of a signed word of 64 bits. -/
def isWord (n : Int) : Bool :=
  let limit : Int := Nat.pow 2 63
  n < limit && -limit ≤ n

/-! ## Scalars -/

def flagOfWord? (word : String) : Option Bool :=
  match word.toLower with
  | "1" | "true" | "on" | "yes" => some true
  | "0" | "false" | "off" | "no" => some false
  | _ => none

/-- A number is a flag by being zero or not. -/
def toFlag? : Setting → Option Bool
  | flag b => some b
  | integer n => some (n ≠ 0)
  | real value => some (!value.isZero)
  | text s => flagOfWord? s
  | absent | list _ | table _ => none

def toText? : Setting → Option String
  | flag b => some (if b then "true" else "false")
  | integer n => some (toString n)
  | real value => some value.text
  | text s => some s
  | absent | list _ | table _ => none

/-! ## Tables -/

abbrev Entries := List (String × Setting)

def find? (entries : Entries) (name : String) : Option Setting :=
  (entries.find? fun entry => entry.1 = name).map Prod.snd

/-- Takes the place of an entry or makes it the last one. -/
def put (name : String) (value : Setting) : Entries → Entries
  | [] => [(name, value)]
  | (other, old) :: rest =>
    if other = name then (name, value) :: rest else (other, old) :: put name value rest

/-- The entries of a table; anything else has none. -/
def entries : Setting → Entries
  | table entries => entries
  | _ => []

/-- The items of a list; anything else has none. -/
def items : Setting → List Setting
  | list items => items
  | _ => []

mutual
/-- A JSON value as a setting. -/
def ofJson : Json.Value → Setting
  | .null => absent
  | .bool b => flag b
  | .number (.integer n) => integer n
  | .number (.double value) => real (.finite value)
  | .string s => text s
  | .array items => list (ofItems items)
  | .object members => table (ofMembers members)
def ofItems : List Json.Value → List Setting
  | [] => []
  | item :: rest => ofJson item :: ofItems rest
def ofMembers : List (String × Json.Value) → Entries
  | [] => []
  | (name, value) :: rest => (name, ofJson value) :: ofMembers rest
end

end Setting

end PackageIndex

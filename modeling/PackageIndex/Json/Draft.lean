import PackageIndex.Json.Value

/-!
# Drafts of JSON documents

A text is read into a draft, whether it is JSON or not: where reading has to stop, the draft has a
gap that remembers why. What the gap amounts to depends on who comes upon it. A reader that wants
the values finds faults that one passing over them does not, such as a number that is too large;
so numbers and strings carry the fault of keeping them. Walking a draft from left to right meets the
faults of its text in the order of the text.
-/
namespace PackageIndex.Json

/-- Why a text is not JSON. -/
inductive Malformed where
  | endInValue
  | endInList
  | endInObject
  | endInString
  | expectedValue
  | expectedIdent
  | expectedColon
  | expectedListEnd
  | expectedObjectEnd
  | trailingComma
  | trailingCharacters
  | keyNotString
  | invalidNumber
  | numberOutOfRange
  | invalidEscape
  | controlCharacter
  | loneSurrogate
  | endOfHexEscape
  | tooDeep
  deriving DecidableEq, Repr

def Malformed.message : Malformed → String
  | endInValue => "EOF while parsing a value"
  | endInList => "EOF while parsing a list"
  | endInObject => "EOF while parsing an object"
  | endInString => "EOF while parsing a string"
  | expectedValue => "expected value"
  | expectedIdent => "expected ident"
  | expectedColon => "expected `:`"
  | expectedListEnd => "expected `,` or `]`"
  | expectedObjectEnd => "expected `,` or `\x7d`"
  | trailingComma => "trailing comma"
  | trailingCharacters => "trailing characters"
  | keyNotString => "key must be a string"
  | invalidNumber => "invalid number"
  | numberOutOfRange => "number out of range"
  | invalidEscape => "invalid escape"
  | controlCharacter => "control character (\\u0000-\\u001F) found while parsing a string"
  | loneSurrogate => "lone leading surrogate in hex escape"
  | endOfHexEscape => "unexpected end of hex escape"
  | tooDeep => "recursion limit exceeded"

/-- Where reading stopped: the fault for a reader that keeps the values, for one that passes over
them, and for one that takes the list as complete and looks for its end. -/
structure Gap where
  kept : Malformed
  skipped : Malformed
  closing : Malformed
  deriving DecidableEq, Repr

def Gap.plain (fault : Malformed) : Gap := ⟨fault, fault, fault⟩

mutual
inductive Draft where
  | null
  | bool (b : Bool)
  | number (kept : Except Malformed Number)
  | string (kept : Except Malformed String)
  | array (items : Items)
  | object (members : Members)
  | broken (gap : Gap)
inductive Items where
  | done
  | cut (gap : Gap)
  | cons (item : Draft) (rest : Items)
inductive Members where
  | done
  | cut (gap : Gap)
  | cons (name : Except Malformed String) (value : Draft) (rest : Members)
end

mutual
/-- The draft that a well-formed text of the value is read into. -/
def Draft.ofValue : Value → Draft
  | .null => .null
  | .bool b => .bool b
  | .number n => .number (.ok n)
  | .string s => .string (.ok s)
  | .array items => .array (Items.ofValues items)
  | .object members => .object (Members.ofValues members)
def Items.ofValues : List Value → Items
  | [] => .done
  | item :: rest => .cons (Draft.ofValue item) (Items.ofValues rest)
def Members.ofValues : List (String × Value) → Members
  | [] => .done
  | (name, value) :: rest => .cons (.ok name) (Draft.ofValue value) (Members.ofValues rest)
end

/-- How many arrays and objects may be open at once. -/
def mostLevels : Nat := 127

mutual
/-- The value of a draft, its objects as written; `room` is how many levels may still be opened. -/
def Draft.value (room : Nat) : Draft → Except Malformed Value
  | .null => .ok .null
  | .bool b => .ok (.bool b)
  | .number kept => kept.map .number
  | .string kept => kept.map .string
  | .array items =>
    match room with
    | 0 => .error .tooDeep
    | room + 1 => (Items.values room items).map .array
  | .object members =>
    match room with
    | 0 => .error .tooDeep
    | room + 1 => (Members.values room members).map .object
  | .broken gap => .error gap.kept
def Items.values (room : Nat) : Items → Except Malformed (List Value)
  | .done => .ok []
  | .cut gap => .error gap.kept
  | .cons item rest => do
    let item ← Draft.value room item
    let rest ← Items.values room rest
    pure (item :: rest)
def Members.values (room : Nat) : Members → Except Malformed (List (String × Value))
  | .done => .ok []
  | .cut gap => .error gap.kept
  | .cons name value rest => do
    let name ← name
    let value ← Draft.value room value
    let rest ← Members.values room rest
    pure ((name, value) :: rest)
end

mutual
/-- Passes over a draft: no level is counted, and no number or string is kept. -/
def Draft.skip : Draft → Except Malformed Unit
  | .array items => Items.skip items
  | .object members => Members.skip members
  | .broken gap => .error gap.skipped
  | .null | .bool _ | .number _ | .string _ => .ok ()
def Items.skip : Items → Except Malformed Unit
  | .done => .ok ()
  | .cut gap => .error gap.skipped
  | .cons item rest => do
    Draft.skip item
    Items.skip rest
def Members.skip : Members → Except Malformed Unit
  | .done => .ok ()
  | .cut gap => .error gap.skipped
  | .cons _ value rest => do
    Draft.skip value
    Members.skip rest
end

/-- The fault of a list that should have ended here. -/
def Items.close : Items → Except Malformed Unit
  | .done => .ok ()
  | .cut gap => .error gap.closing
  | .cons _ _ => .error .trailingCharacters

end PackageIndex.Json

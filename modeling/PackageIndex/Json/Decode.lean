import PackageIndex.Json.Read
import PackageIndex.Text.Quoted

/-!
# Decoding JSON

A decoder takes a draft to a value of a type or says what is wrong with it. Decoders look at a draft
from left to right and stop at the first fault, be it one of the text or one of the type.
-/
namespace PackageIndex.Json

inductive DecodeFault where
  | malformed (fault : Malformed)
  | wrongType (found expected : String)
  | missingField (name : String)
  | duplicateField (name : String)
  | wrongLength (length : Nat) (expected : String)
  | noVariant (choice : String)
  | rejected (reason : String)
  deriving DecidableEq, Repr

namespace DecodeFault

def message : DecodeFault → String
  | malformed fault => fault.message
  | wrongType found expected => s!"invalid type: {found}, expected {expected}"
  | missingField name => s!"missing field `{name}`"
  | duplicateField name => s!"duplicate field `{name}`"
  | wrongLength length expected => s!"invalid length {length}, expected {expected}"
  | noVariant choice => s!"data did not match any variant of untagged enum {choice}"
  | rejected reason => reason

end DecodeFault

abbrev Decoded (α : Type) := Except DecodeFault α

/-- A fault of the text is a fault of decoding it. -/
def ofText {α : Type} (result : Except Malformed α) : Decoded α :=
  result.mapError .malformed

def ticked (text : String) : String := "`" ++ text ++ "`"

/-- The refusal of a draft of another kind. What it holds has to be readable to be named. -/
def mismatch {α : Type} (expected : String) (draft : Draft) : Decoded α := do
  let found ← match draft with
    | .null => pure "null"
    | .bool b => pure ("boolean " ++ ticked (if b then "true" else "false"))
    | .number kept =>
      match ← ofText kept with
      | .integer n => pure ("integer " ++ ticked (toString n))
      | .double value => pure ("floating point " ++ ticked (Number.double value).text)
    | .string kept =>
      let text ← ofText kept
      pure ("string " ++ Text.quoted text)
    | .array _ => pure "sequence"
    | .object _ => pure "map"
    | .broken gap => ofText (.error gap.kept)
  .error (.wrongType found expected)

namespace Draft

def toText : Draft → Decoded String
  | .string kept => ofText kept
  | draft => mismatch "a string" draft

def toBool : Draft → Decoded Bool
  | .bool b => .ok b
  | draft => mismatch "a boolean" draft

/-- A null stands for nothing. -/
def toOption {α : Type} (decode : Draft → Decoded α) : Draft → Decoded (Option α)
  | .null => .ok none
  | draft => (decode draft).map some

end Draft

def Items.decode {α : Type} (item : Draft → Decoded α) : Items → Decoded (List α)
  | .done => .ok []
  | .cut gap => ofText (.error gap.kept)
  | .cons first rest => do
    let first ← item first
    let rest ← Items.decode item rest
    pure (first :: rest)

def Draft.toList {α : Type} (item : Draft → Decoded α) : Draft → Decoded (List α)
  | .array items => items.decode item
  | draft => mismatch "a sequence" draft

/-- Takes in the members one after the other. -/
def Members.fold {σ : Type} (step : σ → String → Draft → Decoded σ) :
    (state : σ) → Members → Decoded σ
  | state, .done => .ok state
  | _, .cut gap => ofText (.error gap.kept)
  | state, .cons name value rest => do
    let name ← ofText name
    let state ← step state name value
    Members.fold step state rest

/-- A field that has not been seen before. -/
def once {α : Type} (name : String) (seen : Option α) (decode : Unit → Decoded α) :
    Decoded (Option α) :=
  match seen with
  | some _ => .error (.duplicateField name)
  | none => (decode ()).map some

def required {α : Type} (name : String) : Option α → Decoded α
  | some value => .ok value
  | none => .error (.missingField name)

/-- The next item of a list with a fixed number of them. -/
def Items.next? : Items → Decoded (Option (Draft × Items))
  | .done => .ok none
  | .cut gap => ofText (.error gap.kept)
  | .cons item rest => .ok (some (item, rest))

/-- Decodes a whole text; what follows the value is looked at last. -/
def decodeText {α : Type} (decode : Draft → Decoded α) (text : String) : Decoded α := do
  let (draft, rest) := read text
  let value ← decode draft
  ofText (finish rest)
  pure value

/-- Any value, with its objects as they are kept. -/
def Draft.toValue (draft : Draft) : Decoded Value :=
  (ofText (draft.value mostLevels)).map Value.sorted

end PackageIndex.Json

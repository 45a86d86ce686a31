import PackageIndex.Setting
import PackageIndex.Text

/-!
# Layers of settings

Settings come in layers, and an upper one counts more than those below it. A table is put over a
table entry by entry, and any other value takes the place of what it is put over. The names of a
layer may lead into tables and lists: `output.format`, or `hosts[-1].name`.
-/
namespace PackageIndex.Setting

mutual
/-- A value over another one. -/
def laidOver : (value below : Setting) → Setting
  | table entries, below => table (laidOverEntries entries below.entries)
  | absent, _ => absent
  | flag b, _ => flag b
  | integer n, _ => integer n
  | real value, _ => real value
  | text s, _ => text s
  | list items, _ => list items
def laidOverEntries : (entries below : Entries) → Entries
  | [], below => below
  | (name, value) :: rest, below =>
    let old := (find? below name).getD absent
    laidOverEntries rest (put name (value.laidOver old) below)
end

/-! ## Paths -/

/-- A step into a table, or to a place in a list, which counts from its end if it is negative. -/
inductive Step where
  | name (name : String)
  | place (n : Int)
  deriving DecidableEq, Repr

/-- A list that is long enough to have a place, and where that place is. What is missing is added
on the side that the place is on. -/
def reach (place : Int) (items : List Setting) : List Setting × Nat :=
  if 0 ≤ place then
    (items ++ List.replicate (place.toNat + 1 - items.length) absent, place.toNat)
  else
    let distance := (-place).toNat
    (List.replicate (distance - items.length) absent ++ items, items.length - distance)

/-- Changes what a path leads to. A step leads into a table or a list whatever is there, and first
makes one of anything else. -/
def change (act : Setting → Setting) : (path : List Step) → Setting → Setting
  | [], setting => act setting
  | .name name :: path, setting =>
    let entries := setting.entries
    table (put name (change act path ((find? entries name).getD absent)) entries)
  | .place n :: path, setting =>
    let (items, index) := reach n setting.items
    list (items.modify index (change act path))

/-! ## Written paths -/

def isNameCharacter (c : Char) : Bool := c.isAlphanum || c = '_' || c = '-'

def isPlainName (name : String) : Bool :=
  name ≠ "" && name.toList.all isNameCharacter

def integer? (digits : List Char) : Option Nat :=
  if digits ≠ [] ∧ digits.all Char.isDigit then
    some (digits.foldl (fun n digit => n * 10 + (digit.toNat - '0'.toNat)) 0)
  else none

/-- A number that may have spaces around it. -/
def place? (text : String) : Option Step :=
  let isSpace (c : Char) : Bool := c = ' ' || c = '\t'
  let trimmed := ((text.toList.dropWhile isSpace).reverse.dropWhile isSpace).reverse
  let n := match trimmed with
    | '-' :: digits => (integer? digits).map fun n => -(n : Int)
    | digits => (integer? digits).map Int.ofNat
  n.bind fun n => if isWord n then some (.place n) else none

/-- A name and the places behind it, each in brackets. -/
def steps? (piece : String) : Option (List Step) :=
  match Text.pieces '[' piece with
  | [] => none
  | name :: places =>
    if isPlainName name then
      (places.mapM fun place => match Text.pieces ']' place with
        | [inside, ""] => place? inside
        | _ => none).map (.name name :: ·)
    else none

/-- The path that a name stands for. A name that is not written as one is a single step. -/
def pathOf (name : String) : List Step :=
  match (Text.pieces '.' name).mapM steps? with
  | some steps => steps.flatten
  | none => [.name name]

/-! ## Layers -/

def placeNamed (below : Setting) (entry : String × Setting) : Setting :=
  change entry.2.laidOver (pathOf entry.1) below

/-- The entries of all layers, the lowest one first. -/
def overlay (layers : List Entries) : Entries :=
  (layers.flatten.foldl placeNamed (table [])).entries

end PackageIndex.Setting

import PackageIndex.Toml.Scalar

/-!
# TOML documents

A document is a list of lines that build up a tree of tables. A table remembers how it came about,
for that decides who may still add to it: a header may take over a table that was only passed
through on the way to another one, and dotted keys may only go through tables that dotted keys
made. Nothing is said twice.
-/
namespace PackageIndex.Toml

inductive Origin where
  /-- By a header of its own, or as the table that a text begins in. -/
  | stated
  /-- On the way to the table of a header. -/
  | passed
  | dotted
  deriving DecidableEq, Repr

inductive Node where
  | value (value : Setting)
  | table (origin : Origin) (nodes : List (String × Node))
  /-- The tables of a list of tables, the last one first. -/
  | tables (all : List (List (String × Node)))
  deriving Repr

abbrev Nodes := List (String × Node)

namespace Node

def find? (nodes : Nodes) (name : String) : Option Node :=
  (nodes.find? fun node => node.1 = name).map Prod.snd

/-- Takes the place of a node or makes it the last one. -/
def put (name : String) (node : Node) : Nodes → Nodes
  | [] => [(name, node)]
  | (other, old) :: rest =>
    if other = name then (name, node) :: rest else (other, old) :: put name node rest

/-- Changes the table at the end of a path, making the tables on the way to it. -/
def change (isDotted : Bool) (act : Origin → Nodes → Option Nodes) :
    (origin : Origin) → (path : List String) → Nodes → Option Nodes
  | origin, [], nodes => act origin nodes
  | _, name :: path, nodes =>
    let inside (origin : Origin) (within : Nodes) : Option Nodes :=
      change isDotted act origin path within
    match find? nodes name with
    | none => do
      let origin : Origin := if isDotted then .dotted else .passed
      let within ← inside origin []
      some (put name (.table origin within) nodes)
    | some (.value _) => none
    | some (.table origin within) =>
      if isDotted ∧ origin = .stated then none
      else do
        let within ← inside origin within
        some (put name (.table origin within) nodes)
    | some (.tables []) => none
    | some (.tables (last :: before)) => do
      let last ← inside .stated last
      some (put name (.tables (last :: before)) nodes)

/-- A new value in a table that its keys may add to. -/
def insert (isDotted : Bool) (name : String) (value : Setting) (origin : Origin) (nodes : Nodes) :
    Option Nodes :=
  if isDotted ≠ (origin = .dotted) then none
  else match find? nodes name with
  | some _ => none
  | none => some (put name (.value value) nodes)

/-- Gives a key its value, inside a table. -/
def assign (path : List String) (name : String) (value : Setting) (nodes : Nodes) :
    Option Nodes :=
  let isDotted := !path.isEmpty
  change isDotted (insert isDotted name value) .stated path nodes

def stateTable (name : String) (_ : Origin) (nodes : Nodes) : Option Nodes :=
  match find? nodes name with
  | none => some (put name (.table .stated []) nodes)
  | some (.table .passed within) => some (put name (.table .stated within) nodes)
  | some _ => none

def stateNext (name : String) (_ : Origin) (nodes : Nodes) : Option Nodes :=
  match find? nodes name with
  | none => some (put name (.tables [[]]) nodes)
  | some (.tables all) => some (put name (.tables ([] :: all)) nodes)
  | some _ => none

mutual
def toSetting : Node → Setting
  | value setting => setting
  | table _ nodes => .table (toEntries nodes)
  | tables all => .list (toTables all).reverse
def toEntries : List (String × Node) → Setting.Entries
  | [] => []
  | (name, node) :: rest => (name, toSetting node) :: toEntries rest
def toTables : List (List (String × Node)) → List Setting
  | [] => []
  | nodes :: rest => .table (toEntries nodes) :: toTables rest
end

end Node

/-! ## Space -/

def skipBlank (text : List Char) : List Char := text.dropWhile isBlank

/-- What follows a comment, from the end of its line on. -/
def skipComment (text : List Char) : Option (List Char) :=
  match text with
  | '#' :: _ =>
    let rest := text.dropWhile fun c => !isControl c
    match rest with
    | [] | '\n' :: _ | '\r' :: '\n' :: _ => some rest
    | _ => none
  | _ => some text

/-- Blanks, comments and line breaks. -/
def skipSpace : (bound : Nat) → List Char → Option (List Char)
  | 0, text => some text
  | bound + 1, text => do
    let text ← skipComment (skipBlank text)
    match text with
    | '\n' :: rest | '\r' :: '\n' :: rest => skipSpace bound rest
    | _ => some text

/-- The next line, when there is nothing more on this one. -/
def finishLine (text : List Char) : Option (List Char) := do
  let text ← skipComment (skipBlank text)
  match text with
  | [] => some []
  | '\n' :: rest | '\r' :: '\n' :: rest => some rest
  | _ => none

/-! ## Keys -/

def isKeyCharacter (c : Char) : Bool := c.isAlphanum || c = '_' || c = '-'

def name? (text : List Char) : Option (String × List Char) :=
  match text with
  | '"' :: rest => asText (quotedBody false false rest)
  | '\x27' :: rest => asText (literalBody false rest)
  | _ =>
    match text.takeWhile isKeyCharacter with
    | [] => none
    | name => some (String.ofList name, text.dropWhile isKeyCharacter)

/-- How many names a key may have, and how many arrays and tables may stand in one another. -/
def depthLimit : Nat := 80

/-- A key of at most so many names, as the path to a name and the name. -/
def keyWithin? : (names : Nat) → List Char → Option ((List String × String) × List Char)
  | 0, _ => none
  | names + 1, text => do
    let (name, text) ← name? (skipBlank text)
    match skipBlank text with
    | '.' :: rest => do
      let ((path, last), rest) ← keyWithin? names rest
      some ((name :: path, last), rest)
    | text => some (([], name), text)

def key? (text : List Char) : Option ((List String × String) × List Char) :=
  keyWithin? depthLimit text

/-! ## Values -/

mutual
/-- A value; `levels` tells how many more arrays and tables it may open inside one another. -/
def valueWithin? : (bound levels : Nat) → List Char → Option (Setting × List Char)
  | 0, _, _ => none
  | bound + 1, levels, text =>
    match text, levels with
    | '[' :: _, 0 | '\x7b' :: _, 0 => none
    | '[' :: rest, levels + 1 => do
      let (items, rest) ← items? bound levels rest
      some (.list items, rest)
    | '\x7b' :: rest, levels + 1 => do
      let (nodes, rest) ← members? bound levels [] rest
      some (.table (Node.toEntries nodes), rest)
    | _, _ => scalar? text
/-- The items of an array up to its end; a comma may stand after the last one. -/
def items? : (bound levels : Nat) → List Char → Option (List Setting × List Char)
  | 0, _, _ => none
  | bound + 1, levels, text => do
    match ← skipSpace bound text with
    | ']' :: rest => some ([], rest)
    | text =>
      let (item, text) ← valueWithin? bound levels text
      match ← skipSpace bound text with
      | ']' :: rest => some ([item], rest)
      | ',' :: rest => do
        let (items, rest) ← items? bound levels rest
        some (item :: items, rest)
      | _ => none
/-- The members of a table that is written as a value, which may go over several lines. -/
def members? : (bound levels : Nat) → Nodes → List Char → Option (Nodes × List Char)
  | 0, _, _, _ => none
  | bound + 1, levels, nodes, text => do
    match ← skipSpace bound text with
    | '\x7d' :: rest => some (nodes, rest)
    | text =>
      let ((path, name), text) ← key? text
      let text ← expect '=' (← skipSpace bound text)
      let (value, text) ← valueWithin? bound levels (← skipSpace bound text)
      let nodes ← Node.assign path name value nodes
      match ← skipSpace bound text with
      | '\x7d' :: rest => some (nodes, rest)
      | ',' :: rest => members? bound levels nodes rest
      | _ => none
end

def value? (bound : Nat) (text : List Char) : Option (Setting × List Char) :=
  valueWithin? bound depthLimit text

/-! ## Documents -/

/-- What has been read: all tables, and the path to the one that keys belong to. -/
structure Progress where
  nodes : Nodes
  current : List String

/-- A header, from after its opening brackets on. -/
def header? (isNext : Bool) (progress : Progress) (text : List Char) :
    Option (Progress × List Char) := do
  let ((path, name), text) ← key? text
  let text ← expect ']' text
  let text ← if isNext then expect ']' text else some text
  let act := if isNext then Node.stateNext name else Node.stateTable name
  let nodes ← Node.change false act .stated path progress.nodes
  some (⟨nodes, path ++ [name]⟩, text)

def keyLine? (bound : Nat) (progress : Progress) (text : List Char) :
    Option (Progress × List Char) := do
  let ((path, name), text) ← key? text
  let text ← expect '=' text
  let (value, text) ← value? bound (skipBlank text)
  let nodes ← Node.change false (fun _ => Node.assign path name value) .stated progress.current
    progress.nodes
  some (⟨nodes, progress.current⟩, text)

def lines? (bound : Nat) : (count : Nat) → Progress → List Char → Option Nodes
  | 0, _, _ => none
  | count + 1, progress, text => do
    match ← skipSpace bound text with
    | [] => some progress.nodes
    | '[' :: '[' :: rest =>
      let (progress, rest) ← header? true progress rest
      lines? bound count progress (← finishLine rest)
    | '[' :: rest =>
      let (progress, rest) ← header? false progress rest
      lines? bound count progress (← finishLine rest)
    | text =>
      let (progress, rest) ← keyLine? bound progress text
      lines? bound count progress (← finishLine rest)

/-- The entries of a document, or nothing if it is not one. The length of the text bounds how many
lines and values there can be. -/
def read? (text : String) : Option Setting.Entries :=
  let text := text.toList
  let bound := text.length + 2
  (lines? bound bound ⟨[], []⟩ text).map Node.toEntries

end PackageIndex.Toml

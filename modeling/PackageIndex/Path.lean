import PackageIndex.Text

/-!
# File paths

A path is kept as it was written; what it means is its list of components. Repeated slashes, a
trailing slash and inner dots are spelling only, while a leading dot, a leading slash and every
double dot are components. Paths are compared, ordered and matched by components.
-/
namespace PackageIndex

/-- One step of a path. The constructors stand in the order in which components sort. -/
inductive Component where
  | root
  | here
  | up
  | name (text : String)
  deriving DecidableEq, Repr

namespace Component

def text : Component → String
  | root => "/"
  | here => "."
  | up => ".."
  | name text => text

def rank : Component → Nat
  | root => 0
  | here => 1
  | up => 2
  | name _ => 3

def precedes : Component → Component → Bool
  | name a, name b => Text.precedes a b
  | a, b => a.rank < b.rank

/-- The component that an inner piece of a path stands for; empty pieces and dots stand for
none. -/
def ofPiece? (piece : String) : Option Component :=
  if piece = "" ∨ piece = "." then none
  else if piece = ".." then some up
  else some (name piece)

end Component

/-- Component lists are ordered as words are. -/
def precedes : List Component → List Component → Bool
  | [], [] => false
  | [], _ :: _ => true
  | _ :: _, [] => false
  | a :: as, b :: bs => if a = b then precedes as bs else a.precedes b

/-- A path is a text, so names of files that are not written in Unicode are beyond it: no path is
the name of such a file, and nothing here says what is made of one. -/
structure Path where
  text : String
  deriving DecidableEq, Repr

namespace Path

def isAbsolute (path : Path) : Bool := path.text.toList.head? = some '/'

/-- The text between the slashes. -/
def pieces (path : Path) : List String := Text.pieces '/' path.text

def components (path : Path) : List Component :=
  match path.pieces with
  | [] => []
  | first :: rest =>
    let start := if path.isAbsolute then [.root] else if first = "." then [.here] else []
    start ++ (first :: rest).filterMap Component.ofPiece?

/-- Equality of what two paths mean. -/
def same (a b : Path) : Bool := a.components = b.components

/-- `path` inside `base`; an absolute path replaces the base. -/
def join (base : Path) (path : String) : Path :=
  if (Path.mk path).isAbsolute then ⟨path⟩
  else if base.text = "" ∨ base.text.toList.getLast? = some '/' then ⟨base.text ++ path⟩
  else ⟨base.text ++ "/" ++ path⟩

/-- Whether a piece at the end of a path is spelling only. -/
def isSpelling (piece : String) : Bool := piece = "" || piece = "."

/-- The pieces, last first, without the last component and the spelling around it. The piece a
path begins with is a component when it is a dot. -/
def dropLast? : (reversed : List String) → Option (List String)
  | [] => none
  | ["."] => some []
  | [""] => none
  | piece :: rest =>
    if isSpelling piece then dropLast? rest else some (trim rest)
where
  trim : List String → List String
    | [] => []
    | ["."] => ["."]
    | piece :: rest => if isSpelling piece then trim rest else piece :: rest

/-- The same for a path with a leading slash, where no dot counts. -/
def dropLastAbsolute? : (reversed : List String) → Option (List String)
  | [] => none
  | piece :: rest =>
    if isSpelling piece then dropLastAbsolute? rest else some (rest.dropWhile isSpelling)

/-- The path without its last component; the empty path and the root have no parent. -/
def parent? (path : Path) : Option Path :=
  if path.isAbsolute then
    (dropLastAbsolute? path.pieces.tail.reverse).map fun reversed =>
      ⟨"/" ++ Text.join '/' reversed.reverse⟩
  else (dropLast? path.pieces.reverse).map fun reversed => ⟨Text.join '/' reversed.reverse⟩

/-- The last component, if it is a name. -/
def fileName? (path : Path) : Option String :=
  match path.components.getLast? with
  | some (.name text) => some text
  | _ => none

/-- What follows the last dot of a file name, unless that dot is its first character. -/
def extensionOf? (fileName : String) : Option String :=
  match (Text.pieces '.' fileName).reverse with
  | [] | [_] => none
  | [_, ""] => none
  | last :: _ => some last

def extension? (path : Path) : Option String := path.fileName?.bind extensionOf?

/-- What is left of a component list after the components it has to begin with. -/
def dropComponents? : (start components : List Component) → Option (List Component)
  | [], components => some components
  | _ :: _, [] => none
  | a :: start, b :: components => if a = b then dropComponents? start components else none

def isWithin (path directory : Path) : Bool :=
  (dropComponents? directory.components path.components).isSome

end Path

end PackageIndex

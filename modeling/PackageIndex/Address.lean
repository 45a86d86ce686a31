import PackageIndex.Fault
import PackageIndex.Route
import PackageIndex.Text

/-!
# Addresses

An address is a text of parts between slashes; slashes at its beginning do not count. A part that
starts with a colon and a name is a variable, one that also ends in `:int` takes numbers only, and
one that ends in three dots takes the rest of the address. Every other part stands for itself.
-/
namespace PackageIndex

/-- The segments of an address. -/
structure Address where
  segments : List Segment
  deriving DecidableEq, Repr

namespace Address

def isNameChar (c : Char) : Bool := c.isAlphanum || c = '_' || c = '-'

/-- The segment of one part. -/
def classify (part : String) : Segment :=
  match part.toList with
  | ':' :: rest =>
    let name := String.ofList (rest.takeWhile isNameChar)
    if name = "" then .literal part
    else match rest.dropWhile isNameChar with
      | [] => .parameter name
      | [':', 'i', 'n', 't'] => .typed name Segment.numeric
      | ['.', '.', '.'] => .wildcard name
      | _ => .literal part
  | _ => .literal part

/-- The parts of an address, without the empty ones at its beginning. -/
def parts (address : String) : List String :=
  (Text.pieces '/' address).dropWhile fun part => part = ""

/-- The first variable name that an earlier one equals. -/
def repeated? : (earlier : List String) → List Segment → Option String
  | _, [] => none
  | earlier, segment :: rest =>
    match segment.variableName? with
    | none => repeated? earlier rest
    | some name => if name ∈ earlier then some name else repeated? (name :: earlier) rest

def compile (address : String) : Except Fault Address :=
  match parts address with
  | [] => .error .emptyAddress
  | parts =>
    let segments := parts.map classify
    match repeated? [] segments with
    | some name => .error (.duplicateRouteVariable name)
    | none => .ok ⟨segments⟩

def hasVariables (address : Address) : Bool := address.segments.any fun s => !s.isLiteral

def variableNames (address : Address) : List String :=
  address.segments.filterMap Segment.variableName?

/-- The text of a literal segment. -/
def literalText? : Segment → Option String
  | .literal text => some text
  | _ => none

/-- The path a route keeps: one text when every segment is literal. -/
def toRoutePath (address : Address) : RoutePath :=
  if address.hasVariables then .pattern address.segments
  else .literal (Text.join '/' (address.segments.filterMap literalText?))

end Address

namespace Segment

/-- The part of an address that a segment is written as. -/
def part : Segment → String
  | literal text => text
  | parameter name => ":" ++ name
  | wildcard name => ":" ++ name ++ "..."
  | typed name constraint =>
    if constraint = numeric then ":" ++ name ++ ":int"
    else ":" ++ name ++ "\x7b" ++ constraint ++ "\x7d"

end Segment

namespace RoutePath

/-- The address a path stands for. -/
def address : RoutePath → String
  | literal text => "/" ++ text
  | pattern segments => String.join (segments.map fun segment => "/" ++ segment.part)

end RoutePath

end PackageIndex

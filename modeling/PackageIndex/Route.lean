import PackageIndex.Json.Value

/-!
# Routes

A route sends the addresses of one shape to one controller. Its path is a plain text when nothing
in it varies, and a list of segments otherwise. Keys that nobody here looks at are carried along.
-/
namespace PackageIndex

/-- One piece of an address. A wildcard takes the rest of the address. -/
inductive Segment where
  | literal (text : String)
  | parameter (name : String)
  | wildcard (name : String)
  | typed (name constraint : String)
  deriving DecidableEq, Repr

namespace Segment

def variableName? : Segment → Option String
  | literal _ => none
  | parameter name | wildcard name | typed name _ => some name

def isLiteral : Segment → Bool
  | literal _ => true
  | _ => false

@[simp] theorem isLiteral_iff (segment : Segment) :
    segment.isLiteral = true ↔ segment.variableName? = none := by
  cases segment <;> simp [isLiteral, variableName?]

/-- The constraint of a segment that has to be a number. -/
def numeric : String := "/^\\d+$/"

end Segment

inductive RoutePath where
  | literal (text : String)
  | pattern (segments : List Segment)
  deriving DecidableEq, Repr

inductive Methods where
  | one (method : String)
  | many (methods : List String)
  deriving DecidableEq, Repr

/-- A flag, or the controller that answers a kind of request. -/
inductive Permission where
  | flag (allowed : Bool)
  | controller (reference : String)
  deriving DecidableEq, Repr

structure Permissions where
  api : Option Permission
  ajax : Option Permission
  deriving DecidableEq, Repr

namespace Permissions

def none : Permissions := ⟨.none, .none⟩

def isEmpty (permissions : Permissions) : Bool :=
  permissions.api.isNone && permissions.ajax.isNone

end Permissions

structure Route where
  path : RoutePath
  controller : String
  method : Option Methods
  absolute : Option Bool
  permissions : Option Permissions
  extra : List (String × Json.Value)
  deriving DecidableEq, Repr

/-- Routes are tried from first to last; a route may stand in a table twice. -/
structure RouteTable where
  routes : List Route
  deriving DecidableEq, Repr

namespace RouteTable

def empty : RouteTable := ⟨[]⟩

def isEmpty (table : RouteTable) : Bool := table.routes.isEmpty

def append (table : RouteTable) (route : Route) : RouteTable := ⟨table.routes ++ [route]⟩

@[simp] theorem routes_append (table : RouteTable) (route : Route) :
    (table.append route).routes = table.routes ++ [route] := rfl

end RouteTable

end PackageIndex

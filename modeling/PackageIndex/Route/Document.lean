import PackageIndex.Fault
import PackageIndex.Json.Decode
import PackageIndex.Json.Render
import PackageIndex.Route

/-!
# Route tables as documents

A table is written as a list of objects. A text stands for a literal segment and an object for any
other, a missing constraint tells a variable from a typed one, and what is not given is left out.
Where a field allows several shapes they are tried on the whole value, so a fault inside it is told
only as one of the choice.
-/
namespace PackageIndex

open Json

/-- The member of an object, or nothing. -/
def member? (name : String) (value : Option Value) : List (String × Value) :=
  match value with
  | some value => [(name, value)]
  | none => []

namespace Segment

def encode : Segment → Value
  | literal text => .string text
  | parameter name => .object [("type", .string "dynamic"), ("name", .string name)]
  | wildcard name => .object [("type", .string "wildcard"), ("name", .string name)]
  | typed name constraint =>
    .object [("type", .string "dynamic"), ("name", .string name), ("regex", .string constraint)]

/-- A dynamic segment or a wildcard; the kind may also be the one key of an object. -/
def isWildcard? : Value → Option Bool
  | .string kind | .object [(kind, .null)] =>
    if kind = "dynamic" then some false else if kind = "wildcard" then some true else none
  | _ => none

def text? : Value → Option String
  | .string text => some text
  | _ => none

def constraint? : Value → Option (Option String)
  | .null => some none
  | .string text => some (some text)
  | _ => none

/-- A wildcard has no use for a constraint. -/
def ofFields (isWildcard : Bool) (name : String) (constraint : Option String) : Segment :=
  if isWildcard then .wildcard name
  else match constraint with
    | some constraint => .typed name constraint
    | none => .parameter name

/-- The value of a field that stands at most once. -/
def field? (name : String) (members : List (String × Value)) : Option (Option Value) :=
  match members.filter fun member => member.1 = name with
  | [] => some none
  | [(_, value)] => some (some value)
  | _ => none

def ofMembers? (members : List (String × Value)) : Option Segment := do
  let isWildcard ← isWildcard? (← (← field? "type" members))
  let name ← text? (← (← field? "name" members))
  let constraint ← constraint? ((← field? "regex" members).getD .null)
  pure (ofFields isWildcard name constraint)

def decode? : Value → Option Segment
  | .string text => some (.literal text)
  | .object members => ofMembers? members
  | .array [kind, name] => do pure (ofFields (← isWildcard? kind) (← text? name) none)
  | .array [kind, name, constraint] => do
    pure (ofFields (← isWildcard? kind) (← text? name) (← constraint? constraint))
  | _ => none

end Segment

/-- Tries the shapes of a choice on a whole value. -/
def decodeChoice {α : Type} (choice : String) (decode? : Value → Option α) (room : Nat)
    (draft : Draft) : Decoded α := do
  match decode? (← ofText (draft.value room)) with
  | some value => pure value
  | none => .error (.noVariant choice)

namespace RoutePath

def encode : RoutePath → Value
  | literal text => .string text
  | pattern segments => .array (segments.map Segment.encode)

def decode? : Value → Option RoutePath
  | .string text => some (.literal text)
  | .array items => (items.mapM Segment.decode?).map .pattern
  | _ => none

end RoutePath

namespace Methods

def encode : Methods → Value
  | one method => .string method
  | many methods => .array (methods.map .string)

def decode? : Value → Option Methods
  | .string method => some (.one method)
  | .array items => (items.mapM Segment.text?).map .many
  | _ => none

end Methods

namespace Permission

def encode : Permission → Value
  | flag allowed => .bool allowed
  | controller reference => .string reference

def decode? : Value → Option Permission
  | .bool allowed => some (.flag allowed)
  | .string reference => some (.controller reference)
  | _ => none

end Permission

namespace Permissions

def encode (permissions : Permissions) : Value :=
  .object (member? "api" (permissions.api.map Permission.encode)
    ++ member? "ajax" (permissions.ajax.map Permission.encode))

def decodeOne (room : Nat) : Draft → Decoded (Option Permission) :=
  Draft.toOption (decodeChoice "Permission" Permission.decode? room)

/-- The fields that have been seen, each with what it says. -/
structure Fields where
  api : Option (Option Permission)
  ajax : Option (Option Permission)

def Fields.take (room : Nat) (fields : Fields) (name : String) (value : Draft) :
    Decoded Fields :=
  match name with
  | "api" => do
    let api ← once name fields.api fun _ => decodeOne room value
    pure { fields with api }
  | "ajax" => do
    let ajax ← once name fields.ajax fun _ => decodeOne room value
    pure { fields with ajax }
  | _ => do
    ofText value.skip
    pure fields

/-- An object, or a list of at most two values. -/
def decode (room : Nat) : Draft → Decoded Permissions
  | .object members => do
    let fields ← members.fold (Fields.take room) ⟨.none, .none⟩
    pure ⟨fields.api.join, fields.ajax.join⟩
  | .array items => do
    let some (api, items) ← items.next? | pure none
    let api ← decodeOne room api
    let some (ajax, items) ← items.next? | pure ⟨api, .none⟩
    let ajax ← decodeOne room ajax
    ofText items.close
    pure ⟨api, ajax⟩
  | draft => mismatch "struct RoutePermissions" draft

end Permissions

namespace Route

def encode (route : Route) : Value :=
  .object ([("path", route.path.encode), ("controller", .string route.controller)]
    ++ member? "method" (route.method.map Methods.encode)
    ++ member? "absolute" (route.absolute.map .bool)
    ++ member? "permissions" (route.permissions.map Permissions.encode)
    ++ route.extra)

/-- How many levels are left inside a route of a table. -/
def room : Nat := mostLevels - 2

structure Fields where
  path : Option RoutePath
  controller : Option String
  method : Option (Option Methods)
  absolute : Option (Option Bool)
  permissions : Option (Option Permissions)
  /-- The members with other names, the latest first. -/
  others : List (String × Value)

def Fields.take (fields : Fields) (name : String) (value : Draft) : Decoded Fields :=
  match name with
  | "path" => do
    let path ← once name fields.path fun _ =>
      decodeChoice "RoutePath" RoutePath.decode? room value
    pure { fields with path }
  | "controller" => do
    let controller ← once name fields.controller fun _ => value.toText
    pure { fields with controller }
  | "method" => do
    let method ← once name fields.method fun _ =>
      value.toOption (decodeChoice "HttpMethods" Methods.decode? room)
    pure { fields with method }
  | "absolute" => do
    let absolute ← once name fields.absolute fun _ => value.toOption Draft.toBool
    pure { fields with absolute }
  | "permissions" => do
    let permissions ← once name fields.permissions fun _ =>
      value.toOption (Permissions.decode (room - 1))
    pure { fields with permissions }
  | _ => do
    let value ← ofText (value.value room)
    pure { fields with others := (name, value.sorted) :: fields.others }

def decode : Draft → Decoded Route
  | .object members => do
    let fields ← members.fold Fields.take ⟨none, none, none, none, none, []⟩
    let path ← required "path" fields.path
    let controller ← required "controller" fields.controller
    pure ⟨path, controller, fields.method.join, fields.absolute.join, fields.permissions.join,
      Value.sortMembers fields.others.reverse⟩
  | draft => mismatch "struct Route" draft

end Route

namespace RouteTable

def documentName : String := "routing table"

def encode (table : RouteTable) : Value := .array (table.routes.map Route.encode)

def toJson (table : RouteTable) : String := table.encode.document

def ofJson (text : String) : Except Fault RouteTable :=
  match decodeText (Draft.toList Route.decode) text with
  | .error fault => .error (.undecodable documentName fault.message)
  | .ok routes => .ok ⟨routes⟩

end RouteTable

end PackageIndex

import PackageIndex.Address
import PackageIndex.Route.Document
import PackageIndex.Workspace.Controllers

/-!
# The routes of a package

The routing file holds the route table of a package. A route is added only when its address can be
compiled and every controller it names exists.
-/
namespace PackageIndex.Routing

def target : String := "rigger_core::application::services::router_service"

/-- What a new route is made from. -/
structure RouteRequest where
  address : String
  controller : String
  method : Option Methods
  absolute : Option Bool
  api : Option Permission
  ajax : Option Permission
  deriving DecidableEq, Repr

def readTable (path : Path) : Work RouteTable := do
  let text ← Work.read path
  match RouteTable.ofJson text with
  | .ok table => pure table
  | .error fault => Work.fail (.corruptRouteTable path fault.message)

def writeTable (path : Path) (table : RouteTable) : Work Unit := Work.store path table.toJson

/-- Writes an empty table over whatever is there. -/
def init (workspace : Workspace) (package : PackageName) : Work Path := do
  let _ ← workspace.require package
  let path ← workspace.requireRouting package
  writeTable path .empty
  Work.note ⟨.info, target, "Routing file initialised", [("path", .string path.text)]⟩
  pure path

def list (workspace : Workspace) (package : PackageName) : Work RouteTable := do
  let _ ← workspace.require package
  let path ← workspace.requireRouting package
  readTable path

/-- The text of a reference to a controller that exists. -/
def checkController (workspace : Workspace) (package : PackageName) (reference : String) :
    Work String := do
  let reference ← Work.lift (ControllerRef.parse reference)
  if ← Controllers.isPresent workspace package reference then pure reference.text
  else Work.fail (.controllerNotExist reference.text)

def checkPermission (workspace : Workspace) (package : PackageName) :
    Option Permission → Work (Option Permission)
  | some (.controller reference) => do
    let reference ← checkController workspace package reference
    pure (some (.controller reference))
  | permission => pure permission

def add (workspace : Workspace) (package : PackageName) (request : RouteRequest) :
    Work Route := do
  let _ ← workspace.require package
  let path ← workspace.requireRouting package
  let table ← readTable path
  let address ← Work.lift (Address.compile request.address)
  let controller ← checkController workspace package request.controller
  let api ← checkPermission workspace package request.api
  let ajax ← checkPermission workspace package request.ajax
  let permissions : Permissions := ⟨api, ajax⟩
  let route : Route :=
    ⟨address.toRoutePath, controller, request.method, request.absolute,
      if permissions.isEmpty then none else some permissions, []⟩
  let table := table.append route
  writeTable path table
  Work.note ⟨.info, target, "Route added",
    [("routes", .number (.integer table.routes.length))]⟩
  pure route

end PackageIndex.Routing

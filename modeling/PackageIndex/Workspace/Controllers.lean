import PackageIndex.Name.Controller
import PackageIndex.Workspace.Autoloader

/-!
# Controllers

A controller reference is good when its class is registered and the file registered for it declares
a class of that simple name with that method.
-/
namespace PackageIndex.Controllers

def target : String := "rigger_core::application::services::controller_service"

/-- A class that is not registered has no methods; a registered class has to be where the
autoloader says. -/
def isPresent (workspace : Workspace) (package : PackageName) (reference : ControllerRef) :
    Work Bool := do
  match ← Autoloader.lookup? workspace package reference.className with
  | none =>
    Work.note ⟨.debug, target, "Class not registered", []⟩
    pure false
  | some file =>
    let path := workspace.resolve package file
    if ← Work.isPresent path then
      let nodes ← Autoloader.parseFile path
      match SourceNode.findClass? nodes reference.className.simpleName with
      | some declaration => pure (declaration.hasMethod reference.method)
      | none => Work.fail (.classNotDeclared reference.className.text path)
    else Work.fail (.notFound path)

end PackageIndex.Controllers

import PackageIndex.Descriptor
import PackageIndex.Name.Package
import PackageIndex.Script
import PackageIndex.Text.Quoted

/-!
# The workspace

A package is a directory of that name among the packages. Its descriptor says where its autoloader
and its routing file are; both are paths inside the package.
-/
namespace PackageIndex

structure Workspace where
  packagesDirectory : Path
  deriving DecidableEq, Repr

namespace Workspace

def directory (workspace : Workspace) (package : PackageName) : Path :=
  workspace.packagesDirectory.join package.text

/-- Where a file of a package is. -/
def resolve (workspace : Workspace) (package : PackageName) (file : RelativePath) : Path :=
  file.resolve (workspace.directory package)

def isPackage (workspace : Workspace) (package : PackageName) : Work Bool :=
  Work.isPresent (workspace.directory package)

/-- The directory of a package that exists. -/
def require (workspace : Workspace) (package : PackageName) : Work Path := do
  if ← workspace.isPackage package then pure (workspace.directory package)
  else Work.fail (.packageNotExist package.text)

/-- How an optional path is shown in an event. -/
def shownPath : Option RelativePath → String
  | some path => "Some(" ++ Text.quoted path.text ++ ")"
  | none => "None"

def locatorTarget : String := "rigger_core::application::services::package_locator"

def descriptor (workspace : Workspace) (package : PackageName) : Work Descriptor := do
  let path := (workspace.directory package).join Descriptor.fileName
  let bad (reason : String) : Failure := .badDescriptor package.text reason
  let text ← tryCatch (Work.read path) fun
    | .notFound _ => Work.fail (bad s!"{path.text} not found")
    | failure => Work.fail failure
  match Descriptor.ofJson text with
  | .error fault => Work.fail (bad s!"{path.text}: {fault.message}")
  | .ok descriptor =>
    Work.note ⟨.debug, locatorTarget, "Package configuration loaded",
      [("autoload", .string (shownPath descriptor.autoload)),
       ("routing", .string (shownPath descriptor.routing))]⟩
    pure descriptor

def autoloaderFile? (workspace : Workspace) (package : PackageName) : Work (Option Path) := do
  let descriptor ← workspace.descriptor package
  pure (descriptor.autoload.map (workspace.resolve package))

def routingFile? (workspace : Workspace) (package : PackageName) : Work (Option Path) := do
  let descriptor ← workspace.descriptor package
  pure (descriptor.routing.map (workspace.resolve package))

def requireAutoloader (workspace : Workspace) (package : PackageName) : Work Path := do
  match ← workspace.autoloaderFile? package with
  | some path => pure path
  | none => Work.fail (.noAutoloader package.text)

def requireRouting (workspace : Workspace) (package : PackageName) : Work Path := do
  match ← workspace.routingFile? package with
  | some path => pure path
  | none => Work.fail (.noRouting package.text)

end Workspace

end PackageIndex

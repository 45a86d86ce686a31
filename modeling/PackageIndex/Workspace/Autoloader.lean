import PackageIndex.Manifest
import PackageIndex.Workspace

/-!
# The autoloader of a package

The autoloader file holds the manifest of a package. Every operation reads the file as a whole,
makes the new manifest, and only then writes; nothing is kept between two operations.
-/
namespace PackageIndex.Autoloader

def target : String := "rigger_core::application::services::autoloader_service"
def parserTarget : String := "rigger_adapters::parser::php"

/-- What came of adding classes. -/
structure Addition where
  autoloader : Path
  file : RelativePath
  classes : List QualifiedName
  /-- How many of the classes were not in the entry before. -/
  added : Nat
  deriving DecidableEq, Repr

structure Rebuilt where
  autoloader : Path
  files : Nat
  classes : Nat
  /-- Declared names that are not in the namespace of the package. -/
  skipped : List QualifiedName
  deriving DecidableEq, Repr

def count (n : Nat) : Json.Value := .number (.integer n)

/-! ## Files -/

def readManifest (path : Path) : Work Manifest := do
  let text ← Work.read path
  match Manifest.ofJson text with
  | .ok manifest => pure manifest
  | .error fault => Work.fail (.corruptManifest path fault.message)

def writeManifest (path : Path) (manifest : Manifest) : Work Unit :=
  Work.store path manifest.toJson

/-- The declaration tree of the source at a path. -/
def parseFile (path : Path) : Work (List SourceNode) := do
  let source ← Work.read path
  match ← ExceptT.lift (Work.ask (.parse source)) with
  | .ok nodes =>
    Work.note ⟨.debug, parserTarget, "Source parsed", [("nodes", count nodes.length)]⟩
    pure nodes
  | .error fault => Work.fail (.unparsable path fault.text)

/-- The declarations of the source at a path; `file` is what it is called in the package. -/
def scanFile (path : Path) (file : RelativePath) : Work (List Declaration) := do
  let nodes ← parseFile path
  Work.lift (SourceNode.scan nodes file)

/-! ## Operations -/

/-- Writes an empty manifest over whatever is there. -/
def init (workspace : Workspace) (package : PackageName) : Work Path := do
  let _ ← workspace.require package
  let path ← workspace.requireAutoloader package
  writeManifest path .empty
  Work.note ⟨.info, target, "Autoloader initialised", [("path", .string path.text)]⟩
  pure path

def load (workspace : Workspace) (package : PackageName) : Work Manifest := do
  let path ← workspace.requireAutoloader package
  readManifest path

/-- Class names as a person writes them. -/
def classNames (names : List String) : Except Fault (List QualifiedName) :=
  names.mapM fun name => QualifiedName.parse (Name.normalize name)

/-- The classes a file of the package declares, all of which have to be in its namespace. -/
def declaredClasses (workspace : Workspace) (package : PackageName) (file : RelativePath) :
    Work (List QualifiedName) := do
  let found ← scanFile (workspace.resolve package file) file
  Work.note ⟨.debug, target, "Declarations found", [("count", count found.length)]⟩
  Work.lift (found.mapM fun declaration => declaration.name.withoutPackage package)

/-- The first class that another file owns, with that file. -/
def owned? (manifest : Manifest) (file : RelativePath) :
    List QualifiedName → Option (QualifiedName × RelativePath)
  | [] => none
  | name :: rest =>
    match manifest.lookup? name with
    | some owner => if owner = file then owned? manifest file rest else some (name, owner)
    | none => owned? manifest file rest

/-- Inserts classes into the stored manifest; if `exclusive`, only when no other file owns one. -/
def merge (workspace : Workspace) (package : PackageName) (file : RelativePath)
    (classes : List QualifiedName) (exclusive : Bool) : Work Addition := do
  let path ← workspace.requireAutoloader package
  let manifest ← readManifest path
  if exclusive then
    if let some (name, owner) := owned? manifest file classes then
      Work.fail (.alreadyRegistered name.text owner.text)
  let (manifest, added) := manifest.insert file classes
  writeManifest path manifest
  Work.note ⟨.info, target, "Autoloader updated",
    [("added", count added), ("total", count classes.length)]⟩
  pure ⟨path, file, classes, added⟩

/-- Adds the given classes, or those that the file declares. -/
def add (workspace : Workspace) (package : PackageName) (file : RelativePath)
    (classes : Option (List String)) : Work Addition := do
  let _ ← workspace.require package
  let names ← match classes with
    | some names => Work.lift (classNames names)
    | none => declaredClasses workspace package file
  merge workspace package file names false

/-- Adds the given classes, none of which may belong to another file. -/
def register (workspace : Workspace) (package : PackageName) (file : RelativePath)
    (classes : List String) : Work Addition := do
  let _ ← workspace.require package
  let names ← Work.lift (classNames classes)
  merge workspace package file names true

/-- The file a class is registered under. -/
def lookup? (workspace : Workspace) (package : PackageName) (name : QualifiedName) :
    Work (Option RelativePath) := do
  let manifest ← load workspace package
  pure (manifest.lookup? name)

def contains (workspace : Workspace) (package : PackageName) (name : QualifiedName) :
    Work Bool := do
  let file ← lookup? workspace package name
  pure file.isSome

/-! ## Rebuilding -/

/-- A manifest in the making. -/
structure Progress where
  manifest : Manifest
  classes : Nat
  skipped : List QualifiedName
  deriving DecidableEq, Repr

def Progress.start : Progress := ⟨.empty, 0, []⟩

/-- Parts declared names into those of the package, as it writes them, and the others. -/
def sortOut (package : PackageName) :
    List Declaration → Work (List QualifiedName × List QualifiedName)
  | [] => pure ([], [])
  | declaration :: rest => do
    match declaration.name.withoutPackage package with
    | .ok name =>
      let (names, skipped) ← sortOut package rest
      pure (name :: names, skipped)
    | .error _ =>
      Work.note ⟨.warn, target, "Declaration outside the package namespace",
        [("class", .string declaration.name.text), ("file", .string declaration.file.text)]⟩
      let (names, skipped) ← sortOut package rest
      pure (names, declaration.name :: skipped)

/-- Takes in one source file; one that declares nothing of the package gets no entry. -/
def takeFile (package : PackageName) (directory : Path) (progress : Progress) (source : Path) :
    Work Progress := do
  let file ← Work.lift (RelativePath.ofPackagePath directory source)
  let found ← scanFile source file
  let (names, skipped) ← sortOut package found
  let skipped := progress.skipped ++ skipped
  if names.isEmpty then pure { progress with skipped }
  else
    let (manifest, added) := progress.manifest.insert file names
    pure ⟨manifest, progress.classes + added, skipped⟩

def takeFiles (package : PackageName) (directory : Path) :
    Progress → List Path → Work Progress
  | progress, [] => pure progress
  | progress, source :: rest => do
    let progress ← takeFile package directory progress source
    takeFiles package directory progress rest

/-- Makes the manifest anew from every source file of the package. -/
def rebuild (workspace : Workspace) (package : PackageName) : Work Rebuilt := do
  let directory ← workspace.require package
  let path ← workspace.requireAutoloader package
  let sources ← Work.list directory "php"
  let progress ← takeFiles package directory .start sources
  writeManifest path progress.manifest
  let files := progress.manifest.entries.length
  Work.note ⟨.info, target, "Autoloader rebuilt",
    [("files", count files), ("classes", count progress.classes)]⟩
  pure ⟨path, files, progress.classes, progress.skipped⟩

end PackageIndex.Autoloader

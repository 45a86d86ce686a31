import PackageIndex.CommandLine.Display
import PackageIndex.Text.Quoted
import PackageIndex.Workspace.Routing

/-!
# Tasks

What the commands do that work on packages or only look at their arguments. A task comes to an end
with the messages to show or with a problem; asked for a document, it answers with exactly one.
-/
namespace PackageIndex.CommandLine

/-- A script that may end in a problem. -/
abbrev Task := ExceptT Problem Script

namespace Task

def ofWork {α : Type} (work : Work α) : Task α :=
  ExceptT.mk do
    let result ← work.run
    pure (result.mapError .failed)

def check {α : Type} (result : Except Fault α) : Task α := ofWork (Work.lift result)

def fail {α : Type} (problem : Problem) : Task α := ExceptT.mk (.done (.error problem))

def package (name : String) : Task PackageName := check (PackageName.parse name)

def texts (items : List String) : Json.Value := .array (items.map .string)

def count (n : Nat) : Json.Value := .number (.integer n)

/-! ## Autoloaders -/

def autoloadInit (workspace : Workspace) (isJson : Bool) (name : String) :
    Task (List Message) := do
  let package ← package name
  let path ← ofWork (Autoloader.init workspace package)
  pure <|
    if isJson then [.document (.object [("autoloader", .string path.text)])]
    else [.success s!"Empty autoloader written to {path.text}"]

def additionDocument (addition : Autoloader.Addition) : Json.Value :=
  .object [("added", count addition.added), ("autoloader", .string addition.autoloader.text),
    ("classes", texts (addition.classes.map QualifiedName.text)),
    ("file", .string addition.file.text)]

def autoloadAdd (workspace : Workspace) (isJson : Bool) (name file : String)
    (classes : List String) : Task (List Message) := do
  let package ← package name
  let file ← check (RelativePath.parse file)
  let given := if classes.isEmpty then none else some classes
  let addition ← ofWork (Autoloader.add workspace package file given)
  pure <|
    if isJson then [.document (additionDocument addition)]
    else if addition.classes.isEmpty then
      [.warning s!"No declarations found in {addition.file.text}"]
    else
      let total := addition.classes.length
      .success s!"{addition.file.text} registered ({addition.added} new, {total} total)"
        :: addition.classes.map fun className => .plain s!"  {className.text}"

def autoloadFind (workspace : Workspace) (isJson : Bool) (name className : String) :
    Task (List Message) := do
  let package ← package name
  let className ← check (QualifiedName.parse (Name.normalize className))
  match ← ofWork (Autoloader.lookup? workspace package className) with
  | none => fail (.classNotRegistered className.text package.text)
  | some file =>
    pure <|
      if isJson then
        [.document (.object [("class", .string className.text), ("file", .string file.text)])]
      else [.plain file.text]

def rebuiltDocument (rebuilt : Autoloader.Rebuilt) : Json.Value :=
  .object [("autoloader", .string rebuilt.autoloader.text), ("classes", count rebuilt.classes),
    ("files", count rebuilt.files), ("skipped", texts (rebuilt.skipped.map QualifiedName.text))]

def autoloadRebuild (workspace : Workspace) (isJson : Bool) (name : String) :
    Task (List Message) := do
  let package ← package name
  let rebuilt ← ofWork (Autoloader.rebuild workspace package)
  pure <|
    if isJson then [.document (rebuiltDocument rebuilt)]
    else
      rebuilt.skipped.map (fun className =>
        .warning s!"Skipped {className.text}: outside the package namespace")
      ++ [.success s!"Autoloader rebuilt: {rebuilt.classes} classes in {rebuilt.files} files"]

/-! ## Routes -/

/-- One line about a route. -/
def describe (route : Route) : String :=
  let methods := match route.method with
    | none => "ANY"
    | some (.one method) => method
    | some (.many methods) => Text.join ',' methods
  s!"{methods} {route.path.address} -> {route.controller}"
    ++ if route.absolute = some true then " [absolute]" else ""

def routeInit (workspace : Workspace) (isJson : Bool) (name : String) : Task (List Message) := do
  let package ← package name
  let path ← ofWork (Routing.init workspace package)
  pure <|
    if isJson then [.document (.object [("routing", .string path.text)])]
    else [.success s!"Empty routing table written to {path.text}"]

def isMethod (method : String) : Bool := method ≠ "" && method.toList.all Char.isAlpha

/-- No method stands for any, and a single one is kept as itself. -/
def methods (names : List String) : Task (Option Methods) :=
  match names.find? fun name => !isMethod name with
  | some name => fail (.invalidInput s!"'{name}' is not an HTTP method" none)
  | none =>
    pure <| match names with
      | [] => none
      | [name] => some (.one name)
      | names => some (.many names)

def permission (text : String) : Permission :=
  match text with
  | "true" => .flag true
  | "false" => .flag false
  | reference => .controller reference

def routeAdd (workspace : Workspace) (isJson : Bool) (name : String) (route : RouteArguments) :
    Task (List Message) := do
  let package ← package name
  let methods ← methods route.methods
  let added ← ofWork (Routing.add workspace package
    ⟨route.address, route.controller, methods, if route.isAbsolute then some true else none,
      route.api.map permission, route.ajax.map permission⟩)
  pure <|
    if isJson then [.document added.encode]
    else [.success s!"Route added: {describe added}"]

def routeList (workspace : Workspace) (isJson : Bool) (name : String) : Task (List Message) := do
  let package ← package name
  let table ← ofWork (Routing.list workspace package)
  pure <|
    if isJson then [.document table.encode]
    else if table.isEmpty then [.info s!"Package '{package.text}' has no routes"]
    else
      .header s!"Routes of '{package.text}' ({table.routes.length}):"
        :: table.routes.map fun route => .plain s!"  {describe route}"

def segmentLine : Segment → String
  | .literal text => s!"literal   {text}"
  | .parameter name => s!"variable  {name}"
  | .wildcard name => s!"wildcard  {name}"
  | .typed name constraint => s!"typed     {name} {constraint}"

def routeCompile (isJson : Bool) (address : String) : Task (List Message) := do
  let address ← check (Address.compile address)
  pure <|
    if isJson then [.document address.toRoutePath.encode]
    else address.segments.map fun segment => .plain (segmentLine segment)

/-! ## Names and settings -/

def checkName (isJson : Bool) (name : String) (isBare : Bool) : Task (List Message) := do
  if isBare then
    if ¬ Name.isIdentifier name then fail (.failed (.input (.badIdentifier name)))
  else
    let _ ← check (QualifiedName.parse name)
  pure <|
    if isJson then [.document (.object [("name", .string name), ("valid", .bool true)])]
    else [.success s!"'{name}' is a valid name"]

def settingsGet (settings : Settings) (isJson : Bool) (key : String) : Task (List Message) :=
  match settings.text? key with
  | none => fail (.badSettings s!"Unknown config key: '{key}'" none)
  | some value =>
    pure <|
      if isJson then [.document (.object [("key", .string key), ("value", .string value)])]
      else [.plain s!"{key} = {Text.quoted value}"]

def settingsList (settings : Settings) (isJson : Bool) : List Message :=
  if isJson then [.document settings.toJson]
  else [.header "Current Configuration:", .plain settings.toToml]

end Task

end PackageIndex.CommandLine

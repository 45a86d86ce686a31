import PackageIndex.Proofs.Workspace.Autoloader
import PackageIndex.Workspace.Routing

/-!
# What the operations on routes do

A controller is looked up in the manifest and then in its source. A route that is added has a
compiled address and references that were looked up; it goes to the end of the table that was read.
-/
namespace PackageIndex

open MemoryStore (Reads Writes Parser)

variable {parser : Parser} {store : MemoryStore} (workspace : Workspace) (package : PackageName)

namespace Controllers

/-- What looking for a controller comes to in a manifest. -/
def Answers (parser : Parser) (store : MemoryStore) (manifest : Manifest)
    (reference : ControllerRef) (found : Bool) : Prop :=
  match manifest.lookup? reference.className with
  | none => found = false
  | some file => ∃ nodes declaration,
    Autoloader.parsed? parser store (workspace.resolve package file) = some nodes ∧
      SourceNode.findClass? nodes reference.className.simpleName = some declaration ∧
        found = declaration.hasMethod reference.method

/-- A controller is looked for in the source of its class. -/
theorem reads_isPresent (reference : ControllerRef) :
    Reads parser store (isPresent workspace package reference) fun found =>
      ∃ path manifest, workspace.autoloaderIn? package store = some path ∧
        Autoloader.stored? store path = some (.ok manifest) ∧
          Answers workspace package parser store manifest reference found := by
  unfold isPresent
  refine (Autoloader.reads_lookup? workspace package _).bind fun file h => ?_
  obtain ⟨path, manifest, named, holds, same⟩ := h
  have answer {found : Bool} (answers : Answers workspace package parser store manifest reference
      found) : ∃ path manifest, workspace.autoloaderIn? package store = some path ∧
        Autoloader.stored? store path = some (.ok manifest) ∧
          Answers workspace package parser store manifest reference found :=
    ⟨path, manifest, named, holds, answers⟩
  cases file with
  | none => exact (Reads.note _).bind fun _ _ => .pure (answer (by simp [Answers, ← same]))
  | some file =>
    refine (Reads.isPresent _).bind fun there _ => ?_
    split
    · refine (Autoloader.reads_parseFile _).bind fun nodes parses => ?_
      split
      · next declaration declares =>
        refine .pure (answer ?_)
        simp only [Answers, ← same]
        exact ⟨nodes, declaration, parses, declares, rfl⟩
      · exact .fail _
    · exact .fail _

end Controllers

namespace Routing

/-- What the file at a path says as a route table; nothing if there is no file. -/
def stored? (store : MemoryStore) (path : Path) : Option (Except Fault RouteTable) :=
  (store.file? path).map RouteTable.ofJson

theorem reads_readTable (path : Path) :
    Reads parser store (readTable path) fun table => stored? store path = some (.ok table) := by
  unfold readTable
  refine (Reads.read path).bind fun text found => ?_
  split
  · next table decoded => exact .pure (by simp [stored?, found, decoded])
  · exact .fail _

theorem reads_list :
    Reads parser store (list workspace package) fun table =>
      ∃ path, workspace.routingIn? package store = some path ∧
        stored? store path = some (.ok table) := by
  unfold list
  exact (workspace.reads_require package).bind fun _ _ =>
    (workspace.reads_requireRouting package).bind fun path named =>
      (reads_readTable path).mono fun table holds => ⟨path, named, holds⟩

/-- The text is what a reference is printed as, and the reference was given so or otherwise. -/
def Names (given text : String) : Prop :=
  ∃ reference, ControllerRef.parse given = .ok reference ∧ text = reference.text

/-- A reference is accepted under the text that it prints. -/
theorem reads_checkController (given : String) :
    Reads parser store (checkController workspace package given) (Names given) := by
  unfold checkController
  refine (Reads.lift _).bind fun reference parsed =>
    (Controllers.reads_isPresent workspace package reference).bind fun found _ => ?_
  split
  · exact .pure ⟨reference, parsed, rfl⟩
  · exact .fail _

/-- A permission as it is kept: a flag as given, a controller by its printed reference. -/
def Keeps : (given kept : Option Permission) → Prop
  | some (.controller given), kept => ∃ text, kept = some (.controller text) ∧ Names given text
  | given, kept => kept = given

/-- A flag is kept, and a reference under the text that it prints. -/
theorem reads_checkPermission (given : Option Permission) :
    Reads parser store (checkPermission workspace package given) (Keeps given) := by
  unfold checkPermission
  split
  · next reference =>
    exact (reads_checkController workspace package reference).bind fun text names =>
      .pure ⟨text, rfl, names⟩
  · next other =>
    refine .pure ?_
    unfold Keeps
    split
    · next given => exact absurd rfl (other given)
    · rfl

theorem writes_init :
    Writes parser store (init workspace package) fun path other text =>
      workspace.routingIn? package store = some other ∧ path = other ∧
        text = RouteTable.empty.toJson := by
  unfold init writeTable
  refine (workspace.reads_require package).bind_writes fun _ _ =>
    (workspace.reads_requireRouting package).bind_writes fun path named => ?_
  refine (Writes.store_then path _ _ path).mono fun a other text h => ?_
  obtain ⟨rfl, rfl, rfl⟩ := h
  exact ⟨named, rfl, rfl⟩

/-- What an added route is made of. -/
structure Made (request : RouteRequest) (route : Route) : Prop where
  path : ∃ address, Address.compile request.address = .ok address ∧
    route.path = address.toRoutePath
  controller : Names request.controller route.controller
  method : route.method = request.method
  absolute : route.absolute = request.absolute
  permissions : ∃ api ajax, Keeps request.api api ∧ Keeps request.ajax ajax ∧
    route.permissions = if (Permissions.mk api ajax).isEmpty then none else some ⟨api, ajax⟩
  extra : route.extra = []

/-- Adding a route writes the table with the route behind the others. -/
theorem writes_add (request : RouteRequest) :
    Writes parser store (add workspace package request) fun route other text =>
      workspace.routingIn? package store = some other ∧ Made request route ∧
        ∃ table, stored? store other = some (.ok table) ∧ text = (table.append route).toJson := by
  unfold add writeTable
  refine (workspace.reads_require package).bind_writes fun _ _ =>
    (workspace.reads_requireRouting package).bind_writes fun path named =>
    (reads_readTable path).bind_writes fun table holds =>
    (Reads.lift _).bind_writes fun address compiled =>
    (reads_checkController workspace package _).bind_writes fun controller names =>
    (reads_checkPermission workspace package _).bind_writes fun api keepsApi =>
    (reads_checkPermission workspace package _).bind_writes fun ajax keepsAjax => ?_
  refine (Writes.store_then path _ _ _).mono fun route other text h => ?_
  obtain ⟨rfl, rfl, rfl⟩ := h
  exact ⟨named, ⟨⟨address, compiled, rfl⟩, names, rfl, rfl, ⟨api, ajax, keepsApi, keepsAjax, rfl⟩,
    rfl⟩, table, holds, rfl⟩

end Routing

end PackageIndex

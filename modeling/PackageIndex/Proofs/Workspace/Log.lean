import PackageIndex.Proofs.Address
import PackageIndex.Proofs.Route
import PackageIndex.Proofs.Workspace.Separate

/-!
# The routing file as a log

Until a routing file is initialised anew it only grows: every accepted request puts its route at the
end, and the routes before it stay as they were, with all that they carry along.
-/
namespace PackageIndex

open MemoryStore (Outcome Parser perform)

def Moment.route? : Moment → Option Route
  | ⟨_, .addRoute _, _, .ok route⟩ => some route
  | _ => none

/-- Only an addition of a route that succeeds gives one. -/
theorem Moment.route?_eq_some {moment : Moment} {route : Route} (h : moment.route? = some route) :
    ∃ parser request before, moment = ⟨parser, .addRoute request, before, .ok route⟩ := by
  obtain ⟨parser, operation, before, result⟩ := moment
  unfold route? at h
  split at h
  · next parser request before route same =>
    cases h
    exact ⟨parser, request, before, same⟩
  · cases h

theorem Moment.filterMap_route?_cons (moment : Moment) (moments : List Moment) :
    (moment :: moments).filterMap route? = moment.route?.toList ++ moments.filterMap route? := by
  rw [List.filterMap_cons]
  cases moment.route? <;> rfl

namespace Routing

/-! ## Accepted requests -/

/-- A reference that is read and then printed as it was. -/
def PrintsBack (text : String) : Prop :=
  ∃ reference, ControllerRef.parse text = .ok reference ∧ reference.text = text

/-- A name that was accepted is printed back. -/
theorem Names.printsBack {given text : String} (names : Names given text) : PrintsBack text := by
  obtain ⟨reference, -, rfl⟩ := names
  exact ⟨reference, reference.parse_text, rfl⟩

/-- What a request and the route made from it have to do with each other. -/
structure Accepted (request : RouteRequest) (route : Route) : Prop where
  path : ∃ address, Address.compile request.address = .ok address ∧
    address.segments = (Address.parts request.address).map Address.classify ∧
    address.variableNames.Nodup ∧ route.path = address.toRoutePath ∧
    ((∃ text, route.path = .literal text) ↔ address.variableNames = [])
  controller : Names request.controller route.controller ∧ PrintsBack route.controller
  references : ∀ permissions ∈ route.permissions, ∀ text,
    permissions.api = some (.controller text) ∨ permissions.ajax = some (.controller text) →
      PrintsBack text
  permissions : route.permissions.isSome = true ↔
    request.api.isSome = true ∨ request.ajax.isSome = true

theorem Keeps.isSome_eq {given kept : Option Permission} (keeps : Keeps given kept) :
    kept.isSome = given.isSome := by
  unfold Keeps at keeps
  split at keeps
  · obtain ⟨text, rfl, -⟩ := keeps
    rfl
  · rw [keeps]

theorem Keeps.printsBack {given kept : Option Permission} (keeps : Keeps given kept) {text : String}
    (h : kept = some (.controller text)) : PrintsBack text := by
  unfold Keeps at keeps
  split at keeps
  · obtain ⟨printed, same, names⟩ := keeps
    rw [h] at same
    cases same
    exact names.printsBack
  · next other =>
    subst keeps
    exact absurd h (other text)

/-- A route that was made is one for an accepted request. -/
theorem Made.accepted {request : RouteRequest} {route : Route} (made : Made request route) :
    Accepted request route := by
  obtain ⟨⟨address, compiled, path⟩, controller, -, -, ⟨api, ajax, keepsApi, keepsAjax, kept⟩, -⟩ :=
    made
  have empty : (Permissions.mk api ajax).isEmpty = true ↔
      ¬ (request.api.isSome = true ∨ request.ajax.isSome = true) := by
    rw [← keepsApi.isSome_eq, ← keepsAjax.isSome_eq]
    cases api <;> cases ajax <;> simp [Permissions.isEmpty]
  obtain ⟨segments, distinct⟩ := Address.compile_eq_ok compiled
  refine ⟨⟨address, compiled, segments, distinct, path, ?_⟩, ⟨controller, controller.printsBack⟩,
    fun permissions mem text h => ?_, ?_⟩
  · rw [path]
    exact Address.toRoutePath_eq_literal
  · rw [kept] at mem
    split at mem
    · cases mem
    · cases mem
      exact h.elim keepsApi.printsBack keepsAjax.printsBack
  · rw [kept]
    split
    · next none => simp [empty.mp none]
    · next some => simpa using not_not.mp (mt empty.mpr some)

/-! ## Single operations -/

section
variable {workspace : Workspace} {package : PackageName} {store after : MemoryStore}
  {descriptor : Descriptor} {routing : RelativePath} {table : RouteTable} {parser : Parser}
  (described : workspace.descriptor? package store = some descriptor)
  (declared : descriptor.routing = some routing)
  (separate : workspace.Separate package descriptor)
include described declared

theorem routingIn?_eq : workspace.routingIn? package store =
    some (workspace.resolve package routing) := by
  rw [Workspace.routingIn?, described, Option.bind_some, declared, Option.map_some]

/-- Adding a route puts it at the end of the table in the file. -/
theorem stored?_after_add {request : RouteRequest} {route : Route} (kept : table.Kept)
    (holds : stored? store (workspace.resolve package routing) = some (.ok table))
    (outcome : Outcome parser ((Operation.addRoute request).work workspace package).run store
      (.ok route) after) :
    stored? after (workspace.resolve package routing) = some (.ok (table.append route)) ∧
      (table.append route).Kept ∧ Accepted request route := by
  obtain ⟨other, text, ⟨named, made, read, found, rfl⟩, puts⟩ :=
    (writes_add workspace package request).puts outcome
  rw [routingIn?_eq described declared] at named
  cases named
  rw [holds] at found
  cases found
  have grown : (table.append route).Kept := kept.append made.extra
  refine ⟨?_, grown, made.accepted⟩
  rw [stored?, MemoryStore.file?_eq, puts, MemoryStore.content?_putFile_self, Option.map_some,
    RouteTable.ofJson_toJson grown]

include separate

/-- An operation that adds no route and does not start the file anew leaves it as it is. -/
theorem stored?_after_other {operation : Operation} {result : Except Failure operation.Result}
    (going : operation ≠ .initRouting)
    (none : (Moment.mk parser operation store result).route? = none)
    (outcome : Outcome parser (operation.work workspace package).run store result after) :
    stored? after (workspace.resolve package routing) =
      stored? store (workspace.resolve package routing) := by
  have kept : after.file? (workspace.resolve package routing) =
      store.file? (workspace.resolve package routing) := by
    cases operation with
    | initRouting => exact absurd rfl going
    | addRoute request =>
      cases result with
      | error failure =>
        rw [MemoryStore.file?_eq, Operation.files_of_error outcome, MemoryStore.file?_eq]
      | ok route => cases none
    | initAutoloader | add | register | rebuild =>
      exact Workspace.file?_after described outcome fun autoload targeted =>
        separate.apart autoload targeted routing declared
    | load | lookup | contains | checkController | listRoutes =>
      exact Workspace.file?_after described outcome fun autoload targeted => by cases targeted
  rw [stored?, kept, stored?]

/-- What one operation does to a table that reads back. -/
theorem stored?_after {operation : Operation} {result : Except Failure operation.Result}
    (going : operation ≠ .initRouting) (kept : table.Kept)
    (holds : stored? store (workspace.resolve package routing) = some (.ok table))
    (outcome : Outcome parser (operation.work workspace package).run store result after) :
    let moment : Moment := ⟨parser, operation, store, result⟩
    let next : RouteTable := ⟨table.routes ++ moment.route?.toList⟩
    stored? after (workspace.resolve package routing) = some (.ok next) ∧ next.Kept ∧
      ∀ parser request before route,
        moment = ⟨parser, .addRoute request, before, .ok route⟩ → Accepted request route := by
  intro moment next
  cases added : moment.route? with
  | none =>
    have same := stored?_after_other described declared separate going added outcome
    have plain : next = table := by
      rw [show next = ⟨table.routes ++ moment.route?.toList⟩ from rfl, added, Option.toList_none,
        List.append_nil]
    rw [plain]
    refine ⟨same.trans holds, kept, fun parser request before route told => ?_⟩
    rw [told] at added
    cases added
  | some route =>
    obtain ⟨_, request, _, told⟩ := Moment.route?_eq_some added
    injection told with _ same_operation _ same_result
    subst same_operation
    cases same_result
    obtain ⟨grown, good, accepted⟩ := stored?_after_add described declared kept holds outcome
    refine ⟨grown, good, fun _ _ _ _ also => ?_⟩
    injection also with _ same_operation _ same_result
    cases same_operation
    cases same_result
    exact accepted

/-! ## Courses of operations -/

/-- A course of operations on a table that is kept appends its routes to it. -/
theorem course_appends_kept (kept : table.Kept)
    (holds : stored? store (workspace.resolve package routing) = some (.ok table))
    {moments : List Moment} {last : MemoryStore}
    (course : workspace.Course package store moments last)
    (going : ∀ moment ∈ moments, moment.operation ≠ .initRouting) :
    (∀ before moment rest, moments = before ++ moment :: rest →
      stored? moment.before (workspace.resolve package routing) =
        some (.ok ⟨table.routes ++ before.filterMap Moment.route?⟩)) ∧
    stored? last (workspace.resolve package routing) =
      some (.ok ⟨table.routes ++ moments.filterMap Moment.route?⟩) ∧
    ∀ parser request before route,
      ⟨parser, .addRoute request, before, .ok route⟩ ∈ moments → Accepted request route := by
  induction course generalizing table with
  | done =>
    refine ⟨fun before moment rest h => ?_, ?_, fun _ _ _ _ mem => by cases mem⟩
    · exact absurd h.symm (List.append_ne_nil_of_right_ne_nil _ (List.cons_ne_nil _ _))
    · rw [List.filterMap_nil, List.append_nil]
      exact holds
  | step outcome course ih =>
    obtain ⟨grown, good, accepted⟩ := stored?_after described declared separate
      (going _ (List.mem_cons_self ..)) kept holds outcome
    obtain ⟨each, last, also⟩ := ih (Workspace.descriptor?_after described outcome separate) good
      grown fun other mem => going other (List.mem_cons_of_mem _ mem)
    refine ⟨fun before moment rest split => ?_, ?_, fun parser request before route mem => ?_⟩
    · cases before with
      | nil =>
        cases split
        rw [List.filterMap_nil, List.append_nil]
        exact holds
      | cons first before =>
        rw [List.cons_append] at split
        obtain ⟨same, parted⟩ := List.cons.inj split
        rw [← same, Moment.filterMap_route?_cons, ← List.append_assoc]
        exact each before moment rest parted
    · rw [Moment.filterMap_route?_cons, ← List.append_assoc]
      exact last
    · rcases List.mem_cons.mp mem with told | mem
      · exact accepted parser request before route told.symm
      · exact also parser request before route mem

/-- In every course that does not start the file anew, whatever fails, the file holds at each moment
the table it held at first with the routes added so far at its end, in the order in which they were
added; and each of these is what its request says. -/
theorem course_appends (exact : ∀ route ∈ table.routes, route.Exact)
    (holds : stored? store (workspace.resolve package routing) = some (.ok table))
    {moments : List Moment} {last : MemoryStore}
    (course : workspace.Course package store moments last)
    (going : ∀ moment ∈ moments, moment.operation ≠ .initRouting) :
    (∀ before moment rest, moments = before ++ moment :: rest →
      stored? moment.before (workspace.resolve package routing) =
        some (.ok ⟨table.routes ++ before.filterMap Moment.route?⟩)) ∧
    stored? last (workspace.resolve package routing) =
      some (.ok ⟨table.routes ++ moments.filterMap Moment.route?⟩) ∧
    ∀ parser request before route,
      ⟨parser, .addRoute request, before, .ok route⟩ ∈ moments → Accepted request route := by
  have decoded := holds
  rw [stored?] at decoded
  obtain ⟨text, -, decoded⟩ := Option.map_eq_some_iff.mp decoded
  exact course_appends_kept described declared separate (RouteTable.kept_of_ofJson decoded exact)
    holds course going

end

/-- A package with one route, which carries a note along, gets a second one. -/
theorem course_appends_second_route :
    let workspace : Workspace := ⟨⟨"p"⟩⟩
    let shop : PackageName := ⟨"shop", by decide⟩
    let autoload : RelativePath := ⟨"a", by decide, by decide, by decide, by decide⟩
    let routing : RelativePath := ⟨"r", by decide, by decide, by decide, by decide⟩
    let store := ((MemoryStore.empty.withFile ⟨"p/shop/package.json"⟩
        "\x7b\"autoload\":\"a\",\"routing\":\"r\"\x7d").withFile
      ⟨"p/shop/a"⟩ "[[[\"f\",[\"A\"]]]]").withFile ⟨"p/shop/f"⟩ "<?php" |>.withFile
      ⟨"p/shop/r"⟩ "[\x7b\"path\":\"a\",\"controller\":\"A@b\",\"note\":[1]\x7d]"
    let setting : MemoryStore.Setting := .granting fun _ =>
      .ok [.declared ⟨.classType, "A", [⟨"b", 1, 1⟩], 1, 1⟩]
    let request : RouteRequest := ⟨":id", "A@b", none, none, none, none⟩
    let ran := perform setting ((Operation.addRoute request).work workspace shop) store
    let path := workspace.resolve shop routing
    let first : Route :=
      ⟨.literal "a", "A@b", none, none, none, [("note", .array [.number (.integer 1)])]⟩
    let second : Route := ⟨.pattern [.parameter "id"], "A@b", none, none, none, []⟩
    workspace.descriptor? shop store = some ⟨some autoload, some routing, []⟩ ∧ first.Exact ∧
      stored? store path = some (.ok ⟨[first]⟩) ∧ ran.1 = .ok second ∧
      stored? ran.2 path = some (.ok ⟨[first, second]⟩) ∧ Accepted request second := by
  intro workspace shop autoload routing store setting request ran path first second
  have described : workspace.descriptor? shop store = some ⟨some autoload, some routing, []⟩ := by
    decide +kernel
  have separate : workspace.Separate shop ⟨some autoload, some routing, []⟩ :=
    ⟨by decide, by decide, by decide⟩
  have holds : stored? store path = some (.ok ⟨[first]⟩) := by decide +kernel
  have exact : ∀ route ∈ [first], route.Exact := by decide
  have added : ran.1 = .ok second := by decide +kernel
  have outcome := MemoryStore.outcome_perform setting
    ((Operation.addRoute request).work workspace shop) store
  have course : workspace.Course shop store
      [⟨setting.parse, .addRoute request, store, .ok second⟩] ran.2 :=
    .step (added ▸ outcome) .done
  obtain ⟨-, now, accepted⟩ := course_appends described rfl separate exact holds course (by simp)
  exact ⟨described, exact first (List.mem_cons_self ..), holds, added, now,
    accepted _ request store second (List.mem_cons_self ..)⟩

end Routing

end PackageIndex

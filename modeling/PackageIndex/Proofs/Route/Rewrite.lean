import PackageIndex.Proofs.Json.Key
import PackageIndex.Proofs.Route

/-!
# What a rewrite of a route table keeps

A document that is read and written again still has every route, and every route has each key with
what it said, unless that was a null for a field that may be missing. Inside a route less is kept:
permissions and the segments of a path come back with the fields that are known here and no other
key, and a wildcard comes back without a constraint.
-/
namespace PackageIndex

open Json

/-! ## Segments -/

namespace Segment

def fields : List String := ["type", "name", "regex"]

def kindOf (isWildcard : Bool) : String := if isWildcard then "wildcard" else "dynamic"

/-- A kind is given as a text, or as the one key of an object. -/
def GivesKind (kind : String) (draft : Draft) : Prop :=
  draft.Same (Draft.ofValue (.string kind)) ∨ draft.Same (Draft.ofValue (.object [(kind, .null)]))

/-- A segment that is not literal keeps its fields, though a wildcard no constraint; any other key
is gone. -/
structure KeepsFields (old new : Draft) : Prop where
  kind : ∃ given isWildcard, old.field? fields "type" = some given ∧
    GivesKind (kindOf isWildcard) given ∧
      new.key? "type" = some (.string (.ok (kindOf isWildcard)))
  name : ∃ given, old.field? fields "name" = some given ∧ new.Has "name" given
  constraint : ∀ given, old.field? fields "regex" = some given →
    given = .null ∨ new.Has "regex" given ∨ new.key? "type" = some (.string (.ok (kindOf true)))
  only : ∀ key, key ∉ fields → new.key? key = none

def Rewritten (old new : Draft) : Prop :=
  (∃ text, old = .string (.ok text) ∧ new = old) ∨ KeepsFields old new

/-- The kind of a segment is given by a key of its own. -/
theorem givesKind_of_isWildcard? {draft : Draft} {room : Nat} {value : Value} {isWildcard : Bool}
    (given : draft.value room = .ok value) (h : isWildcard? value = some isWildcard) :
    GivesKind (kindOf isWildcard) draft := by
  have named {kind : String}
      (h : (if kind = "dynamic" then some false
        else if kind = "wildcard" then some true else none) = some isWildcard) :
      kind = kindOf isWildcard := by
    split at h
    · cases h
      assumption
    · split at h
      · cases h
        assumption
      · cases h
  unfold isWildcard? at h
  split at h
  · exact .inl (named h ▸ same_ofValue given)
  · exact .inr (named h ▸ same_ofValue given)
  · cases h

section
variable {old : Draft} {room : Nat}

def Given (old : Draft) (room : Nat) (field : String) (Taken : Value → Prop) : Prop :=
  ∃ draft value, old.field? fields field = some draft ∧ draft.value room = .ok value ∧ Taken value

theorem eq_of_text? {value : Value} {text : String} (h : text? value = some text) :
    value = .string text := by
  unfold text? at h
  split at h
  · cases h
    rfl
  · cases h

/-- A segment keeps its fields when each is given where it is looked for. -/
theorem keepsFields_of_given {isWildcard : Bool} {name : String} {constraint : Option String}
    (kind : Given old room "type" fun value => isWildcard? value = some isWildcard)
    (named : Given old room "name" fun value => text? value = some name)
    (constrained : (old.field? fields "regex" = none ∧ constraint = none) ∨
      Given old room "regex" fun value => constraint? value = some constraint) :
    KeepsFields old (Draft.ofValue (ofFields isWildcard name constraint).encode) := by
  obtain ⟨kindDraft, kindValue, kindFound, kindGiven, kindTaken⟩ := kind
  obtain ⟨nameDraft, nameValue, nameFound, nameGiven, nameTaken⟩ := named
  have same : nameDraft.Same (.string (.ok name)) := by
    rw [eq_of_text? nameTaken] at nameGiven
    exact same_ofValue nameGiven
  refine ⟨⟨kindDraft, isWildcard, kindFound, givesKind_of_isWildcard? kindGiven kindTaken, ?_⟩,
    ⟨nameDraft, nameFound, .string (.ok name), ?_, same⟩, fun draft found => ?_, fun key free => ?_⟩
  · cases isWildcard <;> cases constraint <;> rfl
  · cases isWildcard <;> cases constraint <;> rfl
  · rcases constrained with ⟨missing, -⟩ | ⟨given, value, there, valued, taken⟩
    · rw [missing] at found
      cases found
    · rw [there] at found
      cases found
      unfold constraint? at taken
      split at taken
      · exact .inl (shaped_of_value valued)
      · cases taken
        cases isWildcard with
        | true => exact .inr (.inr rfl)
        | false => exact .inr (.inl ⟨_, rfl, same_ofValue valued⟩)
      · cases taken
  · cases isWildcard with
    | true => exact key?_ofValue_of_not_mem (by simp [fields]) free
    | false => cases constraint <;> exact key?_ofValue_of_not_mem (by simp [fields]) free

/-- A field that stands at most once is found, with its value, where it was read. -/
theorem given_of_field? {members : Members} {values : List (String × Value)} {name : String}
    {found : Option Value} (given : members.values room = .ok values)
    (h : field? name values = some found) :
    (members.last? name = none ∧ found = none) ∨
      ∃ draft value, members.last? name = some draft ∧ draft.value room = .ok value ∧
        found = some value := by
  unfold field? at h
  rcases last?_of_values name members given with
    ⟨missing, none⟩ | ⟨draft, value, last, valued, same⟩
  · rw [none] at h
    cases h
    exact .inl ⟨missing, rfl⟩
  · refine .inr ⟨draft, value, last, valued, ?_⟩
    split at h
    · next empty =>
      rw [empty] at same
      cases same
    · next single =>
      rw [single] at same
      cases same
      cases h
      rfl
    · cases h

/-- In an object a field is given by the only member with its name. -/
theorem given_of_member {members : Members} {values : List (String × Value)} {name : String}
    {value : Value} {Taken : Value → Prop} (valued : members.values room = .ok values)
    (h : field? name values = some (some value)) (taken : Taken value) :
    Given (.object members) room name Taken := by
  rcases given_of_field? valued h with ⟨-, none⟩ | ⟨draft, v, last, given, same⟩
  · cases none
  · cases same
    exact ⟨draft, value, last, given, taken⟩

/-- In an array a field is given by the item at its place. -/
theorem given_of_item {items : Items} {drafts : List Draft} {draft : Draft} {value : Value}
    {field : String} {Taken : Value → Prop} (same : items.drafts = drafts)
    (there : drafts[fields.idxOf field]? = some draft) (valued : draft.value room = .ok value)
    (taken : Taken value) : Given (.array items) room field Taken :=
  ⟨draft, value, by rw [Draft.field?, same, there], valued, taken⟩

/-- A segment that was read, and the one that is written in its place. -/
theorem rewritten_of_decode? {value : Value} {segment : Segment}
    (given : old.value room = .ok value) (h : decode? value = some segment) :
    Rewritten old (Draft.ofValue segment.encode) := by
  have shape := shaped_of_value given
  unfold decode? at h
  split at h
  · next text =>
    cases h
    exact .inl ⟨text, shape, shape.symm⟩
  · next values =>
    obtain ⟨members, room, rfl, valued⟩ := shape
    rw [ofMembers?] at h
    simp only [Option.bind_eq_bind, Option.bind_eq_some_iff, Option.pure_def,
      Option.some.injEq] at h
    obtain ⟨_, kindFound, kind, rfl, isWildcard, kindTaken, _, nameFound, named, rfl, name,
      nameTaken, constrained, constraintFound, constraint, constraintTaken, rfl⟩ := h
    refine .inr (keepsFields_of_given (given_of_member valued kindFound kindTaken)
      (given_of_member valued nameFound nameTaken) ?_)
    cases constrained with
    | none =>
      rcases given_of_field? valued constraintFound with ⟨missing, -⟩ | ⟨_, _, _, _, none⟩
      · cases constraintTaken
        exact .inl ⟨missing, rfl⟩
      · cases none
    | some v => exact .inr (given_of_member valued constraintFound constraintTaken)
  · obtain ⟨items, room, rfl, valued⟩ := shape
    obtain ⟨drafts, same⟩ : ∃ drafts, items.drafts = drafts := ⟨_, rfl⟩
    obtain _ | ⟨kindGiven, _ | ⟨nameGiven, ⟨⟩⟩⟩ := same ▸ forall₂_of_values items valued
    simp only [Option.bind_eq_bind, Option.bind_eq_some_iff, Option.pure_def,
      Option.some.injEq] at h
    obtain ⟨isWildcard, kindTaken, name, nameTaken, rfl⟩ := h
    exact .inr (keepsFields_of_given (given_of_item same rfl kindGiven kindTaken)
      (given_of_item same rfl nameGiven nameTaken)
      (.inl ⟨by rw [Draft.field?, same]; rfl, rfl⟩))
  · obtain ⟨items, room, rfl, valued⟩ := shape
    obtain ⟨drafts, same⟩ : ∃ drafts, items.drafts = drafts := ⟨_, rfl⟩
    obtain _ | ⟨kindGiven, _ | ⟨nameGiven, _ | ⟨constraintGiven, ⟨⟩⟩⟩⟩ :=
      same ▸ forall₂_of_values items valued
    simp only [Option.bind_eq_bind, Option.bind_eq_some_iff, Option.pure_def,
      Option.some.injEq] at h
    obtain ⟨isWildcard, kindTaken, name, nameTaken, constraint, constraintTaken, rfl⟩ := h
    exact .inr (keepsFields_of_given (given_of_item same rfl kindGiven kindTaken)
      (given_of_item same rfl nameGiven nameTaken)
      (.inr (given_of_item same rfl constraintGiven constraintTaken)))
  · cases h

end

end Segment

/-- What is chosen for a draft is chosen for its value. -/
theorem of_decodeChoice_eq_ok {α : Type} {choice : String} {decode? : Value → Option α} {room : Nat}
    {draft : Draft} {a : α} (h : decodeChoice choice decode? room draft = .ok a) :
    ∃ value, draft.value room = .ok value ∧ decode? value = some a := by
  obtain ⟨value, given, h⟩ := bind_eq_ok.mp h
  refine ⟨value, ofText_eq_ok given, ?_⟩
  split at h
  · next taken =>
    cases h
    exact taken
  · cases h

/-- A field that may be null is null when nothing is taken for it. -/
theorem of_toOption_eq_ok {α : Type} {decode : Draft → Decoded α} {draft : Draft} {found : Option α}
    (h : Draft.toOption decode draft = .ok found) :
    (draft = .null ∧ found = none) ∨ ∃ a, decode draft = .ok a ∧ found = some a := by
  unfold Draft.toOption at h
  split at h
  · cases h
    exact .inl ⟨rfl, rfl⟩
  · obtain ⟨a, decoded, rfl⟩ := map_eq_ok.mp h
    exact .inr ⟨a, decoded, rfl⟩

/-- A field that may be null is written unless it is. -/
theorem null_or_has {α : Type} {decode : Draft → Decoded α} {encode : α → Value} {given new : Draft}
    {key : String} {found : Option α} (decoded : Draft.toOption decode given = .ok found)
    (written : new.key? key = (found.map encode).map Draft.ofValue)
    (same : ∀ a, decode given = .ok a → given.Same (Draft.ofValue (encode a))) :
    given = .null ∨ new.Has key given := by
  rcases of_toOption_eq_ok decoded with ⟨null, -⟩ | ⟨a, inside, rfl⟩
  · exact .inl null
  · exact .inr ⟨Draft.ofValue (encode a), written, same a inside⟩

theorem same_of_toText {draft : Draft} {text : String} (h : draft.toText = .ok text) :
    draft.Same (.string (.ok text)) := by
  rw [toText_eq_ok.mp h]
  exact ⟨0, .string text, .string text, rfl, rfl, rfl⟩

theorem same_of_toBool {draft : Draft} {b : Bool} (h : draft.toBool = .ok b) :
    draft.Same (Draft.ofValue (.bool b)) := by
  unfold Draft.toBool at h
  split at h
  · cases h
    exact ⟨0, .bool b, .bool b, rfl, rfl, rfl⟩
  · exact absurd h (mismatch_ne_ok _ _ _)

namespace Methods

theorem map_string_of_mapM {values : List Value} {texts : List String}
    (h : values.mapM Segment.text? = some texts) : texts.map Value.string = values := by
  have taken := mapM_eq_some_iff.mp h
  clear h
  induction taken with
  | nil => rfl
  | cons first _ ih => rw [List.map_cons, ih, Segment.eq_of_text? first]

/-- Methods are written in the shape in which they were given. -/
theorem encode_of_decode? {value : Value} {methods : Methods}
    (h : decode? value = some methods) : methods.encode = value := by
  unfold decode? at h
  split at h
  · cases h
    rfl
  · obtain ⟨texts, taken, rfl⟩ := Option.map_eq_some_iff.mp h
    rw [encode, map_string_of_mapM taken]
  · cases h

end Methods

namespace RoutePath

/-- A path before and after: the same text, or as many segments. -/
def Rewritten (old new : Draft) : Prop :=
  (∃ text, old = .string (.ok text) ∧ new = old) ∨
    ∃ items items', old = .array items ∧ new = .array items' ∧
      List.Forall₂ Segment.Rewritten items.drafts items'.drafts

/-- Segments are rewritten one by one. -/
theorem segments_rewritten {room : Nat} {drafts : List Draft} {values : List Value}
    {segments : List Segment}
    (given : List.Forall₂ (fun draft value => draft.value room = .ok value) drafts values)
    (h : values.mapM Segment.decode? = some segments) :
    List.Forall₂ Segment.Rewritten drafts ((segments.map Segment.encode).map Draft.ofValue) := by
  have taken := mapM_eq_some_iff.mp h
  clear h
  induction given generalizing segments with
  | nil =>
    cases taken
    exact .nil
  | cons first _ ih =>
    cases taken with
    | cons here rest => exact .cons (Segment.rewritten_of_decode? first here) (ih rest)

theorem rewritten_of_decode? {old : Draft} {room : Nat} {value : Value} {path : RoutePath}
    (given : old.value room = .ok value) (h : decode? value = some path) :
    Rewritten old (Draft.ofValue path.encode) := by
  have shape := shaped_of_value given
  unfold decode? at h
  split at h
  · next text =>
    cases h
    exact .inl ⟨text, shape, shape.symm⟩
  · next values =>
    obtain ⟨items, room, rfl, valued⟩ := shape
    obtain ⟨segments, taken, rfl⟩ := Option.map_eq_some_iff.mp h
    refine .inr ⟨items, Items.ofValues (segments.map Segment.encode), rfl, rfl, ?_⟩
    rw [drafts_ofValues]
    exact segments_rewritten (forall₂_of_values items valued) taken
  · cases h

end RoutePath

/-! ## Permissions -/

theorem last?_ofValues_member? {name : String} (key : String) (value : Option Value) :
    (Members.ofValues (member? key value)).last? name =
      if key = name then value.map Draft.ofValue else none := by
  cases value with
  | none => simp [member?, Members.ofValues, Members.last?]
  | some value => simp [member?, Members.ofValues, Members.last?, Except.toOption]

namespace Permissions

def fields : List String := ["api", "ajax"]

/-- Permissions keep their fields, unless they are null; any other key is gone. -/
structure Rewritten (old new : Draft) : Prop where
  kept : ∀ name ∈ fields, ∀ given, old.field? fields name = some given →
    given = .null ∨ new.Has name given
  only : ∀ key, key ∉ fields → new.key? key = .none

variable {room : Nat}

/-- Fields that are decoded are written. -/
theorem rewritten_of_fields (room : Nat) {old : Draft} {permissions : Permissions}
    (api : ∀ given, old.field? fields "api" = some given →
      decodeOne room given = .ok permissions.api)
    (ajax : ∀ given, old.field? fields "ajax" = some given →
      decodeOne room given = .ok permissions.ajax) :
    Rewritten old (Draft.ofValue permissions.encode) := by
  have written {name : String} {given : Draft} {permission : Option Permission}
      (decoded : decodeOne room given = .ok permission)
      (key : (Draft.ofValue permissions.encode).key? name =
        (permission.map Permission.encode).map Draft.ofValue) :
      given = .null ∨ (Draft.ofValue permissions.encode).Has name given := by
    refine null_or_has decoded key fun p chosen => ?_
    obtain ⟨value, valued, taken⟩ := of_decodeChoice_eq_ok chosen
    unfold Permission.decode? at taken
    split at taken
    · cases taken
      exact same_ofValue valued
    · cases taken
      exact same_ofValue valued
    · cases taken
  refine ⟨fun name mem given found => ?_, fun key free => ?_⟩
  · rcases List.mem_cons.mp mem with rfl | mem
    · refine written (api given found) ?_
      simp [encode, Draft.ofValue, Draft.key?, last?_ofValues_append, last?_ofValues_member?]
    · cases List.mem_singleton.mp mem
      refine written (ajax given found) ?_
      simp [encode, Draft.ofValue, Draft.key?, last?_ofValues_append, last?_ofValues_member?]
  · simp only [fields, List.mem_cons, List.not_mem_nil, or_false, not_or] at free
    obtain ⟨api, ajax⟩ := free
    simp [encode, Draft.ofValue, Draft.key?, last?_ofValues_append, last?_ofValues_member?,
      Ne.symm api, Ne.symm ajax]

/-- A member changes no field but its own. -/
theorem take_other {fields next : Fields} {key : String} {value : Draft}
    (taken : fields.take room key value = .ok next) :
    (key ≠ "api" → next.api = fields.api) ∧ (key ≠ "ajax" → next.ajax = fields.ajax) := by
  unfold Fields.take at taken
  split at taken
  all_goals
    obtain ⟨_, -, h⟩ := bind_eq_ok.mp taken
    cases h
    simp

/-- Of each kind of permission the last member counts. -/
theorem fold_take {members : Members} {last : Fields}
    (folded : members.fold (Fields.take room) ⟨.none, .none⟩ = .ok last) :
    members.Leaves "api" (decodeOne room) .none last.api ∧
      members.Leaves "ajax" (decodeOne room) .none last.ajax := by
  constructor
  · refine fold_leaves Fields.api (fun state value next taken => ?_)
      (fun state key value next other taken => (take_other taken).1 other) members folded
    rw [Fields.take] at taken
    obtain ⟨-, a, decoded, rfl⟩ := once_bind_eq_ok.mp taken
    exact ⟨a, decoded, rfl⟩
  · refine fold_leaves Fields.ajax (fun state value next taken => ?_)
      (fun state key value next other taken => (take_other taken).2 other) members folded
    rw [Fields.take] at taken
    obtain ⟨-, a, decoded, rfl⟩ := once_bind_eq_ok.mp taken
    exact ⟨a, decoded, rfl⟩

/-- Permissions that are decoded are rewritten, but for other keys beside them. -/
theorem rewritten_of_decode {old : Draft} {permissions : Permissions}
    (h : decode room old = .ok permissions) :
    Rewritten old (Draft.ofValue permissions.encode) := by
  unfold decode at h
  split at h
  · next members =>
    obtain ⟨last, folded, h⟩ := bind_eq_ok.mp h
    cases h
    obtain ⟨api, ajax⟩ := fold_take folded
    have decoded {name : String} {after : Option (Option Permission)}
        (leaves : members.Leaves name (decodeOne room) .none after) (given : Draft)
        (found : members.last? name = some given) : decodeOne room given = .ok after.join := by
      obtain ⟨permission, decoded, rfl⟩ := leaves.decoded found
      exact decoded
    exact rewritten_of_fields room (decoded api) (decoded ajax)
  · next items =>
    cases items with
    | done =>
      cases h
      refine rewritten_of_fields room (fun _ found => ?_) (fun _ found => ?_) <;>
        cases found
    | cut gap => cases h
    | cons first rest =>
      rw [Items.next?, ok_bind] at h
      obtain ⟨api, first, h⟩ := bind_eq_ok.mp h
      cases rest with
      | done =>
        cases h
        refine rewritten_of_fields room (fun _ found => ?_) (fun _ found => by cases found)
        cases found
        exact first
      | cut gap => cases h
      | cons second rest =>
        rw [Items.next?, ok_bind] at h
        obtain ⟨ajax, second, h⟩ := bind_eq_ok.mp h
        obtain ⟨_, -, h⟩ := bind_eq_ok.mp h
        cases h
        refine rewritten_of_fields room (fun _ found => ?_) (fun _ found => ?_)
        · cases found
          exact first
        · cases found
          exact second
  · exact absurd h (mismatch_ne_ok _ _ _)

end Permissions

/-! ## Routes -/

namespace Route

/-- A route keeps its keys, those that nobody here looks at included; left out is only what was null
and may be missing. -/
structure Rewritten (old new : Draft) : Prop where
  path : ∃ given written, old.key? "path" = some given ∧ new.key? "path" = some written ∧
    RoutePath.Rewritten given written
  permissions : ∀ given, old.key? "permissions" = some given → given = .null ∨
    ∃ written, new.key? "permissions" = some written ∧ Permissions.Rewritten given written
  kept : ∀ key given, key ≠ "path" → key ≠ "permissions" → old.key? key = some given →
    (key ∈ ["method", "absolute"] ∧ given = .null) ∨ new.Has key given

structure Fields.SameBeside (key : String) (fields next : Fields) : Prop where
  path : key ≠ "path" → next.path = fields.path
  controller : key ≠ "controller" → next.controller = fields.controller
  method : key ≠ "method" → next.method = fields.method
  absolute : key ≠ "absolute" → next.absolute = fields.absolute
  permissions : key ≠ "permissions" → next.permissions = fields.permissions
  others : ∀ name, key ≠ name → next.others.lookup name = fields.others.lookup name

/-- A key changes the field that it stands for and nothing beside it. -/
theorem sameBeside_of_take {fields next : Fields} {key : String} {value : Draft}
    (taken : fields.take key value = .ok next) : Fields.SameBeside key fields next := by
  unfold Fields.take at taken
  split at taken
  case h_6 =>
    obtain ⟨_, -, h⟩ := bind_eq_ok.mp taken
    cases h
    exact ⟨fun _ => rfl, fun _ => rfl, fun _ => rfl, fun _ => rfl, fun _ => rfl,
      fun name other => by rw [List.lookup_cons, beq_false_of_ne (Ne.symm other)]⟩
  all_goals
    obtain ⟨_, -, h⟩ := bind_eq_ok.mp taken
    cases h
    constructor <;> simp

/-- The members that the fields of a route stand for. -/
structure Fields.Of (members : Members) (fields : Fields) : Prop where
  path : members.Leaves "path" (decodeChoice "RoutePath" RoutePath.decode? room) none fields.path
  controller : members.Leaves "controller" Draft.toText none fields.controller
  method : members.Leaves "method"
    (Draft.toOption (decodeChoice "HttpMethods" Methods.decode? room)) none fields.method
  absolute : members.Leaves "absolute" (Draft.toOption Draft.toBool) none fields.absolute
  permissions : members.Leaves "permissions" (Draft.toOption (Permissions.decode (room - 1))) none
    fields.permissions
  others : ∀ name, name ∉ managed →
    members.Leaves name (fun draft => (ofText (draft.value room)).map Value.sorted) none
      (fields.others.lookup name)

/-- Fields are those of the members that were taken in. -/
theorem of_fold {members : Members} {fields : Fields}
    (folded : members.fold Fields.take ⟨none, none, none, none, none, []⟩ = .ok fields) :
    Fields.Of members fields := by
  refine ⟨
    fold_leaves Fields.path (fun state value next taken => ?_)
      (fun _ _ _ _ other taken => (sameBeside_of_take taken).path other) members folded,
    fold_leaves Fields.controller (fun state value next taken => ?_)
      (fun _ _ _ _ other taken => (sameBeside_of_take taken).controller other) members folded,
    fold_leaves Fields.method (fun state value next taken => ?_)
      (fun _ _ _ _ other taken => (sameBeside_of_take taken).method other) members folded,
    fold_leaves Fields.absolute (fun state value next taken => ?_)
      (fun _ _ _ _ other taken => (sameBeside_of_take taken).absolute other) members folded,
    fold_leaves Fields.permissions (fun state value next taken => ?_)
      (fun _ _ _ _ other taken => (sameBeside_of_take taken).permissions other) members folded,
    fun name free => fold_leaves (fun fields => fields.others.lookup name)
      (fun state value next taken => ?_)
      (fun _ _ _ _ other taken => (sameBeside_of_take taken).others name other) members folded⟩
  case refine_6 =>
    rw [take_of_free free, bind_eq_ok] at taken
    obtain ⟨v, given, h⟩ := taken
    cases h
    exact ⟨v.sorted, by rw [given]; rfl, List.lookup_cons_self⟩
  all_goals
    rw [Fields.take] at taken
    obtain ⟨-, a, decoded, rfl⟩ := once_bind_eq_ok.mp taken
    exact ⟨a, decoded, rfl⟩

structure Written (route : Route) (new : Draft) : Prop where
  path : new.key? "path" = some (Draft.ofValue route.path.encode)
  controller : new.key? "controller" = some (.string (.ok route.controller))
  method : new.key? "method" = (route.method.map Methods.encode).map Draft.ofValue
  absolute : new.key? "absolute" = (route.absolute.map .bool).map Draft.ofValue
  permissions : new.key? "permissions" =
    (route.permissions.map Permissions.encode).map Draft.ofValue
  extra : ∀ member ∈ route.extra, new.key? member.1 = some (Draft.ofValue member.2)

/-- A route is written with its fields and what it carries. -/
theorem written_encode {route : Route} (formed : route.WellFormed) :
    route.Written (Draft.ofValue route.encode) := by
  have key (name : String) (own : name ∈ managed) :
      (Members.ofValues route.extra).last? name = none :=
    last?_ofValues_of_forall_ne fun member mem same => (formed.carried member mem).free (same ▸ own)
  constructor
  case extra =>
    intro member mem
    have last := last?_ofValues_of_mem formed.byName mem
    rw [encode, Draft.ofValue, Draft.key?, last?_ofValues_append, last]
    rfl
  all_goals
    rw [encode, Draft.ofValue, Draft.key?, last?_ofValues_append, key _ (by decide)]
    simp [last?_ofValues_append, last?_ofValues_member?, Members.ofValues, Members.last?,
      Except.toOption, Draft.ofValue, Function.comp_def]

/-- A route that was read, and the object that is written in its place. -/
theorem rewritten_of_decode {old : Draft} {route : Route} (h : decode old = .ok route)
    (formed : route.WellFormed) : Rewritten old (Draft.ofValue route.encode) := by
  have written := written_encode formed
  unfold decode at h
  split at h
  · next members =>
    obtain ⟨fields, folded, h⟩ := bind_eq_ok.mp h
    obtain ⟨path, pathFound, h⟩ := bind_eq_ok.mp h
    obtain ⟨controller, controllerFound, h⟩ := bind_eq_ok.mp h
    cases h
    have came := of_fold folded
    refine ⟨?_, fun given found => ?_, fun key given notPath notPermissions found => ?_⟩
    · rcases came.path with ⟨-, missing⟩ | ⟨given, b, found, chosen, there⟩
      · rw [missing] at pathFound
        cases pathFound
      · rw [there] at pathFound
        cases pathFound
        obtain ⟨value, valued, taken⟩ := of_decodeChoice_eq_ok chosen
        exact ⟨given, _, found, written.path, RoutePath.rewritten_of_decode? valued taken⟩
    · obtain ⟨found, decoded, there⟩ := came.permissions.decoded found
      rcases of_toOption_eq_ok decoded with ⟨null, -⟩ | ⟨permissions, inside, rfl⟩
      · exact .inl null
      · refine .inr ⟨_, ?_, Permissions.rewritten_of_decode inside⟩
        rw [written.permissions, there]
        rfl
    · by_cases own : key ∈ managed
      · simp only [managed, List.mem_cons, List.not_mem_nil, or_false, notPath, notPermissions,
          false_or] at own
        rcases own with rfl | rfl | rfl
        · obtain ⟨text, decoded, there⟩ := came.controller.decoded found
          rw [there] at controllerFound
          cases controllerFound
          exact .inr ⟨_, written.controller, same_of_toText decoded⟩
        · obtain ⟨methods, decoded, there⟩ := came.method.decoded found
          have known := null_or_has decoded (written.method.trans (by rw [there]; rfl))
            fun methods inside => ?_
          · exact known.imp_left fun null => ⟨by simp, null⟩
          · obtain ⟨value, valued, taken⟩ := of_decodeChoice_eq_ok inside
            rw [Methods.encode_of_decode? taken]
            exact same_ofValue valued
        · obtain ⟨absolute, decoded, there⟩ := came.absolute.decoded found
          have known := null_or_has decoded (written.absolute.trans (by rw [there]; rfl))
            fun b inside => same_of_toBool inside
          exact known.imp_left fun null => ⟨by simp, null⟩
      · obtain ⟨value, decoded, there⟩ := (came.others key own).decoded found
        obtain ⟨v, valued, rfl⟩ := map_eq_ok.mp decoded
        exact .inr ⟨_, written.extra (key, v.sorted) (Value.mem_sortMembers_of_lookup there),
          same_ofValue_sorted (ofText_eq_ok valued)⟩
  · exact absurd h (mismatch_ne_ok _ _ _)

end Route

namespace RouteTable

/-- Routes are rewritten one by one. -/
theorem routes_rewritten {drafts : List Draft} {routes : List Route}
    (decoded : List.Forall₂ (fun draft route => Route.decode draft = .ok route) drafts routes)
    (formed : ∀ route ∈ routes, route.WellFormed) :
    List.Forall₂ Route.Rewritten drafts ((routes.map Route.encode).map Draft.ofValue) := by
  induction decoded with
  | nil => exact .nil
  | cons first _ ih =>
    obtain ⟨own, rest⟩ := List.forall_mem_cons.mp formed
    exact .cons (Route.rewritten_of_decode first own) (ih rest)

/-- A document that was read is written again with every route, and each of them has all its keys;
inside permissions and segments the fields are kept that are known here. -/
theorem keys_survive_rewrite {text : String} {table : RouteTable}
    (decoded : ofJson text = .ok table) (exact : ∀ route ∈ table.routes, route.Exact) :
    ∃ items items', (read text).1 = .array items ∧
      read table.toJson = (.array items', some ['\n']) ∧
        List.Forall₂ Route.Rewritten items.drafts items'.drafts := by
  have kept := kept_of_ofJson decoded exact
  have written : read table.toJson = (Draft.ofValue table.encode, some ['\n']) :=
    read_document kept.numbers_encode
  unfold ofJson at decoded
  split at decoded
  · cases decoded
  · next routes listed =>
    cases decoded
    have listed := decode_read listed
    unfold Draft.toList at listed
    split at listed
    · next items same =>
      refine ⟨items, _, same, written, ?_⟩
      rw [drafts_ofValues]
      exact routes_rewritten (forall₂_of_decode items listed) kept.formed
    · exact absurd listed (mismatch_ne_ok _ _ _)

/-- A route that was written by hand, with keys that are unknown here at every level. -/
theorem keys_survive_rewrite_by_hand :
    let text := "[\x7b\"note\":[-1],\"controller\":\"a\",\"method\":null,\"path\":[\"b\"," ++
      "\x7b\"type\":\"wildcard\",\"name\":\"c\",\"regex\":\"d\"\x7d]," ++
        "\"permissions\":\x7b\"api\":true,\"note\":1\x7d\x7d]"
    let table : RouteTable := ⟨[⟨.pattern [.literal "b", .wildcard "c"], "a", none, none,
      some ⟨some (.flag true), none⟩, [("note", .array [.number (.integer (-1))])]⟩]⟩
    ofJson text = .ok table ∧ (∀ route ∈ table.routes, route.Exact) ∧
      ∃ items items', (read text).1 = .array items ∧
        read table.toJson = (.array items', some ['\n']) ∧
          List.Forall₂ Route.Rewritten items.drafts items'.drafts := by
  intro text table
  have decoded : ofJson text = .ok table := by decide +kernel
  have exact : ∀ route ∈ table.routes, route.Exact := by decide
  exact ⟨decoded, exact, keys_survive_rewrite decoded exact⟩

/-- A key of permissions, a key of a segment and the constraint of a wildcard are lost, though they
are not null. -/
theorem nested_keys_are_lost :
    let text := "[\x7b\"path\":[\x7b\"type\":\"wildcard\",\"name\":\"a\",\"regex\":\"b\"," ++
      "\"note\":1\x7d],\"controller\":\"c\",\"permissions\":\x7b\"note\":true\x7d\x7d]"
    let table : RouteTable := ⟨[⟨.pattern [.wildcard "a"], "c", none, none, some .none, []⟩]⟩
    ofJson text = .ok table ∧
      (read text).1.value mostLevels = .ok (.array [.object [
        ("path", .array [.object [("type", .string "wildcard"), ("name", .string "a"),
          ("regex", .string "b"), ("note", .number (.integer 1))]]),
        ("controller", .string "c"), ("permissions", .object [("note", .bool true)])]]) ∧
      (read table.toJson).1.value mostLevels = .ok (.array [.object [
        ("path", .array [.object [("type", .string "wildcard"), ("name", .string "a")]]),
        ("controller", .string "c"), ("permissions", .object [])]]) := by
  intro text table
  have numberless : table.encode.numbers = [] := rfl
  have written : read table.toJson = (Draft.ofValue table.encode, some ['\n']) :=
    read_document (by simp [numberless])
  refine ⟨by decide +kernel, by decide +kernel, ?_⟩
  rw [written]
  exact value_ofValue table.encode (by decide)

end RouteTable

end PackageIndex

import Mathlib.Data.List.Forall2
import PackageIndex.Proofs.Json.RoundTrip

/-!
# The keys of an object

An object may give a key more than once, and then the last time counts, for a reader that takes in
one member after the other as for one that sorts them. Two drafts say the same when their values
differ in no more than the order in which members stand and the times a key is given in vain.
-/
namespace PackageIndex.Json

def Items.drafts : Items → List Draft
  | .done | .cut _ => []
  | .cons item rest => item :: rest.drafts

def Members.last? (name : String) : Members → Option Draft
  | .done | .cut _ => none
  | .cons other value rest =>
    (rest.last? name).or (if other.toOption = some name then some value else none)

def Draft.key? (name : String) : Draft → Option Draft
  | .object members => members.last? name
  | _ => none

/-- A field of a record: an object names its fields, a list has them in their order. -/
def Draft.field? (fields : List String) (name : String) : Draft → Option Draft
  | .array items => items.drafts[fields.idxOf name]?
  | draft => draft.key? name

/-- Both drafts have a value, and sorted it is the same. -/
def Draft.Same (a b : Draft) : Prop :=
  ∃ room v w, a.value room = .ok v ∧ b.value room = .ok w ∧ v.sorted = w.sorted

def Draft.Has (object : Draft) (name : String) (value : Draft) : Prop :=
  ∃ found, object.key? name = some found ∧ value.Same found

/-- Sorting the keys of a value keeps what it has under each of them. -/
theorem same_ofValue_sorted {draft : Draft} {room : Nat} {value : Value}
    (given : draft.value room = .ok value) : draft.Same (Draft.ofValue value.sorted) := by
  have deep : value.sorted.depth ≤ room :=
    Nat.le_trans value.depth_sorted_le (of_value_eq_ok draft given).1
  exact ⟨room, value, _, given, value_ofValue _ deep, value.sorted_sorted.symm⟩

/-- A value has what it was taken from. -/
theorem same_ofValue {draft : Draft} {room : Nat} {value : Value}
    (given : draft.value room = .ok value) : draft.Same (Draft.ofValue value) :=
  ⟨room, value, value, given, value_ofValue value (of_value_eq_ok draft given).1, rfl⟩

/-- The draft has the shape of the value, and its parts have their values. -/
def Draft.Shaped (draft : Draft) : Value → Prop
  | .null => draft = .null
  | .bool b => draft = .bool b
  | .number n => draft = .number (.ok n)
  | .string s => draft = .string (.ok s)
  | .array values => ∃ items room, draft = .array items ∧ items.values room = .ok values
  | .object values => ∃ members room, draft = .object members ∧ members.values room = .ok values

/-- A value has the shape of what it was taken from. -/
theorem shaped_of_value {draft : Draft} {room : Nat} {value : Value}
    (given : draft.value room = .ok value) : draft.Shaped value := by
  cases draft with
  | null | bool =>
    cases given
    rfl
  | number kept | string kept =>
    obtain ⟨_, rfl, rfl⟩ := map_eq_ok.mp given
    rfl
  | array items =>
    cases room with
    | zero => cases given
    | succ room =>
      obtain ⟨values, valued, rfl⟩ := map_eq_ok.mp given
      exact ⟨items, room, rfl, valued⟩
  | object members =>
    cases room with
    | zero => cases given
    | succ room =>
      obtain ⟨values, valued, rfl⟩ := map_eq_ok.mp given
      exact ⟨members, room, rfl, valued⟩
  | broken => cases given

/-! ## Members that are taken in -/

section
variable {σ β : Type} {step : σ → String → Draft → Decoded σ} {name : String}

/-- What is left of a key when all members have been taken in: what its last value is decoded to,
or what was there before. -/
def Members.Leaves (members : Members) (name : String) (decode : Draft → Decoded β)
    (before after : Option β) : Prop :=
  (members.last? name = none ∧ after = before) ∨
    ∃ value b, members.last? name = some value ∧ decode value = .ok b ∧ after = some b

/-- Where each member changes what its own key stands for and nothing else, a key is left with what
the last member with it gives. -/
theorem fold_leaves (get : σ → Option β) {decode : Draft → Decoded β}
    (own : ∀ state value next, step state name value = .ok next →
      ∃ b, decode value = .ok b ∧ get next = some b)
    (other : ∀ state key value next, key ≠ name → step state key value = .ok next →
      get next = get state) :
    (members : Members) → {state last : σ} → members.fold step state = .ok last →
      members.Leaves name decode (get state) (get last)
  | .done, _, _, h => by
    cases h
    exact .inl ⟨rfl, rfl⟩
  | .cut gap, _, _, h => by cases h
  | .cons key value rest, state, last, h => by
    rw [Members.fold, bind_eq_ok] at h
    obtain ⟨key', named, h⟩ := h
    obtain ⟨next, taken, h⟩ := bind_eq_ok.mp h
    obtain rfl := ofText_eq_ok named
    rcases fold_leaves get own other rest h with ⟨missing, same⟩ | ⟨later, b, found, decoded, got⟩
    · by_cases this : key' = name
      · subst this
        obtain ⟨b, decoded, got⟩ := own state value next taken
        refine .inr ⟨value, b, ?_, decoded, same.trans got⟩
        simp [Members.last?, missing, Except.toOption]
      · refine .inl ⟨?_, same.trans (other state key' value next this taken)⟩
        simp [Members.last?, missing, Except.toOption, this]
    · exact .inr ⟨later, b, by simp [Members.last?, found], decoded, got⟩

/-- A field that is there was decoded. -/
theorem Members.Leaves.decoded {members : Members} {decode : Draft → Decoded β}
    {before after : Option β} (leaves : members.Leaves name decode before after) {given : Draft}
    (found : members.last? name = some given) : ∃ b, decode given = .ok b ∧ after = some b := by
  rcases leaves with ⟨missing, -⟩ | ⟨value, b, there, decoded, got⟩
  · rw [missing] at found
    cases found
  · rw [there] at found
    cases found
    exact ⟨b, decoded, got⟩

end

/-! ## Members and items that have been valued -/

/-- The members of a name among those of a value, told by the last one of them. -/
theorem last?_of_values {room : Nat} (name : String) :
    (members : Members) → {values : List (String × Value)} → members.values room = .ok values →
      (members.last? name = none ∧ (values.filter fun member => member.1 = name) = []) ∨
        ∃ draft value, members.last? name = some draft ∧ draft.value room = .ok value ∧
          (values.filter fun member => member.1 = name).getLast? = some (name, value)
  | .done, _, h => by
    cases h
    exact .inl ⟨rfl, rfl⟩
  | .cut gap, _, h => by cases h
  | .cons key draft rest, _, h => by
    rw [Members.values, bind_eq_ok] at h
    obtain ⟨key, rfl, h⟩ := h
    obtain ⟨value, given, h⟩ := bind_eq_ok.mp h
    obtain ⟨values, more, h⟩ := bind_eq_ok.mp h
    cases h
    by_cases this : key = name
    · subst this
      rcases last?_of_values key rest more with ⟨missing, none⟩ | ⟨later, v, found, valued, same⟩
      · refine .inr ⟨draft, value, ?_, given, ?_⟩
        · simp [Members.last?, missing, Except.toOption]
        · simp [none]
      · refine .inr ⟨later, v, ?_, valued, ?_⟩
        · simp [Members.last?, found]
        · rw [List.filter_cons_of_pos (by simp), List.getLast?_cons, same]
          rfl
    · rw [List.filter_cons_of_neg (by simpa using this)]
      have same : (Members.cons (.ok key) draft rest).last? name = rest.last? name := by
        simp [Members.last?, Except.toOption, this]
      rw [same]
      exact last?_of_values name rest more

/-- Items are valued one by one. -/
theorem forall₂_of_values {room : Nat} : (items : Items) → {values : List Value} →
    items.values room = .ok values →
      List.Forall₂ (fun draft value => draft.value room = .ok value) items.drafts values
  | .done, _, h => by
    cases h
    exact .nil
  | .cut gap, _, h => by cases h
  | .cons item rest, _, h => by
    rw [Items.values, bind_eq_ok] at h
    obtain ⟨value, first, h⟩ := h
    obtain ⟨values, more, h⟩ := bind_eq_ok.mp h
    cases h
    exact .cons first (forall₂_of_values rest more)

theorem drafts_ofValues (values : List Value) :
    (Items.ofValues values).drafts = values.map Draft.ofValue := by
  induction values with
  | nil => rfl
  | cons value values ih => rw [Items.ofValues, Items.drafts, ih, List.map_cons]

/-- Items are decoded one by one. -/
theorem forall₂_of_decode {α : Type} {item : Draft → Decoded α} : (items : Items) → {all : List α} →
    items.decode item = .ok all → List.Forall₂ (fun draft a => item draft = .ok a) items.drafts all
  | .done, _, h => by
    cases h
    exact .nil
  | .cut gap, _, h => by cases h
  | .cons draft rest, _, h => by
    rw [Items.decode, bind_eq_ok] at h
    obtain ⟨a, first, h⟩ := h
    obtain ⟨all, more, h⟩ := bind_eq_ok.mp h
    cases h
    exact .cons first (forall₂_of_decode rest more)

/-! ## Members that are written -/

section
variable {name : String}

/-- Of two members with one key the later one counts. -/
theorem last?_ofValues_append (members more : List (String × Value)) :
    (Members.ofValues (members ++ more)).last? name =
      ((Members.ofValues more).last? name).or ((Members.ofValues members).last? name) := by
  induction members with
  | nil => simp [Members.ofValues, Members.last?]
  | cons member members ih =>
    rw [List.cons_append, Members.ofValues, Members.last?, ih, Members.ofValues, Members.last?,
      Option.or_assoc]

theorem last?_ofValues_of_forall_ne {members : List (String × Value)}
    (others : ∀ member ∈ members, member.1 ≠ name) :
    (Members.ofValues members).last? name = none := by
  induction members with
  | nil => rfl
  | cons member members ih =>
    have other : member.1 ≠ name := others member (List.mem_cons_self ..)
    rw [Members.ofValues, Members.last?, ih fun m mem => others m (List.mem_cons_of_mem _ mem)]
    simp [Except.toOption, other]

/-- An object that is written with some fields has no other key. -/
theorem key?_ofValue_of_not_mem {fields : List String} {members : List (String × Value)}
    (known : ∀ member ∈ members, member.1 ∈ fields) (free : name ∉ fields) :
    (Draft.ofValue (.object members)).key? name = none :=
  last?_ofValues_of_forall_ne fun member mem same => free (same ▸ known member mem)

/-- Where every name stands once, a member is the last one of its name. -/
theorem last?_ofValues_of_mem {members : List (String × Value)} {value : Value}
    (sorted : Value.ByName members) (mem : (name, value) ∈ members) :
    (Members.ofValues members).last? name = some (Draft.ofValue value) := by
  induction members with
  | nil => cases mem
  | cons member members ih =>
    obtain ⟨before, rest⟩ := List.pairwise_cons.mp sorted
    rw [Members.ofValues, Members.last?]
    rcases List.mem_cons.mp mem with rfl | mem
    · have others : ∀ other ∈ members, other.1 ≠ name := by
        intro other mem same
        have circle := before other mem
        rw [same, Text.precedes_irrefl] at circle
        cases circle
      simp [last?_ofValues_of_forall_ne others, Except.toOption]
    · simp [ih rest mem]

end

/-! ## Members that are sorted -/

namespace Value

theorem mem_insertMember_self (name : String) (value : Value) (members : List (String × Value)) :
    (name, value) ∈ insertMember name value members := by
  induction members with
  | nil => exact List.mem_singleton.mpr rfl
  | cons first members ih =>
    unfold insertMember
    split
    · exact List.mem_cons_self ..
    · split
      · exact List.mem_cons_self ..
      · exact List.mem_cons_of_mem _ ih

/-- Only a member of the same name gives way. -/
theorem mem_insertMember_of_ne {name : String} (value : Value) {members : List (String × Value)}
    {member : String × Value} (other : member.1 ≠ name) (mem : member ∈ members) :
    member ∈ insertMember name value members := by
  induction members with
  | nil => cases mem
  | cons first members ih =>
    unfold insertMember
    split
    · next same =>
      rcases List.mem_cons.mp mem with rfl | mem
      · exact absurd same.symm other
      · exact List.mem_cons_of_mem _ mem
    · split
      · exact List.mem_cons_of_mem _ mem
      · rcases List.mem_cons.mp mem with rfl | mem
        · exact List.mem_cons_self ..
        · exact List.mem_cons_of_mem _ (ih mem)

/-- Of members that were gathered with the latest first, the latest of a name stays. -/
theorem mem_sortMembers_of_lookup {name : String} {value : Value}
    {gathered : List (String × Value)} (latest : gathered.lookup name = some value) :
    (name, value) ∈ sortMembers gathered.reverse := by
  induction gathered with
  | nil => cases latest
  | cons member gathered ih =>
    have last : sortMembers (member :: gathered).reverse =
        insertMember member.1 member.2 (sortMembers gathered.reverse) := by
      rw [List.reverse_cons, sortMembers, List.foldl_append]
      rfl
    rw [last]
    by_cases this : name = member.1
    · subst this
      rw [List.lookup_cons_self] at latest
      cases latest
      exact mem_insertMember_self ..
    · have next : gathered.lookup name = some value := by
        rwa [List.lookup_cons, beq_false_of_ne this] at latest
      exact mem_insertMember_of_ne member.2 this (ih next)

end Value

end PackageIndex.Json

import PackageIndex.Proofs.Json.Reading

/-!
# Records in JSON

A record is an object that gives each of its fields once, and whatever else it likes; but it may
also be the plain list of its fields. What is told here of decoders is told of the trees whose
drafts they take: a text, a list of items, and the fields that are taken in one member after the
other.
-/
namespace PackageIndex.Json

/-! ## Records -/

/-- The name stands once among the members, with this value. -/
def GivesOnce (members : List (List Unit16 × Tree)) (name : String) (value : Tree) : Prop :=
  ∃ before after units, members = before ++ (units, value) :: after ∧ Says units name.toList ∧
    ∀ other ∈ before ++ after, ¬ Says other.1 name.toList

def Named (members : List (List Unit16 × Tree)) : Prop :=
  ∀ member ∈ members, ∃ name, Says member.1 name

/-- A record of some fields. -/
inductive Tree.Record (fields : List String) (values : List Tree) : Tree → Prop where
  | object {members : List (List Unit16 × Tree)} (named : Named members)
    (given : List.Forall₂ (GivesOnce members) fields values) :
    Record fields values (.object members)
  | array (complete : values.length = fields.length) : Record fields values (.array values)

def Tree.IsText (tree : Tree) (text : String) : Prop :=
  ∃ units, tree = .string units ∧ Says units text.toList

section
variable {members : List (List Unit16 × Tree)} {units : List Unit16} {name : String}
  {value other : Tree}

theorem ofText_stringOf : ofText (stringOf units) = .ok name ↔ Says units name.toList :=
  ⟨fun h => stringOf_eq_ok.mp (ofText_eq_ok h), fun said => by rw [stringOf_eq_ok.mpr said]; rfl⟩

theorem named_cons :
    Named ((units, other) :: members) ↔ (∃ name, Says units name) ∧ Named members :=
  List.forall_mem_cons

/-- A key that stands first is given once if it does not come again. -/
theorem givesOnce_cons_own (own : Says units name.toList) :
    GivesOnce ((units, other) :: members) name value ↔
      value = other ∧ ∀ member ∈ members, ¬ Says member.1 name.toList := by
  constructor
  · rintro ⟨before, after, units', same, -, others⟩
    cases before with
    | nil =>
      cases same
      exact ⟨rfl, others⟩
    | cons first before =>
      cases same
      exact absurd own (others _ (List.mem_cons_self ..))
  · rintro ⟨rfl, others⟩
    exact ⟨[], members, units, rfl, own, others⟩

/-- Another key that stands first does not count. -/
theorem givesOnce_cons_other (free : ¬ Says units name.toList) :
    GivesOnce ((units, other) :: members) name value ↔ GivesOnce members name value := by
  constructor
  · rintro ⟨before, after, units', same, said, others⟩
    cases before with
    | nil =>
      cases same
      exact absurd said free
    | cons first before =>
      cases same
      exact ⟨before, after, units', rfl, said, fun m mem => others m (List.mem_cons_of_mem _ mem)⟩
  · rintro ⟨before, after, units', rfl, said, others⟩
    exact ⟨(units, other) :: before, after, units', rfl, said,
      List.forall_mem_cons.mpr ⟨free, others⟩⟩

/-! ## Fields that are taken in -/

variable {β : Type} {decode : Draft → Decoded β} {before after : Option β}

/-- What is known of a field after the members: what was known before if they do not give it, and
what they give if nothing was known. -/
def Takes (decode : Draft → Decoded β) (members : List (List Unit16 × Tree)) (name : String)
    (before after : Option β) : Prop :=
  (after = before ∧ ∀ member ∈ members, ¬ Says member.1 name.toList) ∨
    (before = none ∧ ∃ value b, GivesOnce members name value ∧ decode value.draft = .ok b ∧
      after = some b)

theorem takes_nil : Takes decode [] name before after ↔ after = before := by
  constructor
  · rintro (⟨same, -⟩ | ⟨-, value, b, ⟨front, rest, units, same, -⟩, -⟩)
    · exact same
    · cases front <;> cases same
  · intro same
    exact .inl ⟨same, fun member mem => by cases mem⟩

theorem takes_cons_other (free : ¬ Says units name.toList) :
    Takes decode ((units, other) :: members) name before after ↔
      Takes decode members name before after := by
  simp only [Takes, List.forall_mem_cons, givesOnce_cons_other free, free, not_false_eq_true,
    true_and]

/-- A field is taken from a key that stands first if it has not been taken before. -/
theorem takes_cons_own (own : Says units name.toList) :
    Takes decode ((units, other) :: members) name before after ↔
      before = none ∧ ∃ b, decode other.draft = .ok b ∧
        Takes decode members name (some b) after := by
  constructor
  · rintro (⟨-, none⟩ | ⟨fresh, value, b, once, decoded, got⟩)
    · exact absurd own (none _ (List.mem_cons_self ..))
    · obtain ⟨rfl, others⟩ := (givesOnce_cons_own own).mp once
      exact ⟨fresh, b, decoded, .inl ⟨got, others⟩⟩
  · rintro ⟨fresh, b, decoded, ⟨got, others⟩ | ⟨known, -⟩⟩
    · exact .inr ⟨fresh, other, b, (givesOnce_cons_own own).mpr ⟨rfl, others⟩, decoded, got⟩
    · cases known

/-- A field is taken just when its key is given once and its value can be decoded. -/
theorem takes_some {b : β} :
    Takes decode members name none (some b) ↔
      ∃ value, GivesOnce members name value ∧ decode value.draft = .ok b := by
  constructor
  · rintro (⟨same, -⟩ | ⟨-, value, b', once, decoded, got⟩)
    · cases same
    · cases got
      exact ⟨value, once, decoded⟩
  · rintro ⟨value, once, decoded⟩
    exact .inr ⟨rfl, value, b, once, decoded, rfl⟩

section
variable {σ : Type} {step : σ → String → Draft → Decoded σ}

/-- A member is taken in by its name, and has to have one. -/
theorem fold_ofTrees_cons {state last : σ} :
    (Members.ofTrees ((units, other) :: members)).fold step state = .ok last ↔
      ∃ name next, Says units name.toList ∧ step state name other.draft = .ok next ∧
        (Members.ofTrees members).fold step next = .ok last := by
  rw [Members.ofTrees, Members.fold, bind_eq_ok]
  simp only [bind_eq_ok, ofText_stringOf, exists_and_left]

/-- What one member changes of a state and none leaves as it was, is told of all members
together. -/
theorem fold_ofTrees (Tells : List (List Unit16 × Tree) → σ → σ → Prop)
    (nil : ∀ state last, Tells [] state last ↔ last = state)
    (cons : ∀ {units name value members state last}, Says units name.toList →
      ((∃ next, step state name (Tree.draft value) = .ok next ∧ Tells members next last) ↔
        Tells ((units, value) :: members) state last)) {state last : σ} :
    (Members.ofTrees members).fold step state = .ok last ↔
      Named members ∧ Tells members state last := by
  induction members generalizing state with
  | nil =>
    rw [nil]
    constructor
    · intro h
      cases h
      exact ⟨fun member mem => (by cases mem), rfl⟩
    · rintro ⟨-, rfl⟩
      rfl
  | cons member members ih =>
    obtain ⟨units, value⟩ := member
    rw [fold_ofTrees_cons, named_cons]
    constructor
    · rintro ⟨name, next, said, taken, rest⟩
      obtain ⟨named, known⟩ := ih.mp rest
      exact ⟨⟨⟨_, said⟩, named⟩, (cons said).mp ⟨next, taken, known⟩⟩
    · rintro ⟨⟨⟨text, said⟩, named⟩, known⟩
      rw [← String.toList_ofList (l := text)] at said
      obtain ⟨next, taken, known⟩ := (cons said).mpr known
      exact ⟨_, next, said, taken, ih.mpr ⟨named, known⟩⟩

end

end

/-- The draft of an object comes from an object. -/
theorem draft_eq_object {tree : Tree} {drafts : Members} (h : tree.draft = .object drafts) :
    ∃ members, tree = .object members ∧ .ofTrees members = drafts := by
  cases tree <;> cases h
  exact ⟨_, rfl, rfl⟩

/-- The draft of an array comes from an array. -/
theorem draft_eq_array {tree : Tree} {drafts : Items} (h : tree.draft = .array drafts) :
    ∃ items, tree = .array items ∧ .ofTrees items = drafts := by
  cases tree <;> cases h
  exact ⟨_, rfl, rfl⟩

theorem ofTrees_eq_cons {items : List Tree} {draft : Draft} {rest : Items}
    (h : Items.ofTrees items = .cons draft rest) :
    ∃ item others, items = item :: others ∧ item.draft = draft ∧ .ofTrees others = rest := by
  cases items <;> cases h
  exact ⟨_, _, rfl, rfl, rfl⟩

theorem ofTrees_eq_done {items : List Tree} (h : Items.ofTrees items = .done) : items = [] := by
  cases items <;> cases h
  rfl

/-- The items of an array are decoded one by one. -/
theorem decode_ofTrees {α : Type} {item : Draft → Decoded α} {trees : List Tree} {all : List α} :
    (Items.ofTrees trees).decode item = .ok all ↔
      List.Forall₂ (fun tree a => item tree.draft = .ok a) trees all := by
  induction trees generalizing all with
  | nil =>
    constructor
    · intro h
      cases h
      exact .nil
    · intro listed
      cases listed
      rfl
  | cons tree trees ih =>
    constructor
    · intro h
      obtain ⟨first, decoded, h⟩ := bind_eq_ok.mp h
      obtain ⟨rest, more, h⟩ := bind_eq_ok.mp h
      cases h
      exact .cons decoded (ih.mp more)
    · intro listed
      cases listed with
      | cons decoded more =>
        rw [Items.ofTrees, Items.decode, decoded, ok_bind, ih.mpr more]
        rfl

/-! ## What decoders take -/

section
variable {α : Type} {item : Draft → Decoded α} {all : List α} {draft : Draft} {tree : Tree}
  {text : String}

/-- A text is taken from a string that says it. -/
theorem toText_draft : tree.draft.toText = .ok text ↔ tree.IsText text := by
  rw [toText_eq_ok, Tree.IsText]
  cases tree <;> simp [Tree.draft, stringOf_eq_ok]

/-- A list is taken from an array, item by item. -/
theorem toList_draft : tree.draft.toList item = .ok all ↔ ∃ items, tree = .array items ∧
    List.Forall₂ (fun tree a => item tree.draft = .ok a) items all := by
  rw [toList_eq_ok]
  cases tree <;> simp [Tree.draft, decode_ofTrees]

/-- What such a decoder takes has no gap. -/
def Wary (decode : Draft → Decoded α) : Prop :=
  ∀ draft a, decode draft = .ok a → draft.skip = .ok ()

/-- A text is never taken from what is broken. -/
theorem wary_toText : Wary Draft.toText := by
  intro draft text h
  rw [toText_eq_ok.mp h, Draft.skip]

/-- Items that are decoded by a wary decoder break off nowhere. -/
theorem skip_of_decode (wary : Wary item) :
    (items : Items) → {all : List α} → items.decode item = .ok all → items.skip = .ok ()
  | .done, _, _ => rfl
  | .cut gap, _, h => by cases h
  | .cons draft rest, _, h => by
    obtain ⟨first, decoded, h⟩ := bind_eq_ok.mp h
    obtain ⟨others, more, -⟩ := bind_eq_ok.mp h
    exact Items.skip_cons.mpr ⟨wary draft first decoded, skip_of_decode wary rest more⟩

/-- A list of what is taken warily is taken warily. -/
theorem wary_toList (wary : Wary item) : Wary (Draft.toList item) := by
  intro draft all h
  obtain ⟨items, rfl, decoded⟩ := toList_eq_ok.mp h
  exact skip_of_decode wary items decoded

/-- Members that are taken in by wary steps break off nowhere. -/
theorem skip_of_fold {step : α → String → Draft → Decoded α}
    (wary : ∀ state name, Wary (step state name)) :
    (members : Members) → {state last : α} → members.fold step state = .ok last →
      members.skip = .ok ()
  | .done, _, _, _ => rfl
  | .cut gap, _, _, h => by cases h
  | .cons name value rest, state, _, h => by
    obtain ⟨name, -, h⟩ := bind_eq_ok.mp h
    obtain ⟨next, taken, h⟩ := bind_eq_ok.mp h
    exact Members.skip_cons.mpr ⟨wary state name value next taken, skip_of_fold wary rest h⟩

end

end PackageIndex.Json

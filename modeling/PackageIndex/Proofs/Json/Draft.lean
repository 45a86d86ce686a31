import PackageIndex.Json.Decode
import PackageIndex.Proofs.Json.Scalar
import PackageIndex.Proofs.Json.Value

/-!
# Values of drafts

A draft gives its value when enough levels may be opened, and then the numbers of the value are
those of the draft. The integers of a draft that was read fit a word.
-/
namespace PackageIndex.Json

def Number.InRange : Number → Prop
  | .integer n => IsWord n
  | .double _ => True

def Number.isDouble : Number → Bool
  | .integer _ => false
  | .double _ => true

mutual
def Draft.numbers : Draft → List Number
  | .number (.ok n) => [n]
  | .array items => Items.numbers items
  | .object members => Members.numbers members
  | .number (.error _) | .null | .bool _ | .string _ | .broken _ => []
def Items.numbers : Items → List Number
  | .done | .cut _ => []
  | .cons item rest => Draft.numbers item ++ Items.numbers rest
def Members.numbers : Members → List Number
  | .done | .cut _ => []
  | .cons _ value rest => Draft.numbers value ++ Members.numbers rest
end

/-! ## Taking the value -/

mutual
/-- The draft of a value gives that value. -/
theorem value_ofValue {room : Nat} :
    (value : Value) → value.depth ≤ room → (Draft.ofValue value).value room = .ok value
  | .null, _ | .bool _, _ | .number _, _ | .string _, _ => rfl
  | .array items, deep => by
    obtain ⟨room, rfl⟩ : ∃ r, room = r + 1 := ⟨room - 1, by rw [Value.depth] at deep; omega⟩
    rw [Draft.ofValue, Draft.value, values_ofValues items (Nat.le_of_succ_le_succ deep)]
    rfl
  | .object members, deep => by
    obtain ⟨room, rfl⟩ : ∃ r, room = r + 1 := ⟨room - 1, by rw [Value.depth] at deep; omega⟩
    rw [Draft.ofValue, Draft.value, memberValues_ofValues members (Nat.le_of_succ_le_succ deep)]
    rfl
/-- Items that are deep inside no more than there is room for are kept as they are. -/
theorem values_ofValues {room : Nat} : (items : List Value) → Value.itemDepth items ≤ room →
    (Items.ofValues items).values room = .ok items
  | [], _ => rfl
  | item :: items, deep => by
    have deep := Nat.max_le.mp deep
    rw [Items.ofValues, Items.values, value_ofValue item deep.1, values_ofValues items deep.2]
    rfl
theorem memberValues_ofValues {room : Nat} : (members : List (String × Value)) →
    Value.memberDepth members ≤ room → (Members.ofValues members).values room = .ok members
  | [], _ => rfl
  | (name, value) :: members, deep => by
    have deep := Nat.max_le.mp deep
    rw [Members.ofValues, Members.values, value_ofValue value deep.1,
      memberValues_ofValues members deep.2]
    rfl
end

mutual
/-- The value of a draft opens no more levels than it may, and has the numbers of the draft. -/
theorem of_value_eq_ok {room : Nat} : {value : Value} → (draft : Draft) →
    draft.value room = .ok value → value.depth ≤ room ∧ value.numbers = draft.numbers
  | _, .null, h | _, .bool _, h => by
    cases h
    exact ⟨Nat.zero_le _, rfl⟩
  | _, .number kept, h => by
    obtain ⟨n, rfl, rfl⟩ := map_eq_ok.mp h
    exact ⟨Nat.zero_le _, rfl⟩
  | _, .string kept, h => by
    obtain ⟨s, rfl, rfl⟩ := map_eq_ok.mp h
    exact ⟨Nat.zero_le _, rfl⟩
  | _, .array items, h => by
    cases room with
    | zero => cases h
    | succ room =>
      obtain ⟨values, given, rfl⟩ := map_eq_ok.mp h
      obtain ⟨deep, same⟩ := of_values_eq_ok items given
      exact ⟨Nat.succ_le_succ deep, same⟩
  | _, .object members, h => by
    cases room with
    | zero => cases h
    | succ room =>
      obtain ⟨values, given, rfl⟩ := map_eq_ok.mp h
      obtain ⟨deep, same⟩ := of_memberValues_eq_ok members given
      exact ⟨Nat.succ_le_succ deep, same⟩
  | _, .broken gap, h => by cases h
/-- What is taken of items is no deeper than the room and has the numbers of the items. -/
theorem of_values_eq_ok {room : Nat} : {values : List Value} → (items : Items) →
    items.values room = .ok values →
      Value.itemDepth values ≤ room ∧ Value.itemNumbers values = items.numbers
  | _, .done, h => by
    cases h
    exact ⟨Nat.zero_le _, rfl⟩
  | _, .cut gap, h => by cases h
  | _, .cons item items, h => by
    rw [Items.values, bind_eq_ok] at h
    obtain ⟨value, first, h⟩ := h
    obtain ⟨values, rest, h⟩ := bind_eq_ok.mp h
    cases h
    obtain ⟨deep, same⟩ := of_value_eq_ok item first
    obtain ⟨deeper, also⟩ := of_values_eq_ok items rest
    rw [Value.itemDepth, Value.itemNumbers, Items.numbers, same, also]
    exact ⟨Nat.max_le.mpr ⟨deep, deeper⟩, rfl⟩
theorem of_memberValues_eq_ok {room : Nat} : {values : List (String × Value)} →
    (members : Members) → members.values room = .ok values →
      Value.memberDepth values ≤ room ∧ Value.memberNumbers values = members.numbers
  | _, .done, h => by
    cases h
    exact ⟨Nat.zero_le _, rfl⟩
  | _, .cut gap, h => by cases h
  | _, .cons name draft members, h => by
    rw [Members.values, bind_eq_ok] at h
    obtain ⟨name, rfl, h⟩ := h
    obtain ⟨value, first, h⟩ := bind_eq_ok.mp h
    obtain ⟨values, rest, h⟩ := bind_eq_ok.mp h
    cases h
    obtain ⟨deep, same⟩ := of_value_eq_ok draft first
    obtain ⟨deeper, also⟩ := of_memberValues_eq_ok members rest
    rw [Value.memberDepth, Value.memberNumbers, Members.numbers, same, also]
    exact ⟨Nat.max_le.mpr ⟨deep, deeper⟩, rfl⟩
end

/-! ## What was read -/

/-- A number that is read is in range. -/
theorem inRange_of_readNumber {text rest : List Char} {n : Number}
    (h : readNumber text = .whole (.ok n) rest) : n.InRange := by
  unfold readNumber at h
  split at h
  · cases h
  · split at h
    · next number literal =>
      cases h
      cases n with
      | integer n => exact Number.isWord_of_ofLiteral? literal
      | double value => trivial
    · cases h

theorem numbers_readNamed {draft : Draft} (none : draft.numbers = []) (word text : List Char) :
    (readNamed draft word text).1.numbers = [] := by
  unfold readNamed
  split
  · exact none
  · rfl

/-- Every integer in what is read within a bound fits a word. -/
structure ReadsInRange (bound : Nat) : Prop where
  value : ∀ text, ∀ n ∈ (readValue bound text).1.numbers, n.InRange
  items : ∀ text, ∀ n ∈ (readItems bound text).1.numbers, n.InRange
  members : ∀ text, ∀ n ∈ (readMembers bound text).1.numbers, n.InRange

namespace ReadsInRange

variable {bound : Nat} {text : List Char} {n : Number}

theorem zero : ReadsInRange 0 := by
  refine ⟨fun text n mem => ?_, fun text n mem => ?_, fun text n mem => ?_⟩
  · rw [readValue] at mem
    cases mem
  · rw [readItems] at mem
    cases mem
  · rw [readMembers] at mem
    cases mem

/-- A value has the numbers of what it is made of. -/
theorem value_succ (ih : ReadsInRange bound)
    (mem : n ∈ (readValue (bound + 1) text).1.numbers) : n.InRange := by
  rw [readValue] at mem
  split at mem
  · cases mem
  · rw [numbers_readNamed rfl] at mem
    cases mem
  · rw [numbers_readNamed rfl] at mem
    cases mem
  · rw [numbers_readNamed rfl] at mem
    cases mem
  · split at mem <;> cases mem
  · split at mem
    · cases mem
    · cases mem
    · exact ih.items _ n mem
  · split at mem
    · cases mem
    · cases mem
    · exact ih.members _ n mem
    · cases mem
  · split at mem
    · split at mem
      · next kept rest number =>
        cases kept with
        | error fault => cases mem
        | ok m =>
          rw [List.mem_singleton.mp mem]
          exact inRange_of_readNumber number
      · cases mem
    · cases mem

theorem items_succ (ih : ReadsInRange bound)
    (mem : n ∈ (readItems (bound + 1) text).1.numbers) : n.InRange := by
  have first := ih.value text
  -- Wherever the list breaks off, only its first item holds numbers.
  have last {item : Draft} {rest : Items} (own : ∀ n ∈ item.numbers, n.InRange)
      (none : rest.numbers = []) (mem : n ∈ (Items.cons item rest).numbers) : n.InRange := by
    rw [Items.numbers, none, List.append_nil] at mem
    exact own n mem
  rw [readItems] at mem
  split at mem
  · next item same =>
    rw [same] at first
    exact last first rfl mem
  · next item rest same =>
    rw [same] at first
    split at mem
    · exact last first rfl mem
    · exact last first rfl mem
    · split at mem
      · exact last first rfl mem
      · exact last first rfl mem
      · exact (List.mem_append.mp mem).elim (first n) (ih.items _ n)
    · exact last first rfl mem

theorem members_succ (ih : ReadsInRange bound)
    (mem : n ∈ (readMembers (bound + 1) text).1.numbers) : n.InRange := by
  have last {name : Except Malformed String} {draft : Draft} {rest : Members}
      (own : ∀ n ∈ draft.numbers, n.InRange) (none : rest.numbers = [])
      (mem : n ∈ (Members.cons name draft rest).numbers) : n.InRange := by
    rw [Members.numbers, none, List.append_nil] at mem
    exact own n mem
  rw [readMembers] at mem
  split at mem
  · cases mem
  · split at mem
    · cases mem
    · next rest _ =>
      have first := ih.value rest
      split at mem
      · next draft same =>
        rw [same] at first
        exact last first rfl mem
      · next draft rest same =>
        rw [same] at first
        split at mem
        · exact last first rfl mem
        · exact last first rfl mem
        · split at mem
          · exact last first rfl mem
          · exact (List.mem_append.mp mem).elim (first n) (ih.members _ n)
          · exact last first rfl mem
          · exact last first rfl mem
        · exact last first rfl mem
    · cases mem

end ReadsInRange

/-- Reading gives no number out of range, however long it goes on. -/
theorem readsInRange (bound : Nat) : ReadsInRange bound := by
  induction bound with
  | zero => exact .zero
  | succ bound ih =>
    exact ⟨fun _ _ => ih.value_succ, fun _ _ => ih.items_succ, fun _ _ => ih.members_succ⟩

/-! ## What decoders see -/

section
variable {α : Type} {P : Number → Prop}

theorem mismatch_ne_ok (expected : String) (draft : Draft) (a : α) :
    mismatch expected draft ≠ .ok a := by
  intro h
  unfold mismatch at h
  cases draft with
  | number kept => rcases kept with fault | n | value <;> cases h
  | string kept => cases kept <;> cases h
  | null | bool | array | object | broken => cases h

theorem ofText_eq_ok {result : Except Malformed α} {a : α} (h : ofText result = .ok a) :
    result = .ok a := by
  cases result with
  | error fault => cases h
  | ok b =>
    cases h
    rfl

section
variable {item : Draft → Decoded α} {all : List α} {draft : Draft} {text : String}

/-- A text is taken from a string alone. -/
theorem toText_eq_ok : draft.toText = .ok text ↔ draft = .string (.ok text) := by
  constructor
  · intro h
    unfold Draft.toText at h
    split at h
    · rw [ofText_eq_ok h]
    · exact absurd h (mismatch_ne_ok _ _ _)
  · rintro rfl
    rfl

/-- A list is taken from an array alone. -/
theorem toList_eq_ok :
    draft.toList item = .ok all ↔ ∃ items, draft = .array items ∧ items.decode item = .ok all := by
  constructor
  · intro h
    unfold Draft.toList at h
    split at h
    · next items => exact ⟨items, rfl, h⟩
    · exact absurd h (mismatch_ne_ok _ _ _)
  · rintro ⟨items, rfl, decoded⟩
    exact decoded

theorem next?_eq_some {items rest : Items} :
    items.next? = .ok (some (draft, rest)) ↔ items = .cons draft rest := by
  cases items with
  | done | cut => constructor <;> (intro h; cases h)
  | cons => simp [Items.next?]

theorem close_eq_ok {items : Items} : items.close = .ok () ↔ items = .done := by
  cases items <;> simp [Items.close]

/-- A key is taken once, and only if its value can be taken. -/
theorem once_eq_ok {name : String} {seen next : Option α} {decode : Unit → Decoded α} :
    once name seen decode = .ok next ↔ seen = none ∧ ∃ a, decode () = .ok a ∧ next = some a := by
  cases seen with
  | some a => simp [once]
  | none =>
    rw [once, map_eq_ok]
    simp only [true_and, eq_comm]

/-- A field is taken in once, and stored with the rest of what is known. -/
theorem once_bind_eq_ok {σ : Type} {name : String} {seen : Option α} {decode : Unit → Decoded α}
    {set : Option α → σ} {next : σ} :
    (once name seen decode >>= fun a? => pure (set a?)) = .ok next ↔
      seen = none ∧ ∃ a, decode () = .ok a ∧ next = set (some a) := by
  rw [bind_eq_ok]
  constructor
  · rintro ⟨a?, taken, h⟩
    cases h
    obtain ⟨fresh, a, decoded, rfl⟩ := once_eq_ok.mp taken
    exact ⟨fresh, a, decoded, rfl⟩
  · rintro ⟨fresh, a, decoded, rfl⟩
    exact ⟨some a, once_eq_ok.mpr ⟨fresh, a, decoded, rfl⟩, rfl⟩

/-- A member that is passed over has no gap and changes nothing. -/
theorem skip_bind_eq_ok {state next : α} :
    (ofText draft.skip >>= fun _ => pure state) = .ok next ↔
      draft.skip = .ok () ∧ next = state := by
  constructor
  · intro h
    obtain ⟨⟨⟩, skipped, h⟩ := bind_eq_ok.mp h
    cases h
    exact ⟨ofText_eq_ok skipped, rfl⟩
  · rintro ⟨skipped, rfl⟩
    rw [skipped]
    rfl

theorem required_eq_ok {name : String} {seen : Option α} {a : α} :
    required name seen = .ok a ↔ seen = some a := by
  cases seen <;> simp [required]

end

/-- A decoder that takes a text has taken what was read. -/
theorem decode_read {decode : Draft → Decoded α} {text : String} {a : α}
    (h : decodeText decode text = .ok a) : decode (read text).1 = .ok a := by
  unfold decodeText at h
  obtain ⟨b, decoded, h⟩ := bind_eq_ok.mp h
  obtain ⟨u, finished, h⟩ := bind_eq_ok.mp h
  cases h
  exact decoded

/-- A decoder that takes a text has taken a draft in which every integer fits a word. -/
theorem of_decodeText_eq_ok {decode : Draft → Decoded α} {text : String} {a : α}
    (h : decodeText decode text = .ok a) :
    ∃ draft, decode draft = .ok a ∧ ∀ n ∈ draft.numbers, n.InRange :=
  ⟨(read text).1, decode_read h,
    (readsInRange (2 * text.toList.length + 2)).value text.toList⟩

/-- Each item of a decoded list comes from a draft with no other numbers than those of the list. -/
theorem of_decode_eq_ok {item : Draft → Decoded α} : (drafts : Items) → {items : List α} →
    drafts.decode item = .ok items → (∀ n ∈ drafts.numbers, P n) →
      ∀ a ∈ items, ∃ draft, item draft = .ok a ∧ ∀ n ∈ draft.numbers, P n
  | .done, _, h, _, a, mem => by
    cases h
    cases mem
  | .cut gap, _, h, _, _, _ => by cases h
  | .cons draft drafts, _, h, all, a, mem => by
    rw [Items.decode, bind_eq_ok] at h
    obtain ⟨first, decoded, h⟩ := h
    obtain ⟨rest, more, h⟩ := bind_eq_ok.mp h
    cases h
    rw [Items.numbers] at all
    rcases List.mem_cons.mp mem with rfl | mem
    · exact ⟨draft, decoded, fun n mem => all n (List.mem_append_left _ mem)⟩
    · exact of_decode_eq_ok drafts more (fun n mem => all n (List.mem_append_right _ mem)) a mem

/-- What every step of taking in members keeps, holds when all have been taken in. -/
theorem fold_keeps {step : α → String → Draft → Decoded α} {Inv : α → Prop}
    (keeps : ∀ state name draft next, (∀ n ∈ draft.numbers, P n) → Inv state →
      step state name draft = .ok next → Inv next) :
    (members : Members) → {state last : α} → (∀ n ∈ members.numbers, P n) → Inv state →
      members.fold step state = .ok last → Inv last
  | .done, _, _, _, holds, h => by
    cases h
    exact holds
  | .cut gap, _, _, _, _, h => by cases h
  | .cons name draft members, _, _, all, holds, h => by
    rw [Members.fold, bind_eq_ok] at h
    obtain ⟨name, -, h⟩ := h
    obtain ⟨next, taken, h⟩ := bind_eq_ok.mp h
    rw [Members.numbers] at all
    have own : ∀ n ∈ draft.numbers, P n := fun n mem => all n (List.mem_append_left _ mem)
    exact fold_keeps keeps members (fun n mem => all n (List.mem_append_right _ mem))
      (keeps _ name draft next own holds taken) h

end

end PackageIndex.Json

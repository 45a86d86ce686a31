import PackageIndex.Proofs.Json.Draft
import PackageIndex.Proofs.Json.Number

/-!
# Reading what was written

A written value is read as a draft with its numbers as they are read back, whatever the indentation,
and what follows it is left over. So a document reads back to its value, if that holds no number
that a text cannot keep.
-/
namespace PackageIndex.Json

/-! ## Blanks -/

theorem skipBlank_newline (indent level : Nat) (text : List Char) :
    skipBlank (newline indent level ++ text) = skipBlank text := by
  have blank : ∀ c ∈ newline indent level, isBlank c = true := by
    intro c mem
    rcases List.mem_cons.mp mem with rfl | mem
    · rfl
    · rw [List.eq_of_mem_replicate mem]
      rfl
  rw [skipBlank, List.dropWhile_append_of_pos blank, skipBlank]

theorem skipBlank_cons {c : Char} (h : isBlank c = false) (text : List Char) :
    skipBlank (c :: text) = c :: text := by
  rw [skipBlank, List.dropWhile_cons_of_neg (by rw [h]; decide)]

/-- A blank before a value makes no difference. -/
theorem readValue_skipBlank {text : List Char} {c : Char} (blank : isBlank c = true) (bound : Nat) :
    readValue bound (c :: text) = readValue bound text := by
  have skipped : skipBlank (c :: text) = skipBlank text := List.dropWhile_cons_of_pos blank
  cases bound with
  | zero => rw [readValue, readValue]
  | succ bound => rw [readValue, readValue, skipped]

/-! ## Single steps -/

/-- A text that begins with a character that is neither blank nor the end of a list. -/
structure Solid (text : List Char) : Prop where
  begins : ∃ c more, text = c :: more ∧ isBlank c = false ∧ c ≠ ']'

theorem Solid.skipBlank {text : List Char} (solid : Solid text) :
    Json.skipBlank text = text := by
  obtain ⟨c, more, rfl, h, -⟩ := solid.begins
  exact skipBlank_cons h more

/-- A text that begins with no blank does so whatever is put behind it. -/
theorem Solid.append {text : List Char} (solid : Solid text) (rest : List Char) :
    Solid (text ++ rest) := by
  obtain ⟨c, more, rfl, h⟩ := solid.begins
  exact ⟨c, more ++ rest, rfl, h⟩

/-- A bound that leaves room for such a text is not zero. -/
theorem Solid.exists_add_one {text : List Char} (solid : Solid text) {bound : Nat}
    (room : text.length ≤ bound) : ∃ less, bound = less + 1 := by
  obtain ⟨c, more, rfl, -⟩ := solid.begins
  rw [List.length_cons] at room
  exact Nat.exists_eq_add_one_of_ne_zero (by omega)

section
variable {bound : Nat} {text rest more : List Char} {item : Draft}

theorem readValue_bracket (blank : List Char) : readValue (bound + 1) ('[' :: blank) =
    match skipBlank blank with
    | [] => (.array (.cut (.plain .endInList)), none)
    | ']' :: rest => (.array .done, some rest)
    | rest => (.array (readItems bound rest).1, (readItems bound rest).2) := by
  rw [readValue, skipBlank_cons rfl]
  rfl

theorem readValue_array_nil {blank : List Char} (skipped : skipBlank blank = ']' :: rest) :
    readValue (bound + 1) ('[' :: blank) = (.array .done, some rest) := by
  rw [readValue_bracket, skipped]
  rfl

theorem readValue_array {blank : List Char} (skipped : skipBlank blank = text)
    (solid : Solid text) :
    readValue (bound + 1) ('[' :: blank) =
      (.array (readItems bound text).1, (readItems bound text).2) := by
  rw [readValue_bracket, skipped]
  obtain ⟨c, more, rfl, -, inner⟩ := solid.begins
  split
  · next h => cases h
  · next h => exact absurd (List.cons.inj h).1 inner
  · rfl

/-- An item with a bracket behind it is the last one. -/
theorem readItems_last (first : readValue bound text = (item, some rest))
    (close : skipBlank rest = ']' :: more) :
    readItems (bound + 1) text = (.cons item .done, some more) := by
  rw [readItems, first]
  dsimp only
  rw [close]
  rfl

/-- An item with a comma behind it is followed by another. -/
theorem readItems_next {after next : List Char} (first : readValue bound text = (item, some rest))
    (comma : skipBlank rest = ',' :: after) (skipped : skipBlank after = next)
    (solid : Solid next) :
    readItems (bound + 1) text =
      (.cons item (readItems bound next).1, (readItems bound next).2) := by
  rw [readItems, first]
  dsimp only
  rw [comma]
  conv_lhs => whnf
  rw [skipped]
  obtain ⟨c, more, rfl, -, inner⟩ := solid.begins
  split
  · next h => cases h
  · next h => exact absurd (List.cons.inj h).1 inner
  · rfl

theorem readValue_object_nil {blank : List Char} (skipped : skipBlank blank = '\x7d' :: rest) :
    readValue (bound + 1) ('\x7b' :: blank) = (.object .done, some rest) := by
  rw [readValue, skipBlank_cons rfl]
  conv_lhs => whnf
  rw [skipped]
  rfl

theorem readValue_object {blank : List Char} (skipped : skipBlank blank = '"' :: text) :
    readValue (bound + 1) ('\x7b' :: blank) =
      (.object (readMembers bound text).1, (readMembers bound text).2) := by
  rw [readValue, skipBlank_cons rfl]
  conv_lhs => whnf
  rw [skipped]
  rfl

section
variable {kept : Except Malformed String} {gap value : List Char}
  (named : readString text = .whole kept gap) (colon : skipBlank gap = ':' :: value)
  (first : readValue bound value = (item, some rest))
include named colon first

/-- A member with a brace behind it is the last one. -/
theorem readMembers_last (close : skipBlank rest = '\x7d' :: more) :
    readMembers (bound + 1) text = (.cons kept item .done, some more) := by
  rw [readMembers, named]
  dsimp only
  rw [colon]
  conv_lhs => whnf
  rw [first]
  conv_lhs => whnf
  rw [close]
  rfl

/-- A member with a comma behind it is followed by another. -/
theorem readMembers_next {after next : List Char} (comma : skipBlank rest = ',' :: after)
    (skipped : skipBlank after = '"' :: next) :
    readMembers (bound + 1) text =
      (.cons kept item (readMembers bound next).1, (readMembers bound next).2) := by
  rw [readMembers, named]
  dsimp only
  rw [colon]
  conv_lhs => whnf
  rw [first]
  conv_lhs => whnf
  rw [comma]
  conv_lhs => whnf
  rw [skipped]
  rfl

end

theorem readValue_string {kept : Except Malformed String}
    (string : readString text = .whole kept rest) :
    readValue (bound + 1) ('"' :: text) = (.string kept, some rest) := by
  rw [readValue, skipBlank_cons rfl]
  conv_lhs => whnf
  rw [string]

theorem isBlank_of_isDigit {c : Char} (digit : c.isDigit = true) : isBlank c = false := by
  rw [isBlank]
  simp only [Bool.or_eq_false_iff, decide_eq_false_iff_not]
  refine ⟨⟨⟨?_, ?_⟩, ?_⟩, ?_⟩ <;> (rintro rfl; cases digit)

theorem readValue_number {c : Char} {kept : Except Malformed Number}
    (begins : c = '-' ∨ c.isDigit = true) (number : readNumber (c :: text) = .whole kept rest) :
    readValue (bound + 1) (c :: text) = (.number kept, some rest) := by
  have solid : isBlank c = false := by
    rcases begins with rfl | digit
    · rfl
    · exact isBlank_of_isDigit digit
  have other {d : Char} (h : ¬ (d = '-' ∨ d.isDigit = true)) : c ≠ d := by
    rintro rfl
    exact h begins
  rw [readValue, skipBlank_cons solid]
  split
  · next h => cases h
  · next h => exact absurd (List.cons.inj h).1 (other (by decide))
  · next h => exact absurd (List.cons.inj h).1 (other (by decide))
  · next h => exact absurd (List.cons.inj h).1 (other (by decide))
  · next h => exact absurd (List.cons.inj h).1 (other (by decide))
  · next h => exact absurd (List.cons.inj h).1 (other (by decide))
  · next h => exact absurd (List.cons.inj h).1 (other (by decide))
  · next h =>
    cases h
    rw [if_pos begins, number]

/-- A written number is read as the value that it is read back as. -/
theorem readValue_text (n : Number) (ends : EndsNumber rest) :
    readValue (bound + 1) (n.text.toList ++ rest) = (.number n.readBack, some rest) := by
  have number := readNumber_text_append n ends
  obtain ⟨c, more, same, begins⟩ := text_eq_cons n
  rw [same] at number ⊢
  exact readValue_number begins number

end

/-! ## Whole values -/

/-- What follows a value in a document ends a number that may come before it. -/
theorem endsNumber_cons {c : Char} (h : ¬ c.isDigit ∧ c ≠ '.' ∧ c ≠ 'e' ∧ c ≠ 'E')
    (rest : List Char) : EndsNumber (c :: rest) := by
  intro d first
  cases first
  exact h

theorem endsNumber_newline (indent level : Nat) (rest : List Char) :
    EndsNumber (newline indent level ++ rest) :=
  endsNumber_cons (by decide) _

/-- A number that a text keeps: an integer that fits a word. -/
def Number.Kept : Number → Prop
  | .integer n => IsWord n
  | .double _ => False

/-- A number in range is kept if it is no double. -/
theorem Number.kept_of_inRange {n : Number} (range : n.InRange) (exact : n.isDouble = false) :
    n.Kept := by
  cases n with
  | integer n => exact range
  | double value => cases exact

mutual
/-- The draft that the text of a value is read into, whatever becomes of its numbers. -/
def Draft.readBack : Value → Draft
  | .null => .null
  | .bool b => .bool b
  | .number n => .number n.readBack
  | .string s => .string (.ok s)
  | .array items => .array (Items.readBack items)
  | .object members => .object (Members.readBack members)
def Items.readBack : List Value → Items
  | [] => .done
  | item :: rest => .cons (Draft.readBack item) (Items.readBack rest)
def Members.readBack : List (String × Value) → Members
  | [] => .done
  | (name, value) :: rest => .cons (.ok name) (Draft.readBack value) (Members.readBack rest)
end

mutual
/-- Numbers that a text keeps are read back as they are. -/
theorem readBack_of_kept : (value : Value) → (∀ n ∈ value.numbers, n.Kept) →
    Draft.readBack value = Draft.ofValue value
  | .null, _ | .bool _, _ | .string _, _ => rfl
  | .number (.double value), kept => (kept _ (List.mem_singleton.mpr rfl)).elim
  | .number (.integer n), kept => by
    rw [Draft.readBack, Draft.ofValue, readBack_integer (kept _ (List.mem_singleton.mpr rfl))]
  | .array items, kept => by
    rw [Draft.readBack, Draft.ofValue, itemsReadBack_of_kept items kept]
  | .object members, kept => by
    rw [Draft.readBack, Draft.ofValue, membersReadBack_of_kept members kept]
/-- Items whose numbers are kept are read back as they are. -/
theorem itemsReadBack_of_kept : (items : List Value) →
    (∀ n ∈ Value.itemNumbers items, n.Kept) → Items.readBack items = Items.ofValues items
  | [], _ => rfl
  | item :: items, kept => by
    rw [Items.readBack, Items.ofValues,
      readBack_of_kept item fun n mem => kept n (List.mem_append_left _ mem),
      itemsReadBack_of_kept items fun n mem => kept n (List.mem_append_right _ mem)]
theorem membersReadBack_of_kept : (members : List (String × Value)) →
    (∀ n ∈ Value.memberNumbers members, n.Kept) →
      Members.readBack members = Members.ofValues members
  | [], _ => rfl
  | (name, value) :: members, kept => by
    rw [Members.readBack, Members.ofValues,
      readBack_of_kept value fun n mem => kept n (List.mem_append_left _ mem),
      membersReadBack_of_kept members fun n mem => kept n (List.mem_append_right _ mem)]
end

/-- A written value begins with a character that ends no list. -/
theorem solid_write (indent level : Nat) (value : Value) : Solid (value.write indent level) := by
  cases value with
  | null => exact ⟨'n', _, rfl, rfl, by decide⟩
  | bool b => cases b <;> exact ⟨_, _, rfl, rfl, by decide⟩
  | string s => exact ⟨'"', _, rfl, rfl, by decide⟩
  | array items => cases items <;> exact ⟨'[', _, rfl, rfl, by decide⟩
  | object members =>
    cases members with
    | nil => exact ⟨'\x7b', _, rfl, rfl, by decide⟩
    | cons member members => exact ⟨'\x7b', _, rfl, rfl, by decide⟩
  | number n =>
    obtain ⟨c, more, same, begins⟩ := text_eq_cons n
    rw [Value.write, same]
    rcases begins with rfl | digit
    · exact ⟨'-', _, rfl, rfl, by decide⟩
    · refine ⟨c, more, rfl, isBlank_of_isDigit digit, ?_⟩
      rintro rfl
      cases digit

theorem length_newline_pos (indent level : Nat) : 0 < (newline indent level).length :=
  Nat.succ_pos _

mutual
/-- A written value is read as a whole, and what follows it is left over. -/
theorem readValue_write (indent level : Nat) {bound : Nat} {rest : List Char} :
    (value : Value) → (value.write indent level).length ≤ bound →
      EndsNumber rest →
      readValue bound (value.write indent level ++ rest) = (Draft.readBack value, some rest)
  | .null, room, _ => by
    obtain ⟨bound, rfl⟩ := (solid_write indent level _).exists_add_one room
    rw [Value.write, readValue]
    rfl
  | .bool b, room, _ => by
    obtain ⟨bound, rfl⟩ := (solid_write indent level _).exists_add_one room
    rw [Value.write, readValue]
    cases b <;> rfl
  | .number n, room, ends => by
    obtain ⟨bound, rfl⟩ := (solid_write indent level _).exists_add_one room
    rw [Value.write]
    exact readValue_text n ends
  | .string s, room, _ => by
    obtain ⟨bound, rfl⟩ := (solid_write indent level _).exists_add_one room
    have text : (Value.string s).write indent level ++ rest =
        '"' :: (s.toList.flatMap escape ++ '"' :: rest) := by simp [Value.write, quoted]
    rw [text]
    exact readValue_string (readString_quoted s rest)
  | .array [], room, _ => by
    obtain ⟨bound, rfl⟩ := (solid_write indent level _).exists_add_one room
    rw [Value.write]
    exact readValue_array_nil (skipBlank_cons rfl _)
  | .array (item :: items), room, _ => by
    have text : (Value.array (item :: items)).write indent level ++ rest =
        '[' :: (newline indent (level + 1) ++ (item.write indent (level + 1) ++
          (Value.writeItems indent (level + 1) items ++
            (newline indent level ++ ']' :: rest)))) := by simp [Value.write]
    have := length_newline_pos indent level
    have := length_newline_pos indent (level + 1)
    obtain ⟨bound, rfl⟩ := (solid_write indent level _).exists_add_one room
    simp only [Value.write, List.length_append, List.length_cons, List.length_nil] at room
    have solid := (solid_write indent (level + 1) item).append
      (Value.writeItems indent (level + 1) items ++ (newline indent level ++ ']' :: rest))
    rw [text, readValue_array ((skipBlank_newline ..).trans solid.skipBlank) solid,
      readItems_write indent (level + 1) level item items
        (by rw [List.length_append]; omega)]
    rfl
  | .object [], room, _ => by
    obtain ⟨bound, rfl⟩ := (solid_write indent level _).exists_add_one room
    rw [Value.write]
    exact readValue_object_nil (skipBlank_cons rfl _)
  | .object ((name, value) :: members), room, _ => by
    have text : (Value.object ((name, value) :: members)).write indent level ++ rest =
        '\x7b' :: (newline indent (level + 1) ++ '"' :: (name.toList.flatMap escape ++
          '"' :: ':' :: ' ' :: (value.write indent (level + 1) ++
          (Value.writeMembers indent (level + 1) members ++
            (newline indent level ++ '\x7d' :: rest))))) := by simp [Value.write, quoted]
    have := length_newline_pos indent level
    have := length_newline_pos indent (level + 1)
    obtain ⟨bound, rfl⟩ := (solid_write indent level _).exists_add_one room
    simp only [Value.write, List.length_append, List.length_cons, List.length_nil] at room
    rw [text, readValue_object ((skipBlank_newline ..).trans (skipBlank_cons rfl _)),
      readMembers_write indent (level + 1) level name value members
        (by rw [List.length_append]; omega)]
    rfl
termination_by bound
/-- Written items are read back, at any depth and with any indentation. -/
theorem readItems_write (indent level closing : Nat) {bound : Nat} {rest : List Char} :
    (item : Value) → (items : List Value) →
      (item.write indent level ++ Value.writeItems indent level items).length < bound →
      readItems bound (item.write indent level ++ (Value.writeItems indent level items ++
        (newline indent closing ++ ']' :: rest))) =
          (.cons (Draft.readBack item) (Items.readBack items), some rest)
  | item, [], room => by
    simp only [Value.writeItems, List.append_nil] at room
    obtain ⟨bound, rfl⟩ := Nat.exists_eq_add_one_of_ne_zero (Nat.ne_zero_of_lt room)
    have first :
        readValue bound (item.write indent level ++ (newline indent closing ++ ']' :: rest)) =
          (Draft.readBack item, some (newline indent closing ++ ']' :: rest)) :=
      readValue_write indent level item (by omega) (endsNumber_newline indent closing _)
    rw [Value.writeItems, List.nil_append]
    exact readItems_last first ((skipBlank_newline ..).trans (skipBlank_cons rfl _))
  | item, next :: items, room => by
    have := length_newline_pos indent level
    simp only [Value.writeItems, List.length_append, List.length_cons] at room
    obtain ⟨bound, rfl⟩ := Nat.exists_eq_add_one_of_ne_zero (Nat.ne_zero_of_lt room)
    let after := newline indent level ++ (next.write indent level ++
      (Value.writeItems indent level items ++ (newline indent closing ++ ']' :: rest)))
    have text : Value.writeItems indent level (next :: items) ++
        (newline indent closing ++ ']' :: rest) = ',' :: after := by
      simp [Value.writeItems, after]
    have solid := (solid_write indent level next).append
      (Value.writeItems indent level items ++ (newline indent closing ++ ']' :: rest))
    have first : readValue bound (item.write indent level ++ ',' :: after) =
        (Draft.readBack item, some (',' :: after)) :=
      readValue_write indent level item (by omega) (endsNumber_cons (by decide) _)
    rw [text, readItems_next first (skipBlank_cons rfl _)
      ((skipBlank_newline ..).trans solid.skipBlank) solid,
      readItems_write indent level closing next items
        (by rw [List.length_append]; omega)]
    rfl
termination_by bound
theorem readMembers_write (indent level closing : Nat) {bound : Nat} {rest : List Char} :
    (name : String) → (value : Value) → (members : List (String × Value)) →
      (value.write indent level ++ Value.writeMembers indent level members).length < bound →
      readMembers bound (name.toList.flatMap escape ++ '"' :: ':' :: ' ' ::
        (value.write indent level ++ (Value.writeMembers indent level members ++
          (newline indent closing ++ '\x7d' :: rest)))) =
          (.cons (.ok name) (Draft.readBack value) (Members.readBack members), some rest)
  | name, value, [], room => by
    simp only [Value.writeMembers, List.append_nil] at room
    obtain ⟨bound, rfl⟩ := Nat.exists_eq_add_one_of_ne_zero (Nat.ne_zero_of_lt room)
    have first :
        readValue bound (value.write indent level ++ (newline indent closing ++ '\x7d' :: rest)) =
          (Draft.readBack value, some (newline indent closing ++ '\x7d' :: rest)) :=
      readValue_write indent level value (by omega) (endsNumber_newline indent closing _)
    rw [Value.writeMembers, List.nil_append]
    exact readMembers_last (readString_quoted name _) (skipBlank_cons rfl _)
      ((readValue_skipBlank rfl bound).trans first)
      ((skipBlank_newline ..).trans (skipBlank_cons rfl _))
  | name, value, (other, next) :: members, room => by
    have := length_newline_pos indent level
    simp only [Value.writeMembers, List.length_append, List.length_cons, List.length_nil] at room
    obtain ⟨bound, rfl⟩ := Nat.exists_eq_add_one_of_ne_zero (Nat.ne_zero_of_lt room)
    let after := newline indent level ++ '"' :: (other.toList.flatMap escape ++
      '"' :: ':' :: ' ' :: (next.write indent level ++ (Value.writeMembers indent level members ++
        (newline indent closing ++ '\x7d' :: rest))))
    have text : Value.writeMembers indent level ((other, next) :: members) ++
        (newline indent closing ++ '\x7d' :: rest) = ',' :: after := by
      simp [Value.writeMembers, quoted, after]
    have first : readValue bound (value.write indent level ++ ',' :: after) =
        (Draft.readBack value, some (',' :: after)) :=
      readValue_write indent level value (by omega) (endsNumber_cons (by decide) _)
    rw [text, readMembers_next (readString_quoted name _) (skipBlank_cons rfl _)
      ((readValue_skipBlank rfl bound).trans first) (skipBlank_cons rfl _)
      ((skipBlank_newline ..).trans (skipBlank_cons rfl _)),
      readMembers_write indent level closing other next members
        (by rw [List.length_append]; omega)]
    rfl
termination_by bound
end

/-- A document is read back, with nothing but blanks after its value. -/
theorem read_document {value : Value} (kept : ∀ n ∈ value.numbers, n.Kept) :
    read value.document = (Draft.ofValue value, some ['\n']) := by
  rw [read, Value.document, String.toList_ofList, ← readBack_of_kept value kept]
  exact readValue_write 4 0 value (by rw [List.length_append]; omega)
    (endsNumber_cons (by decide) [])

/-- What is shown of a value is a document on its own, followed by a line break. -/
theorem read_shown (value : Value) :
    read (value.shown ++ "\n") = (Draft.readBack value, some ['\n']) := by
  rw [read, Value.shown, String.toList_append, String.toList_ofList]
  exact readValue_write 2 0 value (by rw [List.length_append]; omega)
    (endsNumber_cons (by decide) [])

/-! ## Decoding what was written -/

section
variable {α β : Type}

/-- A decoder that takes the draft of a value takes its document. -/
theorem decodeText_document {value : Value} {a : α} {decode : Draft → Decoded α}
    (kept : ∀ n ∈ value.numbers, n.Kept) (h : decode (Draft.ofValue value) = .ok a) :
    decodeText decode value.document = .ok a := by
  rw [decodeText, read_document kept]
  dsimp only
  rw [h]
  rfl

/-- A value that is not null is decoded as one that is there. -/
theorem toOption_ofValue {value : Value} {a : α} {decode : Draft → Decoded α}
    (given : value ≠ .null) (h : decode (Draft.ofValue value) = .ok a) :
    Draft.toOption decode (Draft.ofValue value) = .ok (some a) := by
  unfold Draft.toOption
  split
  · next null => cases value <;> simp_all [Draft.ofValue]
  · rw [h]
    rfl

/-- A list is decoded when each of its items is. -/
theorem toList_ofValue {encode : α → Value} {decode : Draft → Decoded α} {items : List α}
    (h : ∀ item ∈ items, decode (Draft.ofValue (encode item)) = .ok item) :
    Draft.toList decode (Draft.ofValue (.array (items.map encode))) = .ok items := by
  rw [Draft.ofValue, Draft.toList]
  induction items with
  | nil => rfl
  | cons item items ih =>
    rw [List.map_cons, Items.ofValues, Items.decode, h item (List.mem_cons_self ..), ok_bind,
      ih fun other mem => h other (List.mem_cons_of_mem _ mem)]
    rfl

/-- What is taken in of a first member is there when the others come. -/
theorem fold_ofValues_cons {step : α → String → Draft → Decoded α} {state next : α} {name : String}
    {value : Value} (taken : step state name (Draft.ofValue value) = .ok next)
    (members : List (String × Value)) :
    Members.fold step state (Members.ofValues ((name, value) :: members)) =
      Members.fold step next (Members.ofValues members) := by
  rw [Members.ofValues, Members.fold]
  change step state name (Draft.ofValue value) >>= _ = _
  rw [taken]
  rfl

theorem fold_ofValues_append {step : α → String → Draft → Decoded α} {state next : α}
    {members : List (String × Value)}
    (taken : Members.fold step state (Members.ofValues members) = .ok next)
    (more : List (String × Value)) :
    Members.fold step state (Members.ofValues (members ++ more)) =
      Members.fold step next (Members.ofValues more) := by
  induction members generalizing state with
  | nil =>
    cases taken
    rfl
  | cons member members ih =>
    rw [Members.ofValues, Members.fold] at taken
    change step state member.1 (Draft.ofValue member.2) >>= _ = _ at taken
    obtain ⟨middle, first, rest⟩ := bind_eq_ok.mp taken
    rw [List.cons_append, fold_ofValues_cons first, ih rest]

end

end PackageIndex.Json

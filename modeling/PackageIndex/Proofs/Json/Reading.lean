import PackageIndex.Proofs.Json.Grammar
import PackageIndex.Proofs.Json.RoundTrip

/-!
# What reading a text finds

A text is read without a gap just when it is the text of a tree with blanks around it, and then the
draft is that of the tree. So a decoder that puts up with no gap takes the texts of the trees whose
drafts it takes, and no others.
-/
namespace PackageIndex.Json

/-! ## Drafts of trees -/

def numberOf (literal : Number.Literal) : Except Malformed Number :=
  match Number.ofLiteral? literal with
  | some number => .ok number
  | none => .error .numberOutOfRange

mutual
/-- The draft that every text of a tree is read into. -/
def Tree.draft : Tree → Draft
  | .null => .null
  | .bool b => .bool b
  | .number literal => .number (numberOf literal)
  | .string units => .string (stringOf units)
  | .array items => .array (Items.ofTrees items)
  | .object members => .object (Members.ofTrees members)
def Items.ofTrees : List Tree → Items
  | [] => .done
  | item :: rest => .cons (Tree.draft item) (Items.ofTrees rest)
def Members.ofTrees : List (List Unit16 × Tree) → Members
  | [] => .done
  | (units, value) :: rest => .cons (stringOf units) (Tree.draft value) (Members.ofTrees rest)
end

mutual
/-- There is no gap in the draft of a tree. -/
theorem Tree.skip_draft : (tree : Tree) → tree.draft.skip = .ok ()
  | .null | .bool _ | .number _ | .string _ => rfl
  | .array items => by rw [Tree.draft, Draft.skip, skip_ofTrees items]
  | .object members => by rw [Tree.draft, Draft.skip, skip_membersOfTrees members]
/-- No item of a tree breaks off. -/
theorem Tree.skip_ofTrees : (items : List Tree) → (Items.ofTrees items).skip = .ok ()
  | [] => rfl
  | item :: rest => by
    rw [Items.ofTrees, Items.skip, Tree.skip_draft item, ok_bind, Tree.skip_ofTrees rest]
/-- No member does either. -/
theorem Tree.skip_membersOfTrees : (members : List (List Unit16 × Tree)) →
    (Members.ofTrees members).skip = .ok ()
  | [] => rfl
  | (units, value) :: rest => by
    rw [Members.ofTrees, Members.skip, Tree.skip_draft value, ok_bind,
      Tree.skip_membersOfTrees rest]
end

/-! ## Blanks -/

section
variable {lead trail rest : List Char}

/-- What is blank is passed over. -/
theorem Blank.skipBlank_append (blank : Blank lead) (rest : List Char) :
    skipBlank (lead ++ rest) = skipBlank rest := by
  rw [skipBlank, List.dropWhile_append_of_pos blank, skipBlank]

theorem blank_takeWhile (text : List Char) : Blank (text.takeWhile isBlank) :=
  List.all_eq_true.mp List.all_takeWhile

/-- Blanks that are passed over stand in front of what is left. -/
theorem exists_lead {text left : List Char} (same : skipBlank text = left) :
    ∃ lead, Blank lead ∧ text = lead ++ left :=
  ⟨_, blank_takeWhile text, same ▸ List.takeWhile_append_dropWhile.symm⟩

theorem Blank.endsNumber_append (blank : Blank trail) (ends : EndsNumber rest) :
    EndsNumber (trail ++ rest) := by
  cases trail with
  | nil => exact ends
  | cons c trail =>
    have given := blank c (List.mem_cons_self ..)
    refine endsNumber_cons ⟨fun digit => ?_, ?_, ?_, ?_⟩ _
    · rw [isBlank_of_isDigit digit] at given
      cases given
    all_goals
      rintro rfl
      cases given

end

theorem skipBlank_skipBlank (text : List Char) : skipBlank (skipBlank text) = skipBlank text := by
  obtain ⟨lead, blank, same⟩ := exists_lead (rfl : skipBlank text = _)
  rw [← blank.skipBlank_append (skipBlank text), ← same]

/-- A value is read alike with and without the blanks before it. -/
theorem readValue_of_skipBlank {text other : List Char} (same : skipBlank text = skipBlank other)
    (bound : Nat) : readValue bound text = readValue bound other := by
  cases bound with
  | zero => rw [readValue, readValue]
  | succ bound => rw [readValue, readValue, same]

/-- Blanks before the items of an array make no difference. -/
theorem readItems_skipBlank (bound : Nat) (text : List Char) :
    readItems bound (skipBlank text) = readItems bound text := by
  cases bound with
  | zero => rw [readItems, readItems]
  | succ bound => rw [readItems, readItems, readValue_of_skipBlank (skipBlank_skipBlank text)]

/-! ## Texts of trees are read -/

section
variable {text body rest : List Char} {tree : Tree}

theorem Number.Literal.Spells.head {literal : Number.Literal} (spells : literal.Spells body) :
    ∃ c more, body = c :: more ∧ (c = '-' ∨ c.isDigit = true) := by
  obtain ⟨isWhole, -, -, power, -, rfl⟩ := spells
  cases literal.negative with
  | true => exact ⟨'-', _, rfl, .inl rfl⟩
  | false =>
    obtain ⟨first, more, whole⟩ := List.exists_cons_of_ne_nil isWhole.given
    rw [whole]
    exact ⟨first, _, rfl, .inr (isWhole.all first (by simp [whole]))⟩

theorem Tree.Spells.solid (spells : tree.Spells body) : Solid body := by
  cases spells with
  | number spells =>
    obtain ⟨c, more, rfl, rfl | digit⟩ := spells.head
    · exact ⟨'-', more, rfl, rfl, by decide⟩
    · refine ⟨c, more, rfl, isBlank_of_isDigit digit, ?_⟩
      rintro rfl
      cases digit
  | null | true | false | string | arrayNil | array | objectNil | object =>
    exact ⟨_, _, rfl, rfl, by decide⟩

theorem Tree.Stands.solid (stands : tree.Stands text) (rest : List Char) :
    Solid (skipBlank (text ++ rest)) := by
  obtain ⟨before, spells, after⟩ := stands
  have solid := fun trail => spells.solid.append (trail ++ rest)
  rw [List.append_assoc, before.skipBlank_append, List.append_assoc, (solid _).skipBlank]
  exact solid _

theorem Tree.ItemsText.solid {items : List Tree} (text : Tree.ItemsText items body)
    (rest : List Char) : Solid (skipBlank (body ++ rest)) := by
  cases text with
  | last stands => exact stands.solid rest
  | next stands more =>
    rw [List.append_assoc]
    exact stands.solid _

/-- The name of a member is read up to the colon behind it. -/
theorem NameText.skipBlank_append {units : List Unit16} {name : List Char}
    (named : NameText units name) (rest : List Char) :
    ∃ inner gap, skipBlank (name ++ rest) = '"' :: inner ∧ Blank gap ∧
      readString inner = .whole (stringOf units) (gap ++ rest) := by
  obtain ⟨before, text, after⟩ := named
  refine ⟨_, _, ?_, after, readString_of_text text _⟩
  rw [List.append_assoc, before.skipBlank_append]
  exact (skipBlank_cons rfl _).trans (by simp)

/-- A number is read from each of its spellings. -/
theorem readNumber_of_spells {literal : Number.Literal} (spells : literal.Spells body)
    (ends : EndsNumber rest) : readNumber (body ++ rest) = .whole (numberOf literal) rest := by
  rw [readNumber, spells.readLiteral ends]
  dsimp only
  rw [numberOf]
  cases Number.ofLiteral? literal <;> rfl

mutual
/-- What spells a tree is read as its draft, and what follows is left over. -/
theorem Tree.Spells.readValue (bound : Nat) {tree : Tree} {body : List Char} (rest : List Char) :
    tree.Spells body → body.length ≤ bound → EndsNumber rest →
      Json.readValue bound (body ++ rest) = (tree.draft, some rest)
  | spells, room, ends => by
    obtain ⟨bound, rfl⟩ := spells.solid.exists_add_one room
    cases spells with
    | null | true | false =>
      rw [Json.readValue]
      rfl
    | number spells =>
      have number := readNumber_of_spells spells ends
      obtain ⟨c, more, rfl, begins⟩ := spells.head
      exact readValue_number begins number
    | string text =>
      rw [List.cons_append, List.append_assoc]
      exact readValue_string (readString_of_text text rest)
    | arrayNil gap =>
      rw [List.cons_append, List.append_assoc]
      exact readValue_array_nil ((gap.skipBlank_append _).trans (skipBlank_cons rfl rest))
    | array text =>
      -- the brackets make up for the step that the bound goes down
      rw [List.length_cons, List.length_append] at room
      rw [List.cons_append, List.append_assoc, List.singleton_append]
      refine (readValue_array rfl (text.solid _)).trans ?_
      rw [readItems_skipBlank,
        text.readItems bound rest (Nat.lt_of_succ_le (Nat.le_of_succ_le_succ room))]
      rfl
    | objectNil gap =>
      rw [List.cons_append, List.append_assoc]
      exact readValue_object_nil ((gap.skipBlank_append _).trans (skipBlank_cons rfl rest))
    | object text =>
      rw [List.length_cons, List.length_append] at room
      rw [List.cons_append, List.append_assoc]
      obtain ⟨inner, begins, members⟩ :=
        text.readMembers bound rest (Nat.lt_of_succ_le (Nat.le_of_succ_le_succ room))
      refine (readValue_object begins).trans ?_
      rw [members]
      rfl
termination_by (bound, 0)
/-- The text of a tree is read as the tree, up to what ends it. -/
theorem Tree.Stands.readValue (bound : Nat) {tree : Tree} {text : List Char} (rest : List Char) :
    tree.Stands text → text.length ≤ bound → EndsNumber rest →
      ∃ trail, Blank trail ∧
        Json.readValue bound (text ++ rest) = (tree.draft, some (trail ++ rest))
  | @Tree.Stands.intro _ lead body trail before spells after, room, ends => by
    have room : body.length ≤ bound := by
      simp only [List.length_append] at room
      omega
    refine ⟨_, after, ?_⟩
    rw [List.append_assoc, readValue_of_skipBlank (before.skipBlank_append _), List.append_assoc]
    exact spells.readValue bound _ room (after.endsNumber_append ends)
termination_by (bound, 1)
/-- Items are read up to the bracket that closes them. -/
theorem Tree.ItemsText.readItems (bound : Nat) {items : List Tree} {body : List Char}
    (rest : List Char) :
    Tree.ItemsText items body → body.length < bound →
      Json.readItems bound (body ++ ']' :: rest) = (Items.ofTrees items, some rest)
  | .last stands, room => by
    obtain ⟨bound, rfl⟩ := Nat.exists_eq_add_one_of_ne_zero (Nat.ne_zero_of_lt room)
    obtain ⟨trail, blank, first⟩ := stands.readValue bound (']' :: rest)
      (Nat.le_of_lt_succ room) (endsNumber_cons (by decide) rest)
    exact readItems_last first ((blank.skipBlank_append _).trans (skipBlank_cons rfl rest))
  | @Tree.ItemsText.next _ _ text more stands others, room => by
    obtain ⟨bound, rfl⟩ := Nat.exists_eq_add_one_of_ne_zero (Nat.ne_zero_of_lt room)
    rw [List.length_append, List.length_cons] at room
    obtain ⟨trail, blank, first⟩ := stands.readValue bound
      (',' :: (more ++ ']' :: rest)) (by omega) (endsNumber_cons (by decide) _)
    rw [List.append_assoc]
    refine (readItems_next first ((blank.skipBlank_append _).trans (skipBlank_cons rfl _)) rfl
      (others.solid _)).trans ?_
    rw [readItems_skipBlank, others.readItems bound rest (by omega)]
    rfl
termination_by (bound, 0)
/-- Members are read up to the brace that closes them. -/
theorem Tree.MembersText.readMembers (bound : Nat) {members : List (List Unit16 × Tree)}
    {body : List Char} (rest : List Char) :
    Tree.MembersText members body → body.length < bound →
      ∃ inner, skipBlank (body ++ '\x7d' :: rest) = '"' :: inner ∧
        Json.readMembers bound inner = (Members.ofTrees members, some rest)
  | @Tree.MembersText.last _ _ name text named stands, room => by
    obtain ⟨bound, rfl⟩ := Nat.exists_eq_add_one_of_ne_zero (Nat.ne_zero_of_lt room)
    rw [List.length_append, List.length_cons] at room
    obtain ⟨inner, gap, begins, between, string⟩ :=
      named.skipBlank_append (':' :: (text ++ '\x7d' :: rest))
    obtain ⟨trail, blank, first⟩ := stands.readValue bound ('\x7d' :: rest)
      (by omega) (endsNumber_cons (by decide) rest)
    rw [List.append_assoc]
    exact ⟨inner, begins, readMembers_last string
      ((between.skipBlank_append _).trans (skipBlank_cons rfl _)) first
      ((blank.skipBlank_append _).trans (skipBlank_cons rfl rest))⟩
  | @Tree.MembersText.next _ _ _ name text more named stands others, room => by
    obtain ⟨bound, rfl⟩ := Nat.exists_eq_add_one_of_ne_zero (Nat.ne_zero_of_lt room)
    simp only [List.length_append, List.length_cons] at room
    obtain ⟨inner, gap, begins, between, string⟩ :=
      named.skipBlank_append (':' :: (text ++ ',' :: (more ++ '\x7d' :: rest)))
    obtain ⟨trail, blank, first⟩ := stands.readValue bound
      (',' :: (more ++ '\x7d' :: rest)) (by omega) (endsNumber_cons (by decide) _)
    obtain ⟨next, follows, read⟩ := others.readMembers bound rest (by omega)
    have flat : (name ++ ':' :: (text ++ ',' :: more)) ++ '\x7d' :: rest =
        name ++ ':' :: (text ++ ',' :: (more ++ '\x7d' :: rest)) := by simp
    rw [flat]
    refine ⟨inner, begins, (readMembers_next string
      ((between.skipBlank_append _).trans (skipBlank_cons rfl _)) first
      ((blank.skipBlank_append _).trans (skipBlank_cons rfl _)) follows).trans ?_⟩
    rw [read]
    rfl
termination_by (bound, 0)
end

end

/-! ## Whatever is read is the text of a tree -/

/-- A number is read from one of its spellings alone. -/
theorem of_readNumber {text rest : List Char} {kept : Except Malformed Number}
    (h : readNumber text = .whole kept rest) :
    ∃ literal body, Number.Literal.Spells literal body ∧ text = body ++ rest ∧
      kept = numberOf literal := by
  unfold readNumber at h
  split at h
  · cases h
  · next literal after read =>
    obtain ⟨body, spells, rfl⟩ := Number.Literal.Spells.of_readLiteral read
    refine ⟨literal, body, spells, ?_⟩
    rw [numberOf]
    split at h <;> cases h <;> simp [*]

theorem of_readWord {word text rest : List Char} (h : readWord word text = .ok rest) :
    text = word ++ rest := by
  fun_induction readWord word text with
  | case1 => cases h; rfl
  | case2 => cases h
  | case3 a word text ih => rw [ih h, List.cons_append]
  | case4 => cases h

/-- A word is read from its letters alone. -/
theorem of_readNamed {draft read : Draft} {word text : List Char} {left : Option (List Char)}
    (h : readNamed draft word text = (read, left)) (whole : read.skip = .ok ()) :
    read = draft ∧ ∃ rest, text = word ++ rest ∧ left = some rest := by
  unfold readNamed at h
  split at h
  · next rest named =>
    cases h
    exact ⟨rfl, rest, of_readWord named, rfl⟩
  · cases h
    cases whole

theorem Items.skip_cons {item : Draft} {rest : Items} :
    (Items.cons item rest).skip = .ok () ↔ item.skip = .ok () ∧ rest.skip = .ok () := by
  rw [Items.skip, bind_eq_ok]
  exact ⟨fun ⟨_, own, others⟩ => ⟨own, others⟩, fun ⟨own, others⟩ => ⟨(), own, others⟩⟩

theorem Members.skip_cons {name : Except Malformed String} {value : Draft} {rest : Members} :
    (Members.cons name value rest).skip = .ok () ↔ value.skip = .ok () ∧ rest.skip = .ok () := by
  rw [Members.skip, bind_eq_ok]
  exact ⟨fun ⟨_, own, others⟩ => ⟨own, others⟩, fun ⟨own, others⟩ => ⟨(), own, others⟩⟩

/-- Within a bound, whatever is read without a gap is the text of a tree. The members of an object
are told of from after the quote that their first name begins with. -/
structure ReadsTrees (bound : Nat) : Prop where
  value : ∀ {text draft left}, readValue bound text = (draft, left) → draft.skip = .ok () →
    ∃ tree body rest, Tree.Spells tree body ∧ skipBlank text = body ++ rest ∧
      draft = tree.draft ∧ left = some rest
  items : ∀ {text items left}, readItems bound text = (items, left) → items.skip = .ok () →
    ∃ trees body rest, Tree.ItemsText trees body ∧ text = body ++ ']' :: rest ∧
      items = .ofTrees trees ∧ left = some rest
  members : ∀ {text members left}, readMembers bound text = (members, left) →
    members.skip = .ok () → ∃ trees body rest,
      (∀ lead, Blank lead → Tree.MembersText trees (lead ++ '"' :: body)) ∧
        text = body ++ '\x7d' :: rest ∧ members = .ofTrees trees ∧ left = some rest

namespace ReadsTrees

variable {bound : Nat} {text : List Char} {left : Option (List Char)}

theorem zero : ReadsTrees 0 := by
  refine ⟨fun h whole => ?_, fun h whole => ?_, fun h whole => ?_⟩
  · rw [readValue] at h
    cases h
    cases whole
  · rw [readItems] at h
    cases h
    cases whole
  · rw [readMembers] at h
    cases h
    cases whole

/-- Where a value is not read to its end, something in it is broken. -/
theorem not_cut (ih : ReadsTrees bound) {item : Draft}
    (first : readValue bound text = (item, none)) : item.skip ≠ .ok () := by
  intro whole
  obtain ⟨_, _, _, _, _, _, left⟩ := ih.value first whole
  cases left

/-- A value that something follows stands before it, and so do the blanks between. -/
theorem stands (ih : ReadsTrees bound) {item : Draft} {after more : List Char} {c : Char}
    (first : readValue bound text = (item, some after)) (whole : item.skip = .ok ())
    (follows : skipBlank after = c :: more) :
    ∃ tree front, Tree.Stands tree front ∧ text = front ++ c :: more ∧ item = tree.draft := by
  obtain ⟨tree, body, rest, spells, same, rfl, left⟩ := ih.value first whole
  cases left
  obtain ⟨lead, before, rfl⟩ := exists_lead same
  obtain ⟨trail, behind, rfl⟩ := exists_lead follows
  exact ⟨tree, _, .intro before spells behind, by simp, rfl⟩

/-- A value that is read whole is the text of a tree, if its items and members are. -/
theorem value_succ (ih : ReadsTrees bound) {draft : Draft}
    (h : readValue (bound + 1) text = (draft, left)) (whole : draft.skip = .ok ()) :
    ∃ tree body rest, Tree.Spells tree body ∧ skipBlank text = body ++ rest ∧
      draft = tree.draft ∧ left = some rest := by
  rw [readValue] at h
  -- a branch that fails leaves a gap; the others are the forms of a value, one after the other
  split at h
  · cases h
    cases whole
  · next begins =>
    obtain ⟨rfl, rest, rfl, rfl⟩ := of_readNamed h whole
    exact ⟨.null, _, rest, .null, begins, rfl, rfl⟩
  · next begins =>
    obtain ⟨rfl, rest, rfl, rfl⟩ := of_readNamed h whole
    exact ⟨.bool true, _, rest, .true, begins, rfl, rfl⟩
  · next begins =>
    obtain ⟨rfl, rest, rfl, rfl⟩ := of_readNamed h whole
    exact ⟨.bool false, _, rest, .false, begins, rfl, rfl⟩
  · next begins =>
    split at h
    · next kept rest string =>
      cases h
      obtain ⟨units, body, written, rfl, rfl⟩ := text_of_readString string
      exact ⟨.string units, _, rest, .string written, begins.trans (by simp), rfl, rfl⟩
    · cases h
      cases whole
  · next after begins =>
    split at h
    · cases h
      cases whole
    · next rest close =>
      cases h
      obtain ⟨lead, blank, rfl⟩ := exists_lead close
      exact ⟨.array [], _, rest, .arrayNil blank, begins.trans (by simp), rfl, rfl⟩
    · cases h
      rw [readItems_skipBlank] at whole ⊢
      obtain ⟨trees, body, rest, text, rfl, drafts, left⟩ := ih.items rfl whole
      exact ⟨.array trees, _, rest, .array text, begins.trans (by simp),
        congrArg Draft.array drafts, left⟩
  · next after begins =>
    split at h
    · cases h
      cases whole
    · next rest close =>
      cases h
      obtain ⟨lead, blank, rfl⟩ := exists_lead close
      exact ⟨.object [], _, rest, .objectNil blank, begins.trans (by simp), rfl, rfl⟩
    · next inner quote =>
      cases h
      obtain ⟨lead, blank, rfl⟩ := exists_lead quote
      obtain ⟨trees, body, rest, text, rfl, drafts, left⟩ := ih.members rfl whole
      exact ⟨.object trees, _, rest, .object (text lead blank), begins.trans (by simp),
        congrArg Draft.object drafts, left⟩
    · cases h
      cases whole
  · next c after begins =>
    split at h
    · split at h
      · next kept rest number =>
        cases h
        obtain ⟨literal, body, spells, same, rfl⟩ := of_readNumber number
        exact ⟨.number literal, body, rest, .number spells, begins.trans same, rfl, rfl⟩
      · cases h
        cases whole
    · cases h
      cases whole

/-- Items that are read whole are the text of trees, each with what divides it from the next. -/
theorem items_succ (ih : ReadsTrees bound) {items : Items}
    (h : readItems (bound + 1) text = (items, left)) (whole : items.skip = .ok ()) :
    ∃ trees body rest, Tree.ItemsText trees body ∧ text = body ++ ']' :: rest ∧
      items = .ofTrees trees ∧ left = some rest := by
  rw [readItems] at h
  split at h
  · next item first =>
    cases h
    exact absurd (Items.skip_cons.mp whole).1 (ih.not_cut first)
  · next item after first =>
    split at h
    · cases h
      cases (Items.skip_cons.mp whole).2
    · next rest close =>
      cases h
      obtain ⟨tree, front, stands, rfl, rfl⟩ := ih.stands first (Items.skip_cons.mp whole).1 close
      exact ⟨[tree], front, rest, .last stands, rfl, rfl, rfl⟩
    · next following comma =>
      split at h
      · cases h
        cases (Items.skip_cons.mp whole).2
      · cases h
        cases (Items.skip_cons.mp whole).2
      · cases h
        rw [readItems_skipBlank] at whole ⊢
        obtain ⟨own, others⟩ := Items.skip_cons.mp whole
        obtain ⟨tree, front, stands, rfl, rfl⟩ := ih.stands first own comma
        obtain ⟨trees, body, rest, text, rfl, drafts, left⟩ := ih.items rfl others
        exact ⟨tree :: trees, _, rest, .next stands text, by simp,
          congrArg (Items.cons tree.draft) drafts, left⟩
    · cases h
      cases (Items.skip_cons.mp whole).2

/-- Members that are read whole are the text of trees with their names. -/
theorem members_succ (ih : ReadsTrees bound) {members : Members}
    (h : readMembers (bound + 1) text = (members, left)) (whole : members.skip = .ok ()) :
    ∃ trees body rest,
      (∀ lead, Blank lead → Tree.MembersText trees (lead ++ '"' :: body)) ∧
        text = body ++ '\x7d' :: rest ∧ members = .ofTrees trees ∧ left = some rest := by
  rw [readMembers] at h
  split at h
  · cases h
    cases whole
  · next name gap string =>
    obtain ⟨units, quoted, written, rfl, rfl⟩ := text_of_readString string
    split at h
    · cases h
      cases (Members.skip_cons.mp whole).1
    · next value colon =>
      obtain ⟨trail, behind, rfl⟩ := exists_lead colon
      have named (lead : List Char) (before : Blank lead) :
          NameText units (lead ++ '"' :: (quoted ++ '"' :: trail)) := .intro before written behind
      split at h
      · next item first =>
        cases h
        exact absurd (Members.skip_cons.mp whole).1 (ih.not_cut first)
      · next item after first =>
        split at h
        · cases h
          cases (Members.skip_cons.mp whole).2
        · next rest close =>
          cases h
          obtain ⟨tree, front, stands, rfl, rfl⟩ :=
            ih.stands first (Members.skip_cons.mp whole).1 close
          refine ⟨[(units, tree)], quoted ++ '"' :: (trail ++ ':' :: front), rest,
            fun lead before => ?_, by simp, rfl, rfl⟩
          have last := Tree.MembersText.last (named lead before) stands
          simpa using last
        · next following comma =>
          split at h
          · cases h
            cases (Members.skip_cons.mp whole).2
          · next inner quote =>
            cases h
            obtain ⟨own, others⟩ := Members.skip_cons.mp whole
            obtain ⟨tree, front, stands, rfl, rfl⟩ := ih.stands first own comma
            obtain ⟨blank, between, rfl⟩ := exists_lead quote
            obtain ⟨trees, body, rest, text, rfl, drafts, left⟩ := ih.members rfl others
            refine ⟨(units, tree) :: trees,
              quoted ++ '"' :: (trail ++ ':' :: (front ++ ',' :: (blank ++ '"' :: body))), rest,
              fun lead before => ?_, by simp,
              congrArg (Members.cons (stringOf units) tree.draft) drafts, left⟩
            have next := Tree.MembersText.next (named lead before) stands (text blank between)
            simpa using next
          · cases h
            cases (Members.skip_cons.mp whole).2
          · cases h
            cases (Members.skip_cons.mp whole).2
        · cases h
          cases (Members.skip_cons.mp whole).2
    · cases h
      cases (Members.skip_cons.mp whole).1

end ReadsTrees

/-- Whatever is read whole is the text of a tree. -/
theorem readsTrees (bound : Nat) : ReadsTrees bound := by
  induction bound with
  | zero => exact .zero
  | succ bound ih => exact ⟨ih.value_succ, ih.items_succ, ih.members_succ⟩

/-! ## Documents -/

theorem skipBlank_eq_nil {text : List Char} : skipBlank text = [] ↔ Blank text := by
  constructor
  · intro none
    obtain ⟨lead, blank, rfl⟩ := exists_lead none
    rwa [List.append_nil]
  · intro blank
    have alone := blank.skipBlank_append []
    rwa [List.append_nil] at alone

/-- The text of a tree with blanks around it is read as the tree's draft, with nothing behind. -/
theorem Tree.Stands.read {tree : Tree} {text : String} (stands : tree.Stands text.toList) :
    ∃ trail, Json.read text = (tree.draft, some trail) ∧ finish (some trail) = .ok () := by
  obtain ⟨trail, blank, whole⟩ := stands.readValue (2 * text.toList.length + 2) []
    (by omega) (fun c first => by cases first)
  rw [List.append_nil, List.append_nil] at whole
  exact ⟨trail, whole, if_pos (skipBlank_eq_nil.mpr blank)⟩

/-- What is read without a gap, with nothing behind, is the text of a tree. -/
theorem stands_of_read {text : String} (whole : (read text).1.skip = .ok ())
    (finished : finish (read text).2 = .ok ()) :
    ∃ tree : Tree, tree.Stands text.toList ∧ (read text).1 = tree.draft := by
  obtain ⟨tree, body, trail, spells, same, draft, left⟩ := (readsTrees _).value rfl whole
  obtain ⟨lead, before, begins⟩ := exists_lead same
  have behind : Blank trail := by
    rw [show (read text).2 = some trail from left, finish] at finished
    split at finished
    · next none => exact skipBlank_eq_nil.mp none
    · cases finished
  exact ⟨tree, begins ▸ .intro before spells behind, draft⟩

/-- A decoder that puts up with no gap takes a text just when it takes the draft of a tree that the
text, but for blanks around it, spells. -/
theorem decodeText_eq_ok {α : Type} {decode : Draft → Decoded α} {text : String} {a : α}
    (wary : ∀ draft, decode draft = .ok a → draft.skip = .ok ()) :
    decodeText decode text = .ok a ↔
      ∃ tree : Tree, tree.Stands text.toList ∧ decode tree.draft = .ok a := by
  constructor
  · intro h
    have decoded := decode_read h
    have finished : finish (read text).2 = .ok () := by
      unfold decodeText at h
      obtain ⟨b, -, h⟩ := bind_eq_ok.mp h
      obtain ⟨⟨⟩, finished, -⟩ := bind_eq_ok.mp h
      exact ofText_eq_ok finished
    obtain ⟨tree, stands, same⟩ := stands_of_read (wary _ decoded) finished
    exact ⟨tree, stands, same ▸ decoded⟩
  · rintro ⟨tree, stands, decoded⟩
    obtain ⟨trail, read, finished⟩ := stands.read
    rw [decodeText, read]
    dsimp only
    rw [decoded, ok_bind, finished]
    rfl

end PackageIndex.Json

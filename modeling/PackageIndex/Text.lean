/-!
# Pieces of a text

Splitting a text at a separator and putting the pieces back. A text always has at least one
piece, and the empty text has exactly one.
-/
namespace PackageIndex.Text

/-- What stands between the separators, in order. -/
def pieces (separator : Char) (text : String) : List String :=
  (text.toList.splitOn separator).map String.ofList

def join (separator : Char) (parts : List String) : String :=
  (String.singleton separator).intercalate parts

@[simp] theorem join_nil (separator : Char) : join separator [] = "" := by simp [join]
@[simp] theorem join_singleton (separator : Char) (part : String) :
    join separator [part] = part := by simp [join]

theorem toList_join (separator : Char) (parts : List String) :
    (join separator parts).toList = [separator].intercalate (parts.map String.toList) := by
  simp [join]

@[simp] theorem pieces_empty (separator : Char) : pieces separator "" = [""] := by
  simp [pieces]

theorem pieces_ne_nil (separator : Char) (text : String) : pieces separator text ≠ [] := by
  simp [pieces]

theorem pieces_of_not_mem {separator : Char} {text : String} (h : separator ∉ text.toList) :
    pieces separator text = [text] := by
  simp [pieces, List.splitOn_eq_singleton h]

/-- Text on the two sides of a separator is split on its own. -/
theorem pieces_append (separator : Char) (a b : String) :
    pieces separator (a ++ String.singleton separator ++ b) =
      pieces separator a ++ pieces separator b := by
  simp only [pieces, String.toList_append, String.toList_singleton, List.append_assoc,
    List.singleton_append, List.splitOn_append_cons_self, List.map_append]

theorem not_mem_of_mem_pieces {separator : Char} {text part : String}
    (h : part ∈ pieces separator text) : separator ∉ part.toList := by
  obtain ⟨cs, hcs, rfl⟩ := List.mem_map.mp h
  rw [String.toList_ofList]
  clear h
  generalize text.toList = letters at hcs
  induction letters generalizing cs with
  | nil => simp_all
  | cons c letters ih =>
    rw [List.splitOn_cons_eq_if_modifyHead] at hcs
    obtain ⟨first, rest, split⟩ :=
      List.exists_cons_of_ne_nil (List.splitOn_ne_nil separator letters)
    by_cases hc : c = separator
    · grind
    · grind [List.modifyHead_cons]

@[simp] theorem join_pieces (separator : Char) (text : String) :
    join separator (pieces separator text) = text := by
  rw [← String.toList_inj, toList_join, pieces, List.map_map]
  simp [Function.comp_def]

theorem pieces_join {separator : Char} {parts : List String} (nonempty : parts ≠ [])
    (h : ∀ part ∈ parts, separator ∉ part.toList) :
    pieces separator (join separator parts) = parts := by
  have split : ([separator].intercalate (parts.map String.toList)).splitOn separator =
      parts.map String.toList := by
    apply List.splitOn_intercalate
    · simpa using h
    · simpa using nonempty
  rw [pieces, toList_join, split, List.map_map]
  simp [Function.comp_def]

theorem mem_toList_join {separator c : Char} {parts : List String}
    (h : c ∈ (join separator parts).toList) :
    c = separator ∨ ∃ part ∈ parts, c ∈ part.toList := by
  rw [toList_join] at h
  induction parts with
  | nil => simp at h
  | cons part parts ih =>
    cases parts with
    | nil => exact .inr ⟨part, by simp, by simpa using h⟩
    | cons next parts =>
      rw [List.map_cons, List.map_cons, List.intercalate_cons_cons, List.mem_append,
        List.mem_append] at h
      rcases h with (h | h) | h
      · exact .inr ⟨part, by simp, h⟩
      · exact .inl (by simpa using h)
      · exact (ih h).imp id fun ⟨p, hp, hc⟩ => ⟨p, List.mem_cons_of_mem _ hp, hc⟩

def replace (old new : Char) (text : String) : String :=
  String.ofList (text.toList.map fun c => if c = old then new else c)

@[simp] theorem toList_replace (old new : Char) (text : String) :
    (replace old new text).toList = text.toList.map fun c => if c = old then new else c := by
  simp [replace]

theorem replace_of_not_mem {old new : Char} {text : String} (h : old ∉ text.toList) :
    replace old new text = text := by
  have same : text.toList.map (fun c => if c = old then new else c) = text.toList.map id := by
    apply List.map_congr_left
    intro c hc
    have : c ≠ old := by rintro rfl; exact h hc
    simp [this]
  rw [replace, same, List.map_id, String.ofList_toList]

/-- The text without the characters of `start`, if it begins with them. -/
def dropStart? : (start text : List Char) → Option (List Char)
  | [], text => some text
  | _ :: _, [] => none
  | a :: start, b :: text => if a = b then dropStart? start text else none

/-- The lower case of a capital, if that is an ASCII letter; of the capitals beyond ASCII only the
sign of the kelvin has one. -/
def loweredChar (c : Char) : Char := if c = '\u212a' then 'k' else c.toLower

def lowered (text : String) : String := text.map loweredChar

/-- Where case does not matter, the long s, which is no capital, is an s as well. -/
def foldedChar (c : Char) : Char := if c = '\u017f' then 's' else loweredChar c

/-- Texts of ASCII letters that differ in case alone are folded to one. -/
def folded (text : String) : String := text.map foldedChar

def startsWith (text start : String) : Bool :=
  (dropStart? start.toList text.toList).isSome

/-! ## Letters and digits -/

theorem isAlpha_iff {c : Char} :
    c.isAlpha = true ↔ 'A' ≤ c ∧ c ≤ 'Z' ∨ 'a' ≤ c ∧ c ≤ 'z' := by
  have upper : c.isUpper = decide ('A' ≤ c ∧ c ≤ 'Z') := rfl
  have lower : c.isLower = (decide ('a' ≤ c) && decide (c ≤ 'z')) := rfl
  have either : c.isAlpha = (c.isUpper || c.isLower) := rfl
  rw [either, Bool.or_eq_true, upper, lower, Bool.and_eq_true, decide_eq_true_eq,
    decide_eq_true_eq, decide_eq_true_eq]

theorem isDigit_iff {c : Char} : c.isDigit = true ↔ '0' ≤ c ∧ c ≤ '9' := by
  have digit : c.isDigit = (decide ('0' ≤ c) && decide (c ≤ '9')) := rfl
  rw [digit, Bool.and_eq_true, decide_eq_true_eq, decide_eq_true_eq]

/-! ## The order of texts -/

/-- Whether a text comes before another, by the first characters in which they differ. -/
def precedes (a b : String) : Bool := compare a b = .lt

theorem precedes_irrefl (a : String) : precedes a a = false := by
  have same : compare a a = .eq := Std.ReflCmp.compare_self
  rw [precedes, same]
  rfl

theorem precedes_trans {a b c : String} (h : precedes a b = true) (h' : precedes b c = true) :
    precedes a c = true := by
  rw [precedes, decide_eq_true_iff] at h h' ⊢
  exact Std.TransCmp.lt_trans h h'

theorem precedes_total {a b : String} (h : a ≠ b) : precedes a b = true ∨ precedes b a = true := by
  rw [precedes, precedes, decide_eq_true_iff, decide_eq_true_iff]
  cases order : compare a b with
  | lt => exact .inl rfl
  | eq => exact absurd (Std.LawfulEqCmp.eq_of_compare order) h
  | gt => exact .inr (Std.OrientedCmp.lt_of_gt order)

end PackageIndex.Text

import Mathlib.Algebra.Group.Nat.Defs
import Mathlib.Data.List.Basic

/-!
# Delimited text

Text that is built by appending a separator and a cell, over and over, and is
read back by splitting at the separator.

Main results:

- Theorem {lit}`pieces_pushCells`: splitting returns the cells, when none of them
  contains the separator.
- Theorem {lit}`cellUnder_eq_some`: a row and its header give the cell of a name.
- Theorem {lit}`free_pushCells`: the text is free of every other character that
  its cells are free of.
- Theorem {lit}`free_toString`: decimal integers contain digits only.
- Theorems {lit}`readNat_toString` and {lit}`readNat_padded`: reading them back
  returns the number.
-/

namespace Delimited

/-- The pieces of a text between the separators, at least one. -/
def pieces (sep : Char) (text : String) : List String :=
  (text.toList.splitOn sep).map String.ofList

/-- Append every cell to a text, each after a separator. -/
def pushCells (sep : Char) (out : String) (cells : List String) : String :=
  cells.foldl (fun out cell => out.push sep ++ cell) out

/-- The character does not occur in the text. -/
def Free (c : Char) (text : String) : Prop :=
  c ∉ text.toList

instance (c : Char) (text : String) : Decidable (Free c text) :=
  inferInstanceAs (Decidable (c ∉ text.toList))

/-! ## Building up -/

@[simp]
theorem pushCells_nil (sep : Char) (out : String) : pushCells sep out [] = out :=
  rfl

/-- A cell is pushed behind its separator. -/
theorem pushCells_cons (sep : Char) (out cell : String) (cells : List String) :
    pushCells sep out (cell :: cells) = pushCells sep (out.push sep ++ cell) cells :=
  rfl

/-- Cells can be pushed in two batches. -/
theorem pushCells_append (sep : Char) (out : String) (xs ys : List String) :
    pushCells sep out (xs ++ ys) = pushCells sep (pushCells sep out xs) ys :=
  List.foldl_append

/-- Every cell adds its length and a separator. -/
theorem length_pushCells (sep : Char) (out : String) (cells : List String) :
    (pushCells sep out cells).length =
      cells.foldl (fun length cell => length + 1 + cell.length) out.length := by
  induction cells generalizing out with
  | nil => rfl
  | cons cell cells ih =>
      rw [pushCells_cons, ih, String.length_append, String.length_push, List.foldl_cons]

/-- A line of cells is the cells with the separator between them. -/
theorem toList_pushCells (sep : Char) (out : String) (cells : List String) :
    (pushCells sep out cells).toList =
      [sep].intercalate ((out :: cells).map String.toList) := by
  induction cells generalizing out with
  | nil => simp [List.intercalate]
  | cons cell cells ih =>
      rw [pushCells_cons, ih]
      cases cells with
      | nil => simp [List.intercalate]
      | cons next cells => simp [List.intercalate_cons_cons]

/-- Pushing cells is joining them with the separator. -/
theorem intercalate_cons (sep : Char) (out : String) (cells : List String) :
    (String.singleton sep).intercalate (out :: cells) = pushCells sep out cells := by
  apply String.toList_inj.mp
  rw [toList_pushCells, String.toList_intercalate, String.toList_singleton]

/-- Splitting at the separator returns the cells. -/
theorem pieces_pushCells {sep : Char} {out : String} {cells : List String}
    (h : ∀ cell ∈ out :: cells, Free sep cell) :
    pieces sep (pushCells sep out cells) = out :: cells := by
  have hfree : ∀ chars ∈ (out :: cells).map String.toList, sep ∉ chars := by
    intro chars hchars
    rcases List.mem_map.mp hchars with ⟨cell, hcell, rfl⟩
    exact h cell hcell
  unfold pieces
  rw [toList_pushCells, List.splitOn_intercalate sep hfree (by simp), List.map_map]
  exact List.map_id'' (fun cell => String.ofList_toList) _

/-! ## Cells by name -/

/-- The cell of a row that stands under a name of the header. -/
def cellUnder (sep : Char) (header row name : String) : Option String :=
  ((pieces sep header).zip (pieces sep row)).lookup name

/-- Where the names are distinct, every column is found under its name. -/
theorem cellUnder_eq_some {sep : Char} {header row name cell : String}
    {columns : List (String × String)} (hheader : pieces sep header = columns.map Prod.fst)
    (hrow : pieces sep row = columns.map Prod.snd) (hnodup : (columns.map Prod.fst).Nodup)
    (hmem : (name, cell) ∈ columns) : cellUnder sep header row name = some cell := by
  have hzip : (pieces sep header).zip (pieces sep row) = columns :=
    (List.zip_of_prod hheader.symm hrow.symm).symm
  rw [cellUnder, hzip, List.lookup_eq_some_iff]
  rcases List.append_of_mem hmem with ⟨before, after, rfl⟩
  refine ⟨before, after, rfl, fun other hother => ?_⟩
  rw [List.map_append, List.nodup_append] at hnodup
  rw [bne_iff_ne]
  exact (hnodup.2.2 other.1 (List.mem_map_of_mem hother) name (by simp)).symm

/-- Read a cell that is either a placeholder or a value. -/
def readOr {V : Type} (placeholder : String) (read : String → Option V) (cell : String) :
    Option (Option V) :=
  if cell = placeholder then some none else (read cell).map some

/-- The placeholder reads as a missing value. -/
@[simp]
theorem readOr_placeholder {V : Type} (placeholder : String) (read : String → Option V) :
    readOr placeholder read placeholder = some none :=
  if_pos rfl

/-- Any other cell is read as a value. -/
theorem readOr_of_ne {V : Type} {placeholder cell : String} (h : cell ≠ placeholder)
    (read : String → Option V) : readOr placeholder read cell = (read cell).map some :=
  if_neg h

/-! ## Characters that do not occur -/

/-- A concatenation is free of a character when both parts are. -/
theorem free_append {c : Char} {s t : String} : Free c (s ++ t) ↔ Free c s ∧ Free c t := by
  simp [Free, String.toList_append]

/-- With one more character a text is free of every other one it was free of. -/
theorem free_push {c d : Char} {s : String} : Free c (s.push d) ↔ Free c s ∧ c ≠ d := by
  simp [Free, String.toList_push]

/-- A line is free of any character that is neither the separator nor in a cell. -/
theorem free_pushCells {c sep : Char} {out : String} {cells : List String} (hne : c ≠ sep)
    (h : ∀ cell ∈ out :: cells, Free c cell) : Free c (pushCells sep out cells) := by
  induction cells generalizing out with
  | nil => exact h out (by simp)
  | cons cell cells ih =>
      rw [pushCells_cons]
      apply ih
      intro other hother
      rcases List.mem_cons.mp hother with rfl | hrest
      · exact free_append.mpr
          ⟨free_push.mpr ⟨h out (by simp), hne⟩, h cell (by simp)⟩
      · exact h other (by simp [hrest])

/-! ## Decimal integers -/

/-- Decimal digits, with zeros on the left up to the given width. -/
def padded (width n : ℕ) : String :=
  String.ofList ((Nat.toDigits 10 n).leftpad width '0')

/-- A character that is no digit is not among the decimal digits of a number. -/
theorem not_mem_toDigits {c : Char} (hc : c.isDigit = false) (n : ℕ) :
    c ∉ Nat.toDigits 10 n := by
  intro hmem
  have hdigit := Nat.isDigit_of_mem_toDigits (by omega) (by omega) hmem
  rw [hc] at hdigit
  exact absurd hdigit (by simp)

/-- A number in decimal is free of everything that is not a digit. -/
theorem free_toString {c : Char} (hc : c.isDigit = false) (n : ℕ) :
    Free c (toString n) := by
  rw [Free, Nat.toString_eq_ofList_toDigits, String.toList_ofList]
  exact not_mem_toDigits hc n

/-- Padding with zeros keeps a number free of everything that is not a digit. -/
theorem free_padded {c : Char} (hc : c.isDigit = false) (width n : ℕ) :
    Free c (padded width n) := by
  rw [Free, padded, String.toList_ofList, List.leftpad, List.mem_append,
    List.mem_replicate]
  rintro (⟨_, rfl⟩ | hmem)
  · exact absurd hc (by decide)
  · exact not_mem_toDigits hc n hmem

theorem toList_toString_ne_nil (n : ℕ) : (toString n).toList ≠ [] := by
  rw [Nat.toString_eq_ofList_toDigits, String.toList_ofList]
  exact Nat.toDigits_ne_nil

theorem toList_padded_ne_nil (width n : ℕ) : (padded width n).toList ≠ [] := by
  rw [padded, String.toList_ofList]
  exact List.append_ne_nil_of_right_ne_nil _ Nat.toDigits_ne_nil

/-- Some character of the text is a digit. -/
def HasDigit (text : String) : Prop :=
  text.toList.any Char.isDigit = true

instance (text : String) : Decidable (HasDigit text) :=
  inferInstanceAs (Decidable (_ = true))

/-- A concatenation has a digit when one of its parts has. -/
theorem hasDigit_append {s t : String} : HasDigit (s ++ t) ↔ HasDigit s ∨ HasDigit t := by
  simp only [HasDigit, String.toList_append, List.any_append, Bool.or_eq_true]

/-- A number in decimal has a digit. -/
theorem hasDigit_toString (n : ℕ) : HasDigit (toString n) := by
  rcases List.exists_mem_of_ne_nil _ (Nat.toDigits_ne_nil (n := n) (b := 10)) with ⟨c, hc⟩
  rw [HasDigit, Nat.toString_eq_ofList_toDigits, String.toList_ofList]
  exact List.any_eq_true.mpr ⟨c, hc, Nat.isDigit_of_mem_toDigits (by omega) (by omega) hc⟩

/-- A text with a digit is not one without. -/
theorem HasDigit.ne {text placeholder : String} (h : HasDigit text)
    (hplaceholder : ¬HasDigit placeholder) : text ≠ placeholder :=
  fun heq => hplaceholder (heq ▸ h)

/-- Read a decimal integer: one digit or more, and nothing else. -/
def readNat (text : String) : Option ℕ :=
  if text.toList ≠ [] ∧ text.toList.all Char.isDigit then
    some (Nat.ofDigitChars 10 text.toList 0)
  else none

/-- Zeros on the left do not change the number. -/
theorem readNat_zeros (zeros n : ℕ) :
    readNat (String.ofList (List.replicate zeros '0' ++ Nat.toDigits 10 n)) = some n := by
  have hdigits : ∀ c ∈ List.replicate zeros '0' ++ Nat.toDigits 10 n, c.isDigit := by
    intro c hc
    rcases List.mem_append.mp hc with hzero | hdigit
    · rw [List.eq_of_mem_replicate hzero]
      rfl
    · exact Nat.isDigit_of_mem_toDigits (by omega) (by omega) hdigit
  have hne : List.replicate zeros '0' ++ Nat.toDigits 10 n ≠ [] :=
    List.append_ne_nil_of_right_ne_nil _ Nat.toDigits_ne_nil
  rw [readNat, String.toList_ofList, if_pos ⟨hne, List.all_eq_true.mpr hdigits⟩,
    Nat.ofDigitChars_append, Nat.ofDigitChars_replicate_zero, Nat.mul_zero,
    Nat.ofDigitChars_ten_toDigits]

/-- A number in decimal is read back. -/
theorem readNat_toString (n : ℕ) : readNat (toString n) = some n := by
  rw [Nat.toString_eq_ofList_toDigits]
  exact readNat_zeros 0 n

/-- Leading zeros are read over. -/
theorem readNat_padded (width n : ℕ) : readNat (padded width n) = some n :=
  readNat_zeros _ n

/-- A number of few enough digits is padded to the width. -/
theorem length_padded {width n : ℕ} (hwidth : 0 < width) (h : n < 10 ^ width) :
    (padded width n).length = width := by
  rw [padded, String.length_ofList, List.length_leftpad]
  exact Nat.max_eq_left ((Nat.length_toDigits_le_iff (by omega) hwidth).mpr h)

end Delimited

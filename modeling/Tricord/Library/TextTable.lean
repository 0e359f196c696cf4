import Tricord.Library.Delimited
import Mathlib.Data.List.DropRight

/-!
# Text tables

Tables of two padded columns between bars, one line for each row.  Padding
counts characters, and reading a line back trims the spaces around the middle
pieces.

Main results:

- Theorem {lit}`trimSpaces_around`: trimming undoes padding.
- Theorems {lit}`idxsOf_tableLine` and {lit}`pieces_tableLine`: where the bars of a
  line are, and what stands between them.
- Theorem {lit}`pieces_terminated`: splitting a text at its line ends returns the
  lines.
- Theorem {lit}`exists_completeLines`: a text that was cut off still has its first
  lines.
-/

namespace TextTable

open Delimited

/-! ## Padding and trimming -/

/-- A character, this many times. -/
def repeated (c : Char) (n : ℕ) : String :=
  String.ofList (List.replicate n c)

/-- Align to the left of a column. -/
def padEnd (width : ℕ) (text : String) : String :=
  text ++ repeated ' ' (width - text.length)

/-- Align to the right of a column. -/
def padStart (width : ℕ) (text : String) : String :=
  repeated ' ' (width - text.length) ++ text

/-- Drop the spaces at both ends. -/
def trimSpaces (text : String) : String :=
  String.ofList ((text.toList.dropWhile (· = ' ')).rdropWhile (· = ' '))

/-- The text has no space at either end. -/
structure Trimmed (text : String) : Prop where
  head : text.toList.head? ≠ some ' '
  last : text.toList.getLast? ≠ some ' '

/-- The characters of a repetition. -/
@[simp]
theorem toList_repeated (c : Char) (n : ℕ) : (repeated c n).toList = List.replicate n c :=
  String.toList_ofList

/-- A repetition has the length it was asked for. -/
@[simp]
theorem length_repeated (c : Char) (n : ℕ) : (repeated c n).length = n := by
  rw [← String.length_toList, toList_repeated, List.length_replicate]

/-- A repetition is free of every other character. -/
theorem free_repeated {c d : Char} (h : c ≠ d) (n : ℕ) : Free c (repeated d n) := by
  rw [Free, toList_repeated]
  exact fun hmem => h (List.eq_of_mem_replicate hmem)

/-- A text that fits is padded at its end to exactly the width. -/
theorem length_padEnd {width : ℕ} {text : String} (h : text.length ≤ width) :
    (padEnd width text).length = width := by
  rw [padEnd, String.length_append, length_repeated]
  omega

/-- A text that fits is padded at its start to exactly the width. -/
theorem length_padStart {width : ℕ} {text : String} (h : text.length ≤ width) :
    (padStart width text).length = width := by
  rw [padStart, String.length_append, length_repeated]
  omega

/-- A text has at most as many characters as bytes. -/
theorem length_le_utf8ByteSize (text : String) : text.length ≤ text.utf8ByteSize := by
  rw [← String.ofList_toList (s := text)]
  induction text.toList with
  | nil => exact Nat.le_refl _
  | cons c chars ih =>
      have hcons : String.ofList (c :: chars) = String.singleton c ++ String.ofList chars := by
        apply String.toList_inj.mp
        simp
      rw [hcons, String.length_append, String.utf8ByteSize_append, String.utf8ByteSize_singleton,
        String.length_singleton]
      exact Nat.add_le_add c.utf8Size_pos ih

/-- A text without spaces is trimmed. -/
theorem trimmed_of_free {text : String} (h : Free ' ' text) : Trimmed text where
  head := fun hhead => h (List.mem_of_mem_head? hhead)
  last := fun hlast => h (List.mem_of_mem_getLast? hlast)

/-- Only the ends of a text decide whether it is trimmed. -/
theorem trimmed_append {first middle last : String} (hfirst : first.toList ≠ [])
    (hlast : last.toList ≠ []) (hfreeFirst : Free ' ' first) (hfreeLast : Free ' ' last) :
    Trimmed (first ++ middle ++ last) where
  head := by
    rw [String.toList_append, String.toList_append, List.append_assoc,
      List.head?_append_of_ne_nil _ hfirst]
    exact (trimmed_of_free hfreeFirst).head
  last := by
    rw [String.toList_append, List.getLast?_append_of_ne_nil _ hlast]
    exact (trimmed_of_free hfreeLast).last

/-- Trimming at the start runs over any number of spaces. -/
theorem dropWhile_spaces (n : ℕ) (chars : List Char) :
    (List.replicate n ' ' ++ chars).dropWhile (· = ' ') = chars.dropWhile (· = ' ') :=
  List.dropWhile_append_of_pos fun c hc => by simp [List.eq_of_mem_replicate hc]

/-- Trimming at the end runs over any number of spaces. -/
theorem rdropWhile_spaces (n : ℕ) (chars : List Char) :
    (chars ++ List.replicate n ' ').rdropWhile (· = ' ') = chars.rdropWhile (· = ' ') := by
  rw [List.rdropWhile, List.reverse_append, List.reverse_replicate, dropWhile_spaces,
    List.rdropWhile]

/-- Trimming a trimmed text with spaces around it returns the text. -/
theorem trimSpaces_around {text : String} (h : Trimmed text) (before after : ℕ) :
    trimSpaces (repeated ' ' before ++ text ++ repeated ' ' after) = text := by
  rw [trimSpaces, String.toList_append, String.toList_append, toList_repeated, toList_repeated,
    List.append_assoc, dropWhile_spaces]
  apply String.toList_inj.mp
  rw [String.toList_ofList]
  cases hchars : text.toList with
  | nil =>
      have hspaces := dropWhile_spaces after []
      rw [List.append_nil] at hspaces
      rw [List.nil_append, hspaces]
      rfl
  | cons c chars =>
      have hhead : c ≠ ' ' := by simpa [hchars] using h.head
      have hlast : (c :: chars).rdropWhile (· = ' ') = c :: chars := by
        rw [List.rdropWhile_eq_self_iff]
        intro hne hspace
        apply h.last
        rw [hchars, List.getLast?_eq_getLast_of_ne_nil hne, of_decide_eq_true hspace]
      rw [List.cons_append, List.dropWhile_cons_of_neg (by simpa using hhead),
        ← List.cons_append, rdropWhile_spaces, hlast]

/-- A cell that is padded at its end is trimmed back to its text. -/
theorem trimSpaces_padEnd {text : String} (h : Trimmed text) (width : ℕ) :
    trimSpaces (" " ++ padEnd width text ++ " ") = text := by
  have hspaces : " " ++ padEnd width text ++ " " =
      repeated ' ' 1 ++ text ++ repeated ' ' (width - text.length + 1) := by
    apply String.toList_inj.mp
    simp [padEnd, List.replicate_succ']
  rw [hspaces, trimSpaces_around h]

/-- A cell that is padded at its start is trimmed back to its text. -/
theorem trimSpaces_padStart {text : String} (h : Trimmed text) (width : ℕ) :
    trimSpaces (" " ++ padStart width text ++ " ") = text := by
  have hspaces : " " ++ padStart width text ++ " " =
      repeated ' ' (width - text.length + 1) ++ text ++ repeated ' ' 1 := by
    apply String.toList_inj.mp
    simp [padStart, List.replicate_succ]
  rw [hspaces, trimSpaces_around h]

/-! ## Lines -/

/-- Two columns between bars. -/
def tableLine (left right : String) : String :=
  "|" ++ left ++ "|" ++ right ++ "|"

/-- A table line is a delimited line with bars at both ends. -/
theorem tableLine_eq (left right : String) :
    tableLine left right = pushCells '|' "" [left, right, ""] := by
  apply String.toList_inj.mp
  simp [tableLine, pushCells]

/-- The characters of a table line. -/
theorem toList_tableLine (left right : String) :
    (tableLine left right).toList =
      '|' :: (left.toList ++ '|' :: (right.toList ++ ['|'])) := by
  simp [tableLine]

/-- A table line is its two cells and three bars. -/
theorem length_tableLine (left right : String) :
    (tableLine left right).length = left.length + right.length + 3 := by
  rw [← String.length_toList, toList_tableLine]
  simp only [List.length_cons, List.length_append, List.length_nil, String.length_toList]
  omega

/-- The bars of a line. -/
theorem idxsOf_tableLine {left right : String} (hleft : Free '|' left) (hright : Free '|' right) :
    (tableLine left right).toList.idxsOf '|' =
      [0, left.length + 1, left.length + right.length + 2] := by
  have hnone : ∀ {text : String} (start : ℕ), Free '|' text →
      text.toList.idxsOf '|' start = [] := by
    intro text start hfree
    rw [List.idxsOf_eq_nil_iff]
    intro c hc
    exact beq_eq_false_iff_ne.mpr fun heq => hfree (heq ▸ hc)
  rw [toList_tableLine]
  simp only [List.idxsOf_cons, List.idxsOf_append, List.idxsOf_nil, hnone _ hleft,
    hnone _ hright, beq_self_eq_true, if_true, List.nil_append, String.length_toList]
  congr 2
  · omega
  · congr 1
    omega

/-- What stands between the bars of a line. -/
theorem pieces_tableLine {left right : String} (hleft : Free '|' left) (hright : Free '|' right) :
    pieces '|' (tableLine left right) = ["", left, right, ""] := by
  rw [tableLine_eq]
  apply pieces_pushCells
  simp only [List.forall_mem_cons]
  exact ⟨by simp [Free], hleft, hright, by simp [Free], by simp⟩

/-- A table line is free of any other character that its cells are free of. -/
theorem free_tableLine {c : Char} {left right : String} (hbar : c ≠ '|') (hleft : Free c left)
    (hright : Free c right) : Free c (tableLine left right) := by
  rw [tableLine_eq]
  apply free_pushCells hbar
  simp only [List.forall_mem_cons]
  exact ⟨by simp [Free], hleft, hright, by simp [Free], by simp⟩

/-- Read back a line: the trimmed columns. -/
def readLine (line : String) : Option (String × String) :=
  match pieces '|' line with
  | [_, left, right, _] => some (trimSpaces left, trimSpaces right)
  | _ => none

/-- A table line is read back as its cells, trimmed. -/
theorem readLine_tableLine {left right : String} (hleft : Free '|' left)
    (hright : Free '|' right) :
    readLine (tableLine left right) = some (trimSpaces left, trimSpaces right) := by
  rw [readLine, pieces_tableLine hleft hright]

/-! ## Texts of terminated lines -/

/-- Append every line to a text, each before a line end. -/
def terminated (out : String) (lines : List String) : String :=
  lines.foldl (fun out line => (out ++ line).push '\n') out

/-- Terminated lines are the lines, each followed by a line feed. -/
theorem toList_terminated (out : String) (lines : List String) :
    (terminated out lines).toList =
      out.toList ++ (lines.map fun line => line.toList ++ ['\n']).flatten := by
  induction lines generalizing out with
  | nil => simp [terminated]
  | cons line lines ih =>
      rw [terminated, List.foldl_cons, ← terminated, ih]
      simp

/-- Splitting at the line ends returns the lines and the empty rest. -/
theorem pieces_terminated {lines : List String} (h : ∀ line ∈ lines, Free '\n' line) :
    pieces '\n' (terminated "" lines) = lines ++ [""] := by
  unfold pieces
  rw [toList_terminated, String.toList_empty, List.nil_append]
  induction lines with
  | nil => rfl
  | cons line lines ih =>
      rw [List.map_cons, List.flatten_cons, List.append_assoc, List.singleton_append,
        List.splitOn_append_cons_self_of_not_mem (h line (by simp)), List.map_cons,
        ih fun other hother => h other (List.mem_cons_of_mem line hother), String.ofList_toList]
      rfl

/-! ## Texts that were cut off -/

/-- The lines of a text that end in a line end. -/
def completeLines (text : List Char) : List String :=
  (text.splitOn '\n').dropLast.map String.ofList

/-- Text without a line feed has no complete line. -/
theorem completeLines_of_free {text : List Char} (h : '\n' ∉ text) : completeLines text = [] := by
  rw [completeLines, List.splitOn_eq_singleton h]
  rfl

/-- Text behind a line feed starts a new line. -/
theorem completeLines_cons {line : String} (h : Free '\n' line) (text : List Char) :
    completeLines (line.toList ++ '\n' :: text) = line :: completeLines text := by
  rw [completeLines, List.splitOn_append_cons_self_of_not_mem h,
    List.dropLast_cons_of_ne_nil (List.splitOn_ne_nil _ _), List.map_cons, String.ofList_toList]
  rfl

/-- The first terminated line comes before the others. -/
theorem toList_terminated_cons (line : String) (lines : List String) :
    (terminated "" (line :: lines)).toList =
      line.toList ++ '\n' :: (terminated "" lines).toList := by
  simp [toList_terminated]

/-- Cutting off a text of lines leaves the first of them complete, at least those that
were there before the cut. -/
theorem exists_completeLines {lines : List String} (h : ∀ line ∈ lines, Free '\n' line)
    {text : List Char} (hcut : text <+: (terminated "" lines).toList) :
    ∃ k, completeLines text = lines.take k ∧
      ∀ j ≤ lines.length, (terminated "" (lines.take j)).toList <+: text → j ≤ k := by
  induction lines generalizing text with
  | nil =>
      have hempty : text = [] := by simpa [terminated] using hcut
      subst hempty
      exact ⟨0, completeLines_of_free (by simp), fun j hj _ => hj⟩
  | cons line lines ih =>
      have hline : Free '\n' line := h line (by simp)
      rw [toList_terminated_cons] at hcut
      have hwhere : text <+: line.toList ∨ ∃ rest, text = line.toList ++ '\n' :: rest := by
        rw [List.append_cons] at hcut
        rcases List.prefix_or_prefix_of_prefix hcut
          (List.prefix_append (line.toList ++ ['\n']) _) with hshort | ⟨rest, rfl⟩
        · exact (List.prefix_concat_iff.mp hshort).symm.imp_right fun heq => ⟨[], heq⟩
        · exact .inr ⟨rest, by rw [← List.append_cons]⟩
      rcases hwhere with hinside | ⟨rest, rfl⟩
      · refine ⟨0, completeLines_of_free fun hmem => hline (hinside.subset hmem), ?_⟩
        intro j _ hwithin
        cases j with
        | zero => exact Nat.le_refl 0
        | succ j =>
            rw [List.take_succ_cons, toList_terminated_cons] at hwithin
            have hlength := (hwithin.trans hinside).length_le
            rw [List.length_append, List.length_cons] at hlength
            omega
      · have hrest : rest <+: (terminated "" lines).toList := by
          rw [List.prefix_append_right_inj, List.cons_prefix_cons] at hcut
          exact hcut.2
        rcases ih (fun other hother => h other (List.mem_cons_of_mem line hother)) hrest with
          ⟨k, hcomplete, hmost⟩
        refine ⟨k + 1, ?_, ?_⟩
        · rw [completeLines_cons hline, hcomplete, List.take_succ_cons]
        · intro j hj hwithin
          cases j with
          | zero => exact Nat.zero_le _
          | succ j =>
              rw [List.take_succ_cons, toList_terminated_cons, List.prefix_append_right_inj,
                List.cons_prefix_cons] at hwithin
              exact Nat.succ_le_succ (hmost j (Nat.le_of_succ_le_succ hj) hwithin.2)

end TextTable

import Tricord.Library.KeyedMaxima
import Tricord.Library.TextTable
import Tricord.Record.Agreement
import Tricord.Record.Clock

/-!
# The Markdown table

The rows of a record as a table of two columns.  The widths of the columns are
measured in bytes, the padding counts characters, and the alignment row is put
together from dashes by a formula of its own.  A character takes at least one
byte, so every cell fits its column.

Main results:

- Theorem {lit}`toMarkdownDocument_eq`: the document consists of terminated table
  lines.
- Theorem {lit}`toMarkdownDocument_wellFormed`: its lines have the same length and
  the same bars, and reading them back returns the rows.
-/

namespace Tricord

open Delimited TextTable

/-! ## The document -/

/-- The width of the longest cell of a column, its title included. -/
def columnWidth (title : String) (cells : List String) : ℕ :=
  max ((cells.map String.utf8ByteSize).max?.getD 0) title.utf8ByteSize

namespace BenchmarkRecord

variable {F : Type} [Zero F] (fmt : FloatFormat F)

/-- Render a record as a Markdown table. -/
def toMarkdownDocument (self : BenchmarkRecord F) (mode : SchemaMode) : String :=
  let rows := self.markdownRows fmt mode
  let metricW := columnWidth "metric" (rows.map Prod.fst)
  let valueW := columnWidth "value" (rows.map Prod.snd)
  let out := ""
  let out := (out ++ ("| " ++ padEnd metricW "metric" ++ " | " ++ padStart valueW "value" ++
    " |")).push '\n'
  let out := (out ++ ("|:" ++ repeated '-' (metricW + 1) ++ "|" ++ repeated '-' (valueW + 1) ++
    ":|")).push '\n'
  rows.foldl (fun out row =>
    (out ++ ("| " ++ padEnd metricW row.1 ++ " | " ++ padStart valueW row.2 ++ " |")).push '\n') out

end BenchmarkRecord

/-! ## Cells and columns -/

/-- The title fits into its column. -/
theorem title_length_le_columnWidth (title : String) (cells : List String) :
    title.length ≤ columnWidth title cells :=
  (length_le_utf8ByteSize title).trans (le_max_right _ _)

/-- Every cell fits its column. -/
theorem length_le_columnWidth (title : String) {cells : List String} {cell : String}
    (h : cell ∈ cells) : cell.length ≤ columnWidth title cells :=
  ((length_le_utf8ByteSize cell).trans
    (KeyedMaxima.le_max?_getD 0 (List.mem_map_of_mem h))).trans (le_max_left _ _)

/-- What a cell must be like to be read back from its column. -/
structure PlainCell (text : String) : Prop where
  trimmed : Trimmed text
  bar : Free '|' text
  newline : Free '\n' text

/-- Two cells in their columns. -/
def cellsLine (metricW valueW : ℕ) (cells : String × String) : String :=
  tableLine (" " ++ padEnd metricW cells.1 ++ " ") (" " ++ padStart valueW cells.2 ++ " ")

/-- The line that gives the alignment of the columns. -/
def alignmentLine (metricW valueW : ℕ) : String :=
  tableLine (":" ++ repeated '-' (metricW + 1)) (repeated '-' (valueW + 1) ++ ":")

/-- What all lines of a table have in common. -/
structure IsLine (metricW valueW : ℕ) (line : String) : Prop where
  length : line.length = metricW + valueW + 7
  bars : line.toList.idxsOf '|' = [0, metricW + 3, metricW + valueW + 6]
  newline : Free '\n' line

/-- Two padded cells without bars make a line of the table. -/
theorem isLine_tableLine {metricW valueW : ℕ} {left right : String}
    (hleft : left.length = metricW + 2) (hright : right.length = valueW + 2)
    (hbars : Free '|' left ∧ Free '|' right) (hnewlines : Free '\n' left ∧ Free '\n' right) :
    IsLine metricW valueW (tableLine left right) where
  length := by
    rw [length_tableLine, hleft, hright]
    omega
  bars := by
    rw [idxsOf_tableLine hbars.1 hbars.2, hleft, hright, Nat.add_right_comm metricW 2 1,
      show metricW + 2 + (valueW + 2) + 2 = metricW + valueW + 6 by omega]
  newline := free_tableLine (by decide) hnewlines.1 hnewlines.2

section Lines

variable {metricW valueW : ℕ}

/-- The alignment line is a line of the table. -/
theorem isLine_alignmentLine : IsLine metricW valueW (alignmentLine metricW valueW) := by
  have hfree : ∀ {c : Char} (n : ℕ), c ≠ ':' → c ≠ '-' →
      Free c (":" ++ repeated '-' n) ∧ Free c (repeated '-' n ++ ":") := by
    intro c n hcolon hdash
    have hsign : Free c ":" := by simpa [Free] using hcolon
    exact ⟨free_append.mpr ⟨hsign, free_repeated hdash n⟩,
      free_append.mpr ⟨free_repeated hdash n, hsign⟩⟩
  apply isLine_tableLine
  · rw [String.length_append, length_repeated]
    exact Nat.add_comm 1 (metricW + 1)
  · rw [String.length_append, length_repeated]
    rfl
  · exact ⟨(hfree _ (by decide) (by decide)).1, (hfree _ (by decide) (by decide)).2⟩
  · exact ⟨(hfree _ (by decide) (by decide)).1, (hfree _ (by decide) (by decide)).2⟩

/-- A padded cell between spaces is free of what the cell is free of. -/
theorem free_padded_cell {c : Char} (hspace : c ≠ ' ') {cell : String} (h : Free c cell)
    (width : ℕ) :
    Free c (" " ++ padEnd width cell ++ " ") ∧ Free c (" " ++ padStart width cell ++ " ") := by
  have hblank : Free c " " := by simpa [Free] using hspace
  have hpad : Free c (repeated ' ' (width - cell.length)) := free_repeated hspace _
  simp only [padEnd, padStart, free_append]
  exact ⟨⟨⟨hblank, h, hpad⟩, hblank⟩, ⟨hblank, hpad, h⟩, hblank⟩

/-- Cells that fit into their columns make a line of the table. -/
theorem isLine_cellsLine {cells : String × String} (hmetric : PlainCell cells.1)
    (hvalue : PlainCell cells.2) (hmetricW : cells.1.length ≤ metricW)
    (hvalueW : cells.2.length ≤ valueW) :
    IsLine metricW valueW (cellsLine metricW valueW cells) := by
  apply isLine_tableLine
  · rw [String.length_append, String.length_append, length_padEnd hmetricW]
    change 1 + metricW + 1 = metricW + 2
    omega
  · rw [String.length_append, String.length_append, length_padStart hvalueW]
    change 1 + valueW + 1 = valueW + 2
    omega
  · exact ⟨(free_padded_cell (by decide) hmetric.bar _).1,
      (free_padded_cell (by decide) hvalue.bar _).2⟩
  · exact ⟨(free_padded_cell (by decide) hmetric.newline _).1,
      (free_padded_cell (by decide) hvalue.newline _).2⟩

/-- Reading back a line returns its cells. -/
theorem readLine_cellsLine {cells : String × String} (hmetric : PlainCell cells.1)
    (hvalue : PlainCell cells.2) :
    readLine (cellsLine metricW valueW cells) = some cells := by
  rw [cellsLine, readLine_tableLine (free_padded_cell (by decide) hmetric.bar _).1
    (free_padded_cell (by decide) hvalue.bar _).2, trimSpaces_padEnd hmetric.trimmed,
    trimSpaces_padStart hvalue.trimmed]

end Lines

/-! ## The cells of a record -/

/-- A clock starts and ends with a digit. -/
theorem trimmed_formatHms {F : Type} (fmt : FloatFormat F) (seconds : F) :
    Trimmed (formatHms fmt seconds) := by
  have hdigits : ∀ (n : ℕ) (middle : String) (ss : ℕ),
      Trimmed (toString n ++ middle ++ padded 2 ss) := fun n middle ss =>
    trimmed_append (toList_toString_ne_nil n) (toList_padded_ne_nil 2 ss)
      (free_toString (by decide) n) (free_padded (by decide) 2 ss)
  have hclock : ∀ (n : ℕ) (middle : String) (hh mm ss : ℕ),
      Trimmed (toString n ++ middle ++ clockText hh mm ss) := by
    intro n middle hh mm ss
    rw [clockText, ← String.append_assoc]
    simpa only [String.append_assoc] using
      hdigits n (middle ++ (toString hh ++ ":" ++ padded 2 mm ++ ":")) ss
  rw [formatHms_eq]
  split_ifs
  · rw [clockText]
    simpa only [String.append_assoc] using hdigits _ (":" ++ padded 2 _ ++ ":") _
  · exact hclock 1 " day, " _ _ _
  · exact hclock _ " days, " _ _ _

namespace BenchmarkRecord

variable {F : Type} [Zero F]

/-- Labels are plain cells. -/
theorem plainCell_of_mem_markdownLabels (mode : SchemaMode) :
    ∀ label ∈ markdownLabels mode, PlainCell label := by
  have hfree : ∀ label ∈ markdownLabels mode,
      Free ' ' label ∧ Free '|' label ∧ Free '\n' label := by
    cases mode <;> decide +kernel
  intro label hlabel
  rcases hfree label hlabel with ⟨hspace, hbar, hnewline⟩
  exact ⟨trimmed_of_free hspace, hbar, hnewline⟩

variable {fmt : FloatFormat F}

/-- The rows of a record are plain cells. -/
theorem plainCell_of_mem_markdownRows (hspace : fmt.FreeOf ' ') (hbar : fmt.FreeOf '|')
    (hnewline : fmt.FreeOf '\n') (record : BenchmarkRecord F) (mode : SchemaMode) :
    ∀ row ∈ record.markdownRows fmt mode, PlainCell row.1 ∧ PlainCell row.2 := by
  have htrimmed : ∀ row ∈ record.markdownRows fmt mode, Trimmed row.2 :=
    forall_mem_markdownRows (fun digits x => trimmed_of_free (hspace digits x))
      (trimmed_formatHms fmt) (fun n => trimmed_of_free (free_toString (by decide) n))
      (trimmed_of_free (by decide)) (trimmed_of_free (by decide)) record mode
  intro row hrow
  have hlabel : row.1 ∈ markdownLabels mode :=
    markdownRows_fst fmt record mode ▸ List.mem_map_of_mem hrow
  exact ⟨plainCell_of_mem_markdownLabels mode row.1 hlabel, htrimmed row hrow,
    free_of_mem_markdownRows hbar (by decide) record mode row hrow,
    free_of_mem_markdownRows hnewline (by decide) record mode row hrow⟩

/-! ## The table -/

/-- The document consists of terminated table lines. -/
theorem toMarkdownDocument_eq (record : BenchmarkRecord F) (mode : SchemaMode) :
    let rows := record.markdownRows fmt mode
    let metricW := columnWidth "metric" (rows.map Prod.fst)
    let valueW := columnWidth "value" (rows.map Prod.snd)
    record.toMarkdownDocument fmt mode =
      terminated "" (cellsLine metricW valueW ("metric", "value") ::
        alignmentLine metricW valueW :: rows.map (cellsLine metricW valueW)) := by
  intro rows metricW valueW
  have hline : ∀ cells : String × String,
      "| " ++ padEnd metricW cells.1 ++ " | " ++ padStart valueW cells.2 ++ " |" =
        cellsLine metricW valueW cells := by
    intro cells
    apply String.toList_inj.mp
    simp [cellsLine, tableLine]
  have halignment : "|:" ++ repeated '-' (metricW + 1) ++ "|" ++ repeated '-' (valueW + 1) ++ ":|" =
      alignmentLine metricW valueW := by
    apply String.toList_inj.mp
    simp [alignmentLine, tableLine]
  rw [terminated, List.foldl_cons, List.foldl_cons, List.foldl_map, ← halignment]
  simp only [← hline]
  rfl

/-- The table is well formed and loses nothing: one terminated line for each row
after two more, all lines of the same length with three bars in the same places,
and reading the lines of the rows back returns the rows. -/
theorem toMarkdownDocument_wellFormed (record : BenchmarkRecord F) (mode : SchemaMode)
    (hspace : fmt.FreeOf ' ') (hbar : fmt.FreeOf '|') (hnewline : fmt.FreeOf '\n') :
    let rows := record.markdownRows fmt mode
    ∃ lines length second third,
      pieces '\n' (record.toMarkdownDocument fmt mode) = lines ++ [""] ∧
        lines.length = rows.length + 2 ∧
        (∀ line ∈ lines, line.length = length ∧ line.toList.idxsOf '|' = [0, second, third]) ∧
        (lines.drop 2).map readLine = rows.map some := by
  intro rows
  set metricW := columnWidth "metric" (rows.map Prod.fst)
  set valueW := columnWidth "value" (rows.map Prod.snd)
  have hplain : ∀ row ∈ rows, PlainCell row.1 ∧ PlainCell row.2 :=
    plainCell_of_mem_markdownRows hspace hbar hnewline record mode
  have hlines : ∀ line ∈ cellsLine metricW valueW ("metric", "value") ::
      alignmentLine metricW valueW :: rows.map (cellsLine metricW valueW),
      IsLine metricW valueW line := by
    simp only [List.forall_mem_cons, List.forall_mem_map]
    refine ⟨?_, isLine_alignmentLine, ?_⟩
    · exact isLine_cellsLine ⟨trimmed_of_free (by decide), by decide, by decide⟩
        ⟨trimmed_of_free (by decide), by decide, by decide⟩
        (title_length_le_columnWidth _ _) (title_length_le_columnWidth _ _)
    · intro row hrow
      exact isLine_cellsLine (hplain row hrow).1 (hplain row hrow).2
        (length_le_columnWidth _ (List.mem_map_of_mem hrow))
        (length_le_columnWidth _ (List.mem_map_of_mem hrow))
  refine ⟨_, metricW + valueW + 7, metricW + 3, metricW + valueW + 6, ?_, ?_,
    fun line hline => ⟨(hlines line hline).length, (hlines line hline).bars⟩, ?_⟩
  · rw [toMarkdownDocument_eq, pieces_terminated fun line hline => (hlines line hline).newline]
  · simp
  · rw [List.drop_succ_cons, List.drop_succ_cons, List.drop_zero, List.map_map]
    apply List.map_congr_left
    intro row hrow
    exact readLine_cellsLine (hplain row hrow).1 (hplain row hrow).2

/-- With exact rationals, for a run of more than a day. -/
theorem toMarkdownDocument_wellFormed_exact :
    let record : BenchmarkRecord ℚ :=
      { runningTime := 90061, maxRss := some (21 / 2), cpuTime := 1 / 4, peakNProcs := 3,
        dataCollected := true }
    let rows := record.markdownRows exactFormat .full
    ∃ lines length second third,
      pieces '\n' (record.toMarkdownDocument exactFormat .full) = lines ++ [""] ∧
        lines.length = rows.length + 2 ∧
        (∀ line ∈ lines, line.length = length ∧ line.toList.idxsOf '|' = [0, second, third]) ∧
        (lines.drop 2).map readLine = rows.map some :=
  toMarkdownDocument_wellFormed _ .full
    (exactFormat_freeOf (by decide) (by decide) (by decide))
    (exactFormat_freeOf (by decide) (by decide) (by decide))
    (exactFormat_freeOf (by decide) (by decide) (by decide))

end BenchmarkRecord

end Tricord

import Tricord.Record.Format

/-!
# The TSV document and the Markdown table agree

The two renderings of a record share no code.  This module proves that the TSV
row consists of the value strings of the Markdown rows and the header of their
labels, for both schema modes.

Main results:

- Theorem {lit}`toTsvRow_eq`: the TSV row joins the values of the Markdown rows.
- Theorem {lit}`toTsvDocument_agrees`: reading the document back gives the labels
  and the values of the Markdown rows.
-/

namespace Tricord

open Delimited

namespace BenchmarkRecord

variable {F : Type} [Zero F] (fmt : FloatFormat F)

/-! ## The row -/

/-- Appending a tab is pushing the separator. -/
theorem append_tab (out : String) : out ++ "\t" = out.push '\t' := by
  apply String.toList_inj.mp
  simp

/-- The values of the Markdown rows start with the running time. -/
theorem markdownRows_snd (record : BenchmarkRecord F) (mode : SchemaMode) :
    (record.markdownRows fmt mode).map Prod.snd =
      fmt.fixed 4 record.runningTime ::
        ((record.markdownRows fmt mode).map Prod.snd).tail := by
  cases mode <;> rfl

/-- Without data, the row repeats the placeholder. -/
theorem foldl_na (n : ℕ) (out : String) :
    (List.range n).foldl (fun out _ => out ++ "\tNA") out =
      pushCells '\t' out (List.replicate n "NA") := by
  have hcell : ∀ out : String, out ++ "\tNA" = out.push '\t' ++ "NA" := by
    intro out
    apply String.toList_inj.mp
    simp
  induction n with
  | zero => rfl
  | succ n ih =>
      rw [List.range_succ, List.foldl_append, ih, List.replicate_succ', pushCells_append]
      exact hcell _

/-- A loop that appends rendered values appends cells. -/
theorem foldl_render {V : Type} (render : V → String) (values : List V) (out : String) :
    values.foldl (fun out value => out.push '\t' ++ render value) out =
      pushCells '\t' out (values.map render) :=
  List.foldl_map.symm

/-- Appending a tab and a cell is pushing the cell. -/
theorem append_tab_cell (out cell : String) :
    out ++ "\t" ++ cell = pushCells '\t' out [cell] := by
  rw [append_tab]
  rfl

/-- The TSV row joins the values of the Markdown rows. -/
theorem toTsvRow_eq (record : BenchmarkRecord F) (mode : SchemaMode) :
    record.toTsvRow fmt mode =
      pushCells '\t' (fmt.fixed 4 record.runningTime)
        ((record.markdownRows fmt mode).map Prod.snd).tail := by
  unfold toTsvRow
  cases hdata : record.dataCollected with
  | false =>
      have hvalues : ∀ n, ((record.markdownRows fmt mode).map Prod.snd).tail =
          [formatHms fmt record.runningTime] ++ List.replicate n "NA" →
          pushCells '\t' (fmt.fixed 4 record.runningTime)
            ((record.markdownRows fmt mode).map Prod.snd).tail =
          (List.range n).foldl (fun out _ => out ++ "\tNA")
            (fmt.fixed 4 record.runningTime ++ "\t" ++ formatHms fmt record.runningTime) := by
        intro n hn
        rw [hn, pushCells_append, foldl_na, append_tab_cell]
      cases mode with
      | full => exact (hvalues 19 (by simp [markdownRows, hdata, List.replicate])).symm
      | snakemakeStrict =>
          exact (hvalues 8 (by simp [markdownRows, hdata, List.replicate])).symm
  | true =>
      simp only [Bool.not_true, Bool.false_eq_true, if_false, foldl_render, append_tab_cell,
        ← pushCells_append]
      cases mode with
      | full => simp [markdownRows, hdata, pushCells]
      | snakemakeStrict => simp [markdownRows, hdata, pushCells]

/-- No cell of the row contains a character that rendered numbers do not
contain. -/
theorem free_of_mem_tsvCells {fmt : FloatFormat F} {c : Char} (hfmt : fmt.FreeOf c)
    (hc : ¬CellChar c) (record : BenchmarkRecord F) (mode : SchemaMode) :
    ∀ cell ∈ fmt.fixed 4 record.runningTime ::
      ((record.markdownRows fmt mode).map Prod.snd).tail, Free c cell := by
  intro cell hcell
  rw [← markdownRows_snd] at hcell
  rcases List.mem_map.mp hcell with ⟨row, hrow, rfl⟩
  exact free_of_mem_markdownRows hfmt hc record mode row hrow

/-- The row splits into the values of the Markdown rows. -/
theorem pieces_toTsvRow {fmt : FloatFormat F} (htab : fmt.FreeOf '\t')
    (record : BenchmarkRecord F) (mode : SchemaMode) :
    pieces '\t' (record.toTsvRow fmt mode) = (record.markdownRows fmt mode).map Prod.snd := by
  rw [toTsvRow_eq, pieces_pushCells (free_of_mem_tsvCells htab (by decide) record mode),
    ← markdownRows_snd]

/-! ## The header -/

/-- The labels of the Markdown rows. -/
def markdownLabels : SchemaMode → List String
  | .full =>
      ["s", "h:m:s", "max_rss", "max_vms", "max_uss", "max_pss", "io_in", "io_out",
        "mean_load", "cpu_time", "major_page_faults", "minor_page_faults",
        "voluntary_ctx_switches", "involuntary_ctx_switches", "peak_n_threads",
        "peak_n_procs", "loadavg_1m_start", "loadavg_1m_end", "max_swap",
        "page_cache_start", "page_cache_end"]
  | .snakemakeStrict =>
      ["s", "h:m:s", "max_rss", "max_vms", "max_uss", "max_pss", "io_in", "io_out",
        "mean_load", "cpu_time"]

/-- The names of the Markdown rows do not depend on the record. -/
theorem markdownRows_fst (record : BenchmarkRecord F) (mode : SchemaMode) :
    (record.markdownRows fmt mode).map Prod.fst = markdownLabels mode := by
  cases mode <;> rfl

/-- No label contains a separator. -/
theorem free_of_mem_markdownLabels (mode : SchemaMode) :
    ∀ label ∈ markdownLabels mode, Free '\t' label ∧ Free '\n' label := by
  cases mode <;> decide +kernel

/-- The header joins the labels of the Markdown rows. -/
theorem tsvHeader_eq (mode : SchemaMode) :
    ∃ first rest, markdownLabels mode = first :: rest ∧
      tsvHeader mode = pushCells '\t' first rest := by
  cases mode with
  | full => exact ⟨_, _, rfl, by decide +kernel⟩
  | snakemakeStrict => exact ⟨_, _, rfl, by decide +kernel⟩

/-- The header splits into the labels of the Markdown rows. -/
theorem pieces_tsvHeader (mode : SchemaMode) :
    pieces '\t' (tsvHeader mode) = markdownLabels mode := by
  rcases tsvHeader_eq mode with ⟨first, rest, hlabels, hheader⟩
  rw [hheader, hlabels]
  apply pieces_pushCells
  rw [← hlabels]
  exact fun label hlabel => (free_of_mem_markdownLabels mode label hlabel).1

/-- A header is a single line. -/
theorem free_tsvHeader (mode : SchemaMode) : Free '\n' (tsvHeader mode) := by
  rcases tsvHeader_eq mode with ⟨first, rest, hlabels, hheader⟩
  rw [hheader]
  apply free_pushCells (by decide)
  rw [← hlabels]
  exact fun label hlabel => (free_of_mem_markdownLabels mode label hlabel).2

/-! ## The document -/

/-- The document is the header line and the row line, each terminated. -/
theorem toTsvDocument_eq (record : BenchmarkRecord F) (mode : SchemaMode) :
    record.toTsvDocument fmt mode =
      pushCells '\n' (tsvHeader mode) [record.toTsvRow fmt mode, ""] := by
  apply String.toList_inj.mp
  simp [toTsvDocument, pushCells]

/-- The TSV document and the Markdown rows never drift apart: the document is two
newline-terminated lines, the first splits at tabs into the labels of the rows
and the second into their values. -/
theorem toTsvDocument_agrees (record : BenchmarkRecord F) (mode : SchemaMode)
    (htab : fmt.FreeOf '\t') (hnewline : fmt.FreeOf '\n') :
    ∃ header row,
      pieces '\n' (record.toTsvDocument fmt mode) = [header, row, ""] ∧
        pieces '\t' header = (record.markdownRows fmt mode).map Prod.fst ∧
        pieces '\t' row = (record.markdownRows fmt mode).map Prod.snd ∧
        (pieces '\t' header).zip (pieces '\t' row) = record.markdownRows fmt mode := by
  have hrow := pieces_toTsvRow htab record mode
  have hfree : Free '\n' (record.toTsvRow fmt mode) := by
    rw [toTsvRow_eq]
    exact free_pushCells (by decide) (free_of_mem_tsvCells hnewline (by decide) record mode)
  have hheader : pieces '\t' (tsvHeader mode) =
      (record.markdownRows fmt mode).map Prod.fst := by
    rw [pieces_tsvHeader, markdownRows_fst]
  refine ⟨tsvHeader mode, record.toTsvRow fmt mode, ?_, hheader, hrow, ?_⟩
  · rw [toTsvDocument_eq, pieces_pushCells]
    intro line hline
    simp only [List.mem_cons, List.not_mem_nil, or_false] at hline
    rcases hline with rfl | rfl | rfl
    · exact free_tsvHeader mode
    · exact hfree
    · decide
  · exact (List.zip_of_prod hheader.symm hrow.symm).symm

/-- With exact rationals, for a short run of three processes. -/
theorem toTsvDocument_agrees_exact :
    let record : BenchmarkRecord ℚ :=
      { runningTime := 1 / 2, maxRss := some (21 / 2), cpuTime := 1 / 4, peakNProcs := 3,
        dataCollected := true }
    ∃ header row,
      pieces '\n' (record.toTsvDocument exactFormat .full) = [header, row, ""] ∧
        pieces '\t' header = (record.markdownRows exactFormat .full).map Prod.fst ∧
        pieces '\t' row = (record.markdownRows exactFormat .full).map Prod.snd ∧
        (pieces '\t' header).zip (pieces '\t' row) = record.markdownRows exactFormat .full :=
  toTsvDocument_agrees exactFormat _ .full
    (exactFormat_freeOf (by decide) (by decide) (by decide))
    (exactFormat_freeOf (by decide) (by decide) (by decide))

/-- The row of a run that ended before the first sample. -/
example : ({ runningTime := 617 / 5000 } : BenchmarkRecord ℚ).toTsvRow exactFormat
    .snakemakeStrict = "0.1234\t0:00:00\tNA\tNA\tNA\tNA\tNA\tNA\tNA\tNA" := by
  decide +kernel

end BenchmarkRecord

end Tricord

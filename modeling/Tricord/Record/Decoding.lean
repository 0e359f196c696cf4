import Tricord.Record.Agreement

/-!
# Reading the rows back

A trace row and an aggregate row are texts in which a dash stands for a missing
value and the aggregate row writes a placeholder of its own when nothing was
sampled.  This module reads both rows back by the names of their headers.  The
numbers that are rendered with a fixed precision come back as their renderings,
everything else exactly.

Main results:

- Theorem {lit}`readCounter_formatOptionalU64`: an optional counter is read back
  exactly.
- Theorem {lit}`TickRecord.readTraceRow_toTsvRow`: a trace row is read back field by
  field.
- Theorem {lit}`tsvRows_decode`: trace rows and aggregate rows keep counters and
  missing values.
-/

namespace Tricord

open Delimited BoundedNat

/-! ## Cells -/

/-- No rendered number is one of the two placeholders. -/
def FloatFormat.NoPlaceholder {F : Type} (fmt : FloatFormat F) : Prop :=
  ∀ digits x, fmt.fixed digits x ≠ "-" ∧ fmt.fixed digits x ≠ "NA"

/-- The exact format writes no placeholder. -/
theorem exactFormat_noPlaceholder : exactFormat.NoPlaceholder := fun digits x =>
  ⟨(Decimal.hasDigit_fixed digits x).ne (by decide),
    (Decimal.hasDigit_fixed digits x).ne (by decide)⟩

/-- A format pulled back along a function writes no new texts. -/
theorem FloatFormat.NoPlaceholder.comap {F G : Type} {fmt : FloatFormat F}
    (h : fmt.NoPlaceholder) (f : G → F) : (fmt.comap f).NoPlaceholder :=
  fun digits x => h digits (f x)

/-- Read a cell that holds a counter or is missing. -/
def readCounter : String → Option (Option U64) :=
  readOr "-" fun text => (readNat text).bind ofNat?

/-- Read a cell that holds a rendered number or is missing. -/
def readOptionalFloat : String → Option (Option String) :=
  readOr "-" some

/-- A counter is read back exactly, over all 64-bit values. -/
theorem readCounter_formatOptionalU64 (value : Option U64) :
    readCounter (formatOptionalU64 value) = some value := by
  cases value with
  | none => exact readOr_placeholder _ _
  | some v =>
      have hne : toString v.toNat ≠ "-" := (hasDigit_toString v.toNat).ne (by decide)
      rw [formatOptionalU64, readCounter, readOr_of_ne hne, readNat_toString, Option.bind_some,
        ofNat?_toNat, Option.map_some]

/-- An optional number is read back as its text. -/
theorem readOptionalFloat_formatOptionalFloat {F : Type} {fmt : FloatFormat F}
    (hfmt : fmt.NoPlaceholder) (value : Option F) :
    readOptionalFloat (formatOptionalFloat fmt value) = some (value.map (fmt.fixed 2)) := by
  cases value with
  | none => exact readOr_placeholder _ _
  | some v =>
      rw [formatOptionalFloat, readOptionalFloat, readOr_of_ne (hfmt 2 v).1, Option.map_some,
        Option.map_some]

/-! ## Trace rows -/

/-- Read a trace row by the names of its header.  The floating-point fields are
left as they are rendered. -/
def readTraceRow (header row : String) : Option (TickRecord String) := do
  let cell := cellUnder '\t' header row
  let elapsed ← cell "s"
  let rss ← cell "rss"
  let vms ← cell "vms"
  let uss ← (cell "uss").bind readOptionalFloat
  let pss ← (cell "pss").bind readOptionalFloat
  let ioIn ← (cell "io_in").bind readOptionalFloat
  let ioOut ← (cell "io_out").bind readOptionalFloat
  let cpuTime ← cell "cpu_time"
  let nProcs ← (cell "n_procs").bind readNat
  let majorPageFaults ← (cell "major_page_faults").bind readCounter
  let minorPageFaults ← (cell "minor_page_faults").bind readCounter
  let voluntaryCtxSwitches ← (cell "voluntary_ctx_switches").bind readCounter
  let involuntaryCtxSwitches ← (cell "involuntary_ctx_switches").bind readCounter
  let nThreads ← (cell "n_threads").bind readCounter
  let swap ← (cell "swap").bind readOptionalFloat
  return {
    elapsed, rss, vms, uss, pss, ioIn, ioOut, cpuTime, nProcs, majorPageFaults,
    minorPageFaults, voluntaryCtxSwitches, involuntaryCtxSwitches, nThreads, swap }

namespace TickRecord

variable {F : Type} (fmt : FloatFormat F)

/-- The record with every floating-point field rendered. -/
def rendered (self : TickRecord F) : TickRecord String where
  elapsed := fmt.fixed 4 self.elapsed
  rss := fmt.fixed 2 self.rss
  vms := fmt.fixed 2 self.vms
  uss := self.uss.map (fmt.fixed 2)
  pss := self.pss.map (fmt.fixed 2)
  ioIn := self.ioIn.map (fmt.fixed 2)
  ioOut := self.ioOut.map (fmt.fixed 2)
  cpuTime := fmt.fixed 2 self.cpuTime
  nProcs := self.nProcs
  majorPageFaults := self.majorPageFaults
  minorPageFaults := self.minorPageFaults
  voluntaryCtxSwitches := self.voluntaryCtxSwitches
  involuntaryCtxSwitches := self.involuntaryCtxSwitches
  nThreads := self.nThreads
  swap := self.swap.map (fmt.fixed 2)

/-- The cells of the row, each with its name. -/
def columns (self : TickRecord F) : List (String × String) :=
  [("s", fmt.fixed 4 self.elapsed),
    ("rss", fmt.fixed 2 self.rss),
    ("vms", fmt.fixed 2 self.vms),
    ("uss", formatOptionalFloat fmt self.uss),
    ("pss", formatOptionalFloat fmt self.pss),
    ("io_in", formatOptionalFloat fmt self.ioIn),
    ("io_out", formatOptionalFloat fmt self.ioOut),
    ("cpu_time", fmt.fixed 2 self.cpuTime),
    ("n_procs", toString self.nProcs),
    ("major_page_faults", formatOptionalU64 self.majorPageFaults),
    ("minor_page_faults", formatOptionalU64 self.minorPageFaults),
    ("voluntary_ctx_switches", formatOptionalU64 self.voluntaryCtxSwitches),
    ("involuntary_ctx_switches", formatOptionalU64 self.involuntaryCtxSwitches),
    ("n_threads", formatOptionalU64 self.nThreads),
    ("swap", formatOptionalFloat fmt self.swap)]

/-- A trace row is its cells with tabs between them. -/
theorem toTsvRow_eq (self : TickRecord F) :
    self.toTsvRow fmt =
      pushCells '\t' (fmt.fixed 4 self.elapsed) ((self.columns fmt).map Prod.snd).tail := by
  simp only [toTsvRow, BenchmarkRecord.foldl_render, BenchmarkRecord.append_tab_cell]
  rfl

/-- The names of the columns. -/
def columnNames : List String :=
  ["s", "rss", "vms", "uss", "pss", "io_in", "io_out", "cpu_time", "n_procs",
    "major_page_faults", "minor_page_faults", "voluntary_ctx_switches",
    "involuntary_ctx_switches", "n_threads", "swap"]

/-- The cells of a trace row stand under the names of the header. -/
theorem columns_fst (self : TickRecord F) : (self.columns fmt).map Prod.fst = columnNames :=
  rfl

/-- The header is the names of the columns with tabs between them. -/
theorem traceTsvHeader_eq : traceTsvHeader = pushCells '\t' "s" columnNames.tail := by
  decide +kernel

/-- The header splits into the names of the columns. -/
theorem pieces_traceTsvHeader : pieces '\t' traceTsvHeader = columnNames := by
  rw [traceTsvHeader_eq]
  exact pieces_pushCells (by decide +kernel)

/-- No cell contains a character that rendered numbers do not contain. -/
theorem free_of_mem_columns {fmt : FloatFormat F} {c : Char} (hfmt : fmt.FreeOf c)
    (hc : ¬CellChar c) (self : TickRecord F) :
    ∀ column ∈ self.columns fmt, Free c column.2 := by
  have hfloat := free_formatOptionalFloat hfmt hc
  have hcounter := free_formatOptionalU64 hc
  simp only [columns, List.forall_mem_cons]
  exact ⟨hfmt 4 _, hfmt 2 _, hfmt 2 _, hfloat _, hfloat _, hfloat _, hfloat _, hfmt 2 _,
    free_toString (isDigit_eq_false hc) _, hcounter _, hcounter _, hcounter _, hcounter _,
    hcounter _, hfloat _, by simp⟩

/-- The row splits into the cells of the columns. -/
theorem pieces_toTsvRow {fmt : FloatFormat F} (htab : fmt.FreeOf '\t') (self : TickRecord F) :
    pieces '\t' (self.toTsvRow fmt) = (self.columns fmt).map Prod.snd := by
  rw [toTsvRow_eq]
  apply pieces_pushCells
  intro cell hcell
  rcases List.mem_map.mp (show cell ∈ (self.columns fmt).map Prod.snd from hcell) with
    ⟨column, hcolumn, rfl⟩
  exact free_of_mem_columns htab (by decide) self column hcolumn

/-- Under the name of a column stands its cell. -/
theorem cellUnder_toTsvRow {fmt : FloatFormat F} (htab : fmt.FreeOf '\t')
    (self : TickRecord F) : ∀ column ∈ self.columns fmt,
      cellUnder '\t' traceTsvHeader (self.toTsvRow fmt) column.1 = some column.2 := by
  intro column hcolumn
  refine cellUnder_eq_some ?_ (pieces_toTsvRow htab self) ?_ hcolumn
  · rw [pieces_traceTsvHeader, columns_fst]
  · rw [columns_fst]
    decide

/-- A trace row is read back field by field. -/
theorem readTraceRow_toTsvRow {fmt : FloatFormat F} (htab : fmt.FreeOf '\t')
    (hplaceholder : fmt.NoPlaceholder) (self : TickRecord F) :
    readTraceRow traceTsvHeader (self.toTsvRow fmt) = some (self.rendered fmt) := by
  have hcell := cellUnder_toTsvRow htab self
  simp only [columns, List.forall_mem_cons] at hcell
  rcases hcell with ⟨hs, hrss, hvms, huss, hpss, hioIn, hioOut, hcpu, hprocs, hmajor, hminor,
    hvol, hinvol, hthreads, hswap, _⟩
  simp only [readTraceRow, hs, hrss, hvms, huss, hpss, hioIn, hioOut, hcpu, hprocs, hmajor,
    hminor, hvol, hinvol, hthreads, hswap, Option.bind_some, Option.bind_eq_bind,
    readOptionalFloat_formatOptionalFloat hplaceholder, readCounter_formatOptionalU64,
    readNat_toString]
  rfl

end TickRecord

/-! ## Aggregate rows -/

/-- The mode of an aggregate row: full when it has as many cells as the full
header has names. -/
def rowMode (row : String) : SchemaMode :=
  if (pieces '\t' row).length = (pieces '\t' tsvHeaderFull).length then .full
  else .snakemakeStrict

/-- The cell of an aggregate row under a name of its header. -/
def rowCell (row name : String) : Option String :=
  cellUnder '\t' (tsvHeader (rowMode row)) row name

/-- Whether anything was sampled: the first resource column is filled. -/
def rowCollected (row : String) : Bool :=
  rowCell row "max_rss" != some "NA"

namespace BenchmarkRecord

variable {F : Type} [Zero F] {fmt : FloatFormat F}

/-- The optional floating-point columns of a mode. -/
def optionalColumns (self : BenchmarkRecord F) (mode : SchemaMode) :
    List (String × Option F) :=
  let strict :=
    [("max_rss", self.maxRss), ("max_vms", self.maxVms), ("max_uss", self.maxUss),
      ("max_pss", self.maxPss), ("io_in", self.ioIn), ("io_out", self.ioOut)]
  match mode with
  | .full =>
      strict ++
        [("loadavg_1m_start", self.loadavg1mStart), ("loadavg_1m_end", self.loadavg1mEnd),
          ("max_swap", self.maxSwap), ("page_cache_start", self.pageCacheStart),
          ("page_cache_end", self.pageCacheEnd)]
  | .snakemakeStrict => strict

/-- The optional counter columns of a mode. -/
def counterColumns (self : BenchmarkRecord F) : SchemaMode → List (String × Option U64)
  | .full =>
      [("major_page_faults", self.majorPageFaults), ("minor_page_faults", self.minorPageFaults),
        ("voluntary_ctx_switches", self.voluntaryCtxSwitches),
        ("involuntary_ctx_switches", self.involuntaryCtxSwitches),
        ("peak_n_threads", self.peakNThreads)]
  | .snakemakeStrict => []

/-- Every optional column of the record is a Markdown row. -/
theorem optionalColumns_mem_markdownRows (fmt : FloatFormat F) {self : BenchmarkRecord F}
    (hdata : self.dataCollected = true) (mode : SchemaMode) :
    ∀ column ∈ self.optionalColumns mode,
      (column.1, formatOptionalFloat fmt column.2) ∈ self.markdownRows fmt mode := by
  cases mode <;> simp [optionalColumns, markdownRows, hdata]

/-- Every counter column of the record is a Markdown row. -/
theorem counterColumns_mem_markdownRows (fmt : FloatFormat F) {self : BenchmarkRecord F}
    (hdata : self.dataCollected = true) (mode : SchemaMode) :
    ∀ column ∈ self.counterColumns mode,
      (column.1, formatOptionalU64 column.2) ∈ self.markdownRows fmt mode := by
  cases mode <;> simp [counterColumns, markdownRows, hdata]

/-- The number of cells tells the mode. -/
theorem rowMode_toTsvRow (htab : fmt.FreeOf '\t') (self : BenchmarkRecord F)
    (mode : SchemaMode) : rowMode (self.toTsvRow fmt mode) = mode := by
  have hfull : pieces '\t' tsvHeaderFull = markdownLabels .full := pieces_tsvHeader .full
  have hlength : (pieces '\t' (self.toTsvRow fmt mode)).length =
      (markdownLabels mode).length := by
    rw [pieces_toTsvRow htab, List.length_map, ← List.length_map Prod.fst, markdownRows_fst]
  rw [rowMode, hlength, hfull]
  cases mode <;> rfl

/-- Under the label of a Markdown row stands its value. -/
theorem rowCell_toTsvRow (htab : fmt.FreeOf '\t') {self : BenchmarkRecord F}
    {mode : SchemaMode} {name cell : String}
    (hmem : (name, cell) ∈ self.markdownRows fmt mode) :
    rowCell (self.toTsvRow fmt mode) name = some cell := by
  rw [rowCell, rowMode_toTsvRow htab]
  refine cellUnder_eq_some ?_ (pieces_toTsvRow htab self mode) ?_ hmem
  · rw [pieces_tsvHeader, markdownRows_fst]
  · rw [markdownRows_fst]
    cases mode <;> decide

/-- The placeholder of a run without data is no value of one with data. -/
theorem rowCollected_toTsvRow (htab : fmt.FreeOf '\t') (hplaceholder : fmt.NoPlaceholder)
    (self : BenchmarkRecord F) (mode : SchemaMode) :
    rowCollected (self.toTsvRow fmt mode) = self.dataCollected := by
  have hcell : rowCell (self.toTsvRow fmt mode) "max_rss" =
      some (if self.dataCollected then formatOptionalFloat fmt self.maxRss else "NA") := by
    apply rowCell_toTsvRow htab
    cases mode <;> simp [markdownRows]
  rw [rowCollected, hcell]
  cases hdata : self.dataCollected with
  | false => simp
  | true =>
      have hne : formatOptionalFloat fmt self.maxRss ≠ "NA" := by
        cases self.maxRss with
        | none => simp [formatOptionalFloat]
        | some v => exact (hplaceholder 2 v).2
      simpa using hne

section Collected

variable {self : BenchmarkRecord F} (hdata : self.dataCollected = true)
include hdata

/-- The optional columns of a TSV row are read back by name. -/
theorem readOptionalFloat_rowCell (htab : fmt.FreeOf '\t') (hplaceholder : fmt.NoPlaceholder)
    (mode : SchemaMode) : ∀ column ∈ self.optionalColumns mode,
      (rowCell (self.toTsvRow fmt mode) column.1).bind readOptionalFloat =
        some (column.2.map (fmt.fixed 2)) := by
  intro column hcolumn
  rw [rowCell_toTsvRow htab (optionalColumns_mem_markdownRows fmt hdata mode column hcolumn),
    Option.bind_some]
  exact readOptionalFloat_formatOptionalFloat hplaceholder column.2

/-- The counter columns of a TSV row are read back by name. -/
theorem readCounter_rowCell (htab : fmt.FreeOf '\t') (mode : SchemaMode) :
    ∀ column ∈ self.counterColumns mode,
      (rowCell (self.toTsvRow fmt mode) column.1).bind readCounter = some column.2 := by
  intro column hcolumn
  rw [rowCell_toTsvRow htab (counterColumns_mem_markdownRows fmt hdata mode column hcolumn),
    Option.bind_some]
  exact readCounter_formatOptionalU64 column.2

/-- The number of processes is read back by name. -/
theorem readNat_rowCell_peakNProcs (htab : fmt.FreeOf '\t') :
    (rowCell (self.toTsvRow fmt .full) "peak_n_procs").bind readNat = some self.peakNProcs := by
  have hmem : ("peak_n_procs", toString self.peakNProcs) ∈ self.markdownRows fmt .full := by
    simp [markdownRows, hdata]
  rw [rowCell_toTsvRow htab hmem, Option.bind_some]
  exact readNat_toString self.peakNProcs

end Collected

end BenchmarkRecord

/-! ## Both kinds of rows -/

/-- A trace row has one cell for each name of its header, and by these names the
record is read back, its counters exactly and every other field up to the rendering
of the number.  From an aggregate row alone one reads its mode and whether data was
collected, and with data, every optional column of the mode and every counter in the
same way. -/
theorem tsvRows_decode {F : Type} [Zero F] (fmt : FloatFormat F) (htab : fmt.FreeOf '\t')
    (hplaceholder : fmt.NoPlaceholder) :
    (∀ self : TickRecord F,
      (pieces '\t' (self.toTsvRow fmt)).length = (pieces '\t' traceTsvHeader).length ∧
        readTraceRow traceTsvHeader (self.toTsvRow fmt) = some (self.rendered fmt)) ∧
    ∀ (self : BenchmarkRecord F) (mode : SchemaMode),
      let row := self.toTsvRow fmt mode
      rowMode row = mode ∧ rowCollected row = self.dataCollected ∧
        (self.dataCollected = true →
          (∀ column ∈ self.optionalColumns mode,
            (rowCell row column.1).bind readOptionalFloat =
              some (column.2.map (fmt.fixed 2))) ∧
          (∀ column ∈ self.counterColumns mode,
            (rowCell row column.1).bind readCounter = some column.2) ∧
          (mode = .full →
            (rowCell row "peak_n_procs").bind readNat = some self.peakNProcs)) := by
  constructor
  · intro self
    refine ⟨?_, self.readTraceRow_toTsvRow htab hplaceholder⟩
    rw [self.pieces_toTsvRow htab, TickRecord.pieces_traceTsvHeader]
    rfl
  · intro self mode row
    refine ⟨self.rowMode_toTsvRow htab mode, self.rowCollected_toTsvRow htab hplaceholder mode,
      fun hdata => ⟨?_, ?_, ?_⟩⟩
    · exact BenchmarkRecord.readOptionalFloat_rowCell hdata htab hplaceholder mode
    · exact BenchmarkRecord.readCounter_rowCell hdata htab mode
    · rintro rfl
      exact BenchmarkRecord.readNat_rowCell_peakNProcs hdata htab

/-- With exact rationals, for a tick and a run with the largest counter, some missing
values and a negative number. -/
theorem tsvRows_decode_exact :
    let tick : TickRecord ℚ :=
      { elapsed := 1 / 2, rss := 21 / 2, vms := 40, uss := some (-1), pss := none, ioIn := some 0,
        ioOut := none, cpuTime := 1 / 4, nProcs := 3, majorPageFaults := some (clamp u64Max),
        minorPageFaults := none, voluntaryCtxSwitches := some 0, involuntaryCtxSwitches := none,
        nThreads := some (clamp 7), swap := none }
    let record : BenchmarkRecord ℚ :=
      { runningTime := 1 / 2, maxRss := some (21 / 2), cpuTime := 1 / 4,
        majorPageFaults := some (clamp u64Max), peakNProcs := 3, dataCollected := true }
    let row := record.toTsvRow exactFormat .full
    readTraceRow traceTsvHeader (tick.toTsvRow exactFormat) = some (tick.rendered exactFormat) ∧
      rowMode row = .full ∧ rowCollected row = true ∧
      (rowCell row "max_uss").bind readOptionalFloat = some none ∧
      (rowCell row "major_page_faults").bind readCounter = some (some (clamp u64Max)) ∧
      (rowCell row "minor_page_faults").bind readCounter = some none ∧
      (rowCell row "peak_n_procs").bind readNat = some 3 := by
  intro tick record row
  have hdecode := tsvRows_decode exactFormat
    (exactFormat_freeOf (by decide) (by decide) (by decide)) exactFormat_noPlaceholder
  rcases hdecode.2 record .full with ⟨hmode, hcollected, hvalues⟩
  rcases hvalues rfl with ⟨hoptional, hcounters, hprocs⟩
  exact ⟨(hdecode.1 tick).2, hmode, hcollected, hoptional ("max_uss", none) (by
      simp [BenchmarkRecord.optionalColumns, record]),
    hcounters ("major_page_faults", some (clamp u64Max)) (by
      simp [BenchmarkRecord.counterColumns, record]),
    hcounters ("minor_page_faults", none) (by
      simp [BenchmarkRecord.counterColumns, record]), hprocs rfl⟩

end Tricord

import Tricord.Library.Decimal
import Tricord.Record.Schema

/-!
# Rendering a record

The TSV document and the rows of the Markdown table, as two independent
renderings of one record.  The rendering of a floating-point number is a
parameter, {lit}`FloatFormat`, since both only ever pass it a number and a
precision.

Main results:

- Theorem {lit}`free_formatHms`: the clock rendering contains no tab and no
  newline.
- Theorem {lit}`forall_mem_markdownRows`: the forms that a value can have.
- Theorem {lit}`free_of_mem_markdownRows`: no value contains a character that
  rendered numbers do not contain.
-/

namespace Tricord

open Delimited

/-! ## Numbers -/

/-- How the number type is rendered: with a fixed number of digits after the
point, and cast to whole seconds after clamping below at zero. -/
structure FloatFormat (F : Type) where
  fixed : ℕ → F → String
  wholeSeconds : F → U64

/-- Rendered numbers are free of the character. -/
def FloatFormat.FreeOf {F : Type} (fmt : FloatFormat F) (c : Char) : Prop :=
  ∀ digits x, Free c (fmt.fixed digits x)

/-- Exact rationals, rounded half to even. -/
def exactFormat : FloatFormat ℚ where
  fixed := Decimal.fixed
  wholeSeconds seconds := BoundedNat.clamp ⌊seconds⌋₊

/-- The exact format writes digits, a point and a sign only. -/
theorem exactFormat_freeOf {c : Char} (hc : c.isDigit = false) (hpoint : c ≠ '.')
    (hsign : c ≠ '-') : exactFormat.FreeOf c :=
  Decimal.free_fixed hc hpoint hsign

/-- Rendering by way of another number type. -/
def FloatFormat.comap {F G : Type} (fmt : FloatFormat F) (f : G → F) : FloatFormat G where
  fixed digits x := fmt.fixed digits (f x)
  wholeSeconds x := fmt.wholeSeconds (f x)

/-- A format pulled back along a function uses no other characters. -/
theorem FloatFormat.FreeOf.comap {F G : Type} {fmt : FloatFormat F} {c : Char}
    (h : fmt.FreeOf c) (f : G → F) : (fmt.comap f).FreeOf c :=
  fun digits x => h digits (f x)

section Format

variable {F : Type} (fmt : FloatFormat F)

/-- A number with two decimals, or the placeholder. -/
def formatOptionalFloat : Option F → String
  | some v => fmt.fixed 2 v
  | none => "-"

/-- A counter in decimal, or the placeholder. -/
def formatOptionalU64 : Option U64 → String
  | some v => toString v.toNat
  | none => "-"

/-- Whole seconds as {lit}`H:MM:SS`, after a day count past 24 hours. -/
def formatHms (seconds : F) : String :=
  let total := (fmt.wholeSeconds seconds).toNat
  let days := total / 86400
  let rem := total % 86400
  let hh := rem / 3600
  let mm := rem % 3600 / 60
  let ss := rem % 60
  let body := toString hh ++ ":" ++ padded 2 mm ++ ":" ++ padded 2 ss
  if days = 0 then body
  else if days = 1 then "1 day, " ++ body
  else toString days ++ " days, " ++ body

end Format

/-! ## Headers -/

/-- The ten columns of the strict schema. -/
def tsvHeaderStrict : String :=
  "s\th:m:s\tmax_rss\tmax_vms\tmax_uss\tmax_pss\tio_in\tio_out\tmean_load\tcpu_time"

/-- The columns of the full schema. -/
def tsvHeaderFull : String :=
  "s\th:m:s\tmax_rss\tmax_vms\tmax_uss\tmax_pss\t" ++
  "io_in\tio_out\tmean_load\tcpu_time\t" ++
  "major_page_faults\tminor_page_faults\t" ++
  "voluntary_ctx_switches\tinvoluntary_ctx_switches\t" ++
  "peak_n_threads\tpeak_n_procs\t" ++
  "loadavg_1m_start\tloadavg_1m_end\t" ++
  "max_swap\t" ++
  "page_cache_start\tpage_cache_end"

/-- The header of the per-tick trace, which has no schema modes. -/
def traceTsvHeader : String :=
  "s\trss\tvms\tuss\tpss\tio_in\tio_out\tcpu_time\tn_procs\t" ++
  "major_page_faults\tminor_page_faults\t" ++
  "voluntary_ctx_switches\tinvoluntary_ctx_switches\t" ++
  "n_threads\tswap"

/-- The aggregate header of a schema mode. -/
def tsvHeader : SchemaMode → String
  | .full => tsvHeaderFull
  | .snakemakeStrict => tsvHeaderStrict

/-! ## Documents -/

/-- Render a tick as a single TSV row. -/
def TickRecord.toTsvRow {F : Type} (fmt : FloatFormat F) (self : TickRecord F) : String :=
  let out := fmt.fixed 4 self.elapsed ++ "\t" ++ fmt.fixed 2 self.rss ++ "\t" ++
    fmt.fixed 2 self.vms
  let out := [self.uss, self.pss, self.ioIn, self.ioOut].foldl
    (fun out value => out.push '\t' ++ formatOptionalFloat fmt value) out
  let out := out ++ "\t" ++ fmt.fixed 2 self.cpuTime ++ "\t" ++ toString self.nProcs
  let out := [self.majorPageFaults, self.minorPageFaults, self.voluntaryCtxSwitches,
    self.involuntaryCtxSwitches, self.nThreads].foldl
      (fun out value => out.push '\t' ++ formatOptionalU64 value) out
  out.push '\t' ++ formatOptionalFloat fmt self.swap

namespace BenchmarkRecord

variable {F : Type} [Zero F] (fmt : FloatFormat F)

/-- Render a record as a single TSV row. -/
def toTsvRow (self : BenchmarkRecord F) (mode : SchemaMode) : String :=
  let out := fmt.fixed 4 self.runningTime ++ "\t" ++ formatHms fmt self.runningTime
  let extraCols := match mode with
    | .full => 11
    | .snakemakeStrict => 0
  if !self.dataCollected then
    (List.range (8 + extraCols)).foldl (fun out _ => out ++ "\tNA") out
  else
    let out := [self.maxRss, self.maxVms, self.maxUss, self.maxPss, self.ioIn,
      self.ioOut].foldl (fun out value => out.push '\t' ++ formatOptionalFloat fmt value) out
    let out := out ++ "\t" ++ fmt.fixed 2 self.meanLoad ++ "\t" ++ fmt.fixed 2 self.cpuTime
    if mode = .full then
      let out := [self.majorPageFaults, self.minorPageFaults, self.voluntaryCtxSwitches,
        self.involuntaryCtxSwitches, self.peakNThreads].foldl
          (fun out value => out.push '\t' ++ formatOptionalU64 value) out
      let out := out ++ "\t" ++ toString self.peakNProcs
      [self.loadavg1mStart, self.loadavg1mEnd, self.maxSwap, self.pageCacheStart,
        self.pageCacheEnd].foldl
          (fun out value => out.push '\t' ++ formatOptionalFloat fmt value) out
    else out

/-- Render a record as a complete TSV document. -/
def toTsvDocument (self : BenchmarkRecord F) (mode : SchemaMode) : String :=
  let out := ""
  let out := out ++ tsvHeader mode
  let out := out.push '\n'
  let out := out ++ self.toTsvRow fmt mode
  out.push '\n'

/-- The labels and values that drive the Markdown table. -/
def markdownRows (self : BenchmarkRecord F) (mode : SchemaMode) : List (String × String) :=
  let cell (value : Option F) : String :=
    if self.dataCollected then formatOptionalFloat fmt value else "NA"
  let scalar (value : F) : String :=
    if self.dataCollected then fmt.fixed 2 value else "NA"
  let intCell (value : Option U64) : String :=
    if self.dataCollected then formatOptionalU64 value else "NA"
  let rows :=
    [("s", fmt.fixed 4 self.runningTime),
      ("h:m:s", formatHms fmt self.runningTime),
      ("max_rss", cell self.maxRss),
      ("max_vms", cell self.maxVms),
      ("max_uss", cell self.maxUss),
      ("max_pss", cell self.maxPss),
      ("io_in", cell self.ioIn),
      ("io_out", cell self.ioOut),
      ("mean_load", scalar self.meanLoad),
      ("cpu_time", scalar self.cpuTime)]
  if mode = .full then
    rows ++
      [("major_page_faults", intCell self.majorPageFaults),
        ("minor_page_faults", intCell self.minorPageFaults),
        ("voluntary_ctx_switches", intCell self.voluntaryCtxSwitches),
        ("involuntary_ctx_switches", intCell self.involuntaryCtxSwitches),
        ("peak_n_threads", intCell self.peakNThreads),
        ("peak_n_procs",
          if self.dataCollected then toString self.peakNProcs else "NA"),
        ("loadavg_1m_start", cell self.loadavg1mStart),
        ("loadavg_1m_end", cell self.loadavg1mEnd),
        ("max_swap", cell self.maxSwap),
        ("page_cache_start", cell self.pageCacheStart),
        ("page_cache_end", cell self.pageCacheEnd)]
  else rows

end BenchmarkRecord

/-! ## Characters that no cell contains -/

/-- The digits, and the other characters that the renderings add to numbers. -/
def CellChar (c : Char) : Prop :=
  c.isDigit ∨ c ∈ " ,-:NAadsy".toList

instance (c : Char) : Decidable (CellChar c) :=
  inferInstanceAs (Decidable (_ ∨ _))

section Free

variable {F : Type} {fmt : FloatFormat F} {c : Char}

/-- A text of cell characters is free of every other character. -/
theorem free_of_cellChars (hc : ¬CellChar c) {text : String}
    (h : ∀ d ∈ text.toList, CellChar d) : Free c text :=
  fun hmem => hc (h c hmem)

/-- A character that is not in a cell is not a digit. -/
theorem isDigit_eq_false (hc : ¬CellChar c) : c.isDigit = false :=
  Bool.eq_false_iff.mpr fun hdigit => hc (Or.inl hdigit)

/-- A duration is a cell. -/
theorem free_formatHms (hc : ¬CellChar c) (fmt : FloatFormat F) (seconds : F) :
    Free c (formatHms fmt seconds) := by
  have hdigit := isDigit_eq_false hc
  have hcolon : Free c ":" := free_of_cellChars hc (by simp [CellChar])
  have hbody : ∀ hh mm ss : ℕ,
      Free c (toString hh ++ ":" ++ padded 2 mm ++ ":" ++ padded 2 ss) := by
    intro hh mm ss
    simp only [free_append]
    exact ⟨⟨⟨⟨free_toString hdigit hh, hcolon⟩, free_padded hdigit 2 mm⟩, hcolon⟩,
      free_padded hdigit 2 ss⟩
  unfold formatHms
  simp only
  split_ifs
  · exact hbody _ _ _
  · exact free_append.mpr ⟨free_of_cellChars hc (by simp [CellChar]), hbody _ _ _⟩
  · exact free_append.mpr ⟨free_append.mpr
      ⟨free_toString hdigit _, free_of_cellChars hc (by simp [CellChar])⟩, hbody _ _ _⟩

/-- An optional number is a cell. -/
theorem free_formatOptionalFloat (hfmt : fmt.FreeOf c) (hc : ¬CellChar c) (value : Option F) :
    Free c (formatOptionalFloat fmt value) := by
  cases value with
  | none => exact free_of_cellChars hc (by simp [CellChar, formatOptionalFloat])
  | some v => exact hfmt 2 v

/-- An optional counter is a cell. -/
theorem free_formatOptionalU64 (hc : ¬CellChar c) (value : Option U64) :
    Free c (formatOptionalU64 value) := by
  cases value with
  | none => exact free_of_cellChars hc (by simp [CellChar, formatOptionalU64])
  | some v => exact free_toString (isDigit_eq_false hc) v.toNat

/-- Every value of the Markdown rows is a rendered number, a clock, a decimal
integer or one of the two placeholders. -/
theorem forall_mem_markdownRows [Zero F] {P : String → Prop}
    (hfixed : ∀ digits x, P (fmt.fixed digits x)) (hclock : ∀ x, P (formatHms fmt x))
    (hinteger : ∀ n : ℕ, P (toString n)) (hdash : P "-") (hna : P "NA")
    (record : BenchmarkRecord F) (mode : SchemaMode) :
    ∀ row ∈ record.markdownRows fmt mode, P row.2 := by
  have hcell : ∀ value : Option F,
      P (if record.dataCollected then formatOptionalFloat fmt value else "NA") := by
    intro value
    split_ifs
    · cases value with
      | none => exact hdash
      | some v => exact hfixed 2 v
    · exact hna
  have hscalar : ∀ value : F,
      P (if record.dataCollected then fmt.fixed 2 value else "NA") := by
    intro value
    split_ifs
    · exact hfixed 2 value
    · exact hna
  have hintCell : ∀ value : Option U64,
      P (if record.dataCollected then formatOptionalU64 value else "NA") := by
    intro value
    split_ifs
    · cases value with
      | none => exact hdash
      | some v => exact hinteger v.toNat
    · exact hna
  have hprocs : P (if record.dataCollected then toString record.peakNProcs else "NA") := by
    split_ifs
    · exact hinteger _
    · exact hna
  have hseconds : P (fmt.fixed 4 record.runningTime) := hfixed 4 _
  have htime : P (formatHms fmt record.runningTime) := hclock _
  cases mode with
  | full =>
      simp only [BenchmarkRecord.markdownRows, reduceIte, List.cons_append, List.nil_append,
        List.forall_mem_cons]
      exact ⟨hseconds, htime, hcell _, hcell _, hcell _, hcell _, hcell _, hcell _,
        hscalar _, hscalar _, hintCell _, hintCell _, hintCell _, hintCell _, hintCell _,
        hprocs, hcell _, hcell _, hcell _, hcell _, hcell _, by simp⟩
  | snakemakeStrict =>
      simp only [BenchmarkRecord.markdownRows, reduceCtorEq, reduceIte, List.forall_mem_cons]
      exact ⟨hseconds, htime, hcell _, hcell _, hcell _, hcell _, hcell _, hcell _,
        hscalar _, hscalar _, by simp⟩

/-- No value of the Markdown rows contains a character that rendered numbers do
not contain. -/
theorem free_of_mem_markdownRows [Zero F] (hfmt : fmt.FreeOf c) (hc : ¬CellChar c)
    (record : BenchmarkRecord F) (mode : SchemaMode) :
    ∀ row ∈ record.markdownRows fmt mode, Free c row.2 :=
  forall_mem_markdownRows hfmt (free_formatHms hc fmt) (free_toString (isDigit_eq_false hc))
    (free_of_cellChars hc (by simp [CellChar])) (free_of_cellChars hc (by simp [CellChar]))
    record mode

end Free

end Tricord

import Tricord.Record.Decoding

/-!
# The summary line

After a run one line is printed for the user: seven values, each with its name and
its unit, separated by blanks.  A reader of the line splits it at the blanks and each
part at the equals sign.

Main results:

- Theorem {lit}`readSummary_summaryLine`: the line is read back value by value, and
  it is one line.
-/

namespace Tricord

open Delimited

/-! ## The line -/

section Line

variable {F : Type} [Zero F] (fmt : FloatFormat F)

/-- A size in MiB, with its unit. -/
def mb (value : Option F) : String :=
  match value with
  | some v => fmt.fixed 1 v ++ "MiB"
  | none => "-"

/-- The one-line summary of a record. -/
def BenchmarkRecord.summaryLine (self : BenchmarkRecord F) : String :=
  "wall=" ++ fmt.fixed 2 self.runningTime ++ "s cpu=" ++ fmt.fixed 2 self.cpuTime ++
    "s mean_load=" ++ fmt.fixed 0 self.meanLoad ++ "% max_rss=" ++ mb fmt self.maxRss ++
    " max_uss=" ++ mb fmt self.maxUss ++ " io_in=" ++ mb fmt self.ioIn ++ " io_out=" ++
    mb fmt self.ioOut

/-- The values of the line, each with its name. -/
def BenchmarkRecord.summaryValues (self : BenchmarkRecord F) : List (String × String) :=
  [("wall", fmt.fixed 2 self.runningTime ++ "s"), ("cpu", fmt.fixed 2 self.cpuTime ++ "s"),
    ("mean_load", fmt.fixed 0 self.meanLoad ++ "%"), ("max_rss", mb fmt self.maxRss),
    ("max_uss", mb fmt self.maxUss), ("io_in", mb fmt self.ioIn), ("io_out", mb fmt self.ioOut)]

end Line

/-! ## Reading the line -/

/-- The text in front of a suffix. -/
def dropSuffix? (suffix text : String) : Option String :=
  if suffix.toList <:+ text.toList then
    some (String.ofList (text.toList.take (text.toList.length - suffix.toList.length)))
  else none

/-- A suffix that is there is dropped. -/
theorem dropSuffix?_append (text suffix : String) :
    dropSuffix? suffix (text ++ suffix) = some text := by
  rw [dropSuffix?, String.toList_append, if_pos (List.suffix_append _ _), List.length_append,
    Nat.add_sub_cancel, List.take_left, String.ofList_toList]

/-- The values of a line with their names, as rendered. -/
structure Summary where
  wall : String
  cpu : String
  meanLoad : String
  maxRss : Option String
  maxUss : Option String
  ioIn : Option String
  ioOut : Option String
deriving DecidableEq

/-- The parts of a line, each a name and a value. -/
def summaryParts (line : String) : List (String × String) :=
  (pieces ' ' line).filterMap fun part =>
    match pieces '=' part with
    | [name, value] => some (name, value)
    | _ => none

/-- A size, or the placeholder for none. -/
def readMb (cell : String) : Option (Option String) :=
  readOr "-" (dropSuffix? "MiB") cell

/-- Read a summary line by its names. -/
def readSummary (line : String) : Option Summary := do
  let value (name : String) := (summaryParts line).lookup name
  let wall ← (value "wall").bind (dropSuffix? "s")
  let cpu ← (value "cpu").bind (dropSuffix? "s")
  let meanLoad ← (value "mean_load").bind (dropSuffix? "%")
  let maxRss ← (value "max_rss").bind readMb
  let maxUss ← (value "max_uss").bind readMb
  let ioIn ← (value "io_in").bind readMb
  let ioOut ← (value "io_out").bind readMb
  return { wall, cpu, meanLoad, maxRss, maxUss, ioIn, ioOut }

/-! ## Reading back -/

section RoundTrip

variable {F : Type} {fmt : FloatFormat F}

/-- A size in MiB is read back with its one decimal. -/
theorem readMb_mb (value : Option F) : readMb (mb fmt value) = some (value.map (fmt.fixed 1)) := by
  cases value with
  | none => exact readOr_placeholder _ _
  | some v =>
      have hne : fmt.fixed 1 v ++ "MiB" ≠ "-" := by
        intro heq
        have hlength := congrArg (fun text : String => text.toList.length) heq
        simp at hlength
      rw [mb, readMb, readOr_of_ne hne, dropSuffix?_append]
      rfl

/-- A size in MiB is free of the characters that its parts are free of. -/
theorem free_mb {c : Char} (hfmt : fmt.FreeOf c) (hunit : Free c "MiB") (hnone : Free c "-")
    (value : Option F) : Free c (mb fmt value) := by
  cases value with
  | none => exact hnone
  | some v => exact free_append.mpr ⟨hfmt 1 v, hunit⟩

variable [Zero F]

/-- No value contains a character that numbers and units do not contain. -/
theorem free_of_mem_summaryValues {c : Char} (hfmt : fmt.FreeOf c) (hs : Free c "s")
    (hpercent : Free c "%") (hunit : Free c "MiB") (hnone : Free c "-")
    (self : BenchmarkRecord F) : ∀ value ∈ self.summaryValues fmt, Free c value.2 := by
  have hmb := free_mb hfmt hunit hnone
  simp only [BenchmarkRecord.summaryValues, List.forall_mem_cons]
  exact ⟨free_append.mpr ⟨hfmt 2 _, hs⟩, free_append.mpr ⟨hfmt 2 _, hs⟩,
    free_append.mpr ⟨hfmt 0 _, hpercent⟩, hmb _, hmb _, hmb _, hmb _, by simp⟩

/-- A name and its value. -/
def summaryPart (value : String × String) : String :=
  value.1 ++ "=" ++ value.2

/-- The line is its parts, separated by blanks. -/
theorem summaryLine_eq (self : BenchmarkRecord F) :
    self.summaryLine fmt =
      pushCells ' ' (summaryPart ("wall", fmt.fixed 2 self.runningTime ++ "s"))
        ((self.summaryValues fmt).tail.map summaryPart) := by
  have hpush : ∀ text : String, text.push ' ' = text ++ " " :=
    fun _ => String.toList_inj.mp (by simp)
  have hcpu : "s cpu=" = "s" ++ (" " ++ ("cpu" ++ "=")) := by decide +kernel
  have hload : "s mean_load=" = "s" ++ (" " ++ ("mean_load" ++ "=")) := by decide +kernel
  have hrss : "% max_rss=" = "%" ++ (" " ++ ("max_rss" ++ "=")) := by decide +kernel
  have huss : " max_uss=" = " " ++ ("max_uss" ++ "=") := by decide +kernel
  have hioIn : " io_in=" = " " ++ ("io_in" ++ "=") := by decide +kernel
  have hioOut : " io_out=" = " " ++ ("io_out" ++ "=") := by decide +kernel
  have hwall : "wall=" = "wall" ++ "=" := by decide +kernel
  unfold BenchmarkRecord.summaryLine
  rw [hwall, hcpu, hload, hrss, huss, hioIn, hioOut]
  simp only [BenchmarkRecord.summaryValues, summaryPart, List.tail_cons, List.map_cons,
    List.map_nil, pushCells_cons, pushCells_nil, hpush, String.append_assoc]

/-- The names of the values, in order. -/
theorem summaryValues_names (self : BenchmarkRecord F) :
    (self.summaryValues fmt).map Prod.fst =
      ["wall", "cpu", "mean_load", "max_rss", "max_uss", "io_in", "io_out"] :=
  rfl

/-- The characters of the names. -/
def nameChars : List Char :=
  ['_', 'a', 'c', 'd', 'e', 'i', 'l', 'm', 'n', 'o', 'p', 'r', 's', 't', 'u', 'w', 'x']

/-- The names are free of every character that is not in a name. -/
theorem free_of_mem_names (fmt : FloatFormat F) {c : Char} (hc : c ∉ nameChars)
    (self : BenchmarkRecord F) : ∀ value ∈ self.summaryValues fmt, Free c value.1 := by
  intro value hvalue
  have hname : value.1 ∈ (self.summaryValues fmt).map Prod.fst := List.mem_map_of_mem hvalue
  have hchars : (((self.summaryValues fmt).map Prod.fst).all fun name =>
      name.toList.all nameChars.contains) = true := by
    rw [summaryValues_names]
    decide +kernel
  intro hmem
  have hcontains := List.all_eq_true.mp (List.all_eq_true.mp hchars value.1 hname) c hmem
  exact hc (List.contains_iff_mem.mp hcontains)

/-- The parts of the line are its values with their names. -/
theorem summaryParts_summaryLine (hblank : fmt.FreeOf ' ') (hequals : fmt.FreeOf '=')
    (self : BenchmarkRecord F) :
    summaryParts (self.summaryLine fmt) = self.summaryValues fmt := by
  have hvalueBlank := free_of_mem_summaryValues hblank (by decide) (by decide) (by decide)
    (by decide) self
  have hvalueEquals := free_of_mem_summaryValues hequals (by decide) (by decide) (by decide)
    (by decide) self
  have hnameBlank := free_of_mem_names fmt (show ' ' ∉ nameChars by decide) self
  have hnameEquals := free_of_mem_names fmt (show '=' ∉ nameChars by decide) self
  have hpieces : pieces ' ' (self.summaryLine fmt) =
      (self.summaryValues fmt).map summaryPart := by
    rw [summaryLine_eq, pieces_pushCells]
    · rfl
    · intro part hpart
      rcases List.mem_map.mp (show part ∈ (self.summaryValues fmt).map summaryPart from hpart)
        with ⟨value, hvalue, rfl⟩
      exact free_append.mpr ⟨free_append.mpr ⟨hnameBlank value hvalue, by decide⟩,
        hvalueBlank value hvalue⟩
  have hpart : ∀ value ∈ self.summaryValues fmt,
      pieces '=' (summaryPart value) = [value.1, value.2] := by
    intro value hvalue
    have hjoin : summaryPart value = pushCells '=' value.1 [value.2] := by
      apply String.toList_inj.mp
      simp [summaryPart, pushCells_cons]
    rw [hjoin]
    apply pieces_pushCells
    simp only [List.forall_mem_cons]
    exact ⟨hnameEquals value hvalue, hvalueEquals value hvalue, by simp⟩
  rw [summaryParts, hpieces, List.filterMap_map]
  refine Eq.trans (List.filterMap_congr fun value hvalue => ?_) List.filterMap_some
  rw [Function.comp_apply, hpart value hvalue]

/-- The summary is one line, and by its names it is read back value by value, the
absent sizes as absent. -/
theorem readSummary_summaryLine (fmt : FloatFormat F) (hblank : fmt.FreeOf ' ')
    (hequals : fmt.FreeOf '=') (hnewline : fmt.FreeOf '\n') (self : BenchmarkRecord F) :
    Free '\n' (self.summaryLine fmt) ∧
      readSummary (self.summaryLine fmt) =
        some
          { wall := fmt.fixed 2 self.runningTime
            cpu := fmt.fixed 2 self.cpuTime
            meanLoad := fmt.fixed 0 self.meanLoad
            maxRss := self.maxRss.map (fmt.fixed 1)
            maxUss := self.maxUss.map (fmt.fixed 1)
            ioIn := self.ioIn.map (fmt.fixed 1)
            ioOut := self.ioOut.map (fmt.fixed 1) } := by
  constructor
  · have hvalues := free_of_mem_summaryValues hnewline (by decide) (by decide) (by decide)
      (by decide) self
    have hnames := free_of_mem_names fmt (show '\n' ∉ nameChars by decide) self
    rw [summaryLine_eq]
    apply free_pushCells (by decide)
    intro part hpart
    rcases List.mem_map.mp (show part ∈ (self.summaryValues fmt).map summaryPart from hpart)
      with ⟨value, hvalue, rfl⟩
    exact free_append.mpr ⟨free_append.mpr ⟨hnames value hvalue, by decide⟩, hvalues value hvalue⟩
  · rw [readSummary, summaryParts_summaryLine hblank hequals]
    simp [BenchmarkRecord.summaryValues, List.lookup_cons, dropSuffix?_append, readMb_mb]

/-- With exact rationals, for a run without a unique set size. -/
theorem readSummary_summaryLine_exact :
    let record : BenchmarkRecord ℚ :=
      { runningTime := 3 / 2, cpuTime := 1, meanLoad := 200 / 3, maxRss := some (21 / 2),
        dataCollected := true }
    readSummary (record.summaryLine exactFormat) =
      some
        { wall := "1.50", cpu := "1.00", meanLoad := "67", maxRss := some "10.5",
          maxUss := none, ioIn := none, ioOut := none } := by
  intro record
  have hread := (readSummary_summaryLine exactFormat
    (exactFormat_freeOf (by decide) (by decide) (by decide))
    (exactFormat_freeOf (by decide) (by decide) (by decide))
    (exactFormat_freeOf (by decide) (by decide) (by decide)) record).2
  rw [hread]
  decide +kernel

end RoundTrip

end Tricord

import Tricord.Platform.Columns
import Tricord.Platform.SampleTree
import Tricord.Record.Decoding

/-!
# The macOS sampler

A pass makes two calls for every listed process.  A process counts when the first
one, on its task, succeeds; five columns come from the second one and are filled
together or not at all; four columns have no source on this platform.

Main results:

- Theorem {lit}`Macos.sampleTree_eq`: a pass is a pass of the common walk.
- Theorem {lit}`Macos.macos_run_columns`: which columns a run on macOS fills.
- Theorem {lit}`Macos.run_cells`: which cells of its documents hold the placeholder.
-/

namespace Tricord

namespace Macos

open BoundedNat Delimited

/-! ## Readings -/

/-- The fields read from the BSD information of a process. -/
structure BsdInfo where
  pbiPid : UInt32
  pbiPpid : UInt32

/-- The fields read from the task information of a process, times in Mach units. -/
structure TaskInfo where
  ptiResidentSize : U64
  ptiVirtualSize : U64
  ptiTotalUser : U64
  ptiTotalSystem : U64
  ptiThreadnum : Int32

/-- The fields read from the resource usage of a process. -/
structure RUsageInfoV4 where
  riPhysFootprint : U64
  riDiskioBytesread : U64
  riDiskioByteswritten : U64
  riPageins : U64

/-- The ratio between Mach units and nanoseconds, as the system reports it. -/
structure MachTimebaseInfo where
  numer : UInt32
  denom : UInt32

/-- What the calls of one pass answer. -/
structure Calls where
  pidsByType : Option (List UInt32)
  bsdInfo : Pid → Option BsdInfo
  taskInfo : Pid → Option TaskInfo
  pidrusage : Pid → Option RUsageInfoV4

/-- The PID with the same bits. -/
def asI32 (n : UInt32) : Pid :=
  n.toInt32.toInt

/-! ## Time -/

/-- Nanoseconds in a second. -/
def nanosPerSec : ℕ := 1_000_000_000

/-- The ratio of Mach units to nanoseconds, a zero denominator read as one. -/
def machTimebase (info : MachTimebaseInfo) : ℕ × ℕ :=
  let denom := if info.denom = 0 then 1 else info.denom
  (info.numer.toNat, denom.toNat)

/-- Mach units as seconds. -/
def machTimeToSeconds (info : MachTimebaseInfo) (machTime : U64) : Seconds :=
  let (numer, denom) := machTimebase info
  (machTime.toNat : ℚ≥0) * numer / denom / nanosPerSec

/-! ## One pass -/

/-- The parent links of a pass; processes that cannot be read have none. -/
def stats (calls : Calls) : List Stat :=
  ((calls.pidsByType.getD []).filterMap fun pid => calls.bsdInfo (asI32 pid)).map fun info =>
    { pid := asI32 info.pbiPid, ppid := asI32 info.pbiPpid }

/-- The snapshot of one process, absent when its task cannot be read. -/
def sampleProcess (timebase : MachTimebaseInfo) (calls : Calls) (pid : Pid) :
    Option ProcessSnapshot :=
  (calls.taskInfo pid).map fun task =>
    let (ussBytes, pssBytes, ioReadBytes, ioWriteBytes, majorPageFaults) :=
      match calls.pidrusage pid with
      | some rusage =>
          let footprint := rusage.riPhysFootprint
          (some footprint, some footprint, some rusage.riDiskioBytesread,
            some rusage.riDiskioByteswritten, some rusage.riPageins)
      | none => (none, none, none, none, none)
    { pid
      rssBytes := task.ptiResidentSize
      vmsBytes := task.ptiVirtualSize
      ussBytes
      pssBytes
      ioReadBytes
      ioWriteBytes
      cpuTimeSeconds := machTimeToSeconds timebase task.ptiTotalUser +
        machTimeToSeconds timebase task.ptiTotalSystem
      majorPageFaults
      minorPageFaults := none
      voluntaryCtxSwitches := none
      involuntaryCtxSwitches := none
      threadCount :=
        if task.ptiThreadnum < 0 then none else ofNat? task.ptiThreadnum.toInt.toNat
      swapBytes := none }

/-- The snapshots of the root and its descendants. -/
def sampleTree (timebase : MachTimebaseInfo) (fuel : ℕ) (calls : Calls) (root : Pid) :
    Option (List ProcessSnapshot) :=
  (collectDescendants fuel (stats calls) root).map fun pids =>
    pids.filterMap (sampleProcess timebase calls)

/-- There is no page cache to read. -/
def readPageCacheMb {F : Type} : Option F :=
  none

/-- The load average that the system call stored, when it says that it stored one. -/
def readLoadavg1m {F : Type} (written : Int32) (stored : F) : Option F :=
  if written < 1 then none else some stored

/-- A pass is a pass of the common walk over the parent links it found. -/
theorem sampleTree_eq (timebase : MachTimebaseInfo) (fuel : ℕ) (calls : Calls) (root : Pid) :
    sampleTree timebase fuel calls root =
      Tricord.sampleTree fuel (stats calls) (sampleProcess timebase calls) root := by
  have hread : sampleProcess timebase calls =
      Tricord.sampleProcess (sampleProcess timebase calls) := by
    funext pid
    unfold Tricord.sampleProcess sampleProcess
    cases calls.taskInfo pid with
    | none => rfl
    | some task => rfl
  unfold sampleTree Tricord.sampleTree
  rw [← hread]

/-! ## The snapshots of a run -/

/-- What all snapshots of this platform have in common. -/
structure IsSnapshot (snap : ProcessSnapshot) : Prop where
  minorPageFaults_eq : snap.minorPageFaults = none
  voluntaryCtxSwitches_eq : snap.voluntaryCtxSwitches = none
  involuntaryCtxSwitches_eq : snap.involuntaryCtxSwitches = none
  swapBytes_eq : snap.swapBytes = none
  pssBytes_eq : snap.pssBytes = snap.ussBytes
  ioReadBytes_iff : snap.ioReadBytes.isSome ↔ snap.ussBytes.isSome
  ioWriteBytes_iff : snap.ioWriteBytes.isSome ↔ snap.ussBytes.isSome
  majorPageFaults_iff : snap.majorPageFaults.isSome ↔ snap.ussBytes.isSome

/-- What is read of a process is a snapshot of the shape below. -/
theorem isSnapshot_of_sampleProcess {timebase : MachTimebaseInfo} {calls : Calls} {pid : Pid}
    {snap : ProcessSnapshot} (h : sampleProcess timebase calls pid = some snap) :
    IsSnapshot snap := by
  rcases Option.map_eq_some_iff.mp h with ⟨task, _, rfl⟩
  cases calls.pidrusage pid with
  | none => exact ⟨rfl, rfl, rfl, rfl, rfl, Iff.rfl, Iff.rfl, Iff.rfl⟩
  | some rusage => exact ⟨rfl, rfl, rfl, rfl, rfl, Iff.rfl, Iff.rfl, Iff.rfl⟩

/-- The passes of a run: each sampled list comes from one, at its elapsed time. -/
def SampledBy (timebase : MachTimebaseInfo) (fuel : ℕ) (root : Pid) :
    List (Calls × Seconds) → List (Tick × Seconds) → Prop :=
  List.Forall₂ fun pass tick =>
    sampleTree timebase fuel pass.1 root = some tick.1 ∧ pass.2 = tick.2

/-- Every snapshot of the run has this shape. -/
theorem SampledBy.isSnapshot {timebase : MachTimebaseInfo} {fuel : ℕ} {root : Pid}
    {passes : List (Calls × Seconds)} {ticks : List (Tick × Seconds)}
    (h : SampledBy timebase fuel root passes ticks) :
    ∀ snap ∈ (tickLists ticks).flatten, IsSnapshot snap := by
  induction h with
  | nil => exact fun snap hsnap => absurd hsnap List.not_mem_nil
  | cons hpass _ ih =>
      intro snap hsnap
      rw [tickLists, List.map_cons, List.flatten_cons, List.mem_append] at hsnap
      rcases hsnap with hsnap | hsnap
      · rcases Option.map_eq_some_iff.mp hpass.1 with ⟨pids, _, htick⟩
        rw [← htick] at hsnap
        rcases List.mem_filterMap.mp hsnap with ⟨pid, _, hread⟩
        exact isSnapshot_of_sampleProcess hread
      · exact ih snap hsnap

/-! ## The columns of a run -/

/-- The columns without a source on this platform. -/
def NeverExposed (c : OptionalColumn) : Prop :=
  c = .counter .minorPageFaults ∨ c = .counter .voluntaryCtxSwitches ∨
    c = .counter .involuntaryCtxSwitches ∨ c = .peak .swap

/-- The columns of the second call. -/
def FromRusage (c : OptionalColumn) : Prop :=
  c = .peak .uss ∨ c = .counter .ioIn ∨ c = .counter .ioOut ∨ c = .counter .majorPageFaults

/-- The columns without a source are never exposed. -/
theorem IsSnapshot.read_eq_none {snap : ProcessSnapshot} (h : IsSnapshot snap)
    {c : OptionalColumn} (hc : NeverExposed c) : c.read snap = none := by
  rcases hc with rfl | rfl | rfl | rfl
  · exact h.minorPageFaults_eq
  · exact h.voluntaryCtxSwitches_eq
  · exact h.involuntaryCtxSwitches_eq
  · exact h.swapBytes_eq

/-- The columns from the resource usage are there whenever the unique size is. -/
theorem IsSnapshot.read_isSome_iff {snap : ProcessSnapshot} (h : IsSnapshot snap)
    {c : OptionalColumn} (hc : FromRusage c) : (c.read snap).isSome ↔ snap.ussBytes.isSome := by
  rcases hc with rfl | rfl | rfl | rfl
  · exact Iff.rfl
  · exact h.ioReadBytes_iff
  · exact h.ioWriteBytes_iff
  · exact h.majorPageFaults_iff

/-- Over any run on macOS, whichever calls fail: the columns without a source are
empty in every row and in the record; both set sizes are equal, with their values;
the columns of the second call are filled together in the record, and in a row as far
as they look equally far back. -/
theorem macos_run_columns (timebase : MachTimebaseInfo) (fuel : ℕ) (root : Pid)
    (passes : List (Calls × Seconds)) (ticks : List (Tick × Seconds))
    (h : SampledBy timebase fuel root passes ticks) (runningTime : Seconds) :
    let record := (traceRun ticks).state.intoRecord runningTime
    (∀ c, NeverExposed c →
        (∀ row ∈ (traceRun ticks).rows, c.inRow row = false) ∧ c.inRecord record = false) ∧
      ((∀ row ∈ (traceRun ticks).rows, row.pss = row.uss) ∧ record.maxPss = record.maxUss) ∧
      (∀ c c', FromRusage c → FromRusage c' →
        (∀ row ∈ (traceRun ticks).rows, (c.cumulative → c'.cumulative) →
          c.inRow row → c'.inRow row) ∧
        (c.inRecord record → c'.inRecord record)) := by
  intro record
  have hrecord : record = aggregateRecord (tickLists ticks) runningTime :=
    traceRun_intoRecord ticks runningTime
  clear_value record
  subst hrecord
  have hsnapshot := h.isSnapshot
  refine ⟨fun c hc => ⟨?_, ?_⟩, ⟨?_, ?_⟩, fun c c' hc hc' => ⟨?_, ?_⟩⟩
  · exact c.inRow_of_never fun snap hsnap => (hsnapshot snap hsnap).read_eq_none hc
  · exact c.inRecord_of_never _ fun snap hsnap => (hsnapshot snap hsnap).read_eq_none hc
  · intro row hrow
    rcases exists_isRowOf ticks row hrow with ⟨state, tick, htick, hspec⟩
    rw [hspec.pss_eq, hspec.uss_eq, PeakMetric.tickSum_eq, PeakMetric.tickSum_eq]
    refine congrArg (fun values => (total? values).map bytesToMib) (List.filterMap_congr ?_)
    intro snap hsnap
    exact (hsnapshot snap (List.mem_flatten_of_mem
      (List.mem_map_of_mem (mem_sampledTicks.mp htick).1) hsnap)).pssBytes_eq
  · have hpeak : peakOfSums? ProcessSnapshot.pssBytes (tickLists ticks) =
        peakOfSums? ProcessSnapshot.ussBytes (tickLists ticks) := by
      refine congrArg List.max? (List.filterMap_congr fun tick htick => ?_)
      refine congrArg total? (List.filterMap_congr fun snap hsnap => ?_)
      exact (hsnapshot snap (List.mem_flatten_of_mem htick hsnap)).pssBytes_eq
    unfold aggregateRecord
    split_ifs
    · rfl
    · exact congrArg (Option.map bytesToMib) hpeak
    · exact congrArg (Option.map bytesToMib) hpeak
  · intro row hrow hback
    refine OptionalColumn.inRow_mono hback (fun snap hsnap hread => ?_) row hrow
    have hsnap := hsnapshot snap hsnap
    exact (hsnap.read_isSome_iff hc').mpr ((hsnap.read_isSome_iff hc).mp hread)
  · refine OptionalColumn.inRecord_mono runningTime fun snap hsnap hread => ?_
    have hsnap := hsnapshot snap hsnap
    exact (hsnap.read_isSome_iff hc').mpr ((hsnap.read_isSome_iff hc).mp hread)

/-- A root and a child on Apple silicon; the resource usage of the child cannot be read. -/
def family : Calls where
  pidsByType := some [7, 8]
  bsdInfo pid :=
    if pid = 7 then some { pbiPid := 7, pbiPpid := 1 }
    else if pid = 8 then some { pbiPid := 8, pbiPpid := 7 }
    else none
  taskInfo pid :=
    if pid = 7 ∨ pid = 8 then
      some
        { ptiResidentSize := clamp 4096, ptiVirtualSize := clamp 8192, ptiTotalUser := clamp 24,
          ptiTotalSystem := 0, ptiThreadnum := 2 }
    else none
  pidrusage pid :=
    if pid = 7 then
      some
        { riPhysFootprint := clamp 2048, riDiskioBytesread := 0, riDiskioByteswritten := 0,
          riPageins := clamp 3 }
    else none

/-- A parent and a child, of which only the parent answers with its resource usage. -/
theorem macos_run_columns_family :
    let timebase : MachTimebaseInfo := { numer := 125, denom := 3 }
    let ticks := [((sampleTree timebase 9 family 7).getD [], (2 : Seconds))]
    let record := (traceRun ticks).state.intoRecord 3
    record.peakNProcs = 2 ∧ record.maxPss = record.maxUss ∧ record.ioOut.isSome := by
  intro timebase ticks record
  have hcolumns := macos_run_columns timebase 9 7 [(family, 2)] ticks
    (List.Forall₂.cons ⟨by decide +kernel, rfl⟩ List.Forall₂.nil) 3
  refine ⟨by decide +kernel, hcolumns.2.1.2, ?_⟩
  exact (hcolumns.2.2 (.peak .uss) (.counter .ioOut) (.inl rfl) (.inr (.inr (.inl rfl)))).2
    (by decide +kernel)

/-! ## The documents of a run -/

/-- The names of the trace columns without a source, and those of the record. -/
def emptyTraceNames : List String :=
  ["minor_page_faults", "voluntary_ctx_switches", "involuntary_ctx_switches", "swap"]

/-- The names of the columns of the record without a source. -/
def emptyRecordNames : List String :=
  ["minor_page_faults", "voluntary_ctx_switches", "involuntary_ctx_switches", "max_swap",
    "page_cache_start", "page_cache_end"]

/-- The documents of any run on macOS: every line of the trace has the placeholder
under the names without a source, and so has the row of the record once data was
collected, whatever the load averages; without data it has the other one. -/
theorem run_cells (fmt : FloatFormat ℚ≥0) (htab : fmt.FreeOf '\t') (timebase : MachTimebaseInfo)
    (fuel : ℕ) (root : Pid) (passes : List (Calls × Seconds)) (ticks : List (Tick × Seconds))
    (h : SampledBy timebase fuel root passes ticks) (runningTime : Seconds)
    (loadavgStart loadavgEnd : Option ℚ≥0) :
    let record := (traceRun ticks).state.intoRecord runningTime
    let written := record.withContext
      { loadavg1m := loadavgStart, pageCacheMb := readPageCacheMb }
      { loadavg1m := loadavgEnd, pageCacheMb := readPageCacheMb }
    (∀ row ∈ (traceRun ticks).rows, ∀ name ∈ emptyTraceNames,
        cellUnder '\t' traceTsvHeader (row.toTsvRow fmt) name = some "-") ∧
      ∀ name ∈ emptyRecordNames,
        rowCell (written.toTsvRow fmt .full) name =
          some (if record.dataCollected then "-" else "NA") := by
  intro record written
  have hrecord : record = aggregateRecord (tickLists ticks) runningTime :=
    traceRun_intoRecord ticks runningTime
  have hsnapshot := h.isSnapshot
  have hrow : ∀ c, NeverExposed c → ∀ row ∈ (traceRun ticks).rows, c.inRow row = false :=
    fun c hc => c.inRow_of_never fun snap hsnap => (hsnapshot snap hsnap).read_eq_none hc
  have hfield : ∀ c, NeverExposed c → c.inRecord record = false := by
    intro c hc
    rw [hrecord]
    exact c.inRecord_of_never _ fun snap hsnap => (hsnapshot snap hsnap).read_eq_none hc
  constructor
  · intro row hmem
    have hminor : row.minorPageFaults = none :=
      OptionalColumn.eq_none_of_isSome_eq_false (hrow _ (.inl rfl) row hmem)
    have hvoluntary : row.voluntaryCtxSwitches = none :=
      OptionalColumn.eq_none_of_isSome_eq_false (hrow _ (.inr (.inl rfl)) row hmem)
    have hinvoluntary : row.involuntaryCtxSwitches = none :=
      OptionalColumn.eq_none_of_isSome_eq_false (hrow _ (.inr (.inr (.inl rfl))) row hmem)
    have hswap : row.swap = none :=
      OptionalColumn.eq_none_of_isSome_eq_false (hrow _ (.inr (.inr (.inr rfl))) row hmem)
    have hcells : ∀ name ∈ emptyTraceNames, (name, "-") ∈ row.columns fmt := by
      simp [emptyTraceNames, TickRecord.columns, hminor, hvoluntary, hinvoluntary, hswap,
        formatOptionalU64, formatOptionalFloat]
    exact fun name hname => row.cellUnder_toTsvRow htab (name, "-") (hcells name hname)
  · have hminor : written.minorPageFaults = none :=
      OptionalColumn.eq_none_of_isSome_eq_false (hfield _ (.inl rfl))
    have hvoluntary : written.voluntaryCtxSwitches = none :=
      OptionalColumn.eq_none_of_isSome_eq_false (hfield _ (.inr (.inl rfl)))
    have hinvoluntary : written.involuntaryCtxSwitches = none :=
      OptionalColumn.eq_none_of_isSome_eq_false (hfield _ (.inr (.inr (.inl rfl))))
    have hswap : written.maxSwap = none :=
      OptionalColumn.eq_none_of_isSome_eq_false (hfield _ (.inr (.inr (.inr rfl))))
    have hstart : written.pageCacheStart = none := rfl
    have hend : written.pageCacheEnd = none := rfl
    have hdata : written.dataCollected = record.dataCollected := rfl
    have hcells : ∀ name ∈ emptyRecordNames,
        (name, if record.dataCollected then "-" else "NA") ∈ written.markdownRows fmt .full := by
      simp [emptyRecordNames, BenchmarkRecord.markdownRows, hminor, hvoluntary, hinvoluntary,
        hswap, hstart, hend, hdata, formatOptionalU64, formatOptionalFloat]
    exact fun name hname => BenchmarkRecord.rowCell_toTsvRow htab (hcells name hname)

/-- The cell for the page cache of this record holds the placeholder. -/
theorem run_cells_family :
    let fmt := exactFormat.comap NNRat.cast
    let timebase : MachTimebaseInfo := { numer := 125, denom := 3 }
    let ticks := [((sampleTree timebase 9 family 7).getD [], (2 : Seconds))]
    let record := (traceRun ticks).state.intoRecord 3
    let context : SystemContext ℚ≥0 := { loadavg1m := some 1, pageCacheMb := readPageCacheMb }
    rowCell ((record.withContext context context).toTsvRow fmt .full) "page_cache_end" =
      some "-" := by
  intro fmt timebase ticks record context
  have hcells := run_cells fmt ((exactFormat_freeOf (by decide) (by decide) (by decide)).comap _)
    timebase 9 7 [(family, 2)] ticks
    (List.Forall₂.cons ⟨by decide +kernel, rfl⟩ List.Forall₂.nil) 3 (some 1) (some 1)
  have hdata : record.dataCollected = true := by decide +kernel
  have hcell := hcells.2 "page_cache_end" (by decide)
  rw [show ((traceRun ticks).state.intoRecord 3).dataCollected = true from hdata] at hcell
  exact hcell

end Macos

end Tricord

import Tricord.Platform.Columns
import Tricord.Platform.SampleTree
import Mathlib.Algebra.BigOperators.Ring.List

/-!
# The Linux sampler

A pass reads four files of every listed process.  A process counts when its
{lit}`stat` and {lit}`status` can be read, the other two files only fill optional
columns.  Memory sizes come in KiB and are turned into bytes before they are added
up, with a saturating operation at every stage.

Main results:

- Theorem {lit}`Linux.sampleTree_eq`: a pass is a pass of the common walk.
- Theorem {lit}`Linux.linux_run_columns`: which columns a run on Linux fills.
- Theorem {lit}`Linux.run_memory`: the memory columns saturate once, at the end.
-/

namespace Tricord

namespace Linux

open BoundedNat KeyedAccumulation

/-! ## Readings -/

/-- The fields read from {lit}`/proc/<pid>/stat`. -/
structure ProcStat where
  pid : Pid
  ppid : Pid
  utime : U64
  stime : U64
  majflt : U64
  minflt : U64

/-- The fields read from {lit}`/proc/<pid>/status`, sizes in KiB. -/
structure ProcStatus where
  vmrss : Option U64
  vmsize : Option U64
  vmswap : Option U64
  threads : U64
  voluntaryCtxtSwitches : Option U64
  nonvoluntaryCtxtSwitches : Option U64

/-- The fields read from {lit}`/proc/<pid>/io`. -/
structure ProcIo where
  readBytes : U64
  writeBytes : U64

/-- The files of one process, absent where one cannot be read. -/
structure Process where
  stat : Option ProcStat
  status : Option ProcStatus
  io : Option ProcIo
  /-- The maps of {lit}`smaps_rollup`, each a table of sizes in bytes. -/
  smapsRollup : Option (List (KeyMap String U64))

/-- What one pass finds in {lit}`/proc`: the processes it lists for the walk, and
those it opens afterwards, one for each PID. -/
structure Proc where
  allProcesses : Option (List (Option Process))
  process : Pid → Option Process

/-- Process-tree sampler for Linux, with the clock ticks of a second. -/
structure LinuxSampler where
  ticksPerSecond : ℕ+

/-! ## One pass -/

/-- The parent links of a pass; processes that cannot be read have none. -/
def stats (proc : Proc) : List Stat :=
  ((proc.allProcesses.getD []).reduceOption.filterMap Process.stat).map fun stat =>
    { pid := stat.pid, ppid := stat.ppid }

/-- The unique and the proportional set size. -/
def readSmapsRollup (process : Process) : Option U64 × Option U64 :=
  match process.smapsRollup with
  | some rollup =>
      match rollup.head? with
      | none => (none, none)
      | some map =>
          let privateClean := (map.lookup "Private_Clean").getD 0
          let privateDirty := (map.lookup "Private_Dirty").getD 0
          (some (privateClean.saturatingAdd privateDirty), map.lookup "Pss")
  | none => (none, none)

/-- A process that was opened, with the two files that it must have. -/
structure Reading where
  pid : Pid
  process : Process
  stat : ProcStat
  status : ProcStatus

/-- The process behind a PID, absent when it cannot be opened or one of the two
files cannot be read. -/
def reading (proc : Proc) (pid : Pid) : Option Reading := do
  let process ← proc.process pid
  let stat ← process.stat
  let status ← process.status
  return { pid, process, stat, status }

/-- The snapshot of a process that was read. -/
def snapshot (sampler : LinuxSampler) (r : Reading) : ProcessSnapshot :=
  let (ussBytes, pssBytes) := readSmapsRollup r.process
  let (ioReadBytes, ioWriteBytes) :=
    match r.process.io with
    | some io => (some io.readBytes, some io.writeBytes)
    | none => (none, none)
  let cpuTicks := r.stat.utime.saturatingAdd r.stat.stime
  { pid := r.pid
    rssBytes := (r.status.vmrss.getD 0).saturatingMul 1024
    vmsBytes := (r.status.vmsize.getD 0).saturatingMul 1024
    ussBytes
    pssBytes
    ioReadBytes
    ioWriteBytes
    cpuTimeSeconds := (cpuTicks.toNat : ℚ≥0) / (sampler.ticksPerSecond : ℕ)
    majorPageFaults := some r.stat.majflt
    minorPageFaults := some r.stat.minflt
    voluntaryCtxSwitches := r.status.voluntaryCtxtSwitches
    involuntaryCtxSwitches := r.status.nonvoluntaryCtxtSwitches
    threadCount := some r.status.threads
    swapBytes := r.status.vmswap.map fun kb => kb.saturatingMul 1024 }

/-- The snapshot of one process, absent when the process cannot be read. -/
def sampleProcess (sampler : LinuxSampler) (proc : Proc) (pid : Pid) :
    Option ProcessSnapshot :=
  (reading proc pid).map (snapshot sampler)

/-- The snapshots of the root and its descendants. -/
def sampleTree (sampler : LinuxSampler) (fuel : ℕ) (proc : Proc) (root : Pid) :
    Option (List ProcessSnapshot) :=
  (collectDescendants fuel (stats proc) root).map fun pids =>
    pids.filterMap (sampleProcess sampler proc)

/-! ## The state of the host -/

/-- The characters at which text is split into fields. -/
def isWhitespace (c : Char) : Bool :=
  (9 ≤ c.toNat && c.toNat ≤ 13) || c.toNat == 0x20 || c.toNat == 0x85 || c.toNat == 0xA0 ||
    c.toNat == 0x1680 || (0x2000 ≤ c.toNat && c.toNat ≤ 0x200A) || c.toNat == 0x2028 ||
    c.toNat == 0x2029 || c.toNat == 0x202F || c.toNat == 0x205F || c.toNat == 0x3000

/-- The fields of a text, none of them empty. -/
def splitWhitespace (text : List Char) : List (List Char) :=
  (text.splitOnP isWhitespace).filter fun field => !field.isEmpty

/-- The first field of {lit}`/proc/loadavg`. -/
def readLoadavg1m {F : Type} (parse : String → Option F) (loadavg : Option String) :
    Option F := do
  let text ← loadavg
  let field ← (splitWhitespace text.toList).head?
  parse (String.ofList field)

/-- The page cache of {lit}`/proc/meminfo` in MiB. -/
def readPageCacheMb (cached : Option U64) : Option ℚ≥0 :=
  cached.map bytesToMib

/-- A leading blank is skipped. -/
theorem splitWhitespace_cons_of_blank {c : Char} (hc : isWhitespace c = true)
    (text : List Char) : splitWhitespace (c :: text) = splitWhitespace text := by
  rw [splitWhitespace, List.splitOnP_cons_eq_if_modifyHead, if_pos hc]
  rfl

/-- Any number of leading blanks is skipped. -/
theorem splitWhitespace_blanks {blanks : List Char} (h : ∀ c ∈ blanks, isWhitespace c = true)
    (text : List Char) : splitWhitespace (blanks ++ text) = splitWhitespace text := by
  induction blanks with
  | nil => rfl
  | cons c blanks ih =>
      rw [List.cons_append, splitWhitespace_cons_of_blank (h c List.mem_cons_self),
        ih fun c' hc' => h c' (List.mem_cons_of_mem c hc')]

/-- The first field ends before the first blank. -/
theorem splitWhitespace_field {field rest : List Char} (hne : field ≠ [])
    (hfield : ∀ c ∈ field, isWhitespace c = false)
    (hrest : ∀ c ∈ rest.head?, isWhitespace c = true) :
    (splitWhitespace (field ++ rest)).head? = some field := by
  have hkept : (!field.isEmpty) = true := by simpa using hne
  cases rest with
  | nil =>
      rw [List.append_nil, splitWhitespace, List.splitOnP_eq_singleton hfield, List.filter_cons,
        if_pos hkept, List.head?_cons]
  | cons c rest =>
      rw [splitWhitespace,
        List.splitOnP_append_cons_of_forall_mem hfield c (hrest c rfl) rest, List.filter_cons,
        if_pos hkept, List.head?_cons]

/-- What is read is the first run of characters that are not blank, whatever stands
around it, and nothing when there is none. -/
theorem readLoadavg1m_eq {F : Type} (parse : String → Option F) {text : String}
    {blanks field rest : List Char} (htext : text.toList = blanks ++ (field ++ rest))
    (hblanks : ∀ c ∈ blanks, isWhitespace c = true)
    (hfield : ∀ c ∈ field, isWhitespace c = false)
    (hrest : ∀ c ∈ rest.head?, isWhitespace c = true) :
    (field ≠ [] → readLoadavg1m parse (some text) = parse (String.ofList field)) ∧
      (field = [] → rest = [] → readLoadavg1m parse (some text) = none) := by
  have hread : readLoadavg1m parse (some text) =
      (splitWhitespace text.toList).head?.bind fun field => parse (String.ofList field) := rfl
  rw [hread, htext, splitWhitespace_blanks hblanks]
  constructor
  · intro hne
    rw [splitWhitespace_field hne hfield hrest, Option.bind_some]
  · rintro rfl rfl
    rfl

/-! ## A pass in terms of the common walk -/

/-- A reading is one of the process it was asked for. -/
theorem pid_of_reading {proc : Proc} {pid : Pid} {r : Reading}
    (h : reading proc pid = some r) : r.pid = pid := by
  simp only [reading, Option.bind_eq_bind, Option.bind_eq_some_iff, Option.pure_def,
    Option.some_inj] at h
  rcases h with ⟨process, _, stat, _, status, _, rfl⟩
  rfl

/-- A pass is a pass of the common walk over the parent links it found. -/
theorem sampleTree_eq (sampler : LinuxSampler) (fuel : ℕ) (proc : Proc) (root : Pid) :
    sampleTree sampler fuel proc root =
      Tricord.sampleTree fuel (stats proc) (sampleProcess sampler proc) root := by
  have hread : sampleProcess sampler proc =
      Tricord.sampleProcess (sampleProcess sampler proc) := by
    funext pid
    unfold Tricord.sampleProcess sampleProcess
    cases hreading : reading proc pid with
    | none => rfl
    | some r =>
        rw [← pid_of_reading hreading]
        rfl
  unfold sampleTree Tricord.sampleTree
  rw [← hread]

/-- The processes of the tree that can be read. -/
def readTree (fuel : ℕ) (proc : Proc) (root : Pid) : List Reading :=
  ((collectDescendants fuel (stats proc) root).getD []).filterMap (reading proc)

/-- A pass that ends has one snapshot for each process of the tree that can be read. -/
theorem snapshots_of_sampleTree {sampler : LinuxSampler} {fuel : ℕ} {proc : Proc} {root : Pid}
    {snapshots : List ProcessSnapshot}
    (h : sampleTree sampler fuel proc root = some snapshots) :
    snapshots = (readTree fuel proc root).map (snapshot sampler) := by
  rcases Option.map_eq_some_iff.mp h with ⟨pids, hrun, rfl⟩
  rw [readTree, hrun, Option.getD_some, List.map_filterMap]
  rfl

/-- The passes of a run: each sampled list comes from one, at its elapsed time. -/
def SampledBy (sampler : LinuxSampler) (fuel : ℕ) (root : Pid) :
    List (Proc × Seconds) → List (Tick × Seconds) → Prop :=
  List.Forall₂ fun pass tick =>
    sampleTree sampler fuel pass.1 root = some tick.1 ∧ pass.2 = tick.2

/-- The lists of the run are the snapshots of the readings of its passes. -/
theorem SampledBy.tickLists_eq {sampler : LinuxSampler} {fuel : ℕ} {root : Pid}
    {passes : List (Proc × Seconds)} {ticks : List (Tick × Seconds)}
    (h : SampledBy sampler fuel root passes ticks) :
    tickLists ticks =
      passes.map fun pass => (readTree fuel pass.1 root).map (snapshot sampler) := by
  induction h with
  | nil => rfl
  | cons hpass _ ih =>
      rw [tickLists, List.map_cons, List.map_cons, snapshots_of_sampleTree hpass.1]
      exact congrArg _ ih

/-- Every snapshot of the run is one of a reading. -/
theorem SampledBy.exists_reading {sampler : LinuxSampler} {fuel : ℕ} {root : Pid}
    {passes : List (Proc × Seconds)} {ticks : List (Tick × Seconds)}
    (h : SampledBy sampler fuel root passes ticks) :
    ∀ snap ∈ (tickLists ticks).flatten, ∃ r, snap = snapshot sampler r := by
  intro snap hsnap
  rw [h.tickLists_eq] at hsnap
  rcases List.mem_flatten.mp hsnap with ⟨tick, htick, hmem⟩
  rcases List.mem_map.mp htick with ⟨pass, _, rfl⟩
  rcases List.mem_map.mp hmem with ⟨r, _, rfl⟩
  exact ⟨r, rfl⟩

/-! ## The columns of a run -/

/-- The metrics of the two files that a process must have. -/
def AlwaysExposed (c : OptionalColumn) : Prop :=
  c = .peak .threads ∨ c = .counter .majorPageFaults ∨ c = .counter .minorPageFaults

section Snapshot

variable (sampler : LinuxSampler) (r : Reading)

/-- The rollup that gives the proportional size gives the unique one as well. -/
theorem ussBytes_of_pssBytes (h : (snapshot sampler r).pssBytes.isSome) :
    (snapshot sampler r).ussBytes.isSome := by
  have hread : (snapshot sampler r).pssBytes = (readSmapsRollup r.process).2 ∧
      (snapshot sampler r).ussBytes = (readSmapsRollup r.process).1 := ⟨rfl, rfl⟩
  rw [hread.1] at h
  rw [hread.2]
  revert h
  unfold readSmapsRollup
  cases r.process.smapsRollup with
  | none => exact id
  | some rollup =>
      cases rollup with
      | nil => exact id
      | cons map maps => exact fun _ => rfl

/-- The two I/O counters come from one file, so that both are there or none is. -/
theorem io_isSome_iff : (snapshot sampler r).ioReadBytes.isSome ↔
    (snapshot sampler r).ioWriteBytes.isSome := by
  simp only [snapshot]
  cases r.process.io with
  | none => exact Iff.rfl
  | some io => exact Iff.rfl

end Snapshot

/-- A root whose {lit}`smaps_rollup` and {lit}`io` cannot be read, a child that occupies
more KiB than bytes can count, and a child that is gone when it is opened. -/
def family : Proc :=
  let stat (pid ppid : Pid) : ProcStat :=
    { pid, ppid, utime := clamp 7, stime := clamp 5, majflt := clamp 1, minflt := clamp 9 }
  let status (vmrss : ℕ) : ProcStatus :=
    { vmrss := some (clamp vmrss), vmsize := some (clamp (2 * vmrss)), vmswap := none,
      threads := clamp 2, voluntaryCtxtSwitches := none, nonvoluntaryCtxtSwitches := none }
  let root : Process :=
    { stat := some (stat 7 1), status := some (status 3), io := none, smapsRollup := none }
  let child : Process :=
    { stat := some (stat 8 7)
      status := some (status (2 ^ 60))
      io := some { readBytes := clamp 4096, writeBytes := 0 }
      smapsRollup := some [(∅ : KeyMap String U64).insert "Private_Dirty" (clamp 2048)] }
  let gone : Process := { stat := some (stat 9 8), status := none, io := none, smapsRollup := none }
  { allProcesses := some [some root, none, some child, some gone]
    process := fun pid => if pid = 7 then some root else if pid = 8 then some child else none }

/-- Over any run on Linux, whatever files cannot be read: every row has the threads
and both page faults, no row has the proportional set size without the unique one,
and none has one half of the I/O; and so has the record, once data was collected. -/
theorem linux_run_columns (sampler : LinuxSampler) (fuel : ℕ) (root : Pid)
    (passes : List (Proc × Seconds)) (ticks : List (Tick × Seconds))
    (h : SampledBy sampler fuel root passes ticks) (runningTime : Seconds) :
    let record := (traceRun ticks).state.intoRecord runningTime
    (∀ row ∈ (traceRun ticks).rows,
        (row.nThreads.isSome ∧ row.majorPageFaults.isSome ∧ row.minorPageFaults.isSome) ∧
        (row.pss.isSome → row.uss.isSome) ∧ (row.ioIn.isSome ↔ row.ioOut.isSome)) ∧
      (record.dataCollected = true →
        record.peakNThreads.isSome ∧ record.majorPageFaults.isSome ∧
          record.minorPageFaults.isSome) ∧
      (record.maxPss.isSome → record.maxUss.isSome) ∧
      (record.ioIn.isSome ↔ record.ioOut.isSome) := by
  intro record
  have hrecord : record = aggregateRecord (tickLists ticks) runningTime :=
    traceRun_intoRecord ticks runningTime
  clear_value record
  subst hrecord
  have hreading := h.exists_reading
  have halways : ∀ c : OptionalColumn, AlwaysExposed c →
      ∀ snap ∈ (tickLists ticks).flatten, (c.read snap).isSome := by
    intro c hc snap hsnap
    rcases hreading snap hsnap with ⟨r, rfl⟩
    rcases hc with rfl | rfl | rfl <;> rfl
  have hpss : ∀ snap ∈ (tickLists ticks).flatten,
      ((OptionalColumn.peak .pss).read snap).isSome →
        ((OptionalColumn.peak .uss).read snap).isSome := by
    intro snap hsnap
    rcases hreading snap hsnap with ⟨r, rfl⟩
    exact ussBytes_of_pssBytes sampler r
  have hio : ∀ snap ∈ (tickLists ticks).flatten,
      ((OptionalColumn.counter .ioIn).read snap).isSome ↔
        ((OptionalColumn.counter .ioOut).read snap).isSome := by
    intro snap hsnap
    rcases hreading snap hsnap with ⟨r, rfl⟩
    exact io_isSome_iff sampler r
  refine ⟨fun row hrow => ⟨⟨?_, ?_, ?_⟩, ?_, ?_, ?_⟩, fun hdata => ⟨?_, ?_, ?_⟩, ?_, ?_, ?_⟩
  · exact OptionalColumn.inRow_of_always _ (halways _ (.inl rfl)) row hrow
  · exact OptionalColumn.inRow_of_always _ (halways _ (.inr (.inl rfl))) row hrow
  · exact OptionalColumn.inRow_of_always _ (halways _ (.inr (.inr rfl))) row hrow
  · exact OptionalColumn.inRow_mono (by simp [OptionalColumn.cumulative]) hpss row hrow
  · exact OptionalColumn.inRow_mono (by simp [OptionalColumn.cumulative])
      (fun snap hsnap => (hio snap hsnap).mp) row hrow
  · exact OptionalColumn.inRow_mono (by simp [OptionalColumn.cumulative])
      (fun snap hsnap => (hio snap hsnap).mpr) row hrow
  · exact OptionalColumn.inRecord_of_always _ _ (halways _ (.inl rfl)) hdata
  · exact OptionalColumn.inRecord_of_always _ _ (halways _ (.inr (.inl rfl))) hdata
  · exact OptionalColumn.inRecord_of_always _ _ (halways _ (.inr (.inr rfl))) hdata
  · exact OptionalColumn.inRecord_mono runningTime hpss
  · exact OptionalColumn.inRecord_mono runningTime fun snap hsnap => (hio snap hsnap).mp
  · exact OptionalColumn.inRecord_mono runningTime fun snap hsnap => (hio snap hsnap).mpr

/-- Two processes, of which both expose their threads and their I/O. -/
theorem linux_run_columns_family :
    let sampler : LinuxSampler := { ticksPerSecond := 100 }
    let ticks := [((sampleTree sampler 9 family 7).getD [], (2 : Seconds))]
    let record := (traceRun ticks).state.intoRecord 3
    record.dataCollected = true ∧ record.peakNThreads.isSome ∧
      (record.ioIn.isSome ↔ record.ioOut.isSome) := by
  intro sampler ticks record
  have hcolumns := linux_run_columns sampler 9 7 [(family, 2)] ticks
    (List.Forall₂.cons ⟨by decide +kernel, rfl⟩ List.Forall₂.nil) 3
  have hdata : record.dataCollected = true := by decide +kernel
  exact ⟨hdata, (hcolumns.2.1 hdata).1, hcolumns.2.2.2⟩

/-! ## The memory columns -/

/-- The exact sum of a field in KiB over the processes of a pass. -/
def kib (field : ProcStatus → Option U64) (readings : List Reading) : ℕ :=
  (readings.map fun r => ((field r.status).getD 0).toNat).sum

/-- The exact sum of what some processes expose, nothing when none does. -/
def exposedSum? (field : Reading → Option ℕ) (readings : List Reading) : Option ℕ :=
  if readings.filterMap field = [] then none else some (readings.filterMap field).sum

/-- The bytes that a process alone maps, by the first map of its rollup. -/
def Reading.uniqueBytes (r : Reading) : Option ℕ :=
  (r.process.smapsRollup.bind List.head?).map fun map =>
    ((map.lookup "Private_Clean").getD 0).toNat + ((map.lookup "Private_Dirty").getD 0).toNat

/-- The bytes of a process that are swapped out. -/
def Reading.swapBytes (r : Reading) : Option ℕ :=
  r.status.vmswap.map fun kb => kb.toNat * 1024

/-- Bytes as MiB, saturated once. -/
def saturatedMib (bytes : ℕ) : ℚ≥0 :=
  bytesToMib (clamp bytes)

/-- Saturating each KiB field and then the sum is saturating the exact sum of bytes. -/
theorem total_kib (sampler : LinuxSampler) (field : ProcStatus → Option U64)
    (read : ProcessSnapshot → U64)
    (h : ∀ r, read (snapshot sampler r) = ((field r.status).getD 0).saturatingMul 1024)
    (readings : List Reading) :
    total ((readings.map (snapshot sampler)).map read) = clamp (1024 * kib field readings) := by
  have hclamp : ∀ r, read (snapshot sampler r) =
      clamp (1024 * ((field r.status).getD 0).toNat) := by
    intro r
    rw [h, saturatingMul, Nat.mul_comm]
  rw [List.map_map, show read ∘ snapshot sampler = _ from funext hclamp, total_map_clamp,
    List.sum_map_mul_left]
  rfl

/-- Saturating each exposed value and then the sum is saturating the exact sum. -/
theorem total?_exposed (sampler : LinuxSampler) (field : Reading → Option ℕ)
    (read : ProcessSnapshot → Option U64)
    (h : ∀ r, read (snapshot sampler r) = (field r).map clamp) (readings : List Reading) :
    total? ((readings.map (snapshot sampler)).filterMap read) =
      (exposedSum? field readings).map clamp := by
  rw [List.filterMap_map, show read ∘ snapshot sampler = _ from funext h,
    total?_filterMap_clamp, exposedSum?]
  split_ifs <;> rfl

/-- The unique size of a snapshot is that of its reading, clamped. -/
theorem ussBytes_snapshot (sampler : LinuxSampler) (r : Reading) :
    (snapshot sampler r).ussBytes = r.uniqueBytes.map clamp := by
  have hread : (snapshot sampler r).ussBytes = (readSmapsRollup r.process).1 := rfl
  rw [hread, readSmapsRollup, Reading.uniqueBytes]
  cases r.process.smapsRollup with
  | none => rfl
  | some rollup =>
      cases rollup with
      | nil => rfl
      | cons map maps => rfl

/-- The swapped size of a snapshot is that of its reading, clamped. -/
theorem swapBytes_snapshot (sampler : LinuxSampler) (r : Reading) :
    (snapshot sampler r).swapBytes = r.swapBytes.map clamp := by
  rw [Reading.swapBytes, Option.map_map]
  rfl

/-- The memory columns of one row or of the record. -/
structure MemoryColumns where
  rss : ℚ≥0
  vms : ℚ≥0
  uss : Option ℚ≥0
  swap : Option ℚ≥0

/-- The exact sums of a pass, saturated once. -/
def memoryColumns (readings : List Reading) : MemoryColumns where
  rss := saturatedMib (1024 * kib ProcStatus.vmrss readings)
  vms := saturatedMib (1024 * kib ProcStatus.vmsize readings)
  uss := (exposedSum? Reading.uniqueBytes readings).map saturatedMib
  swap := (exposedSum? Reading.swapBytes readings).map saturatedMib

/-- The memory columns of a tick. -/
def tickColumns (tick : Tick) : MemoryColumns where
  rss := bytesToMib (SizeMetric.rss.tickSum tick)
  vms := bytesToMib (SizeMetric.vms.tickSum tick)
  uss := (PeakMetric.uss.tickSum tick).map bytesToMib
  swap := (PeakMetric.swap.tickSum tick).map bytesToMib

/-- The memory columns of a tick are those of the readings of its pass. -/
theorem tickColumns_map_snapshot (sampler : LinuxSampler) (readings : List Reading) :
    tickColumns (readings.map (snapshot sampler)) = memoryColumns readings := by
  have hrss := total_kib sampler ProcStatus.vmrss ProcessSnapshot.rssBytes (fun _ => rfl) readings
  have hvms := total_kib sampler ProcStatus.vmsize ProcessSnapshot.vmsBytes (fun _ => rfl) readings
  have huss := total?_exposed sampler Reading.uniqueBytes ProcessSnapshot.ussBytes
    (ussBytes_snapshot sampler) readings
  have hswap := total?_exposed sampler Reading.swapBytes ProcessSnapshot.swapBytes
    (swapBytes_snapshot sampler) readings
  unfold tickColumns
  rw [SizeMetric.tickSum_eq, SizeMetric.tickSum_eq, PeakMetric.tickSum_eq, PeakMetric.tickSum_eq]
  simp only [SizeMetric.read, PeakMetric.read, hrss, hvms, huss, hswap, Option.map_map]
  rfl

/-- A value of every sampled tick is one of every list that is not empty. -/
theorem map_sampledTicks {R : Type*} (value : Tick → R) (ticks : List (Tick × Seconds)) :
    (sampledTicks ticks).map (fun tick => value tick.1) =
      ((tickLists ticks).filter fun tick => !tick.isEmpty).map value := by
  rw [sampledTicks, tickLists, List.filter_map, List.map_map]
  rfl

/-- A size peaks where its exact sum does. -/
theorem peakOfSums_kib (sampler : LinuxSampler) (field : ProcStatus → Option U64)
    (read : ProcessSnapshot → U64)
    (h : ∀ r, read (snapshot sampler r) = ((field r.status).getD 0).saturatingMul 1024)
    (trees : List (List Reading)) :
    peakOfSums read (trees.map fun readings => readings.map (snapshot sampler)) =
      clamp (1024 * ((trees.map (kib field)).max?.getD 0)) := by
  have hsums : (trees.map fun readings => readings.map (snapshot sampler)).map
      (fun tick => total (tick.map read)) =
        (trees.map (kib field)).map fun n => clamp (1024 * n) := by
    rw [List.map_map, List.map_map]
    exact List.map_congr_left fun readings _ => total_kib sampler field read h readings
  have hmono : Monotone fun n => (clamp (1024 * n) : U64) :=
    fun _ _ hle => clamp_mono (Nat.mul_le_mul_left 1024 hle)
  rw [peakOfSums, hsums, KeyedMaxima.max?_map hmono]
  cases (trees.map (kib field)).max? with
  | none => exact clamp_zero.symm
  | some n => rfl

/-- An optional metric peaks where its exact sum does. -/
theorem peakOfSums?_exposed (sampler : LinuxSampler) (field : Reading → Option ℕ)
    (read : ProcessSnapshot → Option U64)
    (h : ∀ r, read (snapshot sampler r) = (field r).map clamp) (trees : List (List Reading)) :
    peakOfSums? read (trees.map fun readings => readings.map (snapshot sampler)) =
      ((trees.filterMap (exposedSum? field)).max?).map clamp := by
  have hsums : (trees.map fun readings => readings.map (snapshot sampler)).filterMap
      (fun tick => total? (tick.filterMap read)) =
        (trees.filterMap (exposedSum? field)).map clamp := by
    rw [List.filterMap_map, List.map_filterMap]
    exact List.filterMap_congr fun readings _ => total?_exposed sampler field read h readings
  have hmono : Monotone (clamp : ℕ → U64) := fun _ _ hle => clamp_mono hle
  rw [peakOfSums?, hsums, KeyedMaxima.max?_map hmono]

/-- Empty ticks have no peak. -/
theorem peakOfSums?_of_empty {read : ProcessSnapshot → Option U64} {ticks : List Tick}
    (hempty : ∀ tick ∈ ticks, tick = []) : peakOfSums? read ticks = none := by
  rw [← Option.not_isSome_iff_eq_none, peakOfSums?_isSome_iff]
  rintro ⟨tick, htick, snap, hsnap, _⟩
  rw [hempty tick htick] at hsnap
  exact absurd hsnap List.not_mem_nil

/-- Over any run on Linux, the memory columns of the rows are the exact sums over the
processes read in a pass, scaled and saturated once, although the code saturates in
KiB, in every process and in every partial sum; and those of the record are the
largest such sums of the run. -/
theorem run_memory (sampler : LinuxSampler) (fuel : ℕ) (root : Pid)
    (passes : List (Proc × Seconds)) (ticks : List (Tick × Seconds))
    (h : SampledBy sampler fuel root passes ticks) (runningTime : Seconds) :
    let trees := passes.map fun pass => readTree fuel pass.1 root
    let record := (traceRun ticks).state.intoRecord runningTime
    (traceRun ticks).rows.map
        (fun row => ({ rss := row.rss, vms := row.vms, uss := row.uss, swap := row.swap } :
          MemoryColumns)) =
        (trees.filter fun readings => !readings.isEmpty).map memoryColumns ∧
      (record.dataCollected = true →
        record.maxRss =
            some (saturatedMib (1024 * ((trees.map (kib ProcStatus.vmrss)).max?.getD 0))) ∧
          record.maxVms =
            some (saturatedMib (1024 * ((trees.map (kib ProcStatus.vmsize)).max?.getD 0)))) ∧
      record.maxUss =
        ((trees.filterMap (exposedSum? Reading.uniqueBytes)).max?).map saturatedMib ∧
      record.maxSwap =
        ((trees.filterMap (exposedSum? Reading.swapBytes)).max?).map saturatedMib := by
  intro trees record
  have hticks : tickLists ticks = trees.map fun readings => readings.map (snapshot sampler) := by
    rw [h.tickLists_eq, List.map_map]
    rfl
  have hrecord : record = aggregateRecord (tickLists ticks) runningTime :=
    traceRun_intoRecord ticks runningTime
  clear_value record
  subst hrecord
  have huss := peakOfSums?_exposed sampler Reading.uniqueBytes ProcessSnapshot.ussBytes
    (ussBytes_snapshot sampler) trees
  have hswap := peakOfSums?_exposed sampler Reading.swapBytes ProcessSnapshot.swapBytes
    (swapBytes_snapshot sampler) trees
  rw [← hticks] at huss hswap
  refine ⟨?_, ?_, ?_, ?_⟩
  · rw [rows_map _ (fun tick => tickColumns tick.1), map_sampledTicks, hticks,
      List.filter_map, List.map_map]
    · have hfilter : ((fun tick : Tick => !tick.isEmpty) ∘
          fun readings : List Reading => readings.map (snapshot sampler)) =
            fun readings => !readings.isEmpty := by
        funext readings
        cases readings <;> rfl
      rw [hfilter]
      exact List.map_congr_left fun readings _ => tickColumns_map_snapshot sampler readings
    · intro state tick row hrow
      rw [hrow.uss_eq, hrow.swap_eq, show row.rss = _ from hrow.size_eq .rss,
        show row.vms = _ from hrow.size_eq .vms]
      rfl
  · intro hdata
    have hne : ¬∀ tick ∈ tickLists ticks, tick = [] := by
      intro hempty
      rw [aggregateRecord, if_pos hempty] at hdata
      exact absurd hdata (by simp)
    rw [aggregateRecord, if_neg hne, hticks]
    exact ⟨congrArg (fun bytes => some (bytesToMib bytes))
        (peakOfSums_kib sampler ProcStatus.vmrss _ (fun _ => rfl) trees),
      congrArg (fun bytes => some (bytesToMib bytes))
        (peakOfSums_kib sampler ProcStatus.vmsize _ (fun _ => rfl) trees)⟩
  · have hmaxUss : (aggregateRecord (tickLists ticks) runningTime).maxUss =
        (peakOfSums? ProcessSnapshot.ussBytes (tickLists ticks)).map bytesToMib := by
      by_cases hempty : ∀ tick ∈ tickLists ticks, tick = []
      · rw [aggregateRecord, if_pos hempty, peakOfSums?_of_empty hempty]
        rfl
      · rw [aggregateRecord, if_neg hempty]
    rw [hmaxUss, huss, Option.map_map]
    rfl
  · have hmaxSwap : (aggregateRecord (tickLists ticks) runningTime).maxSwap =
        (peakOfSums? ProcessSnapshot.swapBytes (tickLists ticks)).map bytesToMib := by
      by_cases hempty : ∀ tick ∈ tickLists ticks, tick = []
      · rw [aggregateRecord, if_pos hempty, peakOfSums?_of_empty hempty]
        rfl
      · rw [aggregateRecord, if_neg hempty]
    rw [hmaxSwap, hswap, Option.map_map]
    rfl

/-- The resident sizes of the family exceed a 64-bit number of bytes and are cut off once. -/
theorem run_memory_family :
    let sampler : LinuxSampler := { ticksPerSecond := 100 }
    let ticks := [((sampleTree sampler 9 family 7).getD [], (2 : Seconds))]
    let record := (traceRun ticks).state.intoRecord 3
    record.maxRss = some (saturatedMib (1024 * (3 + 2 ^ 60))) ∧
      record.maxUss = some (saturatedMib 2048) := by
  intro sampler ticks record
  have hmemory := run_memory sampler 9 7 [(family, 2)] ticks
    (List.Forall₂.cons ⟨by decide +kernel, rfl⟩ List.Forall₂.nil) 3
  have hdata : record.dataCollected = true := by decide +kernel
  refine ⟨((hmemory.2.1 hdata).1).trans ?_, hmemory.2.2.1.trans ?_⟩
  · decide +kernel
  · decide +kernel

end Linux

end Tricord

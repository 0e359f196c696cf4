import Tricord.Library.KeyedAccumulation
import Tricord.Record.Schema
import Mathlib.Data.NNRat.BigOperators
import Mathlib.Data.NNRat.Floor
import Mathlib.Tactic.NormNum

/-!
# The sampler state

Folding snapshots of a process tree into a running aggregate, building the
per-tick trace row, and turning the final aggregate into a record.  CPU seconds
and wall-clock seconds are exact non-negative rationals, byte counts and event
counts are saturating 64-bit integers, list lengths are naturals.
-/

namespace Tricord

open BoundedNat KeyedAccumulation

/-- Process identifiers. -/
abbrev Pid := Int

/-- Exact non-negative seconds. -/
abbrev Seconds := ℚ≥0

/-! ## Snapshots and per-PID entries -/

/-- One snapshot of resource use for one process at one moment in time. -/
structure ProcessSnapshot where
  pid : Pid := 0
  rssBytes : U64 := 0
  vmsBytes : U64 := 0
  ussBytes : Option U64 := none
  pssBytes : Option U64 := none
  ioReadBytes : Option U64 := none
  ioWriteBytes : Option U64 := none
  cpuTimeSeconds : Seconds := 0
  majorPageFaults : Option U64 := none
  minorPageFaults : Option U64 := none
  voluntaryCtxSwitches : Option U64 := none
  involuntaryCtxSwitches : Option U64 := none
  threadCount : Option U64 := none
  swapBytes : Option U64 := none
deriving DecidableEq

/-- Per-PID accumulator: the running maximum of every cumulative counter. -/
structure ProcessAccum where
  ioReadBytes : Option U64 := none
  ioWriteBytes : Option U64 := none
  cpuTimeSeconds : Seconds := 0
  majorPageFaults : Option U64 := none
  minorPageFaults : Option U64 := none
  voluntaryCtxSwitches : Option U64 := none
  involuntaryCtxSwitches : Option U64 := none
deriving DecidableEq

/-- Per-PID counter values at the end of the last traced tick. -/
structure PrevCumulative where
  majorPageFaults : U64 := 0
  minorPageFaults : U64 := 0
  voluntaryCtxSwitches : U64 := 0
  involuntaryCtxSwitches : U64 := 0
deriving DecidableEq

/-- Running aggregate of all snapshots taken during a benchmark run. -/
structure SamplerState where
  maxRssBytes : U64 := 0
  maxVmsBytes : U64 := 0
  maxUssBytes : Option U64 := none
  maxPssBytes : Option U64 := none
  maxSwapBytes : Option U64 := none
  perPid : KeyMap Pid ProcessAccum := ∅
  prevCumulative : KeyMap Pid PrevCumulative := ∅
  maxNThreads : Option U64 := none
  maxNProcs : ℕ := 0
  dataCollected : Bool := false

/-! ## Sums over one tick -/

/-- Per-tick memory sums across the live tree. -/
structure MemorySums where
  rss : U64
  vms : U64
  uss : Option U64
  pss : Option U64
  swap : Option U64

/-- The local variables of the loop in {lit}`sum_memory`. -/
structure MemoryLoop where
  rss : U64 := 0
  vms : U64 := 0
  uss : ExposedSum u64Max := {}
  pss : ExposedSum u64Max := {}
  swap : ExposedSum u64Max := {}

/-- One turn of the loop in {lit}`sum_memory`. -/
def MemoryLoop.add (acc : MemoryLoop) (snap : ProcessSnapshot) : MemoryLoop where
  rss := acc.rss.saturatingAdd snap.rssBytes
  vms := acc.vms.saturatingAdd snap.vmsBytes
  uss := acc.uss.observe snap.ussBytes
  pss := acc.pss.observe snap.pssBytes
  swap := acc.swap.observe snap.swapBytes

/-- Sum memory across the snapshots in a single tick. -/
def sumMemory (snapshots : List ProcessSnapshot) : MemorySums :=
  let acc := snapshots.foldl MemoryLoop.add {}
  { rss := acc.rss
    vms := acc.vms
    uss := acc.uss.result
    pss := acc.pss.result
    swap := acc.swap.result }

/-- Sum the thread counts across the snapshots in a single tick. -/
def sumThreadCount (snapshots : List ProcessSnapshot) : Option U64 :=
  (snapshots.foldl (fun acc snap => acc.observe snap.threadCount)
    ({} : ExposedSum u64Max)).result

/-! ## Totals over all PIDs -/

/-- Cumulative I/O, CPU and event totals across every PID observed so far. -/
structure CumulativeTotals where
  ioIn : Option U64
  ioOut : Option U64
  cpuTime : Seconds
  majorPageFaults : Option U64
  minorPageFaults : Option U64
  voluntaryCtxSwitches : Option U64
  involuntaryCtxSwitches : Option U64

/-- The local variables of the loop in {lit}`cumulative_totals`. -/
structure TotalsLoop where
  ioIn : ExposedSum u64Max := {}
  ioOut : ExposedSum u64Max := {}
  cpuTime : Seconds := 0
  majorPageFaults : ExposedSum u64Max := {}
  minorPageFaults : ExposedSum u64Max := {}
  voluntaryCtxSwitches : ExposedSum u64Max := {}
  involuntaryCtxSwitches : ExposedSum u64Max := {}

/-- One turn of the loop in {lit}`cumulative_totals`. -/
def TotalsLoop.add (acc : TotalsLoop) (accum : ProcessAccum) : TotalsLoop where
  ioIn := acc.ioIn.observe accum.ioReadBytes
  ioOut := acc.ioOut.observe accum.ioWriteBytes
  cpuTime := acc.cpuTime + accum.cpuTimeSeconds
  majorPageFaults := acc.majorPageFaults.observe accum.majorPageFaults
  minorPageFaults := acc.minorPageFaults.observe accum.minorPageFaults
  voluntaryCtxSwitches := acc.voluntaryCtxSwitches.observe accum.voluntaryCtxSwitches
  involuntaryCtxSwitches :=
    acc.involuntaryCtxSwitches.observe accum.involuntaryCtxSwitches

/-- Sum the per-PID accumulators, given in the order the map yields them. -/
def cumulativeTotals (accums : List ProcessAccum) : CumulativeTotals :=
  let acc := accums.foldl TotalsLoop.add {}
  { ioIn := acc.ioIn.result
    ioOut := acc.ioOut.result
    cpuTime := acc.cpuTime
    majorPageFaults := acc.majorPageFaults.result
    minorPageFaults := acc.minorPageFaults.result
    voluntaryCtxSwitches := acc.voluntaryCtxSwitches.result
    involuntaryCtxSwitches := acc.involuntaryCtxSwitches.result }

/-- Bytes as MiB, exactly. -/
def bytesToMib (bytes : U64) : ℚ≥0 :=
  (bytes.toNat : ℚ≥0) / (1024 * 1024)

/-! ## Absorbing a tick -/

/-- Raise the accumulator of one PID by one snapshot. -/
def ProcessAccum.update (entry : ProcessAccum) (snap : ProcessSnapshot) : ProcessAccum where
  ioReadBytes := raise entry.ioReadBytes snap.ioReadBytes
  ioWriteBytes := raise entry.ioWriteBytes snap.ioWriteBytes
  cpuTimeSeconds :=
    if snap.cpuTimeSeconds > entry.cpuTimeSeconds then snap.cpuTimeSeconds
    else entry.cpuTimeSeconds
  majorPageFaults := raise entry.majorPageFaults snap.majorPageFaults
  minorPageFaults := raise entry.minorPageFaults snap.minorPageFaults
  voluntaryCtxSwitches := raise entry.voluntaryCtxSwitches snap.voluntaryCtxSwitches
  involuntaryCtxSwitches := raise entry.involuntaryCtxSwitches snap.involuntaryCtxSwitches

namespace SamplerState

/-- Fold one tick's worth of snapshots into the running aggregate. -/
def absorb (self : SamplerState) (snapshots : List ProcessSnapshot) : SamplerState :=
  if snapshots.isEmpty then self
  else
    let sums := sumMemory snapshots
    { self with
      maxRssBytes := max self.maxRssBytes sums.rss
      maxVmsBytes := max self.maxVmsBytes sums.vms
      maxUssBytes := raise self.maxUssBytes sums.uss
      maxPssBytes := raise self.maxPssBytes sums.pss
      maxSwapBytes := raise self.maxSwapBytes sums.swap
      maxNThreads := raise self.maxNThreads (sumThreadCount snapshots)
      maxNProcs := max self.maxNProcs snapshots.length
      perPid := accumulate ProcessSnapshot.pid ProcessAccum.update {} self.perPid snapshots
      dataCollected := true }

end SamplerState

/-! ## Per-tick deltas -/

/-- Per-tick deltas of cumulative counters, summed across observed PIDs. -/
structure PerTickDeltas where
  majorPageFaults : Option U64
  minorPageFaults : Option U64
  voluntaryCtxSwitches : Option U64
  involuntaryCtxSwitches : Option U64

/-- Advance the previous values of one PID; an unobserved counter keeps its
prior value. -/
def PrevCumulative.advance (prev : PrevCumulative) (snap : ProcessSnapshot) :
    PrevCumulative where
  majorPageFaults := snap.majorPageFaults.getD prev.majorPageFaults
  minorPageFaults := snap.minorPageFaults.getD prev.minorPageFaults
  voluntaryCtxSwitches := snap.voluntaryCtxSwitches.getD prev.voluntaryCtxSwitches
  involuntaryCtxSwitches := snap.involuntaryCtxSwitches.getD prev.involuntaryCtxSwitches

/-- The map and the local variables of the delta loop. -/
structure DeltaLoop where
  prevCumulative : KeyMap Pid PrevCumulative
  majorPageFaults : ExposedSum u64Max := {}
  minorPageFaults : ExposedSum u64Max := {}
  voluntaryCtxSwitches : ExposedSum u64Max := {}
  involuntaryCtxSwitches : ExposedSum u64Max := {}

/-- One turn of the delta loop: read the previous values of the PID, add the
saturating differences of the exposed counters, advance the map. -/
def DeltaLoop.add (acc : DeltaLoop) (snap : ProcessSnapshot) : DeltaLoop :=
  let prev := (acc.prevCumulative.lookup snap.pid).getD {}
  { prevCumulative := upsert acc.prevCumulative snap.pid {} fun prev => prev.advance snap
    majorPageFaults := acc.majorPageFaults.observe
      (snap.majorPageFaults.map fun current => current.saturatingSub prev.majorPageFaults)
    minorPageFaults := acc.minorPageFaults.observe
      (snap.minorPageFaults.map fun current => current.saturatingSub prev.minorPageFaults)
    voluntaryCtxSwitches := acc.voluntaryCtxSwitches.observe
      (snap.voluntaryCtxSwitches.map fun current =>
        current.saturatingSub prev.voluntaryCtxSwitches)
    involuntaryCtxSwitches := acc.involuntaryCtxSwitches.observe
      (snap.involuntaryCtxSwitches.map fun current =>
        current.saturatingSub prev.involuntaryCtxSwitches) }

namespace SamplerState

/-- Compute the deltas of this tick and advance the previous values. -/
def computeAndAdvancePerTickDeltas (self : SamplerState)
    (snapshots : List ProcessSnapshot) : SamplerState × PerTickDeltas :=
  let acc := snapshots.foldl DeltaLoop.add { prevCumulative := self.prevCumulative }
  ({ self with prevCumulative := acc.prevCumulative },
    { majorPageFaults := acc.majorPageFaults.result
      minorPageFaults := acc.minorPageFaults.result
      voluntaryCtxSwitches := acc.voluntaryCtxSwitches.result
      involuntaryCtxSwitches := acc.involuntaryCtxSwitches.result })

/-- Build the trace row of one tick, unless the tick is empty. -/
def tick (self : SamplerState) (snapshots : List ProcessSnapshot)
    (elapsedSeconds : Seconds) : SamplerState × Option (TickRecord ℚ≥0) :=
  if snapshots.isEmpty then (self, none)
  else
    let mem := sumMemory snapshots
    let cum := cumulativeTotals (values self.perPid)
    let (self, deltas) := self.computeAndAdvancePerTickDeltas snapshots
    (self, some
      { elapsed := elapsedSeconds
        rss := bytesToMib mem.rss
        vms := bytesToMib mem.vms
        uss := mem.uss.map bytesToMib
        pss := mem.pss.map bytesToMib
        ioIn := cum.ioIn.map bytesToMib
        ioOut := cum.ioOut.map bytesToMib
        cpuTime := cum.cpuTime
        nProcs := snapshots.length
        majorPageFaults := deltas.majorPageFaults
        minorPageFaults := deltas.minorPageFaults
        voluntaryCtxSwitches := deltas.voluntaryCtxSwitches
        involuntaryCtxSwitches := deltas.involuntaryCtxSwitches
        nThreads := sumThreadCount snapshots
        swap := mem.swap.map bytesToMib })

/-- Materialize the running aggregate into a record. -/
def intoRecord (self : SamplerState) (runningTimeSeconds : Seconds) :
    BenchmarkRecord ℚ≥0 :=
  if !self.dataCollected then
    { runningTime := runningTimeSeconds
      dataCollected := false }
  else
    let cum := cumulativeTotals (values self.perPid)
    let meanLoad :=
      if runningTimeSeconds > 0 then cum.cpuTime / runningTimeSeconds * 100 else 0
    { runningTime := runningTimeSeconds
      maxRss := some (bytesToMib self.maxRssBytes)
      maxVms := some (bytesToMib self.maxVmsBytes)
      maxUss := self.maxUssBytes.map bytesToMib
      maxPss := self.maxPssBytes.map bytesToMib
      ioIn := cum.ioIn.map bytesToMib
      ioOut := cum.ioOut.map bytesToMib
      meanLoad := meanLoad
      cpuTime := cum.cpuTime
      majorPageFaults := cum.majorPageFaults
      minorPageFaults := cum.minorPageFaults
      voluntaryCtxSwitches := cum.voluntaryCtxSwitches
      involuntaryCtxSwitches := cum.involuntaryCtxSwitches
      peakNThreads := self.maxNThreads
      peakNProcs := self.maxNProcs
      -- Load average and page cache are captured by `runCommand` around the
      -- sampler's lifetime, not inside the sampler itself.
      loadavg1mStart := none
      loadavg1mEnd := none
      maxSwap := self.maxSwapBytes.map bytesToMib
      pageCacheStart := none
      pageCacheEnd := none
      dataCollected := true }

end SamplerState

end Tricord

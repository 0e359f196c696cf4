import Tricord.Library.BoundedNat

/-!
# Benchmark records and trace rows

The two output types of the program: one aggregate record for a whole run and
one row for every non-empty sampling tick.  Both are generic in the type of
their floating-point columns.  The sampler fills them with exact numbers, the
formatters accept any number type together with its rendering.
-/

namespace Tricord

/-- The largest {lit}`u64`. -/
def u64Max : ℕ := 2 ^ 64 - 1

/-- Unsigned 64-bit integers with the saturating arithmetic of the code. -/
abbrev U64 := BoundedNat u64Max

/-- Aggregate-output schema selector. -/
inductive SchemaMode
  | full
  | snakemakeStrict
deriving DecidableEq, Repr

/-- One per-tick row of the trace TSV. -/
structure TickRecord (F : Type) where
  elapsed : F
  rss : F
  vms : F
  uss : Option F
  pss : Option F
  ioIn : Option F
  ioOut : Option F
  cpuTime : F
  nProcs : ℕ
  majorPageFaults : Option U64
  minorPageFaults : Option U64
  voluntaryCtxSwitches : Option U64
  involuntaryCtxSwitches : Option U64
  nThreads : Option U64
  swap : Option F
deriving DecidableEq

/-- The aggregate of all samples taken across the run.  The field defaults are
those of {lit}`BenchmarkRecord::default()`. -/
structure BenchmarkRecord (F : Type) [Zero F] where
  runningTime : F := 0
  maxRss : Option F := none
  maxVms : Option F := none
  maxUss : Option F := none
  maxPss : Option F := none
  ioIn : Option F := none
  ioOut : Option F := none
  meanLoad : F := 0
  cpuTime : F := 0
  majorPageFaults : Option U64 := none
  minorPageFaults : Option U64 := none
  voluntaryCtxSwitches : Option U64 := none
  involuntaryCtxSwitches : Option U64 := none
  peakNThreads : Option U64 := none
  peakNProcs : ℕ := 0
  loadavg1mStart : Option F := none
  loadavg1mEnd : Option F := none
  maxSwap : Option F := none
  pageCacheStart : Option F := none
  pageCacheEnd : Option F := none
  dataCollected : Bool := false
deriving DecidableEq

/-- The state of the host before or after a run, as far as the platform exposes it. -/
structure SystemContext (F : Type) where
  loadavg1m : Option F
  pageCacheMb : Option F

/-- The record with the state of the host around the run. -/
def BenchmarkRecord.withContext {F : Type} [Zero F] (record : BenchmarkRecord F)
    (start stop : SystemContext F) : BenchmarkRecord F :=
  { record with
    loadavg1mStart := start.loadavg1m
    loadavg1mEnd := stop.loadavg1m
    pageCacheStart := start.pageCacheMb
    pageCacheEnd := stop.pageCacheMb }

end Tricord

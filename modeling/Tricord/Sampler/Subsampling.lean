import Tricord.Sampler.Trace

/-!
# Sampling less often reports less

A run that samples only some of the ticks of another run, in any order and with
any repetitions, reports at most as much in every column.

Main results:

- Theorem {lit}`aggregateRecord_mono`: the aggregate is monotone in the set of
  sampled ticks.
- Theorem {lit}`subsampled_le`: so is the record, and it depends on that set
  alone.
-/

namespace Tricord

open BoundedNat KeyedMaxima

/-! ## The order on records -/

/-- Column-wise order on records, an absent value below every present one. -/
structure BenchmarkRecord.Le (a b : BenchmarkRecord ℚ≥0) : Prop where
  runningTime : a.runningTime ≤ b.runningTime
  maxRss : a.maxRss ≤ b.maxRss
  maxVms : a.maxVms ≤ b.maxVms
  maxUss : a.maxUss ≤ b.maxUss
  maxPss : a.maxPss ≤ b.maxPss
  ioIn : a.ioIn ≤ b.ioIn
  ioOut : a.ioOut ≤ b.ioOut
  meanLoad : a.meanLoad ≤ b.meanLoad
  cpuTime : a.cpuTime ≤ b.cpuTime
  majorPageFaults : a.majorPageFaults ≤ b.majorPageFaults
  minorPageFaults : a.minorPageFaults ≤ b.minorPageFaults
  voluntaryCtxSwitches : a.voluntaryCtxSwitches ≤ b.voluntaryCtxSwitches
  involuntaryCtxSwitches : a.involuntaryCtxSwitches ≤ b.involuntaryCtxSwitches
  peakNThreads : a.peakNThreads ≤ b.peakNThreads
  peakNProcs : a.peakNProcs ≤ b.peakNProcs
  loadavg1mStart : a.loadavg1mStart ≤ b.loadavg1mStart
  loadavg1mEnd : a.loadavg1mEnd ≤ b.loadavg1mEnd
  maxSwap : a.maxSwap ≤ b.maxSwap
  pageCacheStart : a.pageCacheStart ≤ b.pageCacheStart
  pageCacheEnd : a.pageCacheEnd ≤ b.pageCacheEnd
  dataCollected : a.dataCollected ≤ b.dataCollected

/-- Records below each other are equal. -/
theorem BenchmarkRecord.Le.antisymm {a b : BenchmarkRecord ℚ≥0} (hab : a.Le b) (hba : b.Le a) :
    a = b := by
  cases a
  cases b
  rw [BenchmarkRecord.mk.injEq]
  exact ⟨le_antisymm hab.runningTime hba.runningTime, option_le_antisymm hab.maxRss hba.maxRss,
    option_le_antisymm hab.maxVms hba.maxVms, option_le_antisymm hab.maxUss hba.maxUss,
    option_le_antisymm hab.maxPss hba.maxPss, option_le_antisymm hab.ioIn hba.ioIn,
    option_le_antisymm hab.ioOut hba.ioOut, le_antisymm hab.meanLoad hba.meanLoad,
    le_antisymm hab.cpuTime hba.cpuTime,
    option_le_antisymm hab.majorPageFaults hba.majorPageFaults,
    option_le_antisymm hab.minorPageFaults hba.minorPageFaults,
    option_le_antisymm hab.voluntaryCtxSwitches hba.voluntaryCtxSwitches,
    option_le_antisymm hab.involuntaryCtxSwitches hba.involuntaryCtxSwitches,
    option_le_antisymm hab.peakNThreads hba.peakNThreads,
    le_antisymm hab.peakNProcs hba.peakNProcs,
    option_le_antisymm hab.loadavg1mStart hba.loadavg1mStart,
    option_le_antisymm hab.loadavg1mEnd hba.loadavg1mEnd,
    option_le_antisymm hab.maxSwap hba.maxSwap,
    option_le_antisymm hab.pageCacheStart hba.pageCacheStart,
    option_le_antisymm hab.pageCacheEnd hba.pageCacheEnd,
    le_antisymm hab.dataCollected hba.dataCollected⟩

/-! ## The three rules of aggregation -/

section Mono

variable {xs ys : List Tick}

/-- A peak of sizes grows with the ticks. -/
theorem peakOfSums_mono (read : ProcessSnapshot → U64) (h : ∀ tick ∈ xs, tick ∈ ys) :
    peakOfSums read xs ≤ peakOfSums read ys :=
  peakOfSums_le_of_dominated fun tick htick => ⟨tick, h tick htick, le_rfl⟩

theorem peakOfSums?_mono (read : ProcessSnapshot → Option U64) (h : ∀ tick ∈ xs, tick ∈ ys) :
    peakOfSums? read xs ≤ peakOfSums? read ys :=
  peakOfSums?_le_of_dominated fun tick htick => ⟨tick, h tick htick, option_le_refl _⟩

theorem peakLength_mono (h : ∀ tick ∈ xs, tick ∈ ys) : peakLength xs ≤ peakLength ys := by
  apply max?_getD_le (Nat.zero_le _)
  intro n hn
  rcases List.mem_map.mp hn with ⟨tick, htick, rfl⟩
  exact le_max?_getD 0 (List.mem_map_of_mem (h tick htick))

/-- Fewer ticks have fewer snapshots. -/
theorem mem_flatten_of_subset (h : ∀ tick ∈ xs, tick ∈ ys) :
    ∀ snap ∈ xs.flatten, snap ∈ ys.flatten := by
  intro snap hsnap
  rcases List.mem_flatten.mp hsnap with ⟨tick, htick, hmem⟩
  exact List.mem_flatten.mpr ⟨tick, h tick htick, hmem⟩

/-- Counter totals grow with the ticks. -/
theorem counterTotal?_mono (read : ProcessSnapshot → Option U64) (h : ∀ tick ∈ xs, tick ∈ ys) :
    counterTotal? read xs ≤ counterTotal? read ys :=
  totalOfMaxima?_mono (mem_flatten_of_subset h)

theorem cpuTotal_mono (h : ∀ tick ∈ xs, tick ∈ ys) : cpuTotal xs ≤ cpuTotal ys :=
  sumOfMaxima_mono (mem_flatten_of_subset h)

/-! ## Records -/

/-- The record without data is below every record of the same running time. -/
theorem BenchmarkRecord.Le.of_empty (record : BenchmarkRecord ℚ≥0) :
    BenchmarkRecord.Le { runningTime := record.runningTime, dataCollected := false } record := by
  constructor <;> simp

/-- Sampling fewer ticks never raises a column of the aggregate. -/
theorem aggregateRecord_mono (h : ∀ tick ∈ xs, tick ∈ ys) (runningTime : Seconds) :
    (aggregateRecord xs runningTime).Le (aggregateRecord ys runningTime) := by
  have hmib : ∀ {a b : Option U64}, a ≤ b → a.map bytesToMib ≤ b.map bytesToMib :=
    fun hab => option_map_mono bytesToMib_strictMono.monotone hab
  have htime : (aggregateRecord ys runningTime).runningTime = runningTime := by
    unfold aggregateRecord
    split <;> rfl
  by_cases hxs : ∀ tick ∈ xs, tick = []
  · have hempty := BenchmarkRecord.Le.of_empty (aggregateRecord ys runningTime)
    rw [htime] at hempty
    rw [aggregateRecord, if_pos hxs]
    exact hempty
  · have hys : ¬∀ tick ∈ ys, tick = [] := fun hall => hxs fun tick htick => hall tick (h tick htick)
    rw [aggregateRecord, aggregateRecord, if_neg hxs, if_neg hys]
    exact
      { runningTime := le_rfl
        maxRss := Option.some_le_some.mpr
          (bytesToMib_strictMono.monotone (peakOfSums_mono _ h))
        maxVms := Option.some_le_some.mpr
          (bytesToMib_strictMono.monotone (peakOfSums_mono _ h))
        maxUss := hmib (peakOfSums?_mono _ h)
        maxPss := hmib (peakOfSums?_mono _ h)
        ioIn := hmib (counterTotal?_mono _ h)
        ioOut := hmib (counterTotal?_mono _ h)
        meanLoad := by
          split_ifs
          · exact mul_le_mul_of_nonneg_right
              (div_le_div_of_nonneg_right (cpuTotal_mono h) zero_le) (by norm_num)
          · exact le_rfl
        cpuTime := cpuTotal_mono h
        majorPageFaults := counterTotal?_mono _ h
        minorPageFaults := counterTotal?_mono _ h
        voluntaryCtxSwitches := counterTotal?_mono _ h
        involuntaryCtxSwitches := counterTotal?_mono _ h
        peakNThreads := peakOfSums?_mono _ h
        peakNProcs := peakLength_mono h
        loadavg1mStart := Option.none_le
        loadavg1mEnd := Option.none_le
        maxSwap := hmib (peakOfSums?_mono _ h)
        pageCacheStart := Option.none_le
        pageCacheEnd := Option.none_le
        dataCollected := le_rfl }

end Mono

/-- A run that samples only ticks of the full run reports at most as much in every
column, and exactly as much when it samples each of them at least once. -/
theorem subsampled_le {full sampled : List Tick} (h : ∀ tick ∈ sampled, tick ∈ full)
    (runningTime : Seconds) :
    ((SamplerState.absorbAll sampled).intoRecord runningTime).Le
        ((SamplerState.absorbAll full).intoRecord runningTime) ∧
      ((∀ tick ∈ full, tick ∈ sampled) →
        (SamplerState.absorbAll sampled).intoRecord runningTime =
          (SamplerState.absorbAll full).intoRecord runningTime) := by
  rw [SamplerState.intoRecord_absorbAll_eq, SamplerState.intoRecord_absorbAll_eq]
  refine ⟨aggregateRecord_mono h runningTime, ?_⟩
  intro hall
  exact (aggregateRecord_mono h runningTime).antisymm (aggregateRecord_mono hall runningTime)

/-- Two ticks of one process, sampled in part or in another order. -/
theorem subsampled_le_twoTicks :
    let first : Tick := [{ pid := 7, rssBytes := clamp 4096, cpuTimeSeconds := 1 }]
    let second : Tick := [{ pid := 7, rssBytes := clamp 8192, cpuTimeSeconds := 3 }]
    ((SamplerState.absorbAll [first, first]).intoRecord 4).Le
        ((SamplerState.absorbAll [first, second]).intoRecord 4) ∧
      (SamplerState.absorbAll [second, first, second]).intoRecord 4 =
        (SamplerState.absorbAll [first, second]).intoRecord 4 := by
  intro first second
  exact ⟨(subsampled_le (by simp) 4).1, (subsampled_le (by simp) 4).2 (by simp)⟩

end Tricord

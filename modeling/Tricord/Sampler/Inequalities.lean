import Tricord.Sampler.Trace

/-!
# Inequalities between metrics

Within one process the unique set is part of the proportional set, that of the
resident set and that of the virtual memory, and every process has a thread.
This module carries these inequalities through the per-tick sums, their
saturation and the maxima over ticks.

Main results:

- Theorem {lit}`MemoryOrder.tickSums`: the saturating sums of a tick are ordered
  as the readings are.
- Theorem {lit}`MemoryOrder.peaks`: so are the peaks of a run.
- Theorem {lit}`consistent_columns`: every row is consistent, and so is the record
  of every run that collected data.
-/

namespace Tricord

open BoundedNat KeyedMaxima

/-- The order of the four memory sizes, in bytes.  An absent size is below every
present one, so a present unique set comes with a present proportional set. -/
structure MemoryOrder (uss pss : Option U64) (rss vms : U64) : Prop where
  uss_le_pss : uss ≤ pss
  pss_le_rss : pss ≤ some rss
  rss_le_vms : rss ≤ vms

/-- The metrics of one process are consistent. -/
structure ProcessSnapshot.Consistent (snap : ProcessSnapshot) : Prop where
  memory : MemoryOrder snap.ussBytes snap.pssBytes snap.rssBytes snap.vmsBytes
  threads : ∃ n, snap.threadCount = some n ∧ 1 ≤ n.toNat

/-! ## One tick -/

section Tick

variable {tick : Tick}

/-- Per-tick sums respect the order of the readings. -/
theorem PeakMetric.tickSum_le {m m' : PeakMetric} (h : ∀ snap ∈ tick, m.read snap ≤ m'.read snap) :
    m.tickSum tick ≤ m'.tickSum tick := by
  rw [m.tickSum_eq, m'.tickSum_eq]
  exact total?_filterMap_mono h

theorem PeakMetric.tickSum_le_size {m : PeakMetric} {m' : SizeMetric}
    (h : ∀ snap ∈ tick, m.read snap ≤ some (m'.read snap)) :
    m.tickSum tick ≤ some (m'.tickSum tick) := by
  rw [m.tickSum_eq, m'.tickSum_eq]
  have hle := total?_filterMap_mono h
  rw [List.filterMap_eq_map'] at hle
  by_cases htick : tick.map m'.read = []
  · rw [htick, total?_nil, Option.le_none] at hle
    rw [hle]
    exact Option.none_le
  · rwa [total?_eq_some htick] at hle

theorem SizeMetric.tickSum_le {m m' : SizeMetric} (h : ∀ snap ∈ tick, m.read snap ≤ m'.read snap) :
    m.tickSum tick ≤ m'.tickSum tick := by
  rw [m.tickSum_eq, m'.tickSum_eq, total, total, List.map_map, List.map_map]
  exact clamp_mono (List.sum_le_sum h)

/-- The per-tick sums are ordered as the readings are. -/
theorem MemoryOrder.tickSums (h : ∀ snap ∈ tick, snap.Consistent) :
    MemoryOrder (PeakMetric.uss.tickSum tick) (PeakMetric.pss.tickSum tick)
      (SizeMetric.rss.tickSum tick) (SizeMetric.vms.tickSum tick) where
  uss_le_pss := PeakMetric.tickSum_le fun snap hsnap => (h snap hsnap).memory.uss_le_pss
  pss_le_rss := PeakMetric.tickSum_le_size fun snap hsnap => (h snap hsnap).memory.pss_le_rss
  rss_le_vms := SizeMetric.tickSum_le fun snap hsnap => (h snap hsnap).memory.rss_le_vms

/-- A tick has at least as many threads as processes, even when their sum
saturates. -/
theorem length_le_threads (hne : tick ≠ []) (hlength : tick.length ≤ u64Max)
    (h : ∀ snap ∈ tick, ∃ n, snap.threadCount = some n ∧ 1 ≤ n.toNat) :
    ∃ n, PeakMetric.threads.tickSum tick = some n ∧ tick.length ≤ n.toNat := by
  have hexposed : tick.filterMap PeakMetric.threads.read ≠ [] := by
    rcases List.exists_mem_of_ne_nil _ hne with ⟨snap, hsnap⟩
    rcases h snap hsnap with ⟨n, hn, _⟩
    exact List.ne_nil_of_mem (List.mem_filterMap.mpr ⟨snap, hsnap, hn⟩)
  refine ⟨_, (PeakMetric.tickSum_eq _ _).trans (total?_eq_some hexposed), ?_⟩
  rw [toNat_total, sum_toNat_filterMap, le_min_iff]
  refine ⟨?_, hlength⟩
  have hones := List.card_nsmul_le_sum
    (tick.map fun snap => ((PeakMetric.threads.read snap).getD 0).toNat) 1 (by
      intro n hn
      rcases List.mem_map.mp hn with ⟨snap, hsnap, rfl⟩
      rcases h snap hsnap with ⟨count, hcount, hpos⟩
      simpa [PeakMetric.read, hcount] using hpos)
  simpa using hones

end Tick

/-! ## The peaks of a run -/

section Peaks

variable {ticks : List Tick}

/-- Peaks respect the order of the per-tick sums. -/
theorem peakOfSums?_le (m m' : PeakMetric)
    (h : ∀ tick ∈ ticks, m.tickSum tick ≤ m'.tickSum tick) :
    peakOfSums? m.read ticks ≤ peakOfSums? m'.read ticks := by
  apply peakOfSums?_le_of_dominated
  intro tick htick
  refine ⟨tick, htick, ?_⟩
  rw [← m.tickSum_eq, ← m'.tickSum_eq]
  exact h tick htick

theorem peakOfSums?_le_size (m : PeakMetric) (m' : SizeMetric)
    (h : ∀ tick ∈ ticks, m.tickSum tick ≤ some (m'.tickSum tick)) :
    peakOfSums? m.read ticks ≤ some (peakOfSums m'.read ticks) := by
  unfold peakOfSums? peakOfSums
  rw [← funext m.tickSum_eq, ← funext m'.tickSum_eq]
  apply max?_le_some
  intro v hv
  rcases List.mem_filterMap.mp hv with ⟨tick, htick, hsum⟩
  have hle := h tick htick
  rw [hsum, Option.some_le_some] at hle
  exact hle.trans (le_max?_getD 0 (List.mem_map_of_mem htick))

theorem peakOfSums_le (m m' : SizeMetric)
    (h : ∀ tick ∈ ticks, m.tickSum tick ≤ m'.tickSum tick) :
    peakOfSums m.read ticks ≤ peakOfSums m'.read ticks := by
  apply peakOfSums_le_of_dominated
  intro tick htick
  refine ⟨tick, htick, ?_⟩
  rw [← m.tickSum_eq, ← m'.tickSum_eq]
  exact h tick htick

/-- The peaks are ordered as the per-tick sums are, although each may be reached
at another tick. -/
theorem MemoryOrder.peaks
    (h : ∀ tick ∈ ticks, MemoryOrder (PeakMetric.uss.tickSum tick) (PeakMetric.pss.tickSum tick)
      (SizeMetric.rss.tickSum tick) (SizeMetric.vms.tickSum tick)) :
    MemoryOrder (peakOfSums? ProcessSnapshot.ussBytes ticks)
      (peakOfSums? ProcessSnapshot.pssBytes ticks) (peakOfSums ProcessSnapshot.rssBytes ticks)
      (peakOfSums ProcessSnapshot.vmsBytes ticks) where
  uss_le_pss := peakOfSums?_le .uss .pss fun tick htick => (h tick htick).uss_le_pss
  pss_le_rss := peakOfSums?_le_size .pss .rss fun tick htick => (h tick htick).pss_le_rss
  rss_le_vms := peakOfSums_le .rss .vms fun tick htick => (h tick htick).rss_le_vms

/-- The largest tick has at least as many threads as processes, and no more than
the peak. -/
theorem peakLength_le_threads (hne : ¬∀ tick ∈ ticks, tick = [])
    (h : ∀ tick ∈ ticks, tick ≠ [] →
      ∃ n, PeakMetric.threads.tickSum tick = some n ∧ tick.length ≤ n.toNat) :
    ∃ n, peakOfSums? ProcessSnapshot.threadCount ticks = some n ∧ peakLength ticks ≤ n.toNat := by
  have hpeak : ∀ tick ∈ ticks, tick ≠ [] →
      ∃ n, peakOfSums? ProcessSnapshot.threadCount ticks = some n ∧ tick.length ≤ n.toNat := by
    intro tick htick hempty
    rcases h tick htick hempty with ⟨sum, hsum, hle⟩
    have hmem : sum ∈ ticks.filterMap fun tick =>
        total? (tick.filterMap ProcessSnapshot.threadCount) :=
      List.mem_filterMap.mpr ⟨tick, htick, (PeakMetric.threads.tickSum_eq tick).symm.trans hsum⟩
    rcases Option.isSome_iff_exists.mp (List.isSome_max?_of_mem hmem) with ⟨n, hn⟩
    exact ⟨n, hn, hle.trans ((List.max?_eq_some_iff.mp hn).2 sum hmem)⟩
  have hsome : ∃ tick ∈ ticks, tick ≠ [] := by
    by_contra hall
    exact hne fun tick htick => by_contra fun hempty => hall ⟨tick, htick, hempty⟩
  rcases hsome with ⟨first, hfirst, hfirstne⟩
  rcases hpeak first hfirst hfirstne with ⟨n, hn, _⟩
  refine ⟨n, hn, max?_getD_le (Nat.zero_le _) ?_⟩
  intro length hlength
  rcases List.mem_map.mp hlength with ⟨tick, htick, rfl⟩
  by_cases hempty : tick = []
  · rw [hempty]
    exact Nat.zero_le _
  · rcases hpeak tick htick hempty with ⟨n', hn', hle⟩
    rw [hn, Option.some_inj] at hn'
    rwa [hn']

end Peaks

/-! ## Rows and records -/

/-- A row is consistent: its memory columns convert sizes in the memory order,
and it has at least as many threads as processes. -/
structure TickRecord.Consistent (row : TickRecord ℚ≥0) : Prop where
  memory : ∃ uss pss rss vms, MemoryOrder uss pss rss vms ∧
    row.uss = uss.map bytesToMib ∧ row.pss = pss.map bytesToMib ∧
    row.rss = bytesToMib rss ∧ row.vms = bytesToMib vms
  threads : ∃ n, row.nThreads = some n ∧ row.nProcs ≤ n.toNat

/-- The same of a record that collected data. -/
structure BenchmarkRecord.Consistent (record : BenchmarkRecord ℚ≥0) : Prop where
  memory : ∃ uss pss rss vms, MemoryOrder uss pss rss vms ∧
    record.maxUss = uss.map bytesToMib ∧ record.maxPss = pss.map bytesToMib ∧
    record.maxRss = some (bytesToMib rss) ∧ record.maxVms = some (bytesToMib vms)
  threads : ∃ n, record.peakNThreads = some n ∧ record.peakNProcs ≤ n.toNat

/-- A row of consistent snapshots is consistent. -/
theorem IsRowOf.consistent {state : SamplerState} {tick : Tick} {elapsed : Seconds}
    {row : TickRecord ℚ≥0} (hrow : IsRowOf state tick elapsed row) (hne : tick ≠ [])
    (hlength : tick.length ≤ u64Max) (h : ∀ snap ∈ tick, snap.Consistent) :
    row.Consistent where
  memory := ⟨_, _, _, _, MemoryOrder.tickSums h, hrow.uss_eq, hrow.pss_eq, hrow.size_eq .rss,
    hrow.size_eq .vms⟩
  threads := by
    rw [hrow.nThreads_eq, hrow.nProcs_eq]
    exact length_le_threads hne hlength fun snap hsnap => (h snap hsnap).threads

/-- The aggregate of consistent snapshots is consistent. -/
theorem aggregateRecord_consistent {ticks : List Tick} (hne : ¬∀ tick ∈ ticks, tick = [])
    (hlength : ∀ tick ∈ ticks, tick.length ≤ u64Max)
    (h : ∀ tick ∈ ticks, ∀ snap ∈ tick, snap.Consistent) (runningTime : Seconds) :
    (aggregateRecord ticks runningTime).Consistent := by
  have hmemory := MemoryOrder.peaks fun tick htick => MemoryOrder.tickSums (h tick htick)
  have hthreads := peakLength_le_threads hne fun tick htick hne =>
    length_le_threads hne (hlength tick htick) fun snap hsnap => (h tick htick snap hsnap).threads
  rw [aggregateRecord, if_neg hne]
  exact ⟨⟨_, _, _, _, hmemory, rfl, rfl, rfl, rfl⟩, hthreads⟩

/-- Where every snapshot is consistent, so is every row, and so is the record of
every run that collected data.  A run that found no process reports no metric at
all.  The bound on a tick is that of the length of a vector. -/
theorem consistent_columns (ticks : List (Tick × Seconds)) (runningTime : Seconds)
    (hlength : ∀ tick ∈ tickLists ticks, tick.length ≤ u64Max)
    (h : ∀ tick ∈ tickLists ticks, ∀ snap ∈ tick, snap.Consistent) :
    let record := (traceRun ticks).state.intoRecord runningTime
    (∀ row ∈ (traceRun ticks).rows, row.Consistent) ∧
      (record.dataCollected = true → record.Consistent) ∧
      (record.dataCollected = false →
        record = { runningTime := runningTime, dataCollected := false }) := by
  intro record
  have hrows : ∀ row ∈ (traceRun ticks).rows, row.Consistent := by
    intro row hrow
    rcases exists_isRowOf ticks row hrow with ⟨state, tick, htick, hspec⟩
    rcases mem_sampledTicks.mp htick with ⟨hmem, hne⟩
    have hlist : tick.1 ∈ tickLists ticks := List.mem_map_of_mem hmem
    exact hspec.consistent hne (hlength _ hlist) (h _ hlist)
  have hrecord : record = aggregateRecord (tickLists ticks) runningTime :=
    traceRun_intoRecord ticks runningTime
  by_cases hempty : ∀ tick ∈ tickLists ticks, tick = []
  · rw [aggregateRecord, if_pos hempty] at hrecord
    rw [hrecord]
    exact ⟨hrows, fun hdata => absurd hdata Bool.false_ne_true, fun _ => rfl⟩
  · have hdata : record.dataCollected = true := by
      rw [hrecord, aggregateRecord, if_neg hempty]
    refine ⟨hrows, ?_, fun hnone => absurd (hdata.symm.trans hnone) (by simp)⟩
    rw [hrecord]
    exact fun _ => aggregateRecord_consistent hempty hlength h runningTime

/-- Two consistent processes, one of which exposes neither of the optional sizes. -/
theorem consistent_columns_twoProcesses :
    let first : ProcessSnapshot :=
      { pid := 7, rssBytes := clamp 8192, vmsBytes := clamp 65536, ussBytes := some (clamp 1024),
        pssBytes := some (clamp 4096), threadCount := some (clamp 3) }
    let second : ProcessSnapshot :=
      { pid := 9, rssBytes := clamp (2 ^ 64), vmsBytes := clamp (2 ^ 64),
        threadCount := some (clamp 1) }
    let run := traceRun [([first, second], 0), ([second], 1), ([], 2)]
    (∀ row ∈ run.rows, row.Consistent) ∧ (run.state.intoRecord 3).Consistent := by
  intro first second run
  have hfirst : first.Consistent :=
    { memory := ⟨Option.some_le_some.mpr (by decide), Option.some_le_some.mpr (by decide),
        by decide⟩
      threads := ⟨_, rfl, by decide⟩ }
  have hsecond : second.Consistent :=
    { memory := ⟨Option.none_le, Option.none_le, by decide⟩
      threads := ⟨_, rfl, by decide⟩ }
  have hcolumns := consistent_columns [([first, second], 0), ([second], 1), ([], 2)] 3
    (by simp [u64Max]) (by simp [hfirst, hsecond])
  exact ⟨hcolumns.1, hcolumns.2.1 (by rfl)⟩

/-- A child that exits before the first pass over the processes leaves a record
without a thread count. -/
theorem peakNThreads_absent_without_data :
    ¬∀ (ticks : List (Tick × Seconds)) (runningTime : Seconds),
      (∀ tick ∈ tickLists ticks, ∀ snap ∈ tick, snap.Consistent) →
      ∃ n, ((traceRun ticks).state.intoRecord runningTime).peakNThreads = some n ∧
        ((traceRun ticks).state.intoRecord runningTime).peakNProcs ≤ n.toNat := by
  intro hall
  rcases hall [([], 0)] 1 (by simp [tickLists]) with ⟨n, hn, _⟩
  exact absurd hn (by simp [traceRun, TraceRun.turn, SamplerState.intoRecord])

end Tricord

import Tricord.Sampler.Trace

/-!
# The trace and the aggregate do not interfere

Absorbing and ticking work on one state.  This module takes any sequence of the
two calls, on unrelated snapshot lists, and shows that the record depends on the
absorbing calls alone and the deltas of the rows on the ticking calls alone.

Main results:

- Theorem {lit}`aggregate_call`: what one call does to the part of the state that
  becomes the record.
- Theorem {lit}`calls_independent`: neither kind of call changes what the other one
  reports.
-/

namespace Tricord

open KeyedAccumulation

/-! ## Sequences of calls -/

/-- One call on a sampler state. -/
inductive SamplerCall
  | absorb (snapshots : List ProcessSnapshot)
  | tick (snapshots : List ProcessSnapshot) (elapsed : Seconds)

namespace SamplerCall

/-- The call absorbs a list. -/
def isAbsorb : SamplerCall → Bool
  | absorb _ => true
  | tick _ _ => false

/-- The call records a tick. -/
def isTick : SamplerCall → Bool
  | absorb _ => false
  | tick _ _ => true

end SamplerCall

/-- Perform one call, and keep the row that a tick returns. -/
def TraceRun.call (run : TraceRun) : SamplerCall → TraceRun
  | .absorb snapshots => { run with state := run.state.absorb snapshots }
  | .tick snapshots elapsed =>
      let (state, row) := run.state.tick snapshots elapsed
      { state := state
        rows := run.rows ++ row.toList }

/-- Perform a sequence of calls on a state. -/
def callRun (state : SamplerState) (calls : List SamplerCall) : TraceRun :=
  calls.foldl TraceRun.call { state := state }

/-! ## The record depends on the absorbing calls -/

/-- The part of the state that becomes the record. -/
def SamplerState.aggregate (self : SamplerState) : SamplerState :=
  { self with prevCumulative := ∅ }

/-- The record does not depend on the previous cumulative values. -/
theorem SamplerState.intoRecord_aggregate (self : SamplerState) (runningTime : Seconds) :
    self.aggregate.intoRecord runningTime = self.intoRecord runningTime :=
  rfl

/-- A tick leaves the aggregate alone, absorbing works on the aggregate. -/
theorem aggregate_call (run : TraceRun) (call : SamplerCall) :
    (run.call call).state.aggregate =
      match call with
      | .absorb snapshots => run.state.aggregate.absorb snapshots
      | .tick _ _ => run.state.aggregate := by
  cases call with
  | absorb snapshots => exact (SamplerState.absorb_with_prevCumulative run.state ∅ snapshots).symm
  | tick snapshots elapsed =>
      have htick : (run.call (.tick snapshots elapsed)).state = _ :=
        SamplerState.tick_state run.state snapshots elapsed
      rw [htick]
      rfl

/-- Ticks can be left out without changing the aggregate. -/
theorem aggregate_foldl_call (calls : List SamplerCall) {run run' : TraceRun}
    (h : run.state.aggregate = run'.state.aggregate) :
    (calls.foldl TraceRun.call run).state.aggregate =
      ((calls.filter SamplerCall.isAbsorb).foldl TraceRun.call run').state.aggregate := by
  induction calls generalizing run run' with
  | nil => exact h
  | cons call calls ih =>
      cases call with
      | absorb snapshots =>
          apply ih
          rw [aggregate_call, aggregate_call, h]
      | tick snapshots elapsed =>
          apply ih
          rw [aggregate_call, h]

/-! ## The deltas depend on the ticking calls -/

/-- The delta columns of a row. -/
def rowDeltas (row : TickRecord ℚ≥0) : PerTickDeltas where
  majorPageFaults := row.majorPageFaults
  minorPageFaults := row.minorPageFaults
  voluntaryCtxSwitches := row.voluntaryCtxSwitches
  involuntaryCtxSwitches := row.involuntaryCtxSwitches

/-- The deltas of a tick depend on the previous cumulative values and the
snapshots. -/
theorem SamplerState.rowDeltas_tick {s s' : SamplerState}
    (h : s.prevCumulative = s'.prevCumulative) (snapshots : List ProcessSnapshot)
    (elapsed : Seconds) :
    (s.tick snapshots elapsed).2.map rowDeltas = (s'.tick snapshots elapsed).2.map rowDeltas := by
  cases snapshots with
  | nil => rfl
  | cons snap snapshots =>
      simp only [tick, computeAndAdvancePerTickDeltas, h]
      rfl

/-- Two runs that agree on what the deltas are computed from. -/
structure SameDeltas (run run' : TraceRun) : Prop where
  prev : run.state.prevCumulative = run'.state.prevCumulative
  rows : run.rows.map rowDeltas = run'.rows.map rowDeltas

/-- Absorbing does not change the deltas. -/
theorem SameDeltas.absorb {run run' : TraceRun} (h : SameDeltas run run')
    (snapshots : List ProcessSnapshot) : SameDeltas (run.call (.absorb snapshots)) run' where
  prev := (SamplerState.prevCumulative_absorb run.state snapshots).trans h.prev
  rows := h.rows

/-- A tick adds the same deltas to both runs. -/
theorem SameDeltas.tick {run run' : TraceRun} (h : SameDeltas run run')
    (snapshots : List ProcessSnapshot) (elapsed : Seconds) :
    SameDeltas (run.call (.tick snapshots elapsed)) (run'.call (.tick snapshots elapsed)) where
  prev := by
    have hstate : ∀ r : TraceRun, (r.call (.tick snapshots elapsed)).state =
        { r.state with
          prevCumulative :=
            accumulate ProcessSnapshot.pid PrevCumulative.advance {} r.state.prevCumulative
              snapshots } := fun r => SamplerState.tick_state r.state snapshots elapsed
    rw [hstate, hstate, h.prev]
  rows := by
    have hrows : ∀ r : TraceRun, (r.call (.tick snapshots elapsed)).rows =
        r.rows ++ (r.state.tick snapshots elapsed).2.toList := fun _ => rfl
    rw [hrows, hrows, List.map_append, List.map_append, h.rows, ← Option.toList_map,
      ← Option.toList_map, SamplerState.rowDeltas_tick h.prev]

/-- Absorbing calls can be left out without changing the deltas. -/
theorem SameDeltas.foldl_call (calls : List SamplerCall) {run run' : TraceRun}
    (h : SameDeltas run run') :
    SameDeltas (calls.foldl TraceRun.call run)
      ((calls.filter SamplerCall.isTick).foldl TraceRun.call run') := by
  induction calls generalizing run run' with
  | nil => exact h
  | cons call calls ih =>
      cases call with
      | absorb snapshots => exact ih (h.absorb snapshots)
      | tick snapshots elapsed => exact ih (h.tick snapshots elapsed)

/-! ## Independence -/

/-- The record is the one of the absorbing calls alone. -/
theorem record_callRun (state : SamplerState) (calls : List SamplerCall)
    (runningTime : Seconds) :
    (callRun state calls).state.intoRecord runningTime =
      (callRun state (calls.filter SamplerCall.isAbsorb)).state.intoRecord runningTime := by
  have haggregate : (callRun state calls).state.aggregate =
      (callRun state (calls.filter SamplerCall.isAbsorb)).state.aggregate :=
    aggregate_foldl_call calls rfl
  rw [← SamplerState.intoRecord_aggregate, haggregate, SamplerState.intoRecord_aggregate]

/-- Whether the trace is started late, lost after some row or never there, runs
that absorb the same lists report the same record. -/
theorem record_eq_of_same_absorbs (state : SamplerState) {calls calls' : List SamplerCall}
    (h : calls.filter SamplerCall.isAbsorb = calls'.filter SamplerCall.isAbsorb)
    (runningTime : Seconds) :
    (callRun state calls).state.intoRecord runningTime =
      (callRun state calls').state.intoRecord runningTime := by
  rw [record_callRun state calls, record_callRun state calls', h]

/-- The sampler loop with a working trace, as a sequence of calls. -/
theorem traceRun_eq_callRun (ticks : List (Tick × Seconds)) :
    traceRun ticks =
      callRun {} (ticks.flatMap fun tick => [.absorb tick.1, .tick tick.1 tick.2]) := by
  rw [callRun, List.foldl_flatMap]
  rfl

/-- For any sequence of calls on any state, the record is the one of the same
absorbing calls without the ticks, and the deltas of the rows are those of the
same ticks without the absorbing calls. -/
theorem calls_independent (state : SamplerState) (calls : List SamplerCall)
    (runningTime : Seconds) :
    (callRun state calls).state.intoRecord runningTime =
        (callRun state (calls.filter SamplerCall.isAbsorb)).state.intoRecord runningTime ∧
      (callRun state calls).rows.map rowDeltas =
        (callRun state (calls.filter SamplerCall.isTick)).rows.map rowDeltas := by
  refine ⟨record_callRun state calls runningTime, ?_⟩
  exact (SameDeltas.foldl_call calls ⟨rfl, rfl⟩).rows

end Tricord

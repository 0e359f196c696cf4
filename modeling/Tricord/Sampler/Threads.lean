import Tricord.Library.Transition
import Tricord.Sampler.Trace

/-!
# The sampler thread and the main thread

The two threads of a run as one machine.  The main thread waits for the child,
stores the stop flag, joins the sampler thread and reads the clock.  The sampler
thread tests the flag, sleeps, tests again, samples, absorbs, ticks and writes a
row.  Any interleaving of their steps is a run, the clock advances between any
two steps, and a sample is an arbitrary list.

Main results:

- Theorem {lit}`ThreadInvariant.move`: every step of either thread preserves the
  relation between the control points and the sampled history.
- Theorem {lit}`joined_matches_sampled`: what the main thread gets from the join,
  and what the trace file holds then.
-/

namespace Tricord

open BoundedNat KeyedAccumulation Transition

/-! ## The machine -/

/-- Where the sampler thread is in its loop. -/
inductive SamplerPc
  /-- About to load the flag in the loop condition. -/
  | testStop
  /-- The loop condition held, the sleep has not begun. -/
  | goingToSleep
  /-- Asleep until the given time. -/
  | sleeping (wake : Seconds)
  /-- Awake, about to load the flag again. -/
  | testAgain
  | sampling
  | absorbing (snapshots : Tick)
  | ticking (snapshots : Tick)
  | writing (row : TickRecord ℚ≥0)
  | finished

/-- Where the main thread is between spawning the sampler and returning. -/
inductive MainPc
  /-- Blocked in waiting for the child. -/
  | waiting
  /-- The child has been reaped, about to store the flag. -/
  | storing
  /-- Blocked in joining the sampler thread. -/
  | joining
  /-- Joined, about to read the clock. -/
  | reading
  | returned
deriving DecidableEq

/-- What one run of the sampler is configured with. -/
structure SamplerConfig where
  interval : Seconds
  traced : Bool

/-- The state of both threads.  The last three fields are history: they record
what was sampled and are read by no step. -/
structure ThreadsState where
  /-- Time since the sampler was spawned. -/
  clock : Seconds := 0
  childExited : Bool := false
  stop : Bool := false
  main : MainPc := .waiting
  sampler : SamplerPc := .testStop
  /-- The state owned by the sampler thread. -/
  state : SamplerState := {}
  /-- The rows written to the trace file. -/
  rows : List (TickRecord ℚ≥0) := []
  /-- The state the join returned. -/
  joined : SamplerState := {}
  /-- The clock as read after the join. -/
  runningTime : Seconds := 0
  sampled : List Tick := []
  sampledAfterStop : ℕ := 0
  processed : List (Tick × Seconds) := []

/-- The moves of the machine. -/
inductive ThreadAction
  | advance (d : Seconds)
  | childExit
  | main
  | sampler
  | sample (snapshots : Tick)

namespace ThreadsState

/-- One step of the main thread. -/
def mainStep (s : ThreadsState) : Option ThreadsState :=
  match s.main with
  | .waiting => if s.childExited then some { s with main := .storing } else none
  | .storing => some { s with stop := true, main := .joining }
  | .joining =>
      match s.sampler with
      | .finished => some { s with joined := s.state, main := .reading }
      | _ => none
  | .reading => some { s with runningTime := s.clock, main := .returned }
  | .returned => none

/-- One step of the sampler thread, other than sampling. -/
def samplerStep (config : SamplerConfig) (s : ThreadsState) : Option ThreadsState :=
  match s.sampler with
  | .testStop => some { s with sampler := if s.stop then .finished else .goingToSleep }
  | .goingToSleep => some { s with sampler := .sleeping (s.clock + config.interval) }
  | .sleeping _ => some { s with sampler := .testAgain }
  | .testAgain => some { s with sampler := if s.stop then .finished else .sampling }
  | .sampling => none
  | .absorbing snapshots =>
      some { s with state := s.state.absorb snapshots, sampler := .ticking snapshots }
  | .ticking snapshots =>
      if config.traced then
        let (state, row) := s.state.tick snapshots s.clock
        match row with
        | some row =>
            some { s with
              state := state
              sampler := .writing row
              processed := s.processed ++ [(snapshots, s.clock)] }
        | none =>
            some { s with
              state := state
              sampler := .testStop
              processed := s.processed ++ [(snapshots, s.clock)] }
      else
        some { s with
          sampler := .testStop
          processed := s.processed ++ [(snapshots, s.clock)] }
  | .writing row => some { s with rows := s.rows ++ [row], sampler := .testStop }
  | .finished => none

/-- The sampler thread obtains a list of snapshots. -/
def sampleStep (s : ThreadsState) (snapshots : Tick) : Option ThreadsState :=
  match s.sampler with
  | .sampling =>
      some { s with
        sampler := .absorbing snapshots
        sampled := s.sampled ++ [snapshots]
        sampledAfterStop := s.sampledAfterStop + if s.stop then 1 else 0 }
  | _ => none

/-- One step of the machine. -/
def step (config : SamplerConfig) (s : ThreadsState) : ThreadAction → Option ThreadsState
  | .advance d => some { s with clock := s.clock + d }
  | .childExit => if s.childExited then none else some { s with childExited := true }
  | .main => s.mainStep
  | .sampler => s.samplerStep config
  | .sample snapshots => s.sampleStep snapshots

end ThreadsState

/-- The two threads from the moment the sampler has been spawned. -/
def samplerThreads (config : SamplerConfig) : Machine ThreadsState ThreadAction where
  init := {}
  step := ThreadsState.step config

/-! ## What one step can do -/

/-- Where the sampler thread goes after building a row, or no row. -/
def SamplerPc.afterTick : Option (TickRecord ℚ≥0) → SamplerPc
  | some row => .writing row
  | none => .testStop

/-- The ways one state can follow another, guards included. -/
inductive ThreadMove (config : SamplerConfig) (s : ThreadsState) :
    ThreadAction → ThreadsState → Prop
  | advance (d : Seconds) : ThreadMove config s (.advance d) { s with clock := s.clock + d }
  | childExit (hrunning : s.childExited = false) :
      ThreadMove config s .childExit { s with childExited := true }
  | reap (hmain : s.main = .waiting) (hexited : s.childExited = true) :
      ThreadMove config s .main { s with main := .storing }
  | storeStop (hmain : s.main = .storing) :
      ThreadMove config s .main { s with stop := true, main := .joining }
  | join (hmain : s.main = .joining) (hsampler : s.sampler = .finished) :
      ThreadMove config s .main { s with joined := s.state, main := .reading }
  | readClock (hmain : s.main = .reading) :
      ThreadMove config s .main { s with runningTime := s.clock, main := .returned }
  | leaveLoop (hsampler : s.sampler = .testStop ∨ s.sampler = .testAgain)
      (hstop : s.stop = true) : ThreadMove config s .sampler { s with sampler := .finished }
  | enterLoop (hsampler : s.sampler = .testStop) (hstop : s.stop = false) :
      ThreadMove config s .sampler { s with sampler := .goingToSleep }
  | fallAsleep (hsampler : s.sampler = .goingToSleep) :
      ThreadMove config s .sampler { s with sampler := .sleeping (s.clock + config.interval) }
  | wake (wake : Seconds) (hsampler : s.sampler = .sleeping wake) :
      ThreadMove config s .sampler { s with sampler := .testAgain }
  | goOn (hsampler : s.sampler = .testAgain) (hstop : s.stop = false) :
      ThreadMove config s .sampler { s with sampler := .sampling }
  | sample (snapshots : Tick) (hsampler : s.sampler = .sampling) :
      ThreadMove config s (.sample snapshots) { s with
        sampler := .absorbing snapshots
        sampled := s.sampled ++ [snapshots]
        sampledAfterStop := s.sampledAfterStop + if s.stop then 1 else 0 }
  | absorb (snapshots : Tick) (hsampler : s.sampler = .absorbing snapshots) :
      ThreadMove config s .sampler
        { s with state := s.state.absorb snapshots, sampler := .ticking snapshots }
  | skipTick (snapshots : Tick) (hsampler : s.sampler = .ticking snapshots)
      (htraced : config.traced = false) :
      ThreadMove config s .sampler { s with
        sampler := .testStop
        processed := s.processed ++ [(snapshots, s.clock)] }
  | tick (snapshots : Tick) (hsampler : s.sampler = .ticking snapshots)
      (htraced : config.traced = true) :
      ThreadMove config s .sampler { s with
        state := (s.state.tick snapshots s.clock).1
        sampler := SamplerPc.afterTick (s.state.tick snapshots s.clock).2
        processed := s.processed ++ [(snapshots, s.clock)] }
  | writeRow (row : TickRecord ℚ≥0) (hsampler : s.sampler = .writing row) :
      ThreadMove config s .sampler { s with rows := s.rows ++ [row], sampler := .testStop }

/-- What the steps of the main thread do. -/
theorem ThreadsState.mainStep_move {config : SamplerConfig} {s t : ThreadsState}
    (h : s.mainStep = some t) : ThreadMove config s .main t := by
  unfold mainStep at h
  split at h
  next hmain =>
    rcases Option.ite_none_right_eq_some.mp h with ⟨hexited, hnext⟩
    exact Option.some_inj.mp hnext ▸ .reap hmain hexited
  next hmain =>
    rw [← Option.some_inj.mp h]
    exact .storeStop hmain
  next hmain =>
    split at h
    next hsampler =>
      rw [← Option.some_inj.mp h]
      exact .join hmain hsampler
    next => exact absurd h (by simp)
  next hmain =>
    rw [← Option.some_inj.mp h]
    exact .readClock hmain
  next => exact absurd h (by simp)

/-- What the steps of the sampler thread do. -/
theorem ThreadsState.samplerStep_move {config : SamplerConfig} {s t : ThreadsState}
    (h : s.samplerStep config = some t) : ThreadMove config s .sampler t := by
  unfold samplerStep at h
  split at h
  next hsampler =>
    rw [← Option.some_inj.mp h]
    by_cases hstop : s.stop = true
    · rw [if_pos hstop]
      exact .leaveLoop (.inl hsampler) hstop
    · rw [if_neg hstop]
      exact .enterLoop hsampler (Bool.eq_false_iff.mpr hstop)
  next hsampler =>
    rw [← Option.some_inj.mp h]
    exact .fallAsleep hsampler
  next wake hsampler =>
    rw [← Option.some_inj.mp h]
    exact .wake wake hsampler
  next hsampler =>
    rw [← Option.some_inj.mp h]
    by_cases hstop : s.stop = true
    · rw [if_pos hstop]
      exact .leaveLoop (.inr hsampler) hstop
    · rw [if_neg hstop]
      exact .goOn hsampler (Bool.eq_false_iff.mpr hstop)
  next => exact absurd h (by simp)
  next snapshots hsampler =>
    rw [← Option.some_inj.mp h]
    exact .absorb snapshots hsampler
  next snapshots hsampler =>
    cases htraced : config.traced with
    | true =>
        have hmove := ThreadMove.tick snapshots hsampler htraced
        simp only [htraced, if_true] at h
        cases hrow : (s.state.tick snapshots s.clock).2 with
        | none =>
            simp only [hrow] at h
            rw [hrow] at hmove
            rw [← Option.some_inj.mp h]
            exact hmove
        | some row =>
            simp only [hrow] at h
            rw [hrow] at hmove
            rw [← Option.some_inj.mp h]
            exact hmove
    | false =>
        simp only [htraced, Bool.false_eq_true, if_false] at h
        rw [← Option.some_inj.mp h]
        exact .skipTick snapshots hsampler htraced
  next row hsampler =>
    rw [← Option.some_inj.mp h]
    exact .writeRow row hsampler
  next => exact absurd h (by simp)

/-- Every step of the machine is one of the moves. -/
theorem ThreadsState.step_move {config : SamplerConfig} {s t : ThreadsState}
    {a : ThreadAction} (h : s.step config a = some t) : ThreadMove config s a t := by
  cases a with
  | advance d =>
      rw [← Option.some_inj.mp h]
      exact .advance d
  | childExit =>
      rcases Option.ite_none_left_eq_some.mp h with ⟨hrunning, hnext⟩
      exact Option.some_inj.mp hnext ▸ .childExit (Bool.eq_false_iff.mpr hrunning)
  | main => exact mainStep_move h
  | sampler => exact samplerStep_move h
  | sample snapshots =>
      simp only [step, sampleStep] at h
      split at h
      next hsampler =>
        rw [← Option.some_inj.mp h]
        exact .sample snapshots hsampler
      next => exact absurd h (by simp)

/-- Every move is a step of the machine. -/
theorem ThreadMove.step_eq {config : SamplerConfig} {s t : ThreadsState} {a : ThreadAction}
    (h : ThreadMove config s a t) : s.step config a = some t := by
  cases h with
  | advance d => rfl
  | childExit hrunning => simp [ThreadsState.step, hrunning]
  | reap hmain hexited => simp [ThreadsState.step, ThreadsState.mainStep, hmain, hexited]
  | storeStop hmain => simp [ThreadsState.step, ThreadsState.mainStep, hmain]
  | join hmain hsampler => simp [ThreadsState.step, ThreadsState.mainStep, hmain, hsampler]
  | readClock hmain => simp [ThreadsState.step, ThreadsState.mainStep, hmain]
  | leaveLoop hsampler hstop =>
      rcases hsampler with hsampler | hsampler <;>
        simp [ThreadsState.step, ThreadsState.samplerStep, hsampler, hstop]
  | enterLoop hsampler hstop =>
      simp [ThreadsState.step, ThreadsState.samplerStep, hsampler, hstop]
  | fallAsleep hsampler => simp [ThreadsState.step, ThreadsState.samplerStep, hsampler]
  | wake wake hsampler => simp [ThreadsState.step, ThreadsState.samplerStep, hsampler]
  | goOn hsampler hstop =>
      simp [ThreadsState.step, ThreadsState.samplerStep, hsampler, hstop]
  | sample snapshots hsampler => simp [ThreadsState.step, ThreadsState.sampleStep, hsampler]
  | absorb snapshots hsampler =>
      simp [ThreadsState.step, ThreadsState.samplerStep, hsampler]
  | skipTick snapshots hsampler htraced =>
      simp [ThreadsState.step, ThreadsState.samplerStep, hsampler, htraced]
  | tick snapshots hsampler htraced =>
      cases hrow : (s.state.tick snapshots s.clock).2 <;>
        simp [ThreadsState.step, ThreadsState.samplerStep, hsampler, htraced, hrow,
          SamplerPc.afterTick]
  | writeRow row hsampler => simp [ThreadsState.step, ThreadsState.samplerStep, hsampler]

/-! ## The invariant -/

/-- What the loop has computed from the lists it has fully processed. -/
def loopRun (traced : Bool) (processed : List (Tick × Seconds)) : TraceRun :=
  if traced then traceRun processed
  else { state := SamplerState.absorbAll (tickLists processed) }

/-- The lists sampled in the present turn of the loop. -/
def SamplerPc.pendingLists : SamplerPc → List Tick
  | .absorbing snapshots => [snapshots]
  | .ticking snapshots => [snapshots]
  | _ => []

/-- What the present turn has done to the state. -/
def SamplerPc.pendingAbsorb : SamplerPc → SamplerState → SamplerState
  | .ticking snapshots, state => state.absorb snapshots
  | _, state => state

/-- The rows built but not yet written. -/
def SamplerPc.pendingRows : SamplerPc → List (TickRecord ℚ≥0)
  | .writing row => [row]
  | _ => []

/-- The samples that the sampler thread is already committed to. -/
def SamplerPc.pendingSamples : SamplerPc → ℕ
  | .sampling => 1
  | _ => 0

/-- The control points of both threads against the sampled history. -/
structure ThreadInvariant (config : SamplerConfig) (s : ThreadsState) : Prop where
  sampled_eq : s.sampled = tickLists s.processed ++ s.sampler.pendingLists
  state_eq : s.state = s.sampler.pendingAbsorb (loopRun config.traced s.processed).state
  rows_eq : s.rows ++ s.sampler.pendingRows = (loopRun config.traced s.processed).rows
  elapsed_sorted : (s.processed.map Prod.snd).Pairwise (· ≤ ·)
  elapsed_le : ∀ tick ∈ s.processed, tick.2 ≤ s.clock
  stop_eq_false : s.main = .waiting ∨ s.main = .storing → s.stop = false
  before_stop : s.stop = false → s.sampledAfterStop = 0
  after_stop : s.sampledAfterStop + s.sampler.pendingSamples ≤ 1
  joined_eq : s.main = .reading ∨ s.main = .returned →
    s.sampler = .finished ∧ s.joined = s.state
  runningTime_le : s.main = .returned → ∀ tick ∈ s.processed, tick.2 ≤ s.runningTime

/-- A turn with a trace absorbs the list and records the tick. -/
theorem loopRun_true_snoc (processed : List (Tick × Seconds)) (snapshots : Tick)
    (elapsed : Seconds) :
    loopRun true (processed ++ [(snapshots, elapsed)]) =
      { state := (((loopRun true processed).state.absorb snapshots).tick snapshots elapsed).1
        rows := (loopRun true processed).rows ++
          (((loopRun true processed).state.absorb snapshots).tick snapshots
            elapsed).2.toList } :=
  traceRun_snoc processed (snapshots, elapsed)

/-- A turn without a trace only absorbs the list. -/
theorem loopRun_false_snoc (processed : List (Tick × Seconds)) (snapshots : Tick)
    (elapsed : Seconds) :
    loopRun false (processed ++ [(snapshots, elapsed)]) =
      { state := (loopRun false processed).state.absorb snapshots } := by
  simp [loopRun, SamplerState.absorbAll_snoc]

/-- After a tick no sampled list is pending. -/
@[simp]
theorem SamplerPc.pendingLists_afterTick (row : Option (TickRecord ℚ≥0)) :
    (afterTick row).pendingLists = [] := by
  cases row <;> rfl

/-- After a tick the list has been absorbed. -/
@[simp]
theorem SamplerPc.pendingAbsorb_afterTick (row : Option (TickRecord ℚ≥0))
    (state : SamplerState) : (afterTick row).pendingAbsorb state = state := by
  cases row <;> rfl

/-- After a tick its row is pending, if there is one. -/
@[simp]
theorem SamplerPc.pendingRows_afterTick (row : Option (TickRecord ℚ≥0)) :
    (afterTick row).pendingRows = row.toList := by
  cases row <;> rfl

/-- After a tick no sample is pending. -/
@[simp]
theorem SamplerPc.pendingSamples_afterTick (row : Option (TickRecord ℚ≥0)) :
    (afterTick row).pendingSamples = 0 := by
  cases row <;> rfl

theorem ThreadInvariant.init (config : SamplerConfig) : ThreadInvariant config {} := by
  constructor
  case state_eq =>
    cases config.traced <;> simp [SamplerPc.pendingAbsorb, loopRun, traceRun]
  case rows_eq =>
    cases config.traced <;> simp [SamplerPc.pendingRows, loopRun, traceRun]
  all_goals simp [SamplerPc.pendingLists, SamplerPc.pendingSamples]

/-- Processing a list at the present time keeps the elapsed times in order. -/
theorem elapsed_snoc {processed : List (Tick × Seconds)} {clock : Seconds}
    (hsorted : (processed.map Prod.snd).Pairwise (· ≤ ·))
    (hle : ∀ tick ∈ processed, tick.2 ≤ clock) (snapshots : Tick) :
    ((processed ++ [(snapshots, clock)]).map Prod.snd).Pairwise (· ≤ ·) ∧
      ∀ tick ∈ processed ++ [(snapshots, clock)], tick.2 ≤ clock := by
  constructor
  · rw [List.map_append, List.pairwise_append]
    refine ⟨hsorted, List.pairwise_singleton _ _, ?_⟩
    intro t ht u hu
    rcases List.mem_map.mp ht with ⟨tick, htick, rfl⟩
    simp only [List.map_cons, List.map_nil, List.mem_singleton] at hu
    rw [hu]
    exact hle tick htick
  · intro tick htick
    rcases List.mem_append.mp htick with hold | hnew
    · exact hle tick hold
    · rw [List.mem_singleton.mp hnew]

/-- A thread that is not finished has not been joined. -/
theorem ThreadInvariant.not_joined {config : SamplerConfig} {s : ThreadsState}
    (h : ThreadInvariant config s) (hsampler : s.sampler ≠ .finished) :
    ¬(s.main = .reading ∨ s.main = .returned) :=
  fun hmain => hsampler (h.joined_eq hmain).1

/-- The equations of the invariant at a known control point. -/
theorem ThreadInvariant.at_pc {config : SamplerConfig} {s : ThreadsState} {pc : SamplerPc}
    (h : ThreadInvariant config s) (hsampler : s.sampler = pc) :
    s.sampled = tickLists s.processed ++ pc.pendingLists ∧
      s.state = pc.pendingAbsorb (loopRun config.traced s.processed).state ∧
      s.rows ++ pc.pendingRows = (loopRun config.traced s.processed).rows ∧
      s.sampledAfterStop + pc.pendingSamples ≤ 1 := by
  subst hsampler
  exact ⟨h.sampled_eq, h.state_eq, h.rows_eq, h.after_stop⟩

/-- At these points the present turn has sampled nothing yet. -/
structure SamplerPc.Idle (pc : SamplerPc) : Prop where
  lists : pc.pendingLists = []
  absorb : ∀ state, pc.pendingAbsorb state = state
  rows : pc.pendingRows = []

theorem SamplerPc.idle_testStop : SamplerPc.testStop.Idle := ⟨rfl, fun _ => rfl, rfl⟩

theorem SamplerPc.idle_goingToSleep : SamplerPc.goingToSleep.Idle := ⟨rfl, fun _ => rfl, rfl⟩

theorem SamplerPc.idle_sleeping (wake : Seconds) : (SamplerPc.sleeping wake).Idle :=
  ⟨rfl, fun _ => rfl, rfl⟩

theorem SamplerPc.idle_testAgain : SamplerPc.testAgain.Idle := ⟨rfl, fun _ => rfl, rfl⟩

theorem SamplerPc.idle_sampling : SamplerPc.sampling.Idle := ⟨rfl, fun _ => rfl, rfl⟩

theorem SamplerPc.idle_finished : SamplerPc.finished.Idle := ⟨rfl, fun _ => rfl, rfl⟩

/-- Moving between two such points only matters to the samples still to come. -/
theorem ThreadInvariant.idle_move {config : SamplerConfig} {s : ThreadsState}
    {pc pc' : SamplerPc} (h : ThreadInvariant config s) (hsampler : s.sampler = pc)
    (hrunning : pc ≠ .finished) (hfrom : pc.Idle) (hto : pc'.Idle)
    (hsamples : s.sampledAfterStop + pc'.pendingSamples ≤ 1) :
    ThreadInvariant config { s with sampler := pc' } := by
  rcases h.at_pc hsampler with ⟨hsampled, hstate, hrows, _⟩
  have hnot := h.not_joined (hsampler ▸ hrunning)
  exact { h with
    sampled_eq := by rw [hsampled, hfrom.lists, hto.lists]
    state_eq := by rw [hstate, hfrom.absorb, hto.absorb]
    rows_eq := by rw [← hrows, hfrom.rows, hto.rows]
    after_stop := hsamples
    joined_eq := fun hmain => absurd hmain hnot }

/-- Every move of either thread preserves the invariant. -/
theorem ThreadInvariant.move {config : SamplerConfig} {s t : ThreadsState}
    {a : ThreadAction} (h : ThreadInvariant config s) (hmove : ThreadMove config s a t) :
    ThreadInvariant config t := by
  have hle := h.after_stop
  cases hmove with
  | advance d =>
      exact { h with
        elapsed_le := fun tick htick => (h.elapsed_le tick htick).trans le_self_add }
  | childExit hrunning => exact { h with }
  | reap hmain hexited =>
      exact { h with
        stop_eq_false := fun _ => h.stop_eq_false (Or.inl hmain)
        joined_eq := by simp
        runningTime_le := by simp }
  | storeStop hmain =>
      exact { h with
        stop_eq_false := by simp
        before_stop := by simp
        joined_eq := by simp
        runningTime_le := by simp }
  | join hmain hsampler =>
      exact { h with
        stop_eq_false := by simp
        joined_eq := fun _ => ⟨hsampler, rfl⟩
        runningTime_le := by simp }
  | readClock hmain =>
      exact { h with
        stop_eq_false := by simp
        joined_eq := fun _ => h.joined_eq (Or.inl hmain)
        runningTime_le := fun _ => h.elapsed_le }
  | leaveLoop hsampler hstop =>
      rcases hsampler with hsampler | hsampler
      · rw [hsampler] at hle
        exact h.idle_move hsampler (by simp) SamplerPc.idle_testStop SamplerPc.idle_finished hle
      · rw [hsampler] at hle
        exact h.idle_move hsampler (by simp) SamplerPc.idle_testAgain SamplerPc.idle_finished hle
  | enterLoop hsampler hstop =>
      rw [hsampler] at hle
      exact h.idle_move hsampler (by simp) SamplerPc.idle_testStop
        SamplerPc.idle_goingToSleep hle
  | fallAsleep hsampler =>
      rw [hsampler] at hle
      exact h.idle_move hsampler (by simp) SamplerPc.idle_goingToSleep
        (SamplerPc.idle_sleeping _) hle
  | wake wake hsampler =>
      rw [hsampler] at hle
      exact h.idle_move hsampler (by simp) (SamplerPc.idle_sleeping wake)
        SamplerPc.idle_testAgain hle
  | goOn hsampler hstop =>
      -- Only a thread that found the flag clear commits itself to a sample.
      have hone : s.sampledAfterStop + SamplerPc.sampling.pendingSamples ≤ 1 := by
        rw [h.before_stop hstop]
        exact le_refl 1
      exact h.idle_move hsampler (by simp) SamplerPc.idle_testAgain SamplerPc.idle_sampling hone
  | sample snapshots hsampler =>
      rcases h.at_pc hsampler with ⟨hsampled, hstate, hrows, hone⟩
      have hnot := h.not_joined (hsampler ▸ by simp)
      exact { h with
        sampled_eq := by
          rw [hsampled]
          simp [SamplerPc.pendingLists]
        state_eq := hstate
        rows_eq := hrows
        before_stop := fun hstop => by
          rw [h.before_stop hstop, show s.stop = false from hstop]
          rfl
        after_stop := by
          simp only [SamplerPc.pendingSamples] at hone ⊢
          split <;> omega
        joined_eq := fun hmain => absurd hmain hnot }
  | absorb snapshots hsampler =>
      rcases h.at_pc hsampler with ⟨hsampled, hstate, hrows, hone⟩
      have hnot := h.not_joined (hsampler ▸ by simp)
      exact { h with
        sampled_eq := hsampled
        state_eq := congrArg (SamplerState.absorb · snapshots) hstate
        rows_eq := hrows
        after_stop := hone
        joined_eq := fun hmain => absurd hmain hnot }
  | skipTick snapshots hsampler htraced =>
      rcases h.at_pc hsampler with ⟨hsampled, hstate, hrows, hone⟩
      have hnot := h.not_joined (hsampler ▸ by simp)
      have helapsed := elapsed_snoc h.elapsed_sorted h.elapsed_le snapshots
      rw [htraced] at hstate hrows
      exact { h with
        sampled_eq := by
          rw [hsampled]
          simp [SamplerPc.pendingLists]
        state_eq := by
          rw [hstate, htraced, loopRun_false_snoc]
          rfl
        rows_eq := by
          rw [htraced, loopRun_false_snoc]
          exact hrows
        elapsed_sorted := helapsed.1
        elapsed_le := helapsed.2
        after_stop := hone
        joined_eq := fun hmain => absurd hmain hnot
        runningTime_le := fun hmain => absurd (Or.inr hmain) hnot }
  | tick snapshots hsampler htraced =>
      rcases h.at_pc hsampler with ⟨hsampled, hstate, hrows, hone⟩
      have hnot := h.not_joined (hsampler ▸ by simp)
      have helapsed := elapsed_snoc h.elapsed_sorted h.elapsed_le snapshots
      rw [htraced] at hstate hrows
      have hsnoc := loopRun_true_snoc s.processed snapshots s.clock
      rw [← show s.state = (loopRun true s.processed).state.absorb snapshots from hstate,
        ← hrows] at hsnoc
      exact { h with
        sampled_eq := by
          rw [hsampled, SamplerPc.pendingLists_afterTick]
          simp [SamplerPc.pendingLists]
        state_eq := by rw [htraced, hsnoc, SamplerPc.pendingAbsorb_afterTick]
        rows_eq := by
          rw [htraced, hsnoc, SamplerPc.pendingRows_afterTick]
          simp [SamplerPc.pendingRows]
        elapsed_sorted := helapsed.1
        elapsed_le := helapsed.2
        after_stop := by
          rw [SamplerPc.pendingSamples_afterTick]
          exact hone
        joined_eq := fun hmain => absurd hmain hnot
        runningTime_le := fun hmain => absurd (Or.inr hmain) hnot }
  | writeRow row hsampler =>
      rcases h.at_pc hsampler with ⟨hsampled, hstate, hrows, hone⟩
      have hnot := h.not_joined (hsampler ▸ by simp)
      exact { h with
        sampled_eq := hsampled
        state_eq := hstate
        rows_eq := by
          rw [← hrows]
          simp [SamplerPc.pendingRows]
        after_stop := hone
        joined_eq := fun hmain => absurd hmain hnot }

/-- The invariant holds in every reachable state. -/
theorem ThreadInvariant.of_reachable {config : SamplerConfig} {s : ThreadsState}
    (h : (samplerThreads config).Reachable s) : ThreadInvariant config s :=
  h.invariant (ThreadInvariant.init config) fun _ _ _ hs hstep =>
    hs.move (ThreadsState.step_move hstep)

/-! ## What the join returns -/

/-- The record that stopping the sampler returns. -/
def ThreadsState.record (s : ThreadsState) : BenchmarkRecord ℚ≥0 :=
  s.joined.intoRecord s.runningTime

/-- The running time of the record is the one handed to it. -/
theorem runningTime_intoRecord (state : SamplerState) (runningTime : Seconds) :
    (state.intoRecord runningTime).runningTime = runningTime := by
  unfold SamplerState.intoRecord
  split <;> rfl

/-- A trace file holds one row for each non-empty list, in order. -/
theorem rows_nProcs (ticks : List (Tick × Seconds)) :
    (traceRun ticks).rows.map TickRecord.nProcs =
      ((tickLists ticks).filter fun tick => !tick.isEmpty).map List.length := by
  rw [rows_map TickRecord.nProcs (fun tick => tick.1.length) (fun _ _ _ h => h.nProcs_eq),
    sampledTicks, List.filter_map, List.map_map]
  rfl

/-- The elapsed column of a trace is a sublist of the elapsed times of the run. -/
theorem rows_elapsed_sublist (ticks : List (Tick × Seconds)) :
    ((traceRun ticks).rows.map TickRecord.elapsed).Sublist (ticks.map Prod.snd) := by
  rw [rows_map TickRecord.elapsed Prod.snd (fun _ _ _ h => h.elapsed_eq)]
  exact List.filter_sublist.map Prod.snd

/-- With or without a trace, the loop folds absorb over its lists; only the
previous cumulative values depend on the trace. -/
theorem loopRun_state (traced : Bool) (ticks : List (Tick × Seconds)) :
    (loopRun traced ticks).state =
      { SamplerState.absorbAll (tickLists ticks) with
        prevCumulative := (loopRun traced ticks).state.prevCumulative } := by
  cases traced with
  | true =>
      have htrace : (loopRun true ticks).state = _ := traceRun_state ticks
      rw [htrace]
  | false => rfl

/-- After the join, the sampler has processed everything it sampled. -/
theorem ThreadInvariant.joined_loopRun {config : SamplerConfig} {s : ThreadsState}
    (h : ThreadInvariant config s) (hmain : s.main = .reading ∨ s.main = .returned) :
    s.sampled = tickLists s.processed ∧
      s.joined = (loopRun config.traced s.processed).state ∧
      s.rows = (loopRun config.traced s.processed).rows := by
  rcases h.joined_eq hmain with ⟨hsampler, hjoined⟩
  rcases h.at_pc hsampler with ⟨hsampled, hstate, hrows, _⟩
  refine ⟨?_, hjoined.trans hstate, ?_⟩
  · simpa [SamplerPc.pendingLists] using hsampled
  · simpa [SamplerPc.pendingRows] using hrows

/-- For any interleaving of the two threads: the joined state is the fold of
absorb over the lists sampled, each once and in order, up to the previous
cumulative values, which change only while a trace is open; the rows of an open
trace are those of the lists sampled, one for each non-empty one, with elapsed
times in order and within the running time of the record; and at most one list
is sampled after the flag has been stored. -/
theorem joined_matches_sampled {config : SamplerConfig} {s : ThreadsState}
    (h : (samplerThreads config).Reachable s) :
    s.sampledAfterStop ≤ 1 ∧
      (s.main = .reading ∨ s.main = .returned →
        s.joined = { SamplerState.absorbAll s.sampled with
          prevCumulative := s.joined.prevCumulative } ∧
        (config.traced = false → s.joined = SamplerState.absorbAll s.sampled ∧ s.rows = []) ∧
        (config.traced = true → ∃ ticks, tickLists ticks = s.sampled ∧
          s.joined = (traceRun ticks).state ∧ s.rows = (traceRun ticks).rows ∧
          s.rows.map TickRecord.nProcs =
            (s.sampled.filter fun tick => !tick.isEmpty).map List.length ∧
          (s.rows.map TickRecord.elapsed).Pairwise (· ≤ ·))) ∧
      (s.main = .returned →
        s.record = aggregateRecord s.sampled s.record.runningTime ∧
        ∀ row ∈ s.rows, row.elapsed ≤ s.record.runningTime) := by
  have hinv := ThreadInvariant.of_reachable h
  refine ⟨Nat.le_of_add_right_le hinv.after_stop, ?_, ?_⟩
  · intro hmain
    rcases hinv.joined_loopRun hmain with ⟨hsampled, hjoined, hrows⟩
    refine ⟨?_, ?_, ?_⟩
    · rw [hjoined, hsampled]
      exact loopRun_state config.traced s.processed
    · intro huntraced
      rw [huntraced] at hjoined hrows
      rw [hsampled]
      exact ⟨hjoined, hrows⟩
    · intro htraced
      rw [htraced] at hjoined hrows
      refine ⟨s.processed, hsampled.symm, hjoined, hrows, ?_, ?_⟩
      · rw [hrows, hsampled]
        exact rows_nProcs s.processed
      · rw [hrows]
        exact hinv.elapsed_sorted.sublist (rows_elapsed_sublist s.processed)
  · intro hmain
    rcases hinv.joined_loopRun (Or.inr hmain) with ⟨hsampled, hjoined, hrows⟩
    have hrunning : s.record.runningTime = s.runningTime := runningTime_intoRecord _ _
    rw [hrunning]
    constructor
    · rw [ThreadsState.record, hjoined, loopRun_state, hsampled,
        ← SamplerState.intoRecord_absorbAll_eq]
      rfl
    · intro row hrow
      cases htraced : config.traced with
      | true =>
          rw [htraced] at hrows
          rw [hrows] at hrow
          have hmem := (rows_elapsed_sublist s.processed).subset
            (List.mem_map_of_mem hrow)
          rcases List.mem_map.mp hmem with ⟨tick, htick, helapsed⟩
          rw [← helapsed]
          exact hinv.runningTime_le hmain tick htick
      | false =>
          rw [htraced] at hrows
          rw [hrows] at hrow
          exact absurd hrow (List.not_mem_nil)

/-! ## A traced run with two samples -/

/-- One turn of the loop; the child exits and the flag is stored during the second one,
after its last test of the flag, so that this turn still samples. -/
def twoSamples (first second : Tick) : List ThreadAction :=
  [.sampler, .sampler, .advance 1, .sampler, .sampler, .sample first, .sampler, .sampler,
    .sampler, .sampler, .sampler, .advance 1, .sampler, .sampler, .childExit, .main, .main,
    .sample second, .sampler, .sampler, .sampler, .sampler, .main, .advance 1, .main]

/-- The run is reached.  The second list has one process more than the first. -/
theorem exists_reachable_twoSamples :
    ∃ s, (samplerThreads { interval := 1 / 2, traced := true }).Reachable s ∧
      s.main = .returned ∧ s.sampled.map List.length = [1, 2] ∧ s.sampledAfterStop = 1 ∧
        (s.joined.prevCumulative.lookup 7).isSome := by
  apply Machine.exists_reachesUnder_of_replay
    (twoSamples [{ pid := 7, majorPageFaults := some (clamp 3) }]
      [{ pid := 7, majorPageFaults := some (clamp 5) }, { pid := 8 }])
  decide +kernel

/-- Both lists are in the record, and the rows are those of the lists in order, although
the second one was sampled after the flag had been stored. -/
theorem joined_matches_twoSamples :
    ∃ s, (samplerThreads { interval := 1 / 2, traced := true }).Reachable s ∧
      s.main = .returned ∧ s.sampled.map List.length = [1, 2] ∧ s.sampledAfterStop = 1 ∧
      s.record = aggregateRecord s.sampled s.record.runningTime ∧
      s.rows.map TickRecord.nProcs =
        (s.sampled.filter fun tick => !tick.isEmpty).map List.length ∧
      (s.rows.map TickRecord.elapsed).Pairwise (· ≤ ·) ∧
      ∀ row ∈ s.rows, row.elapsed ≤ s.record.runningTime := by
  rcases exists_reachable_twoSamples with ⟨s, hs, hmain, hsampled, hlate, _⟩
  rcases joined_matches_sampled hs with ⟨_, hjoined, hreturned⟩
  rcases (hjoined (.inr hmain)).2.2 rfl with ⟨_, _, _, _, hlengths, hsorted⟩
  rcases hreturned hmain with ⟨hrecord, helapsed⟩
  exact ⟨s, hs, hmain, hsampled, hlate, hrecord, hlengths, hsorted, helapsed⟩

/-- With an open trace the joined state is not the fold of absorb alone. -/
theorem joined_ne_absorbAll :
    ¬∀ (config : SamplerConfig) (s : ThreadsState), (samplerThreads config).Reachable s →
      s.main = .returned → s.joined = SamplerState.absorbAll s.sampled := by
  intro hall
  rcases exists_reachable_twoSamples with ⟨s, hs, hmain, _, _, hprev⟩
  rw [hall _ s hs hmain, SamplerState.prevCumulative_absorbAll] at hprev
  exact absurd hprev (by simp)

end Tricord

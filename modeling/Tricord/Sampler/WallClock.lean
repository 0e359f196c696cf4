import Tricord.Sampler.Threads
import Mathlib.Data.Rat.Floor
import Mathlib.Tactic.Ring

/-!
# The wall clock of a run

The thread machine under exact timing: a sleep lasts exactly the sampling
interval, the child exits at a given time after the sampler was spawned, and no
other step takes time.  The clock is read only after the sampler thread has been
joined, so a sleep in progress when the flag is stored is part of the reported
running time.

Main results:

- Theorem {lit}`StoppedRun.runningTime_eq_sleepEnd`: the reported running time is
  the end of the sleep that the sampler is committed to when the flag is stored.
- Theorem {lit}`StoppedRun.runningTime_between`: it exceeds the run time of the child
  by at most one interval.
- Theorem {lit}`runningTime_eq_iff`: it is the run time of the child exactly when
  there is no such sleep.
- Theorem {lit}`some_run_reports_late`: for every run time and every interval there
  is a run in which it is not.
-/

namespace Tricord

open Transition

/-! ## Sampling intervals -/

/-- The sampling intervals of the command line: whole milliseconds, at least
ten. -/
structure SamplingInterval where
  millis : ℕ
  min_le : 10 ≤ millis

/-- The interval requested in seconds, clamped and rounded.  A number that is not
finite is the minimum as well.  The product and its rounding are exact here, so this
is the interval of the program where a thousand times the request is a number that a
double represents, as for a quarter or a half of a second.  What follows ranges over
every {lit}`SamplingInterval`, so it does not rest on this conversion. -/
def intervalDuration (interval : Option ℚ) : SamplingInterval :=
  match interval.map fun seconds => round (seconds * 1000) with
  | some ms =>
      if h : 10 ≤ ms then
        { millis := min ms.toNat u64Max
          min_le := by
            have hmax : 10 ≤ u64Max := by decide
            omega }
      else { millis := 10, min_le := le_refl 10 }
  | none => { millis := 10, min_le := le_refl 10 }

/-- The interval in seconds. -/
def SamplingInterval.seconds (interval : SamplingInterval) : Seconds :=
  interval.millis / 1000

/-- No interval is zero. -/
theorem SamplingInterval.seconds_pos (interval : SamplingInterval) : 0 < interval.seconds := by
  have hpos : (0 : ℚ≥0) < interval.millis := by
    have hmin := interval.min_le
    exact_mod_cast (by omega : 0 < interval.millis)
  exact div_pos hpos (by norm_num)

/-! ## Exact timing -/

/-- The sampler thread is blocked until the deadline or longer. -/
def ThreadsState.SamplerBlocked (s : ThreadsState) (deadline : Seconds) : Prop :=
  match s.sampler with
  | .sleeping wake => deadline ≤ wake
  | .finished => True
  | _ => False

/-- The main thread is blocked until the deadline or longer, the child running
until the given time. -/
def ThreadsState.MainBlocked (childTime : Seconds) (s : ThreadsState) (deadline : Seconds) :
    Prop :=
  match s.main with
  | .waiting => s.childExited = false ∧ deadline ≤ childTime
  | .joining =>
      match s.sampler with
      | .finished => False
      | _ => True
  | .returned => True
  | _ => False

/-- The schedules of exact timing. -/
def Timed (childTime : Seconds) (s : ThreadsState) : ThreadAction → Prop
  | .advance d =>
      s.SamplerBlocked (s.clock + d) ∧ s.MainBlocked childTime (s.clock + d)
  | .childExit => s.clock = childTime
  | .sampler =>
      match s.sampler with
      | .sleeping wake => s.clock = wake
      | _ => True
  | _ => True

instance (s : ThreadsState) (deadline : Seconds) : Decidable (s.SamplerBlocked deadline) := by
  unfold ThreadsState.SamplerBlocked
  split <;> infer_instance

instance (childTime : Seconds) (s : ThreadsState) (deadline : Seconds) :
    Decidable (s.MainBlocked childTime deadline) := by
  unfold ThreadsState.MainBlocked
  split <;> first | infer_instance | (split <;> infer_instance)

instance (childTime : Seconds) (s : ThreadsState) (a : ThreadAction) :
    Decidable (Timed childTime s a) := by
  unfold Timed
  split <;> first | infer_instance | (split <;> infer_instance)

/-- The sampler has passed its last test of the flag before a sleep that ends
later than now. -/
def ThreadsState.CommittedToSleep (s : ThreadsState) : Prop :=
  match s.sampler with
  | .goingToSleep => True
  | .sleeping wake => s.clock < wake
  | _ => False

/-- The end of the sleep that the sampler is committed to, the present time if
there is none. -/
def ThreadsState.sleepEnd (interval : Seconds) (s : ThreadsState) : Seconds :=
  match s.sampler with
  | .goingToSleep => s.clock + interval
  | .sleeping wake => wake
  | _ => s.clock

/-- After a tick the sampler does not sleep. -/
theorem sleepEnd_afterTick (interval : Seconds) (s : ThreadsState)
    (row : Option (TickRecord ℚ≥0)) (h : s.sampler = SamplerPc.afterTick row) :
    s.sleepEnd interval = s.clock := by
  unfold ThreadsState.sleepEnd
  rw [h]
  cases row <;> rfl

/-! ## Before the flag is stored -/

/-- Until the flag is stored, the clock does not pass the exit of the child, and
every sleep ends at a multiple of the interval. -/
structure Punctual (interval : Seconds) (childTime : Seconds) (s : ThreadsState) : Prop where
  stop_eq_false : s.stop = false
  looping : s.sampler ≠ .finished
  exited : s.main = .storing → s.childExited = true
  clock_of_exited : s.childExited = true → s.clock = childTime
  clock_le : s.clock ≤ s.sleepEnd interval
  sleepEnd_le : s.sleepEnd interval ≤ s.clock + interval
  multiple : ∃ k : ℕ, s.sleepEnd interval = k * interval

/-- Any other step than one into a sleep leaves the end of the sleep as it is. -/
theorem ThreadMove.sleepEnd_eq {config : SamplerConfig} {childTime : Seconds}
    {s t : ThreadsState} {a : ThreadAction} (hmove : ThreadMove config s a t)
    (htimed : Timed childTime s a) (hrunning : ∀ d, a = .advance d → s.sampler ≠ .finished)
    (hle : s.clock ≤ s.sleepEnd config.interval) :
    (t.sleepEnd config.interval = s.sleepEnd config.interval ∧
        t.clock ≤ t.sleepEnd config.interval) ∨
      (s.sampler = .testStop ∧ s.stop = false ∧
        t = { s with sampler := .goingToSleep }) := by
  cases hmove with
  | advance d =>
      left
      have hblocked := htimed.1
      have hnot := hrunning d rfl
      unfold ThreadsState.SamplerBlocked at hblocked
      unfold ThreadsState.sleepEnd
      cases hsampler : s.sampler with
      | sleeping wake =>
          rw [hsampler] at hblocked
          exact ⟨rfl, hblocked⟩
      | finished => exact absurd hsampler hnot
      | testStop | goingToSleep | testAgain | sampling | absorbing | ticking | writing =>
          rw [hsampler] at hblocked
          exact hblocked.elim
  | childExit hexited => exact .inl ⟨rfl, hle⟩
  | reap hmain hexited => exact .inl ⟨rfl, hle⟩
  | storeStop hmain => exact .inl ⟨rfl, hle⟩
  | join hmain hsampler => exact .inl ⟨rfl, hle⟩
  | readClock hmain => exact .inl ⟨rfl, hle⟩
  | enterLoop hsampler hstop => exact .inr ⟨hsampler, hstop, rfl⟩
  | leaveLoop hsampler hstop =>
      left
      rcases hsampler with hsampler | hsampler <;> simp [ThreadsState.sleepEnd, hsampler]
  | fallAsleep hsampler =>
      left
      simp [ThreadsState.sleepEnd, hsampler]
  | wake wake hsampler =>
      -- The sleep lasts exactly the interval, so the thread wakes at its end.
      left
      have hclock : s.clock = wake := by
        simp only [Timed, hsampler] at htimed
        exact htimed
      simp [ThreadsState.sleepEnd, hsampler, hclock]
  | goOn hsampler hstop =>
      left
      simp [ThreadsState.sleepEnd, hsampler]
  | sample snapshots hsampler =>
      left
      simp [ThreadsState.sleepEnd, hsampler]
  | absorb snapshots hsampler =>
      left
      simp [ThreadsState.sleepEnd, hsampler]
  | skipTick snapshots hsampler htraced =>
      left
      simp [ThreadsState.sleepEnd, hsampler]
  | tick snapshots hsampler htraced =>
      left
      rw [sleepEnd_afterTick config.interval _ _ rfl]
      simp [ThreadsState.sleepEnd, hsampler]
  | writeRow row hsampler =>
      left
      simp [ThreadsState.sleepEnd, hsampler]

/-- The clock never runs backwards. -/
theorem ThreadMove.clock_mono {config : SamplerConfig} {s t : ThreadsState} {a : ThreadAction}
    (hmove : ThreadMove config s a t) : s.clock ≤ t.clock := by
  cases hmove <;> first | exact le_refl _ | exact le_self_add

/-- Every step of exact timing keeps the run punctual as long as the flag is not
stored. -/
theorem Punctual.move {config : SamplerConfig} {childTime : Seconds} {s t : ThreadsState}
    {a : ThreadAction}
    (h : s.main = .waiting ∨ s.main = .storing → Punctual config.interval childTime s)
    (htimed : Timed childTime s a) (hmove : ThreadMove config s a t) :
    t.main = .waiting ∨ t.main = .storing → Punctual config.interval childTime t := by
  intro hmain
  have hbefore : s.main = .waiting ∨ s.main = .storing := by
    cases hmove <;> first | exact hmain | simp_all
  have hs := h hbefore
  rcases hmove.sleepEnd_eq htimed (fun _ _ => hs.looping) hs.clock_le with
    ⟨hend, hle⟩ | ⟨hsampler, hstop, rfl⟩
  · have hmultiple := hs.multiple
    have hsleepEnd := hs.sleepEnd_le.trans (add_le_add_left hmove.clock_mono config.interval)
    rw [← hend] at hmultiple hsleepEnd
    cases hmove with
    | advance d =>
        -- The main thread waits, so the child is still running.
        have hblocked := htimed.2
        have hchild : s.childExited = false := by
          unfold ThreadsState.MainBlocked at hblocked
          rcases hbefore with hwaiting | hstoring
          · rw [hwaiting] at hblocked
            exact hblocked.1
          · rw [hstoring] at hblocked
            exact hblocked.elim
        exact { hs with
          clock_of_exited := fun hexited => absurd (hchild.symm.trans hexited) (by simp)
          clock_le := hle
          sleepEnd_le := hsleepEnd
          multiple := hmultiple }
    | childExit hrunning =>
        exact { hs with
          exited := fun _ => rfl
          clock_of_exited := fun _ => htimed }
    | reap hwaiting hexited => exact { hs with exited := fun _ => hexited }
    | storeStop hstoring => simp at hmain
    | join hjoining hsampler => simp at hmain
    | readClock hreading => simp at hmain
    | leaveLoop hsampler hstop => exact absurd (hs.stop_eq_false.symm.trans hstop) (by simp)
    | tick snapshots hsampler htraced =>
        exact { hs with
          looping := by
            simp only
            cases (s.state.tick snapshots s.clock).2 <;> simp [SamplerPc.afterTick]
          clock_le := hle
          sleepEnd_le := hsleepEnd
          multiple := hmultiple }
    | enterLoop | fallAsleep | wake | goOn | sample | absorb | skipTick | writeRow =>
        exact { hs with
          looping := by simp
          clock_le := hle
          sleepEnd_le := hsleepEnd
          multiple := hmultiple }
  · rcases hs.multiple with ⟨k, hk⟩
    have hclock : s.clock = k * config.interval := by
      rw [← hk, ThreadsState.sleepEnd, hsampler]
    exact { hs with
      looping := by simp
      clock_le := le_self_add
      sleepEnd_le := le_refl _
      multiple := ⟨k + 1, by
        simp only [ThreadsState.sleepEnd, hclock]
        push_cast
        ring⟩ }

/-- In a run of exact timing the child has ended, and the sampler is punctual, when the
flag is stored. -/
theorem Punctual.of_reaches {config : SamplerConfig} {childTime : Seconds} {s : ThreadsState}
    (h : (samplerThreads config).ReachesUnder (Timed childTime) (samplerThreads config).init s)
    (hmain : s.main = .storing) : Punctual config.interval childTime s := by
  refine h.invariant
    (P := fun s => s.main = .waiting ∨ s.main = .storing → Punctual config.interval childTime s)
    ?_ ?_ (Or.inr hmain)
  · intro _
    exact {
      stop_eq_false := rfl
      looping := by simp [samplerThreads]
      exited := by simp [samplerThreads]
      clock_of_exited := by simp [samplerThreads]
      clock_le := le_refl _
      sleepEnd_le := le_self_add
      multiple := ⟨0, by simp [samplerThreads, ThreadsState.sleepEnd]⟩ }
  · intro s a t htimed hs hstep
    exact Punctual.move hs htimed (ThreadsState.step_move hstep)

/-! ## After the flag is stored -/

/-- Once the flag is stored, the clock runs up to the end of the sleep and is read
there. -/
def Closing (interval : Seconds) (deadline : Seconds) (s : ThreadsState) : Prop :=
  s.stop = true ∧
    match s.main with
    | .joining => s.sleepEnd interval = deadline ∧ s.clock ≤ deadline
    | .reading => s.clock = deadline
    | .returned => s.runningTime = deadline
    | _ => False

/-- Only the main thread moves itself, stores the flag and reads the clock. -/
theorem ThreadMove.frame {config : SamplerConfig} {s t : ThreadsState} {a : ThreadAction}
    (hmove : ThreadMove config s a t) (ha : a ≠ .main) :
    t.main = s.main ∧ t.stop = s.stop ∧ t.runningTime = s.runningTime := by
  cases hmove <;> first | exact ⟨rfl, rfl, rfl⟩ | exact absurd rfl ha

/-- Only the passage of time moves the clock. -/
theorem ThreadMove.clock_eq {config : SamplerConfig} {s t : ThreadsState} {a : ThreadAction}
    (hmove : ThreadMove config s a t) (ha : ∀ d, a ≠ .advance d) : t.clock = s.clock := by
  cases hmove <;> first | rfl | exact absurd rfl (ha _)

/-- Every step of exact timing keeps the deadline. -/
theorem Closing.move {config : SamplerConfig} {childTime deadline : Seconds}
    {s t : ThreadsState} {a : ThreadAction} (h : Closing config.interval deadline s)
    (htimed : Timed childTime s a) (hmove : ThreadMove config s a t) :
    Closing config.interval deadline t := by
  rcases h with ⟨hstop, hmain⟩
  by_cases ha : a = .main
  · subst ha
    cases hmove with
    | reap hwaiting hexited => simp [hwaiting] at hmain
    | storeStop hstoring => simp [hstoring] at hmain
    | join hjoining hsampler =>
        simp only [hjoining, ThreadsState.sleepEnd, hsampler] at hmain
        exact ⟨hstop, hmain.1⟩
    | readClock hreading =>
        simp only [hreading] at hmain
        exact ⟨hstop, hmain⟩
  · rcases hmove.frame ha with ⟨hmain_eq, hstop_eq, hrunning_eq⟩
    refine ⟨hstop_eq.trans hstop, ?_⟩
    rw [hmain_eq]
    cases hpc : s.main with
    | waiting | storing => simp [hpc] at hmain
    | joining =>
        simp only [hpc] at hmain
        have hle : s.clock ≤ s.sleepEnd config.interval := hmain.1 ▸ hmain.2
        -- Time passes in a join only while the sampler thread is running.
        have hrunning : ∀ d, a = .advance d → s.sampler ≠ .finished := by
          rintro d rfl hsampler
          have hblocked := htimed.2
          simp only [ThreadsState.MainBlocked, hpc, hsampler] at hblocked
        rcases hmove.sleepEnd_eq htimed hrunning hle with ⟨hend, hle'⟩ | ⟨_, hclear, _⟩
        · rw [hend, hmain.1] at hle'
          exact ⟨hend.trans hmain.1, hle'⟩
        · exact absurd (hclear.symm.trans hstop) (by simp)
    | reading =>
        simp only [hpc] at hmain
        have hclock : ∀ d, a ≠ .advance d := by
          rintro d rfl
          have hblocked := htimed.2
          simp only [ThreadsState.MainBlocked, hpc] at hblocked
        exact (hmove.clock_eq hclock).trans hmain
    | returned =>
        simp only [hpc] at hmain
        exact hrunning_eq.trans hmain

/-! ## The reported running time -/

/-- The record bears the running time that was read. -/
theorem record_runningTime (s : ThreadsState) : s.record.runningTime = s.runningTime :=
  runningTime_intoRecord _ _

/-- A run of exact timing that has returned, and the state from which it stored the
flag. -/
structure StoppedRun (config : SamplerConfig) (childTime : Seconds) (s t : ThreadsState) :
    Prop where
  before : (samplerThreads config).ReachesUnder (Timed childTime) {} s
  storing : s.main = .storing
  after : ∃ stored, s.step config .main = some stored ∧
    (samplerThreads config).ReachesUnder (Timed childTime) stored t
  returned : t.main = .returned

/-- Every run that is past the store of the flag has a state from which it stored
it. -/
theorem exists_stored {config : SamplerConfig} {childTime : Seconds} {t : ThreadsState}
    (hrun : (samplerThreads config).ReachesUnder (Timed childTime) {} t)
    (hstopped : ¬(t.main = .waiting ∨ t.main = .storing)) :
    ∃ s, (samplerThreads config).ReachesUnder (Timed childTime) {} s ∧ s.main = .storing ∧
      ∃ stored, s.step config .main = some stored ∧
        (samplerThreads config).ReachesUnder (Timed childTime) stored t := by
  induction hrun with
  | refl => exact absurd (Or.inl rfl) hstopped
  | @tail u t hrun hlast ih =>
      by_cases hmain : u.main = .waiting ∨ u.main = .storing
      · rcases hlast with ⟨a, _, hstep⟩
        have hmove : ThreadMove config u a t := ThreadsState.step_move hstep
        have hstoring : u.main = .storing ∧ a = .main := by
          cases hmove <;> simp_all
        rcases hstoring with ⟨hstoring, rfl⟩
        exact ⟨u, hrun, hstoring, t, hstep, .refl⟩
      · rcases ih hmain with ⟨s, hbefore, hstoring, stored, hstore, hrest⟩
        exact ⟨s, hbefore, hstoring, stored, hstore, hrest.tail hlast⟩

/-- A run of exact timing that returned has passed the state before the stop. -/
theorem StoppedRun.of_returned {config : SamplerConfig} {childTime : Seconds}
    {t : ThreadsState} (hrun : (samplerThreads config).ReachesUnder (Timed childTime) {} t)
    (hreturned : t.main = .returned) : ∃ s, StoppedRun config childTime s t := by
  rcases exists_stored hrun (by simp [hreturned]) with ⟨s, hbefore, hstoring, hafter⟩
  exact ⟨s, hbefore, hstoring, hafter, hreturned⟩

theorem StoppedRun.punctual {config : SamplerConfig} {childTime : Seconds}
    {s t : ThreadsState} (h : StoppedRun config childTime s t) :
    Punctual config.interval childTime s :=
  Punctual.of_reaches h.before h.storing

theorem StoppedRun.clock_eq {config : SamplerConfig} {childTime : Seconds}
    {s t : ThreadsState} (h : StoppedRun config childTime s t) : s.clock = childTime :=
  h.punctual.clock_of_exited (h.punctual.exited h.storing)

/-- The reported running time is the end of the sleep that the sampler is
committed to when the flag is stored. -/
theorem StoppedRun.runningTime_eq_sleepEnd {config : SamplerConfig} {childTime : Seconds}
    {s t : ThreadsState} (h : StoppedRun config childTime s t) :
    t.record.runningTime = s.sleepEnd config.interval := by
  rcases h.after with ⟨stored, hstore, hrest⟩
  have hstored : stored = { s with stop := true, main := .joining } := by
    have hmove : ThreadMove config s .main stored := ThreadsState.step_move hstore
    cases hmove with
    | storeStop => rfl
    | reap hmain | join hmain | readClock hmain =>
        exact absurd (hmain.symm.trans h.storing) (by simp)
  have hclosing : Closing config.interval (s.sleepEnd config.interval) stored := by
    rw [hstored]
    exact ⟨rfl, rfl, h.punctual.clock_le⟩
  have ht := hrest.invariant hclosing fun _ _ _ htimed hs hstep =>
    hs.move htimed (ThreadsState.step_move hstep)
  have hmain := ht.2
  rw [h.returned] at hmain
  rw [record_runningTime]
  exact hmain

/-- The reported running time is a whole number of intervals, at least the run time
of the child and at most one interval more. -/
theorem StoppedRun.runningTime_between {config : SamplerConfig} {childTime : Seconds}
    {s t : ThreadsState} (h : StoppedRun config childTime s t) :
    (∃ k : ℕ, t.record.runningTime = k * config.interval) ∧
      childTime ≤ t.record.runningTime ∧
      t.record.runningTime ≤ childTime + config.interval := by
  rw [h.runningTime_eq_sleepEnd, ← h.clock_eq]
  exact ⟨h.punctual.multiple, h.punctual.clock_le, h.punctual.sleepEnd_le⟩

/-- With no sleep ahead, the end of the sleep is now, and only then. -/
theorem sleepEnd_eq_clock_iff {interval : Seconds} {s : ThreadsState} (hpos : 0 < interval)
    (hle : s.clock ≤ s.sleepEnd interval) :
    s.sleepEnd interval = s.clock ↔ ¬s.CommittedToSleep := by
  unfold ThreadsState.sleepEnd ThreadsState.CommittedToSleep at *
  cases hsampler : s.sampler with
  | goingToSleep => simp [hpos.ne']
  | sleeping wake =>
      simp only [hsampler] at hle ⊢
      rw [not_lt]
      exact ⟨fun h => h.le, fun h => le_antisymm h hle⟩
  | testStop | testAgain | sampling | absorbing | ticking | writing | finished => simp

/-- Under exact timing the reported running time is the run time of the child
exactly when the sampler is not committed to a sleep as the flag is stored, which
takes a run time that is a whole number of intervals. -/
theorem runningTime_eq_iff {interval : SamplingInterval} {traced : Bool} {childTime : Seconds}
    {s t : ThreadsState}
    (h : StoppedRun { interval := interval.seconds, traced := traced } childTime s t) :
    (t.record.runningTime = childTime ↔ ¬s.CommittedToSleep) ∧
      (t.record.runningTime = childTime → ∃ k : ℕ, childTime = k * interval.seconds) := by
  constructor
  · rw [h.runningTime_eq_sleepEnd, ← h.clock_eq]
    exact sleepEnd_eq_clock_iff interval.seconds_pos h.punctual.clock_le
  · intro hreported
    rw [← hreported]
    exact h.runningTime_between.1

/-! ## Runs for every run time of the child -/

/-- At the head of the loop, the child running and no flag stored. -/
structure AtLoopHead (s : ThreadsState) (clock : Seconds) : Prop where
  main : s.main = .waiting
  sampler : s.sampler = .testStop
  stop : s.stop = false
  running : s.childExited = false
  clock_eq : s.clock = clock

section Progress

variable {config : SamplerConfig} {childTime : Seconds}

/-- A move that the timing allows extends a run. -/
theorem reaches_snoc {s t u : ThreadsState} {a : ThreadAction}
    (hrun : (samplerThreads config).ReachesUnder (Timed childTime) s t)
    (hmove : ThreadMove config t a u) (htimed : Timed childTime t a) :
    (samplerThreads config).ReachesUnder (Timed childTime) s u :=
  hrun.tail ⟨a, htimed, hmove.step_eq⟩

/-- From the head of the loop the sampler goes to sleep at once. -/
theorem AtLoopHead.fallAsleep {s : ThreadsState} {clock : Seconds} (h : AtLoopHead s clock) :
    (samplerThreads config).ReachesUnder (Timed childTime) s
      { s with sampler := .sleeping (clock + config.interval) } := by
  have hclock := h.clock_eq
  subst hclock
  have htimed : Timed childTime s .sampler := by simp [Timed, h.sampler]
  have hhere : (samplerThreads config).ReachesUnder (Timed childTime) s s := .refl
  have hentered := reaches_snoc hhere (.enterLoop h.sampler h.stop) htimed
  exact reaches_snoc hentered (.fallAsleep rfl) trivial

/-- A whole turn of the loop on an empty list, before the child exits. -/
theorem AtLoopHead.turn {s : ThreadsState} {clock : Seconds} (h : AtLoopHead s clock)
    (hle : clock + config.interval ≤ childTime) :
    ∃ t, (samplerThreads config).ReachesUnder (Timed childTime) s t ∧
      AtLoopHead t (clock + config.interval) := by
  have hclock := h.clock_eq
  subst hclock
  have hasleep : (samplerThreads config).ReachesUnder (Timed childTime) s _ := h.fallAsleep
  have hslept := reaches_snoc hasleep (.advance config.interval)
    ⟨le_refl _, by simpa [ThreadsState.MainBlocked, h.main, h.running] using hle⟩
  have hwoken := reaches_snoc hslept (.wake _ rfl) rfl
  have hsampling := reaches_snoc hwoken (.goOn rfl h.stop) trivial
  have hsampled := reaches_snoc hsampling (.sample [] rfl) trivial
  have habsorbed := reaches_snoc hsampled (.absorb [] rfl) trivial
  cases htraced : config.traced with
  | false =>
      refine ⟨_, reaches_snoc habsorbed (.skipTick [] rfl htraced) trivial, ?_⟩
      exact ⟨h.main, rfl, h.stop, h.running, rfl⟩
  | true =>
      refine ⟨_, reaches_snoc habsorbed (.tick [] rfl htraced) trivial, ?_⟩
      exact ⟨h.main, rfl, h.stop, h.running, rfl⟩

/-- The loop can be at its head after any whole number of intervals that the child
outlives. -/
theorem exists_atLoopHead (k : ℕ) (hle : k * config.interval ≤ childTime) :
    ∃ s, (samplerThreads config).ReachesUnder (Timed childTime) {} s ∧
      AtLoopHead s (k * config.interval) := by
  induction k with
  | zero => exact ⟨{}, .refl, ⟨rfl, rfl, rfl, rfl, by simp⟩⟩
  | succ k ih =>
      have hsucc : ((k + 1 : ℕ) : Seconds) * config.interval =
          k * config.interval + config.interval := by
        push_cast
        ring
      rw [hsucc] at hle ⊢
      rcases ih (le_self_add.trans hle) with ⟨s, hrun, hhead⟩
      rcases hhead.turn hle with ⟨t, hturn, hnext⟩
      exact ⟨t, hrun.trans hturn, hnext⟩

/-- A run that is about to store the flag in the middle of a sleep goes on to its
end. -/
theorem exists_stoppedRun_of_asleep {s : ThreadsState} {wake : Seconds}
    (hrun : (samplerThreads config).ReachesUnder (Timed childTime) {} s)
    (hstoring : s.main = .storing) (hasleep : s.sampler = .sleeping wake)
    (hle : s.clock ≤ wake) : ∃ t, StoppedRun config childTime s t := by
  have hend : s.clock + (wake - s.clock) = wake := add_tsub_cancel_of_le hle
  have hstored : (samplerThreads config).ReachesUnder (Timed childTime)
      { s with stop := true, main := .joining } _ := .refl
  have hslept := reaches_snoc hstored (.advance (wake - s.clock))
    ⟨by simp [ThreadsState.SamplerBlocked, hasleep, hend],
      by simp [ThreadsState.MainBlocked, hasleep]⟩
  have hwoken := reaches_snoc hslept (.wake wake hasleep) (by simp [Timed, hasleep, hend])
  have hleft := reaches_snoc hwoken (.leaveLoop (.inr rfl) rfl) trivial
  have hjoined := reaches_snoc hleft (.join rfl rfl) trivial
  have hreturned := reaches_snoc hjoined (.readClock rfl) trivial
  exact ⟨_, hrun, hstoring, ⟨_, (ThreadMove.storeStop hstoring).step_eq, hreturned⟩, rfl⟩

end Progress

/-- Whatever the run time of the child and the interval, some run of exact timing
stores the flag while the sampler is asleep. -/
theorem exists_stoppedRun_committed (interval : SamplingInterval) (traced : Bool)
    (childTime : Seconds) :
    ∃ s t, StoppedRun { interval := interval.seconds, traced := traced } childTime s t ∧
      s.CommittedToSleep := by
  let config : SamplerConfig := { interval := interval.seconds, traced := traced }
  let k := ⌊childTime / interval.seconds⌋₊
  have hle : k * config.interval ≤ childTime :=
    (le_div_iff₀ interval.seconds_pos).mp (Nat.floor_le zero_le)
  have hlt : childTime < k * config.interval + config.interval := by
    have hfloor := (div_lt_iff₀ interval.seconds_pos).mp
      (Nat.lt_floor_add_one (childTime / interval.seconds))
    rwa [add_mul, one_mul] at hfloor
  rcases exists_atLoopHead k hle with ⟨s, hrun, hhead⟩
  have hchild : s.clock + (childTime - s.clock) = childTime :=
    add_tsub_cancel_of_le (hhead.clock_eq ▸ hle)
  have hasleep : (samplerThreads config).ReachesUnder (Timed childTime) s _ := hhead.fallAsleep
  -- The child exits in the middle of this sleep.
  have hexit := reaches_snoc hasleep (.advance (childTime - s.clock))
    ⟨by simpa [ThreadsState.SamplerBlocked, hchild] using hlt.le,
      by simp [ThreadsState.MainBlocked, hhead.main, hhead.running, hchild]⟩
  have hexited := reaches_snoc hexit (.childExit hhead.running) hchild
  have hreaped := reaches_snoc hexited (.reap hhead.main rfl) trivial
  rcases exists_stoppedRun_of_asleep (hrun.trans hreaped) rfl rfl (hchild.trans_le hlt.le) with
    ⟨t, hstopped⟩
  exact ⟨_, t, hstopped, hchild.trans_lt hlt⟩

/-- Whatever the run time of the child and the interval, some run of exact timing
reports another running time. -/
theorem some_run_reports_late (interval : SamplingInterval) (traced : Bool)
    (childTime : Seconds) :
    ∃ s t, StoppedRun { interval := interval.seconds, traced := traced } childTime s t ∧
      childTime < t.record.runningTime := by
  rcases exists_stoppedRun_committed interval traced childTime with ⟨s, t, h, hcommitted⟩
  have hlate : t.record.runningTime ≠ childTime := by
    rw [h.runningTime_eq_sleepEnd, ← h.clock_eq]
    exact fun hend =>
      (sleepEnd_eq_clock_iff interval.seconds_pos h.punctual.clock_le).mp hend hcommitted
  exact ⟨s, t, h, lt_of_le_of_ne h.runningTime_between.2.1 hlate.symm⟩

/-! ## Two schedules -/

/-- The child exits at the end of the first sleep, as the loop starts over. -/
def exitAfterSleep : List ThreadAction :=
  [.sampler, .sampler, .advance (1 / 4), .sampler, .sampler, .sample [], .sampler, .sampler,
    .childExit, .main, .main, .sampler, .main, .main]

/-- In this run the flag is stored outside any sleep and the running time is the
run time of the child. -/
theorem runningTime_eq_exitAfterSleep :
    ∃ s t : ThreadsState,
      StoppedRun { interval := (intervalDuration (some (1 / 4))).seconds, traced := false }
        (1 / 4) s t ∧
      s.main = .storing ∧ ¬s.CommittedToSleep ∧ t.main = .returned ∧
      t.record.runningTime = 1 / 4 := by
  have hrun : ∃ t, (samplerThreads { interval := (intervalDuration (some (1 / 4))).seconds
                                     traced := false }).ReachesUnder (Timed (1 / 4)) {} t ∧
      t.main = .returned ∧ t.runningTime = 1 / 4 := by
    apply Machine.exists_reachesUnder_of_replay exitAfterSleep
    decide +kernel
  rcases hrun with ⟨t, hreaches, hreturned, hrunning⟩
  rw [← record_runningTime] at hrunning
  rcases StoppedRun.of_returned hreaches hreturned with ⟨s, hstopped⟩
  exact ⟨s, t, hstopped, hstopped.storing, (runningTime_eq_iff hstopped).1.mp hrunning,
    hreturned, hrunning⟩

/-- The child exits in the middle of the first sleep. -/
def exitWhileAsleep : List ThreadAction :=
  [.sampler, .sampler, .advance (1 / 4), .childExit, .main, .main, .advance (1 / 4), .sampler,
    .sampler, .main, .main]

/-- A child that exits in the middle of a sleep is reported to have run until the
end of the sleep. -/
theorem exists_runningTime_ne_childTime :
    ¬∀ (interval : Option ℚ) (traced : Bool) (childTime : Seconds) (t : ThreadsState),
      (samplerThreads { interval := (intervalDuration interval).seconds
                        traced := traced }).ReachesUnder (Timed childTime) {} t →
      t.main = .returned → t.record.runningTime = childTime := by
  intro hall
  have hrun : ∃ t, (samplerThreads { interval := (intervalDuration (some (1 / 2))).seconds
                                     traced := false }).ReachesUnder (Timed (1 / 4)) {} t ∧
      t.main = .returned ∧ t.runningTime = 1 / 2 := by
    apply Machine.exists_reachesUnder_of_replay exitWhileAsleep
    decide +kernel
  rcases hrun with ⟨t, hreaches, hreturned, hrunning⟩
  have hclaim := hall _ _ _ t hreaches hreturned
  rw [record_runningTime, hrunning] at hclaim
  exact absurd hclaim (by norm_num)

end Tricord

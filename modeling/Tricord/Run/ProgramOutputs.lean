import Tricord.Run.Program

/-!
# What a run of the command does

The sampler thread writes the trace while the main thread waits for the child, and the
main thread writes the other files after it has stopped the sampler.  This module shows
that the command does to the files what the writers do one after another, whatever the
order of the steps was.

Main results:

- Theorem {lit}`ProgramInvariant.move`: what every step of the command preserves.
- Theorem {lit}`program_refines_writers`: what a run that returns has done to the files is
  what the writers do one after another with the lists it sampled.
- Theorem {lit}`program_documents`: a run that returns without an error leaves every
  document in its place.
- Theorem {lit}`program_footprint`: what a run has touched at any moment.
-/

namespace Tricord

open FileTrees Outputs Transition

/-! ## The order of the main thread -/

/-- The sampler has not been started here. -/
def RunPc.BeforeSampler : RunPc → Prop
  | .spawning => True
  | .registering _ => True
  | .startingForwarder => True
  | .startingSampler => True
  | _ => False

/-- The child has been waited for here. -/
def RunPc.AfterWait : RunPc → Prop
  | .stopping => True
  | .dropping true => True
  | .joining true => True
  | .writingOutput => True
  | .writingMarkdown => True
  | .returned true => True
  | _ => False

/-- The forwarding thread has been joined here. -/
def RunPc.AfterJoin : RunPc → Prop
  | .writingOutput => True
  | .writingMarkdown => True
  | .returned true => True
  | _ => False

/-- The forwarding thread has not been started here. -/
def RunPc.BeforeForwarder : RunPc → Prop
  | .spawning => True
  | .registering _ => True
  | .startingForwarder => True
  | _ => False

/-- The forwarding thread has been started and not been joined here. -/
def RunPc.Forwarding : RunPc → Prop
  | .startingSampler => True
  | .waiting => True
  | .stopping => True
  | .dropping _ => True
  | .joining _ => True
  | _ => False

/-- The child and the forwarding thread are no more. -/
structure RunState.Ended (s : RunState) : Prop where
  reaped : s.childReaped = true
  exited : s.childRunning = false
  forwarder : s.forwarder = .finished

/-- The control point of the main thread against the other parties. -/
structure RunOrder (s : RunState) : Prop where
  before : s.main.BeforeSampler → s.samplerStarted = false
  spawning : s.main = .spawning → s.childRunning = false
  reaped : s.main.AfterWait →
    s.childReaped = true ∧ s.childRunning = false ∧ s.samplerStarted = true
  waiting : s.main = .waiting → s.samplerStarted = true
  joined : s.main.AfterJoin → s.forwarder = .finished
  forwarding : s.main.Forwarding → s.forwarder ≠ .notStarted
  closing : ∀ ok, s.main = .joining ok → s.closed = true
  unstarted : s.main.BeforeForwarder → s.forwarder = .notStarted

theorem RunOrder.init : RunOrder {} where
  before _ := rfl
  spawning _ := rfl
  reaped := False.elim
  waiting h := absurd h (by simp)
  joined := False.elim
  forwarding := False.elim
  closing := by simp
  unstarted _ := rfl

/-- Every step of the signal machine keeps the order. -/
theorem RunOrder.move {runConfig : RunConfig} {s t : RunState} {a : RunAction} (h : RunOrder s)
    (hmove : RunMove runConfig s a t) : RunOrder t := by
  have hreaped := h.reaped
  have hjoined := h.joined
  have hforwarding := h.forwarding
  cases hmove with
  | spawn hmain =>
      exact ⟨fun _ => h.before (hmain ▸ trivial), by simp, False.elim, by simp, False.elim,
        False.elim, by simp, fun _ => h.unstarted (hmain ▸ trivial)⟩
  | spawnFails hmain =>
      exact ⟨False.elim, by simp, False.elim, by simp, False.elim, False.elim, by simp,
        False.elim⟩
  | register sig rest hmain =>
      exact ⟨fun _ => h.before (hmain ▸ trivial), by simp, False.elim, by simp, False.elim,
        False.elim, by simp, fun _ => h.unstarted (hmain ▸ trivial)⟩
  | registerFails sig rest hmain =>
      exact ⟨False.elim, by simp, False.elim, by simp, False.elim, False.elim, by simp,
        False.elim⟩
  | install ok hmain =>
      exact ⟨fun _ => h.before (hmain ▸ trivial), by simp, False.elim, by simp, False.elim,
        False.elim, by simp, fun _ => h.unstarted (hmain ▸ trivial)⟩
  | startForwarder hmain =>
      exact ⟨fun _ => h.before (hmain ▸ trivial), by simp, False.elim, by simp, False.elim,
        by simp, by simp, False.elim⟩
  | startForwarderFails hmain =>
      exact ⟨False.elim, by simp, False.elim, by simp, False.elim, False.elim, by simp,
        False.elim⟩
  | startSampler hmain =>
      exact ⟨False.elim, by simp, False.elim, fun _ => rfl, False.elim,
        fun _ => hforwarding (hmain ▸ trivial), by simp, False.elim⟩
  | giveUp hmain =>
      refine ⟨False.elim, by simp, False.elim, by simp, False.elim, fun _ => ?_, by simp,
        False.elim⟩
      rcases hmain with hmain | hmain <;> exact hforwarding (hmain ▸ trivial)
  | reap hmain hexited =>
      exact ⟨False.elim, by simp, fun _ => ⟨rfl, hexited, h.waiting hmain⟩, by simp, False.elim,
        fun _ => hforwarding (hmain ▸ trivial), by simp, False.elim⟩
  | stop ok hmain =>
      rw [hmain] at hreaped hforwarding
      exact ⟨False.elim, by simp, fun _ => hreaped trivial, by simp, False.elim,
        fun _ => hforwarding trivial, by simp, False.elim⟩
  | close ok result hmain =>
      rw [hmain] at hreaped hforwarding
      refine ⟨False.elim, by simp, fun hafter => hreaped ?_, by simp, False.elim,
        fun _ => hforwarding trivial, fun _ _ => rfl, False.elim⟩
      cases result <;> exact hafter
  | join ok result hmain hfinished =>
      rw [hmain] at hreaped
      cases result with
      | true =>
          exact ⟨False.elim, by simp, fun _ => hreaped trivial, by simp, fun _ => hfinished,
            False.elim, by simp, False.elim⟩
      | false => exact ⟨False.elim, by simp, False.elim, by simp, False.elim, False.elim, by simp,
          False.elim⟩
  | write ok next hmain hnext =>
      have hafter : s.main.AfterWait ∧ s.main.AfterJoin := by
        rcases hmain with hmain | hmain <;> exact hmain ▸ ⟨trivial, trivial⟩
      rcases hnext with rfl | rfl | rfl
      · exact ⟨False.elim, by simp, fun _ => hreaped hafter.1, by simp, fun _ => hjoined hafter.2,
          False.elim, by simp, False.elim⟩
      · exact ⟨False.elim, by simp, fun _ => hreaped hafter.1, by simp, fun _ => hjoined hafter.2,
          False.elim, by simp, False.elim⟩
      · exact ⟨False.elim, by simp, False.elim, by simp, False.elim, False.elim, by simp,
          False.elim⟩
  | childExit hrunning =>
      exact { h with
        spawning := fun _ => rfl
        reaped := fun hafter => ⟨(hreaped hafter).1, rfl, (hreaped hafter).2.2⟩ }
  | terminate sig fatal hdisposition => exact { h with }
  | swallow sig hdisposition => exact h
  | accept sig fatal hdisposition => exact { h with }
  | take sig hforwarder hpending =>
      exact { h with
        joined := fun hafter => absurd (hjoined hafter) (by simp [hforwarder])
        forwarding := by simp
        unstarted := fun hbefore => absurd (h.unstarted hbefore) (by simp [hforwarder]) }
  | forward sig hforwarder =>
      exact { h with
        joined := fun hafter => absurd (hjoined hafter) (by simp [hforwarder])
        forwarding := by simp
        unstarted := fun hbefore => absurd (h.unstarted hbefore) (by simp [hforwarder]) }
  | leave hforwarder hclosed =>
      exact { h with
        joined := fun _ => rfl
        forwarding := by simp
        unstarted := fun hbefore => absurd (h.unstarted hbefore) (by simp [hforwarder]) }

theorem RunOrder.of_reachable {runConfig : RunConfig} {s : RunState}
    (h : (runCommand runConfig).Reachable s) : RunOrder s :=
  h.invariant RunOrder.init fun _ _ _ hs hstep => hs.move (RunState.step_move hstep).1

/-! ## The trace -/

section Invariant

variable {E : Type} {config : ProgramConfig E}

/-- The files once the trace holds the rows written so far. -/
def ProgramState.traceFiles (config : ProgramConfig E) (s : ProgramState E) : Files :=
  match s.opened with
  | none => config.files
  | some _ =>
      stateAfter
        (runTrace config.permits config.fmt config.options.tracePath s.threads.rows config.files)

/-- The trace is open as opening it at the start of the run says. -/
def TraceOpened (config : ProgramConfig E) (traced : Bool) : Prop :=
  match config.options.tracePath with
  | none => traced = false
  | some path => ∃ opened, openTraceWriter config.permits path config.files = .ok traced opened

/-- More rows are written behind the first ones. -/
theorem writeTraceRows_append {fmt : FloatFormat ℚ≥0} (path : Path)
    (rows rows' : List (TickRecord ℚ≥0)) :
    writeTraceRows fmt path (rows ++ rows') = (do
      writeTraceRows fmt path rows
      writeTraceRows fmt path rows') := by
  induction rows with
  | nil => rfl
  | cons row rows ih =>
      rw [List.cons_append, writeTraceRows, writeTraceRows, ih, bind_assoc]

/-- One more row goes behind the others. -/
theorem runTrace_snoc {permits : Path → Bool} {fmt : FloatFormat ℚ≥0} {path : Path}
    {files opened : Files} (hopen : openTraceWriter permits path files = .ok true opened)
    (rows : List (TickRecord ℚ≥0)) (row : TickRecord ℚ≥0) :
    stateAfter (runTrace permits fmt (some path) (rows ++ [row]) files) =
      stateAfter (writeAll (row.toTsvRow fmt ++ "\n") path
        (stateAfter (runTrace permits fmt (some path) rows files))) := by
  rcases exists_writeTraceRows fmt path rows opened with ⟨between, hrows⟩
  rcases exists_writeAll (row.toTsvRow fmt ++ "\n") path between with ⟨final, hrow⟩
  have hbefore : runTrace permits fmt (some path) rows files = .ok () between :=
    bind_ok_iff.mpr ⟨true, opened, hopen, hrows⟩
  have hafter : runTrace permits fmt (some path) (rows ++ [row]) files = .ok () final := by
    refine bind_ok_iff.mpr ⟨true, opened, hopen, ?_⟩
    rw [if_pos rfl, writeTraceRows_append]
    exact bind_ok_iff.mpr ⟨(), between, hrows, bind_ok_iff.mpr ⟨(), final, hrow, rfl⟩⟩
  rw [hbefore, hafter]
  exact congrArg stateAfter hrow.symm

/-- A run without a trace leaves the files alone. -/
theorem ProgramState.traceFiles_of_none (hpath : config.options.tracePath = none)
    (s : ProgramState E) : s.traceFiles config = config.files := by
  unfold traceFiles
  cases s.opened with
  | none => rfl
  | some traced =>
      rw [hpath]
      rfl

/-! ## The invariant -/

/-- The record is not complete here. -/
def RunPc.BeforeRecord : RunPc → Prop
  | .dropping ok => ok = false
  | .joining ok => ok = false
  | .returned ok => ok = false
  | .writingOutput => False
  | .writingMarkdown => False
  | _ => True

/-- The record is complete here, and nothing has been done with it. -/
def RunPc.BeforeOutput : RunPc → Prop
  | .stopping => True
  | .dropping ok => ok = true
  | .joining ok => ok = true
  | .writingOutput => True
  | _ => False

/-- There is no record, and only the trace has been written. -/
structure Unrecorded (config : ProgramConfig E) (s : ProgramState E) : Prop where
  record : s.record = none
  files : s.files = s.traceFiles config
  summary : s.summary = none

/-- The sampler has been stopped, and its record completed. -/
structure Recorded (s : ProgramState E) (record : BenchmarkRecord ℚ≥0) : Prop where
  main : s.threads.main = .returned
  eq : ∃ stop, record = s.threads.record.withContext s.start stop
  record : s.record = some record

/-- What the main thread has done, control point by control point. -/
inductive Stage (config : ProgramConfig E) (s : ProgramState E) : RunPc → Prop
  | unrecorded (pc : RunPc) (hpc : pc.BeforeRecord) (hs : Unrecorded config s) : Stage config s pc
  | recorded (pc : RunPc) (hpc : pc.BeforeOutput) (record : BenchmarkRecord ℚ≥0)
      (hs : Recorded s record) (hfiles : s.files = s.traceFiles config)
      (hsummary : s.summary = none) : Stage config s pc
  | between (record : BenchmarkRecord ℚ≥0) (hs : Recorded s record)
      (hpath : config.options.markdownPath ≠ none)
      (hwrite : writeToPath config.permits config.fmt config.text record
        config.options.outputPath config.options.format config.options.schemaMode
        (s.traceFiles config) = .ok () s.files)
      (hsummary : s.summary = none) : Stage config s .writingMarkdown
  | written (record : BenchmarkRecord ℚ≥0) (hs : Recorded s record)
      (hwrite : writeRecord config.permits config.fmt config.text config.options record
        (s.traceFiles config) = .ok () s.files)
      (hsummary : s.summary = config.summary record) : Stage config s (.returned true)
  | failed (record : BenchmarkRecord ℚ≥0) (error : OutputError E) (hs : Recorded s record)
      (hwrite : writeRecord config.permits config.fmt config.text config.options record
        (s.traceFiles config) = .error error s.files)
      (herror : s.error = some error) (hsummary : s.summary = none) (hended : s.run.Ended) :
      Stage config s (.returned false)

/-- A record, once there is one, is not changed by the steps of the other parties. -/
theorem Recorded.frame {s t : ProgramState E} {record : BenchmarkRecord ℚ≥0}
    (h : Recorded s record) (hrecord : t.record = s.record) (hstart : t.start = s.start)
    (hmain : t.threads.main = s.threads.main) (hthreads : t.threads.record = s.threads.record) :
    Recorded t record where
  main := hmain.trans h.main
  eq := by
    rw [hthreads, hstart]
    exact h.eq
  record := hrecord.trans h.record

/-- The stage does not change under steps that leave its data alone. -/
theorem Stage.frame {s t : ProgramState E} {pc : RunPc} (h : Stage config s pc)
    (hfiles : t.files = s.files) (htrace : t.traceFiles config = s.traceFiles config)
    (hrecord : t.record = s.record) (hstart : t.start = s.start)
    (hmain : t.threads.main = s.threads.main) (hthreads : t.threads.record = s.threads.record)
    (hsummary : t.summary = s.summary) (herror : t.error = s.error)
    (hended : s.run.Ended → t.run.Ended) : Stage config t pc := by
  cases h with
  | unrecorded _ hpc hs =>
      exact .unrecorded pc hpc
        ⟨hrecord.trans hs.record, hfiles.trans (hs.files.trans htrace.symm),
          hsummary.trans hs.summary⟩
  | recorded _ hpc record hs hold hnone =>
      exact .recorded pc hpc record (hs.frame hrecord hstart hmain hthreads)
        (hfiles.trans (hold.trans htrace.symm)) (hsummary.trans hnone)
  | between record hs hpath hwrite hnone =>
      refine .between record (hs.frame hrecord hstart hmain hthreads) hpath ?_
        (hsummary.trans hnone)
      rw [htrace, hfiles]
      exact hwrite
  | written record hs hwrite hsome =>
      refine .written record (hs.frame hrecord hstart hmain hthreads) ?_ (hsummary.trans hsome)
      rw [htrace, hfiles]
      exact hwrite
  | failed record error hs hwrite hold hnone hbefore =>
      refine .failed record error (hs.frame hrecord hstart hmain hthreads) ?_
        (herror.trans hold) (hsummary.trans hnone) (hended hbefore)
      rw [htrace, hfiles]
      exact hwrite

/-- What every reachable state of the command satisfies. -/
structure ProgramInvariant (config : ProgramConfig E) (s : ProgramState E) : Prop where
  components : Components config s
  stage : Stage config s s.run.main
  opened : ∀ traced, s.opened = some traced → TraceOpened config traced
  phase : s.phase ≠ .running → s.run.main = .spawning
  accepted : s.phase = .readingContext ∨ s.phase = .running →
    validateOutputPaths (E := E) config.options = .ok ()
  rejected : s.phase = .rejected →
    ∃ error, validateOutputPaths config.options = .error error ∧ s.error = some error

theorem ProgramInvariant.init (config : ProgramConfig E) :
    ProgramInvariant config { files := config.files } where
  components := Components.init config
  stage := .unrecorded .spawning trivial ⟨rfl, rfl, rfl⟩
  opened := by simp
  phase _ := rfl
  accepted := by simp
  rejected := by simp

/-! ## One step -/

/-- Only the main thread moves its control point. -/
theorem RunMove.main_eq {runConfig : RunConfig} {s t : RunState} {a : RunAction}
    (h : RunMove runConfig s a t) (ha : ∀ ok, a ≠ .main ok) : t.main = s.main := by
  cases h with
  | childExit | terminate | swallow | accept | take | forward | leave => rfl
  | _ => exact absurd rfl (ha _)

/-- The steps of the other parties do not bring anyone back. -/
theorem RunMove.ended {runConfig : RunConfig} {s t : RunState} {a : RunAction}
    (h : RunMove runConfig s a t) (ha : ∀ ok, a ≠ .main ok) (hs : s.Ended) : t.Ended := by
  cases h with
  | childExit hrunning => exact absurd (hrunning.symm.trans hs.exited) (by simp)
  | terminate | accept => exact { hs with }
  | swallow => exact hs
  | take sig hforwarder => exact absurd (hforwarder.symm.trans hs.forwarder) (by simp)
  | forward sig hforwarder => exact absurd (hforwarder.symm.trans hs.forwarder) (by simp)
  | leave hforwarder => exact absurd (hforwarder.symm.trans hs.forwarder) (by simp)
  | _ => exact absurd rfl (ha _)

/-- The control points after the record has been written. -/
theorem RunState.step_writingOutput {runConfig : RunConfig} {s t : RunState} {ok : Bool}
    (h : s.step runConfig (.main ok) = some t) (hmain : s.main = .writingOutput) :
    t = { s with
      main :=
        if ok then (if runConfig.markdown then .writingMarkdown else .returned true)
        else .returned false } := by
  have hstep : s.mainStep runConfig ok = some t := (Option.ite_none_left_eq_some.mp h).2
  simp only [RunState.mainStep, hmain] at hstep
  split at hstep
  next hok =>
    rw [← Option.some_inj.mp hstep, if_pos hok]
  next hok =>
    rw [← Option.some_inj.mp hstep, if_neg hok]

/-- The control point after the Markdown table has been written. -/
theorem RunState.step_writingMarkdown {runConfig : RunConfig} {s t : RunState} {ok : Bool}
    (h : s.step runConfig (.main ok) = some t) (hmain : s.main = .writingMarkdown) :
    t = { s with main := .returned ok } := by
  have hstep : s.mainStep runConfig ok = some t := (Option.ite_none_left_eq_some.mp h).2
  simp only [RunState.mainStep, hmain] at hstep
  exact (Option.some_inj.mp hstep).symm

/-- The threads take part as themselves, with a trace that is open or not. -/
theorem Components.exists_invariant {s : ProgramState E} (h : Components config s) :
    ∃ traced, (s.opened = none ∨ s.opened = some traced) ∧
      ThreadInvariant (config.sampler traced) s.threads := by
  cases hopened : s.opened with
  | none =>
      exact ⟨false, .inl rfl, ThreadInvariant.of_reachable (h.threads false (.inl hopened))⟩
  | some traced =>
      exact ⟨traced, .inr rfl, ThreadInvariant.of_reachable (h.threads traced (.inr hopened))⟩

/-- A record is complete only after the sampler thread has finished. -/
theorem Recorded.finished {s : ProgramState E} {record : BenchmarkRecord ℚ≥0}
    (h : Recorded s record) (hcomponents : Components config s) :
    s.threads.sampler = .finished := by
  rcases hcomponents.exists_invariant with ⟨traced, _, hinv⟩
  exact (hinv.joined_eq (.inr h.main)).1

/-- While the sampler thread is running there is no record. -/
theorem Stage.of_sampling {s : ProgramState E} {pc : RunPc} (h : Stage config s pc)
    (hcomponents : Components config s) (hsampler : s.threads.sampler ≠ .finished) :
    pc.BeforeRecord ∧ Unrecorded config s := by
  cases h with
  | unrecorded _ hpc hs => exact ⟨hpc, hs⟩
  | recorded _ _ _ hs => exact absurd (hs.finished hcomponents) hsampler
  | between _ hs => exact absurd (hs.finished hcomponents) hsampler
  | written _ hs => exact absurd (hs.finished hcomponents) hsampler
  | failed _ _ hs => exact absurd (hs.finished hcomponents) hsampler

/-- Before the record is complete, the steps of the sampler thread only have to keep up
with the trace. -/
theorem Stage.trace_step {s t : ProgramState E} {pc : RunPc} (h : Stage config s pc)
    (hcomponents : Components config s) (hsampler : s.threads.sampler ≠ .finished)
    (hfiles : s.files = s.traceFiles config → t.files = t.traceFiles config)
    (hrecord : t.record = s.record) (hsummary : t.summary = s.summary) : Stage config t pc := by
  rcases h.of_sampling hcomponents hsampler with ⟨hpc, hs⟩
  exact .unrecorded pc hpc ⟨hrecord.trans hs.record, hfiles hs.files, hsummary.trans hs.summary⟩

/-- Before the child has been waited for there is no record. -/
theorem Stage.of_early {s : ProgramState E} {pc : RunPc} (h : Stage config s pc)
    (hpc : pc.BeforeSampler ∨ pc = .waiting) : Unrecorded config s := by
  cases h with
  | unrecorded _ _ hs => exact hs
  | recorded _ hafter =>
      rcases hpc with hpc | rfl
      · cases pc <;> first | exact hpc.elim | exact hafter.elim
      · exact hafter.elim
  | between => rcases hpc with hpc | hpc <;> simp [RunPc.BeforeSampler] at hpc
  | written => rcases hpc with hpc | hpc <;> simp [RunPc.BeforeSampler] at hpc
  | failed => rcases hpc with hpc | hpc <;> simp [RunPc.BeforeSampler] at hpc

/-- The steps of the main thread between the writers. -/
theorem Stage.main_step {s : ProgramState E} {ok : Bool} {run : RunState}
    (h : Stage config s s.run.main) (halone : s.Alone ok)
    (hmove : RunMove config.run s.run (.main ok) run) :
    Stage config { s with run := run } run.main := by
  have hearly : ∀ {pc pc'}, s.run.main = pc → pc.BeforeSampler ∨ pc = .waiting →
      pc'.BeforeRecord → Stage config { s with run := run } pc' := by
    intro pc pc' hmain hpc hpc'
    have hs := h.of_early (hmain ▸ hpc)
    exact .unrecorded pc' hpc' ⟨hs.record, hs.files, hs.summary⟩
  cases hmove with
  | spawn hmain => exact hearly hmain (.inl trivial) trivial
  | spawnFails hmain => exact hearly hmain (.inl trivial) rfl
  | register sig rest hmain => exact hearly hmain (.inl trivial) trivial
  | registerFails sig rest hmain => exact hearly hmain (.inl trivial) rfl
  | install ok hmain => exact hearly hmain (.inl trivial) trivial
  | startForwarder hmain => exact hearly hmain (.inl trivial) trivial
  | startForwarderFails hmain => exact hearly hmain (.inl trivial) rfl
  | startSampler hmain => exact hearly hmain (.inl trivial) trivial
  | giveUp hmain =>
      rcases hmain with hmain | hmain
      · exact hearly hmain (.inl trivial) rfl
      · exact hearly hmain (.inr rfl) rfl
  | reap hmain => exact absurd (halone.reap hmain) (by simp)
  | stop ok hmain =>
      have hrecord := halone.stop hmain
      rw [hmain] at h
      cases h with
      | unrecorded _ _ hs => exact absurd hs.record hrecord
      | recorded _ _ record hs hfiles hsummary =>
          exact .recorded _ rfl record (hs.frame rfl rfl rfl rfl) hfiles hsummary
  | close ok result hmain =>
      rw [hmain] at h
      cases h with
      | unrecorded _ hpc hs => exact .unrecorded _ hpc ⟨hs.record, hs.files, hs.summary⟩
      | recorded _ hpc record hs hfiles hsummary =>
          exact .recorded _ hpc record (hs.frame rfl rfl rfl rfl) hfiles hsummary
  | join ok result hmain =>
      rw [hmain] at h
      cases h with
      | unrecorded _ hpc hs =>
          cases hpc
          exact .unrecorded _ rfl ⟨hs.record, hs.files, hs.summary⟩
      | recorded _ hpc record hs hfiles hsummary =>
          cases hpc
          exact .recorded _ trivial record (hs.frame rfl rfl rfl rfl) hfiles hsummary
  | write ok next hmain =>
      rcases hmain with hmain | hmain
      · exact absurd hmain halone.output
      · exact absurd hmain halone.markdown

/-- The writers come after the joins. -/
theorem MainWriter.after {record : BenchmarkRecord ℚ≥0} {pc : RunPc}
    {writer : EStateM (OutputError E) Files Unit} (h : MainWriter config record pc writer) :
    pc.AfterWait ∧ pc.AfterJoin := by
  cases h <;> exact ⟨trivial, trivial⟩

/-- A writer that succeeds. -/
theorem Stage.write_step {s : ProgramState E} {record : BenchmarkRecord ℚ≥0} {files : Files}
    {run : RunState} {writer : EStateM (OutputError E) Files Unit}
    (h : Stage config s s.run.main) (hrecord : s.record = some record)
    (hwriter : MainWriter config record s.run.main writer)
    (hwrite : writer s.files = .ok () files)
    (hrun : s.run.step config.run (.main true) = some run) :
    Stage config
      { s with
        run := run
        files := files
        summary := if run.main = .returned true then config.summary record else none }
      run.main := by
  generalize hpc : s.run.main = pc at h hwriter
  cases hwriter with
  | output =>
      cases h with
      | unrecorded _ hbefore => exact hbefore.elim
      | recorded _ _ other hs hfiles hsummary =>
          cases hs.record.symm.trans hrecord
          rw [hfiles] at hwrite
          have hnext : run.main =
              if config.run.markdown then .writingMarkdown else .returned true := by
            rw [RunState.step_writingOutput hrun hpc, if_pos rfl]
          cases hpath : config.options.markdownPath with
          | none =>
              have hreturned : run.main = .returned true := by
                rw [hnext]
                simp [ProgramConfig.run, hpath]
              rw [hreturned, if_pos rfl]
              refine .written record (hs.frame rfl rfl rfl rfl) ?_ rfl
              refine bind_ok_iff.mpr ⟨(), files, hwrite, ?_⟩
              rw [hpath]
              rfl
          | some path =>
              have hwriting : run.main = .writingMarkdown := by
                rw [hnext]
                simp [ProgramConfig.run, hpath]
              rw [hwriting, if_neg (by simp)]
              exact .between record (hs.frame rfl rfl rfl rfl) (by simp [hpath]) hwrite rfl
  | markdown path hpath =>
      have hreturned : run.main = .returned true := by
        rw [RunState.step_writingMarkdown hrun hpc]
      rw [hreturned, if_pos rfl]
      cases h with
      | unrecorded _ hbefore => exact hbefore.elim
      | recorded _ hafter => exact hafter.elim
      | between other hs _ houtput hsummary =>
          cases hs.record.symm.trans hrecord
          refine .written record (hs.frame rfl rfl rfl rfl) ?_ rfl
          refine bind_ok_iff.mpr ⟨(), s.files, houtput, ?_⟩
          rw [hpath]
          exact hwrite

/-- A writer that fails. -/
theorem Stage.writeFails_step {s : ProgramState E} {record : BenchmarkRecord ℚ≥0} {files : Files}
    {error : OutputError E} {run : RunState} {writer : EStateM (OutputError E) Files Unit}
    (h : Stage config s s.run.main) (horder : RunOrder s.run) (hrecord : s.record = some record)
    (hwriter : MainWriter config record s.run.main writer)
    (hwrite : writer s.files = .error error files)
    (hrun : s.run.step config.run (.main false) = some run) :
    Stage config { s with run := run, files := files, error := some error } run.main := by
  have hwriting := hwriter.after
  have hended : s.run.Ended :=
    ⟨(horder.reaped hwriting.1).1, (horder.reaped hwriting.1).2.1, horder.joined hwriting.2⟩
  generalize hpc : s.run.main = pc at h hwriter
  cases hwriter with
  | output =>
      have hreturned := RunState.step_writingOutput hrun hpc
      rw [if_neg (by simp)] at hreturned
      rw [hreturned]
      cases h with
      | unrecorded _ hbefore => exact hbefore.elim
      | recorded _ _ other hs hfiles hsummary =>
          cases hs.record.symm.trans hrecord
          rw [hfiles] at hwrite
          exact .failed record error (hs.frame rfl rfl rfl rfl)
            (bind_error_iff.mpr (.inl hwrite)) rfl hsummary { hended with }
  | markdown path hpath =>
      have hreturned := RunState.step_writingMarkdown hrun hpc
      rw [hreturned]
      cases h with
      | unrecorded _ hbefore => exact hbefore.elim
      | recorded _ hafter => exact hafter.elim
      | between other hs _ houtput hsummary =>
          cases hs.record.symm.trans hrecord
          refine .failed record error (hs.frame rfl rfl rfl rfl) ?_ rfl hsummary { hended with }
          refine bind_error_iff.mpr (.inr ⟨(), s.files, houtput, ?_⟩)
          rw [hpath]
          exact hwrite

/-- A row is only written to a trace that is open. -/
theorem ThreadInvariant.traced_of_writing {samplerConfig : SamplerConfig} {s : ThreadsState}
    {row : TickRecord ℚ≥0} (h : ThreadInvariant samplerConfig s)
    (hsampler : s.sampler = .writing row) : samplerConfig.traced = true := by
  rw [← Bool.not_eq_false]
  intro huntraced
  have hrows := (h.at_pc hsampler).2.2.1
  rw [huntraced] at hrows
  exact absurd hrows (by simp [SamplerPc.pendingRows, loopRun])

/-- What a step of the sampler thread does to the rows. -/
theorem ThreadMove.sampler_rows {samplerConfig : SamplerConfig} {s t : ThreadsState}
    (h : ThreadMove samplerConfig s .sampler t) :
    s.sampler ≠ .finished ∧
      ((∀ row, s.sampler ≠ .writing row) ∧ t.rows = s.rows ∨
        ∃ row, s.sampler = .writing row ∧ t.rows = s.rows ++ [row]) := by
  cases h with
  | leaveLoop hsampler =>
      rcases hsampler with hsampler | hsampler <;> simp [hsampler]
  | enterLoop hsampler => simp [hsampler]
  | fallAsleep hsampler => simp [hsampler]
  | wake wake hsampler => simp [hsampler]
  | goOn hsampler => simp [hsampler]
  | absorb snapshots hsampler => simp [hsampler]
  | skipTick snapshots hsampler => simp [hsampler]
  | tick snapshots hsampler => simp [hsampler]
  | writeRow row hsampler => simp [hsampler]

/-- The control point after the child has been waited for. -/
theorem RunState.step_waiting {runConfig : RunConfig} {s t : RunState}
    (h : s.step runConfig (.main true) = some t) (hmain : s.main = .waiting) :
    t = { s with main := .stopping, childReaped := true } := by
  have hstep : s.mainStep runConfig true = some t := (Option.ite_none_left_eq_some.mp h).2
  simp only [RunState.mainStep, hmain, if_true] at hstep
  exact (Option.some_inj.mp (Option.ite_none_left_eq_some.mp hstep).2).symm

/-- Every step keeps what the main thread has done, and the trace goes on. -/
theorem Stage.move {s t : ProgramState E} {a : ProgramAction} (h : ProgramInvariant config s)
    (hmove : ProgramMove config s a t) : Stage config t t.run.main := by
  have hstage := h.stage
  cases hmove with
  | reject ok error hphase hoptions =>
      have hmain := h.phase (by simp [hphase])
      rw [hmain] at hstage
      have hs := hstage.of_early (.inl trivial)
      exact hmain ▸ .unrecorded _ trivial ⟨hs.record, hs.files, hs.summary⟩
  | accept ok hphase hoptions => exact hstage.frame rfl rfl rfl rfl rfl rfl rfl rfl id
  | readStart context hphase =>
      have hmain := h.phase (by simp [hphase])
      rw [hmain] at hstage
      have hs := hstage.of_early (.inl trivial)
      exact hmain ▸ .unrecorded _ trivial ⟨hs.record, hs.files, hs.summary⟩
  | main ok run halone hrun => exact hstage.main_step halone (RunState.step_move hrun).1
  | reap run threads hmain hrun hthreads =>
      rw [hmain] at hstage
      have hs := hstage.of_early (.inr rfl)
      have hrows : threads.rows = s.threads.rows := by
        cases ThreadsState.step_move hthreads <;> rfl
      refine .unrecorded _ ?_
        ⟨hs.record, hs.files.trans (by simp only [ProgramState.traceFiles, hrows]), hs.summary⟩
      rw [RunState.step_waiting hrun hmain]
      trivial
  | stopSampler ok threads hmain hrecord hthreads =>
      have hrows : threads.rows = s.threads.rows := by
        cases ThreadsState.step_move hthreads <;> rfl
      rw [hmain] at hstage
      cases hstage with
      | unrecorded _ _ hs =>
          exact hmain ▸ .unrecorded _ trivial
            ⟨hs.record, hs.files.trans (by simp only [ProgramState.traceFiles, hrows]), hs.summary⟩
      | recorded _ _ record hs => exact absurd (hs.record.symm.trans hrecord) (by simp)
  | readEnd context hmain hthreads hrecord =>
      rw [hmain] at hstage
      cases hstage with
      | unrecorded _ _ hs =>
          exact hmain ▸ .recorded _ trivial _ ⟨hthreads, ⟨context, rfl⟩, rfl⟩ hs.files hs.summary
      | recorded _ _ record hs => exact absurd (hs.record.symm.trans hrecord) (by simp)
  | write ok record files run writer hrecord hwriter hwrite hrun =>
      exact hstage.write_step hrecord hwriter hwrite hrun
  | writeFails ok record error files run writer hrecord hwriter hwrite hrun =>
      exact hstage.writeFails_step (RunOrder.of_reachable h.components.run) hrecord hwriter hwrite
        hrun
  | childExit status run threads hrun hthreads =>
      have hmain := (RunState.step_move hrun).1.main_eq (by simp)
      have hended : s.run.Ended → run.Ended := (RunState.step_move hrun).1.ended (by simp)
      have hkeep : Stage config { s with run := run, threads := threads, status := some status }
          s.run.main := by
        cases ThreadsState.step_move hthreads
        exact hstage.frame rfl rfl rfl rfl rfl rfl rfl rfl hended
      exact hmain ▸ hkeep
  | signal a b run hsignal hrun =>
      have hother := ProgramAction.signal_ne_main hsignal
      have hmain := (RunState.step_move hrun).1.main_eq hother
      have hended : s.run.Ended → run.Ended := (RunState.step_move hrun).1.ended hother
      have hkeep : Stage config { s with run := run } s.run.main :=
        hstage.frame rfl rfl rfl rfl rfl rfl rfl rfl hended
      exact hmain ▸ hkeep
  | advance d hstarted threads hthreads =>
      cases ThreadsState.step_move hthreads
      exact hstage.frame rfl rfl rfl rfl rfl rfl rfl rfl id
  | noTrace hstarted hopened hpath =>
      have hidle := (h.components.unopened hopened).1
      refine hstage.trace_step h.components (by simp [hidle]) ?_ rfl rfl
      intro hfiles
      rw [ProgramState.traceFiles_of_none hpath] at hfiles ⊢
      exact hfiles
  | openTrace path opened files hstarted hopened hpath hopen =>
      rcases h.components.unopened hopened with ⟨hidle, hrows⟩
      refine hstage.trace_step h.components (by simp [hidle]) ?_ rfl rfl
      intro hfiles
      have hbefore : s.files = config.files := by
        rw [hfiles, ProgramState.traceFiles, hopened]
      rw [hbefore] at hopen
      have hrun : runTrace config.permits config.fmt (some path) [] config.files =
          .ok () files := by
        refine bind_ok_iff.mpr ⟨opened, files, hopen, ?_⟩
        cases opened <;> rfl
      simp only [ProgramState.traceFiles, hpath, hrows, hrun]
      rfl
  | sampler traced threads hstarted hopened hsilent hthreads =>
      rcases (ThreadsState.step_move hthreads).sampler_rows with ⟨hrunning, hrows⟩
      refine hstage.trace_step h.components hrunning ?_ rfl rfl
      intro hfiles
      rcases hrows with ⟨_, hsame⟩ | ⟨row, hsampler, _⟩
      · exact hfiles.trans (by simp only [ProgramState.traceFiles, hsame])
      · rw [ProgramState.traceFiles_of_none (hsilent row hsampler)] at hfiles ⊢
        exact hfiles
  | writeRow traced row path threads hstarted hopened hsampler hpath hthreads =>
      rcases (ThreadsState.step_move hthreads).sampler_rows with ⟨hrunning, hrows⟩
      refine hstage.trace_step h.components hrunning ?_ rfl rfl
      intro hfiles
      have hreachable := h.components.threads traced (.inr hopened)
      have htraced : traced = true :=
        (ThreadInvariant.of_reachable hreachable).traced_of_writing hsampler
      have hopen := h.opened traced hopened
      rw [TraceOpened, hpath, htraced] at hopen
      rcases hopen with ⟨opened, hopen⟩
      simp only [ProgramState.traceFiles, hopened, hpath] at hfiles ⊢
      rcases hrows with ⟨hother, _⟩ | ⟨other, hother, hsnoc⟩
      · exact absurd hsampler (hother row)
      · cases hsampler.symm.trans hother
        rw [hsnoc, runTrace_snoc hopen, hfiles]
  | sample snapshots hstarted threads hthreads =>
      cases ThreadsState.step_move hthreads with
      | sample _ hsampling =>
          refine hstage.trace_step h.components (by simp [hsampling]) ?_ rfl rfl
          exact id

/-- What every step of the command preserves. -/
theorem ProgramInvariant.move {s t : ProgramState E} {a : ProgramAction}
    (h : ProgramInvariant config s) (hmove : ProgramMove config s a t) :
    ProgramInvariant config t where
  components := h.components.move hmove
  stage := Stage.move h hmove
  opened := by
    cases hmove with
    | noTrace hstarted hopened hpath =>
        intro traced htraced
        cases htraced
        rw [TraceOpened, hpath]
    | openTrace path opened files hstarted hopened hpath hopen =>
        intro traced htraced
        cases htraced
        have hidle := (h.components.unopened hopened).1
        rcases h.stage.of_sampling h.components (by simp [hidle]) with ⟨_, hs⟩
        have hbefore : s.files = config.files := by
          rw [hs.files, ProgramState.traceFiles, hopened]
        rw [TraceOpened, hpath]
        exact ⟨files, hbefore ▸ hopen⟩
    | _ => exact h.opened
  phase := by
    have hphase := h.phase
    cases hmove with
    | reject ok error hvalidating hoptions => exact fun _ => hphase (by simp [hvalidating])
    | accept ok hvalidating hoptions => exact fun _ => hphase (by simp [hvalidating])
    | readStart context hreading => exact fun hne => absurd rfl hne
    | main ok run halone hrun => exact fun hne => absurd halone.phase hne
    | reap run threads hmain => exact fun hne => absurd ((hphase hne).symm.trans hmain) (by simp)
    | write ok record files run writer hrecord hwriter =>
        intro hne
        rw [hphase hne] at hwriter
        nomatch hwriter
    | writeFails ok record error files run writer hrecord hwriter =>
        intro hne
        rw [hphase hne] at hwriter
        nomatch hwriter
    | childExit status run threads hrun =>
        exact fun hne => ((RunState.step_move hrun).1.main_eq (by simp)).trans (hphase hne)
    | signal a b run hsignal hrun =>
        have hother := ProgramAction.signal_ne_main hsignal
        exact fun hne => ((RunState.step_move hrun).1.main_eq hother).trans (hphase hne)
    | _ => exact hphase
  accepted := by
    cases hmove with
    | reject => simp
    | accept ok hphase hoptions => exact fun _ => hoptions
    | readStart context hphase => exact fun _ => h.accepted (.inl hphase)
    | _ => exact h.accepted
  rejected := by
    cases hmove with
    | reject ok error hphase hoptions => exact fun _ => ⟨error, hoptions, rfl⟩
    | accept => simp
    | readStart => simp
    | writeFails ok record error files run writer hrecord hwriter =>
        intro hrejected
        rw [h.phase (by simp [show s.phase = .rejected from hrejected])] at hwriter
        nomatch hwriter
    | _ => exact h.rejected

theorem ProgramInvariant.of_reachable {s : ProgramState E} (h : (program config).Reachable s) :
    ProgramInvariant config s :=
  h.invariant (ProgramInvariant.init config) fun _ _ _ hs hstep =>
    hs.move (ProgramState.step_move hstep)

/-! ## What a run amounts to -/

/-- The record of the lists that a run samples. -/
def sequentialRecord (ticks : List (Tick × Seconds)) (runningTime : Seconds)
    (start stop : SystemContext ℚ≥0) : BenchmarkRecord ℚ≥0 :=
  (aggregateRecord (tickLists ticks) runningTime).withContext start stop

/-- The writers one after another, on the lists that a run samples and on its record. -/
def ProgramConfig.sequentialRun (config : ProgramConfig E) (ticks : List (Tick × Seconds))
    (record : BenchmarkRecord ℚ≥0) : EStateM.Result (OutputError E) Files Unit :=
  writeOutputs config.permits config.fmt config.text config.options (traceRun ticks).rows record
    config.files

/-- After the sampler has been stopped, its record is the one of the lists it sampled. -/
theorem ThreadInvariant.record_eq {samplerConfig : SamplerConfig} {s : ThreadsState}
    (h : ThreadInvariant samplerConfig s) (hmain : s.main = .returned) :
    s.sampled = tickLists s.processed ∧
      s.record = aggregateRecord (tickLists s.processed) s.runningTime ∧
      s.rows = (loopRun samplerConfig.traced s.processed).rows := by
  rcases h.joined_loopRun (.inr hmain) with ⟨hsampled, hjoined, hrows⟩
  refine ⟨hsampled, ?_, hrows⟩
  rw [ThreadsState.record, hjoined, loopRun_state, ← SamplerState.intoRecord_absorbAll_eq]
  rfl

/-- The rows of a trace that is not open do not matter. -/
theorem runTrace_unopened {permits : Path → Bool} {fmt : FloatFormat ℚ≥0} {path : Path}
    {files opened : Files} (hopen : openTraceWriter permits path files = .ok false opened)
    (rows : List (TickRecord ℚ≥0)) :
    runTrace permits fmt (some path) rows files = .ok () opened :=
  bind_ok_iff.mpr ⟨false, opened, hopen, rfl⟩

/-- A complete record and the trace next to it are those of the lists sampled. -/
theorem ProgramInvariant.recorded {s : ProgramState E} {record : BenchmarkRecord ℚ≥0}
    (h : ProgramInvariant config s) (hs : Recorded s record) :
    ∃ ticks stop, tickLists ticks = s.threads.sampled ∧
      (ticks.map Prod.snd).Pairwise (· ≤ ·) ∧
      (∀ tick ∈ ticks, tick.2 ≤ s.threads.runningTime) ∧
      record = sequentialRecord ticks s.threads.runningTime s.start stop ∧
      s.traceFiles config =
        stateAfter (runTrace config.permits config.fmt config.options.tracePath
          (traceRun ticks).rows config.files) := by
  rcases h.components.exists_invariant with ⟨traced, htraced, hinv⟩
  rcases hinv.record_eq hs.main with ⟨hsampled, hrecord, hrows⟩
  rcases hs.eq with ⟨stop, heq⟩
  have hopened : s.opened = some traced := by
    rcases htraced with hnone | hsome
    · have hidle := (h.components.unopened hnone).1
      exact absurd (hidle.symm.trans (hs.finished h.components)) (by simp)
    · exact hsome
  refine ⟨s.threads.processed, stop, hsampled.symm, hinv.elapsed_sorted,
    hinv.runningTime_le hs.main, ?_, ?_⟩
  · rw [sequentialRecord, ← hrecord]
    exact heq
  · have hopen := h.opened traced hopened
    simp only [ProgramState.traceFiles, hopened]
    rw [TraceOpened] at hopen
    cases hpath : config.options.tracePath with
    | none => rfl
    | some path =>
        rw [hpath] at hopen
        rcases hopen with ⟨opened, hopen⟩
        cases traced with
        | true =>
            rw [hrows]
            rfl
        | false => rw [runTrace_unopened hopen, runTrace_unopened hopen]

/-- The main thread has only gone on with accepted options. -/
theorem ProgramInvariant.options_accepted {s : ProgramState E} (h : ProgramInvariant config s)
    (hmain : s.run.main ≠ .spawning) : validateOutputPaths (E := E) config.options = .ok () := by
  by_cases hphase : s.phase = .running
  · exact h.accepted (.inr hphase)
  · exact absurd (h.phase hphase) hmain

/-- Whatever the order of the steps was, a run of the command that returns with a record
has sampled some lists at ascending times, the record is the one of these lists, and the
files and the error are what the writers make of them one after another. -/
theorem program_refines_writers {s : ProgramState E} {record : BenchmarkRecord ℚ≥0} {ok : Bool}
    (h : (program config).Reachable s) (hreturned : s.run.main = .returned ok)
    (hrecord : s.record = some record) :
    ∃ ticks stop, tickLists ticks = s.threads.sampled ∧
      (ticks.map Prod.snd).Pairwise (· ≤ ·) ∧
      (∀ tick ∈ ticks, tick.2 ≤ s.threads.runningTime) ∧
      record = sequentialRecord ticks s.threads.runningTime s.start stop ∧
      (ok = true ∧ config.sequentialRun ticks record = .ok () s.files ∧
          s.summary = config.summary record ∨
        ok = false ∧ s.summary = none ∧
          ∃ error, s.error = some error ∧
            config.sequentialRun ticks record = .error error s.files) := by
  have hinv := ProgramInvariant.of_reachable h
  have haccepted := hinv.options_accepted (by simp [hreturned])
  have hstage := hinv.stage
  rw [hreturned] at hstage
  cases hstage with
  | unrecorded _ _ hs => exact absurd (hs.record.symm.trans hrecord) (by simp)
  | recorded _ hafter => exact hafter.elim
  | written other hs hwrite hsummary =>
      cases hs.record.symm.trans hrecord
      rcases hinv.recorded hs with ⟨ticks, stop, hsampled, hsorted, hle, heq, htrace⟩
      refine ⟨ticks, stop, hsampled, hsorted, hle, heq, .inl ⟨rfl, ?_, hsummary⟩⟩
      rw [ProgramConfig.sequentialRun, writeOutputs_eq haccepted, ← htrace]
      exact hwrite
  | failed other error hs hwrite herror hsummary =>
      cases hs.record.symm.trans hrecord
      rcases hinv.recorded hs with ⟨ticks, stop, hsampled, hsorted, hle, heq, htrace⟩
      refine ⟨ticks, stop, hsampled, hsorted, hle, heq, .inr ⟨rfl, hsummary, error, herror, ?_⟩⟩
      rw [ProgramConfig.sequentialRun, writeOutputs_eq haccepted, ← htrace]
      exact hwrite

/-- A run that returns without an error leaves every document in its place, the trace
among them if it could be opened. -/
theorem program_documents {s : ProgramState E} (h : (program config).Reachable s)
    (hreturned : s.run.main = .returned true) :
    ∃ ticks stop record aggregate, tickLists ticks = s.threads.sampled ∧
      record = sequentialRecord ticks s.threads.runningTime s.start stop ∧
      s.record = some record ∧
      writeTo config.fmt config.text record config.options.format config.options.schemaMode =
        .ok aggregate ∧
      s.files.node config.options.outputPath = some (.file aggregate) ∧
      (∀ path, config.options.markdownPath = some path →
        s.files.node path =
          some (.file (record.toMarkdownDocument config.fmt config.options.schemaMode))) ∧
      ∀ path, config.options.tracePath = some path → s.opened = some true →
        s.files.node path = some (.file (traceDocument config.fmt (traceRun ticks).rows)) := by
  have hinv := ProgramInvariant.of_reachable h
  have haccepted := hinv.options_accepted (by simp [hreturned])
  have hstage := hinv.stage
  rw [hreturned] at hstage
  cases hstage with
  | unrecorded _ hbefore => exact absurd hbefore (by simp [RunPc.BeforeRecord])
  | recorded _ hafter => exact hafter.elim
  | written record hs hwrite hsummary =>
      rcases hinv.recorded hs with ⟨ticks, stop, hsampled, _, _, heq, htrace⟩
      have hrun : writeOutputs config.permits config.fmt config.text config.options
          (traceRun ticks).rows record config.files = .ok () s.files := by
        rw [writeOutputs_eq haccepted, ← htrace]
        exact hwrite
      have houtcome : OutputsOutcome config.permits config.fmt config.text config.options record
          config.files (.ok () s.files) :=
        hrun ▸ writeOutputs_outcome config.options (traceRun ticks).rows record config.files
      cases houtcome with
      | complete aggregate _ haggregate hfile hmarkdown =>
          refine ⟨ticks, stop, record, aggregate, hsampled, heq, hs.record, haggregate, hfile,
            hmarkdown, ?_⟩
          intro path hpath hopened
          have hopen := hinv.opened true hopened
          rw [TraceOpened, hpath] at hopen
          rcases hopen with ⟨opened, hopen⟩
          have htraced : (stateAfter (writeOutputs config.permits config.fmt config.text
              config.options (traceRun ticks).rows record config.files)).node path =
                some (.file (traceDocument config.fmt (traceRun ticks).rows)) :=
            trace_of_writeOutputs haccepted hpath hopen
          rw [hrun] at htraced
          exact htraced

/-- Up to the writers only the trace file has been touched. -/
theorem ProgramState.footprint_traceFiles (s : ProgramState E) :
    Footprint config.options.tracePath.toList config.files (s.traceFiles config) := by
  unfold traceFiles
  split
  · exact Footprint.refl _ _
  · exact within_runTrace _ _ _

/-- What follows the trace is within the configured paths as well. -/
theorem footprint_of_trace {options : RunOptions} {files traced final : Files}
    (htrace : Footprint options.tracePath.toList files traced) {paths : List Path}
    (hrest : Footprint paths traced final)
    (hpaths : paths ⊆ options.outputPath :: options.markdownPath.toList) :
    Footprint options.paths files final := by
  refine (htrace.mono (tracePath_subset options)).trans (hrest.mono fun path hpath => ?_)
  rcases List.mem_cons.mp (hpaths hpath) with rfl | hmarkdown
  · exact outputPath_mem options
  · exact markdownPath_mem (Option.mem_toList.mp hmarkdown)

/-- At any moment, a run has written at most at the configured paths.  Before the child,
the sampler thread and the forwarding thread have ended it has only written its trace,
and nothing before it has accepted its options and started the child. -/
theorem program_footprint {s : ProgramState E} (h : (program config).Reachable s) :
    Footprint config.options.paths config.files s.files ∧
      (Footprint config.options.tracePath.toList config.files s.files ∨
        s.run.Ended ∧ s.threads.sampler = .finished ∧ s.record ≠ none) ∧
      (s.phase ≠ .running →
        s.files = config.files ∧ s.run.childRunning = false ∧ s.run.samplerStarted = false) := by
  have hinv := ProgramInvariant.of_reachable h
  have horder := RunOrder.of_reachable hinv.components.run
  have htrace : Footprint config.options.tracePath.toList config.files (s.traceFiles config) :=
    s.footprint_traceFiles
  have htraced : s.files = s.traceFiles config →
      Footprint config.options.paths config.files s.files ∧
        Footprint config.options.tracePath.toList config.files s.files := by
    intro hfiles
    rw [hfiles]
    exact ⟨htrace.mono (tracePath_subset config.options), htrace⟩
  have hwritten : ∀ record, Footprint (config.options.outputPath ::
      config.options.markdownPath.toList) (s.traceFiles config)
      (stateAfter (writeRecord config.permits config.fmt config.text config.options record
        (s.traceFiles config))) :=
    fun record => within_writeRecord config.options record _
  have hended : s.run.main.AfterWait ∧ s.run.main.AfterJoin → s.run.Ended := fun hafter =>
    ⟨(horder.reaped hafter.1).1, (horder.reaped hafter.1).2.1, horder.joined hafter.2⟩
  have hstage := hinv.stage
  rw [← and_assoc]
  constructor
  · generalize s.run.main = pc at hstage hended
    cases hstage with
    | unrecorded _ _ hs => exact ⟨(htraced hs.files).1, .inl (htraced hs.files).2⟩
    | recorded _ _ record hs hfiles => exact ⟨(htraced hfiles).1, .inl (htraced hfiles).2⟩
    | between record hs _ hwrite =>
        have hrest : Footprint [config.options.outputPath] (s.traceFiles config)
            (stateAfter (writeToPath config.permits config.fmt config.text record
              config.options.outputPath config.options.format config.options.schemaMode
              (s.traceFiles config))) :=
          within_writeToPath record _ _ _ _
        rw [hwrite] at hrest
        exact ⟨footprint_of_trace htrace hrest (singleton_subset List.mem_cons_self),
          .inr ⟨hended ⟨trivial, trivial⟩, hs.finished hinv.components, by simp [hs.record]⟩⟩
    | written record hs hwrite =>
        have hrest := hwritten record
        rw [hwrite] at hrest
        exact ⟨footprint_of_trace htrace hrest (List.Subset.refl _),
          .inr ⟨hended ⟨trivial, trivial⟩, hs.finished hinv.components, by simp [hs.record]⟩⟩
    | failed record error hs hwrite _ _ hended' =>
        have hrest := hwritten record
        rw [hwrite] at hrest
        exact ⟨footprint_of_trace htrace hrest (List.Subset.refl _),
          .inr ⟨hended', hs.finished hinv.components, by simp [hs.record]⟩⟩
  · intro hphase
    have hmain := hinv.phase hphase
    have hstarted := horder.before (hmain ▸ trivial)
    rw [hmain] at hstage
    have hfiles := (hstage.of_early (.inl trivial)).files
    have hopened : s.opened = none := by
      cases hopened : s.opened with
      | none => rfl
      | some traced =>
          exact absurd ((hinv.components.started traced hopened).symm.trans hstarted) (by simp)
    refine ⟨?_, horder.spawning hmain, hstarted⟩
    rw [hfiles, ProgramState.traceFiles, hopened]

end Invariant

/-! ## A run with a trace and one sample -/

/-- A run with a trace in a directory that is there, and no Markdown table. -/
def tracedConfig : ProgramConfig Unit where
  childPid := 7
  interval := 1
  options :=
    { outputPath := ["bench.tsv", "results"], format := .tsv, tracePath := some ["trace.tsv"],
      markdownPath := none, schemaMode := .full }
  forceSummary := false
  terminal := false
  permits _ := true
  files := emptyFiles
  fmt := exactFormat.comap fun x => x
  text := { compact _ := .error (), pretty _ := .error () }

/-- The sampler turns once, then the child exits and everything is closed. -/
def tracedRun : List ProgramAction :=
  [.main true, .readContext { loadavg1m := some 1, pageCacheMb := none }] ++
    List.replicate 7 (.main true) ++
    [.sampler, .sampler, .sampler, .advance 1, .sampler, .sampler, .sample [{ pid := 7 }],
      .sampler, .sampler, .sampler, .childExit ⟨0⟩, .main true, .main true, .sampler,
      .main true, .main true, .readContext { loadavg1m := none, pageCacheMb := none },
      .main true, .main true, .leave, .main true, .main true]

/-- The run above returns, with one list sampled and a record. -/
theorem exists_reachable_tracedRun :
    ∃ s, (program tracedConfig).Reachable s ∧
      s.run.main = .returned true ∧ s.opened = some true ∧ s.threads.sampled.length = 1 ∧
        s.record.isSome = true := by
  apply Machine.exists_reachesUnder_of_replay tracedRun
  decide +kernel

/-- The lists of this run, its record and its files. -/
theorem program_refines_writers_traced :
    ∃ (s : ProgramState Unit) (ticks : List (Tick × Seconds)) (record : BenchmarkRecord ℚ≥0),
      (program tracedConfig).Reachable s ∧ s.run.main = .returned true ∧
        tickLists ticks = s.threads.sampled ∧ ticks.length = 1 ∧ s.record = some record ∧
        tracedConfig.sequentialRun ticks record = .ok () s.files := by
  rcases exists_reachable_tracedRun with ⟨s, hs, hreturned, _, hsampled, hsome⟩
  rcases Option.isSome_iff_exists.mp hsome with ⟨record, hrecord⟩
  rcases program_refines_writers hs hreturned hrecord with ⟨ticks, _, hticks, _, _, _, hend⟩
  refine ⟨s, ticks, record, hs, hreturned, hticks, ?_, hrecord, ?_⟩
  · rw [← hsampled, ← hticks, tickLists, List.length_map]
  · rcases hend with ⟨_, hrun, _⟩ | ⟨hfailed, _⟩
    · exact hrun
    · exact absurd hfailed (by simp)

/-- Its two files. -/
theorem program_documents_traced :
    ∃ (s : ProgramState Unit) (ticks : List (Tick × Seconds)) (aggregate : String),
      (program tracedConfig).Reachable s ∧ s.run.main = .returned true ∧
        tickLists ticks = s.threads.sampled ∧
        s.files.node ["bench.tsv", "results"] = some (.file aggregate) ∧
        s.files.node ["trace.tsv"] =
          some (.file (traceDocument tracedConfig.fmt (traceRun ticks).rows)) := by
  rcases exists_reachable_tracedRun with ⟨s, hs, hreturned, hopened, _⟩
  rcases program_documents hs hreturned with
    ⟨ticks, _, _, aggregate, hticks, _, _, _, hfile, _, htrace⟩
  exact ⟨s, ticks, aggregate, hs, hreturned, hticks, hfile, htrace ["trace.tsv"] rfl hopened⟩

/-- A path next to them is left alone. -/
theorem program_footprint_traced :
    ∃ s, (program tracedConfig).Reachable s ∧ s.run.main = .returned true ∧
      s.files.node ["other.tsv"] = none := by
  rcases exists_reachable_tracedRun with ⟨s, hs, hreturned, _⟩
  refine ⟨s, hs, hreturned, ?_⟩
  rw [(program_footprint hs).1.node_eq (by decide)]
  rfl

end Tricord

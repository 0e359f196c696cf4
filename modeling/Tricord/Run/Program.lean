import Tricord.Record.Summary
import Tricord.Run.ExitStatus
import Tricord.Run.Written
import Tricord.Run.Signals
import Tricord.Sampler.Threads

/-!
# The whole command

One run of the command as one machine.  The main thread checks the options, reads
the state of the host, creates the child, starts the forwarder and the sampler, waits,
stops the sampler, reads the state of the host again, closes the forwarder and writes
the files.  The sampler thread opens the trace and writes a row into the file after
every sample.  The machine consists of the machine of the signals, the machine of the
two threads and the files, and its steps make them go together.

Main results:

- Theorem {lit}`ProgramState.step_move`: what one step of the command can be.
- Theorem {lit}`ProgramMove.run_step`, {lit}`ProgramMove.threads_step`: every step of
  the command is a step, or none, of the signal machine and of the threads machine.
- Theorem {lit}`Components.of_reachable`: both machines take part in every run of the
  command as themselves.
-/

namespace Tricord

open FileTrees Outputs Transition

/-! ## The machine -/

/-- What a run is given: the options, and the host it runs on. -/
structure ProgramConfig (E : Type) where
  childPid : Pid
  interval : Seconds
  options : RunOptions
  forceSummary : Bool
  /-- The standard error stream is a terminal. -/
  terminal : Bool
  /-- The paths at which the file system lets files and directories be made. -/
  permits : Path → Bool
  /-- The files before the run. -/
  files : Files
  fmt : FloatFormat ℚ≥0
  text : JsonText ℚ≥0 E

/-- What the main thread is about to do. -/
inductive Phase
  | validating
  | readingContext
  /-- In the steps of the signal machine. -/
  | running
  /-- Returned because of its options. -/
  | rejected
deriving DecidableEq

/-- The state of a run of the command. -/
structure ProgramState (E : Type) where
  phase : Phase := .validating
  /-- The state of the host before the run. -/
  start : SystemContext ℚ≥0 := { loadavg1m := none, pageCacheMb := none }
  run : RunState := {}
  threads : ThreadsState := {}
  /-- Whether the trace is open, once the sampler thread has tried. -/
  opened : Option Bool := none
  files : Files
  record : Option (BenchmarkRecord ℚ≥0) := none
  status : Option ExitStatus := none
  error : Option (OutputError E) := none
  summary : Option String := none

/-- The moves of the machine. -/
inductive ProgramAction
  | main (ok : Bool)
  | readContext (context : SystemContext ℚ≥0)
  | childExit (status : ExitStatus)
  | arrive (sig : Signal) (fatal : Bool)
  | take (sig : Signal)
  | forward
  | leave
  | advance (d : Seconds)
  | sampler
  | sample (snapshots : Tick)

section Machine

variable {E : Type} (config : ProgramConfig E)

/-- The options that the signal machine depends on. -/
def ProgramConfig.run : RunConfig where
  childPid := config.childPid
  markdown := config.options.markdownPath.isSome

/-- The options that the sampler depends on, with a trace that is open or not. -/
def ProgramConfig.sampler (traced : Bool) : SamplerConfig where
  interval := config.interval
  traced := traced

/-- The line printed after the files have been written. -/
def ProgramConfig.summary (record : BenchmarkRecord ℚ≥0) : Option String :=
  if config.forceSummary || config.terminal then
    some ("tricorder: " ++ record.summaryLine config.fmt)
  else none

namespace ProgramState

/-- The steps of the main thread that only concern the signal machine. -/
def runStep (s : ProgramState E) (a : RunAction) : Option (ProgramState E) :=
  (s.run.step config.run a).map fun run => { s with run := run }

/-- Write a file and go on, or return with the error.  The summary comes after the
last file. -/
def writeStep (s : ProgramState E) (record : BenchmarkRecord ℚ≥0)
    (write : EStateM (OutputError E) Files Unit) : Option (ProgramState E) :=
  match write s.files with
  | .ok () files =>
      (s.run.step config.run (.main true)).map fun run =>
        { s with
          run := run
          files := files
          summary := if run.main = .returned true then config.summary record else none }
  | .error error files =>
      (s.run.step config.run (.main false)).map fun run =>
        { s with run := run, files := files, error := some error }

/-- One step of the main thread while it runs the command. -/
def mainStep (s : ProgramState E) (ok : Bool) : Option (ProgramState E) :=
  match s.run.main with
  | .waiting =>
      if ok then
        (s.run.step config.run (.main true)).bind fun run =>
          (s.threads.step (config.sampler false) .main).map fun threads =>
            { s with run := run, threads := threads }
      else s.runStep config (.main false)
  | .stopping =>
      match s.record with
      | some _ => s.runStep config (.main ok)
      | none =>
          (s.threads.step (config.sampler false) .main).map fun threads =>
            { s with threads := threads }
  | .writingOutput =>
      s.record.bind fun record =>
        s.writeStep config record (writeToPath config.permits config.fmt config.text record
          config.options.outputPath config.options.format config.options.schemaMode)
  | .writingMarkdown =>
      s.record.bind fun record =>
        config.options.markdownPath.bind fun path =>
          s.writeStep config record (writeMarkdownToPath config.permits config.fmt record path
            config.options.schemaMode)
  | _ => s.runStep config (.main ok)

/-- The main thread reads the state of the host. -/
def readContext (s : ProgramState E) (context : SystemContext ℚ≥0) :
    Option (ProgramState E) :=
  match s.phase with
  | .readingContext => some { s with phase := .running, start := context }
  | .running =>
      if s.run.main = .stopping ∧ s.threads.main = .returned ∧ s.record = none then
        some { s with record := some (s.threads.record.withContext s.start context) }
      else none
  | _ => none

/-- One step of the sampler thread, other than sampling. -/
def samplerStep (s : ProgramState E) : Option (ProgramState E) :=
  match s.opened with
  | none =>
      match config.options.tracePath with
      | none => some { s with opened := some false }
      | some path =>
          match openTraceWriter config.permits path s.files with
          | .ok opened files => some { s with opened := some opened, files := files }
          | .error _ files => some { s with opened := some false, files := files }
  | some traced =>
      (s.threads.step (config.sampler traced) .sampler).map fun threads =>
        match s.threads.sampler, config.options.tracePath with
        | .writing row, some path =>
            { s with
              threads := threads
              files := stateAfter (writeAll (row.toTsvRow config.fmt ++ "\n") path s.files) }
        | _, _ => { s with threads := threads }

/-- One step of the running program, of a signal or of the child. -/
def aliveStep (s : ProgramState E) : ProgramAction → Option (ProgramState E)
  | .main ok =>
      match s.phase with
      | .validating =>
          match validateOutputPaths config.options with
          | .ok () => some { s with phase := .readingContext }
          | .error error => some { s with phase := .rejected, error := some error }
      | .running => s.mainStep config ok
      | _ => none
  | .readContext context => s.readContext context
  | .childExit status =>
      (s.run.step config.run .childExit).bind fun run =>
        (s.threads.step (config.sampler false) .childExit).map fun threads =>
          { s with run := run, threads := threads, status := some status }
  | .arrive sig fatal => s.runStep config (.arrive sig fatal)
  | .take sig => s.runStep config (.take sig)
  | .forward => s.runStep config .forward
  | .leave => s.runStep config .leave
  | .advance d =>
      if s.run.samplerStarted then
        (s.threads.step (config.sampler false) (.advance d)).map fun threads =>
          { s with threads := threads }
      else none
  | .sampler => if s.run.samplerStarted then s.samplerStep config else none
  | .sample snapshots =>
      if s.run.samplerStarted then
        (s.threads.step (config.sampler false) (.sample snapshots)).map fun threads =>
          { s with threads := threads }
      else none

/-- One step of the machine.  After the program has been terminated only the child
goes on. -/
def step (s : ProgramState E) (a : ProgramAction) : Option (ProgramState E) :=
  match a with
  | .childExit _ => s.aliveStep config a
  | _ => if s.run.terminatedBy.isSome then none else s.aliveStep config a

end ProgramState

/-- A run of the command. -/
def program : Machine (ProgramState E) ProgramAction where
  init := { files := config.files }
  step := ProgramState.step config

/-! ## What one step can do -/

/-- The steps of the main thread that only concern the signal machine. -/
structure ProgramState.Alone (s : ProgramState E) (ok : Bool) : Prop where
  phase : s.phase = .running
  reap : s.run.main = .waiting → ok = false
  stop : s.run.main = .stopping → s.record ≠ none
  output : s.run.main ≠ .writingOutput
  markdown : s.run.main ≠ .writingMarkdown

/-- The two writers of the main thread, each at its control point. -/
inductive MainWriter (config : ProgramConfig E) (record : BenchmarkRecord ℚ≥0) :
    RunPc → EStateM (OutputError E) Files Unit → Prop
  | output : MainWriter config record .writingOutput
      (writeToPath config.permits config.fmt config.text record config.options.outputPath
        config.options.format config.options.schemaMode)
  | markdown (path : Path) (hpath : config.options.markdownPath = some path) :
      MainWriter config record .writingMarkdown
        (writeMarkdownToPath config.permits config.fmt record path config.options.schemaMode)

/-- The moves of the signals and of the forwarding thread. -/
def ProgramAction.signal : ProgramAction → Option RunAction
  | .arrive sig fatal => some (.arrive sig fatal)
  | .take sig => some (.take sig)
  | .forward => some .forward
  | .leave => some .leave
  | _ => none

/-- A step of the signal side is none of the main thread. -/
theorem ProgramAction.signal_ne_main {a : ProgramAction} {b : RunAction} (h : a.signal = some b)
    (ok : Bool) : b ≠ .main ok := by
  cases a <;> cases h <;> simp

/-- The ways one state can follow another, guards included. -/
inductive ProgramMove (config : ProgramConfig E) (s : ProgramState E) :
    ProgramAction → ProgramState E → Prop
  | reject (ok : Bool) (error : OutputError E) (hphase : s.phase = .validating)
      (hoptions : validateOutputPaths config.options = .error error) :
      ProgramMove config s (.main ok) { s with phase := .rejected, error := some error }
  | accept (ok : Bool) (hphase : s.phase = .validating)
      (hoptions : validateOutputPaths (E := E) config.options = .ok ()) :
      ProgramMove config s (.main ok) { s with phase := .readingContext }
  | readStart (context : SystemContext ℚ≥0) (hphase : s.phase = .readingContext) :
      ProgramMove config s (.readContext context) { s with phase := .running, start := context }
  | main (ok : Bool) (run : RunState) (halone : s.Alone ok)
      (hrun : s.run.step config.run (.main ok) = some run) :
      ProgramMove config s (.main ok) { s with run := run }
  | reap (run : RunState) (threads : ThreadsState) (hmain : s.run.main = .waiting)
      (hrun : s.run.step config.run (.main true) = some run)
      (hthreads : s.threads.step (config.sampler false) .main = some threads) :
      ProgramMove config s (.main true) { s with run := run, threads := threads }
  | stopSampler (ok : Bool) (threads : ThreadsState) (hmain : s.run.main = .stopping)
      (hrecord : s.record = none)
      (hthreads : s.threads.step (config.sampler false) .main = some threads) :
      ProgramMove config s (.main ok) { s with threads := threads }
  | readEnd (context : SystemContext ℚ≥0) (hmain : s.run.main = .stopping)
      (hthreads : s.threads.main = .returned) (hrecord : s.record = none) :
      ProgramMove config s (.readContext context)
        { s with record := some (s.threads.record.withContext s.start context) }
  | write (ok : Bool) (record : BenchmarkRecord ℚ≥0) (files : Files) (run : RunState)
      (writer : EStateM (OutputError E) Files Unit) (hrecord : s.record = some record)
      (hwriter : MainWriter config record s.run.main writer)
      (hwrite : writer s.files = .ok () files)
      (hrun : s.run.step config.run (.main true) = some run) :
      ProgramMove config s (.main ok)
        { s with
          run := run
          files := files
          summary := if run.main = .returned true then config.summary record else none }
  | writeFails (ok : Bool) (record : BenchmarkRecord ℚ≥0) (error : OutputError E) (files : Files)
      (run : RunState) (writer : EStateM (OutputError E) Files Unit)
      (hrecord : s.record = some record) (hwriter : MainWriter config record s.run.main writer)
      (hwrite : writer s.files = .error error files)
      (hrun : s.run.step config.run (.main false) = some run) :
      ProgramMove config s (.main ok) { s with run := run, files := files, error := some error }
  | childExit (status : ExitStatus) (run : RunState) (threads : ThreadsState)
      (hrun : s.run.step config.run .childExit = some run)
      (hthreads : s.threads.step (config.sampler false) .childExit = some threads) :
      ProgramMove config s (.childExit status)
        { s with run := run, threads := threads, status := some status }
  | signal (a : ProgramAction) (b : RunAction) (run : RunState) (hsignal : a.signal = some b)
      (hrun : s.run.step config.run b = some run) : ProgramMove config s a { s with run := run }
  | advance (d : Seconds) (hstarted : s.run.samplerStarted = true) (threads : ThreadsState)
      (hthreads : s.threads.step (config.sampler false) (.advance d) = some threads) :
      ProgramMove config s (.advance d) { s with threads := threads }
  | noTrace (hstarted : s.run.samplerStarted = true) (hopened : s.opened = none)
      (hpath : config.options.tracePath = none) :
      ProgramMove config s .sampler { s with opened := some false }
  | openTrace (path : Path) (opened : Bool) (files : Files)
      (hstarted : s.run.samplerStarted = true) (hopened : s.opened = none)
      (hpath : config.options.tracePath = some path)
      (hopen : openTraceWriter config.permits path s.files = .ok opened files) :
      ProgramMove config s .sampler { s with opened := some opened, files := files }
  | sampler (traced : Bool) (threads : ThreadsState) (hstarted : s.run.samplerStarted = true)
      (hopened : s.opened = some traced)
      (hsilent : ∀ row, s.threads.sampler = .writing row → config.options.tracePath = none)
      (hthreads : s.threads.step (config.sampler traced) .sampler = some threads) :
      ProgramMove config s .sampler { s with threads := threads }
  | writeRow (traced : Bool) (row : TickRecord ℚ≥0) (path : Path) (threads : ThreadsState)
      (hstarted : s.run.samplerStarted = true) (hopened : s.opened = some traced)
      (hsampler : s.threads.sampler = .writing row) (hpath : config.options.tracePath = some path)
      (hthreads : s.threads.step (config.sampler traced) .sampler = some threads) :
      ProgramMove config s .sampler
        { s with
          threads := threads
          files := stateAfter (writeAll (row.toTsvRow config.fmt ++ "\n") path s.files) }
  | sample (snapshots : Tick) (hstarted : s.run.samplerStarted = true) (threads : ThreadsState)
      (hthreads : s.threads.step (config.sampler false) (.sample snapshots) = some threads) :
      ProgramMove config s (.sample snapshots) { s with threads := threads }

/-- A step of the signal machine changes only its own part. -/
theorem ProgramState.runStep_eq_some {s t : ProgramState E} {a : RunAction}
    (h : s.runStep config a = some t) :
    ∃ run, s.run.step config.run a = some run ∧ t = { s with run := run } := by
  rcases Option.map_eq_some_iff.mp h with ⟨run, hrun, rfl⟩
  exact ⟨run, hrun, rfl⟩

variable {config}

/-- What the writers of the main thread do. -/
theorem ProgramState.writeStep_move {s t : ProgramState E} {record : BenchmarkRecord ℚ≥0}
    {writer : EStateM (OutputError E) Files Unit} (ok : Bool) (hrecord : s.record = some record)
    (hwriter : MainWriter config record s.run.main writer)
    (h : s.writeStep config record writer = some t) : ProgramMove config s (.main ok) t := by
  unfold writeStep at h
  split at h
  next files hwrite =>
    rcases Option.map_eq_some_iff.mp h with ⟨run, hrun, rfl⟩
    exact .write ok record files run writer hrecord hwriter hwrite hrun
  next error files hwrite =>
    rcases Option.map_eq_some_iff.mp h with ⟨run, hrun, rfl⟩
    exact .writeFails ok record error files run writer hrecord hwriter hwrite hrun

/-- What the steps of the main thread do. -/
theorem ProgramState.mainStep_move {s t : ProgramState E} {ok : Bool}
    (hphase : s.phase = .running) (h : s.mainStep config ok = some t) :
    ProgramMove config s (.main ok) t := by
  unfold mainStep at h
  split at h
  next hmain =>
    cases ok with
    | true =>
        rw [if_pos rfl] at h
        rcases Option.bind_eq_some_iff.mp h with ⟨run, hrun, hrest⟩
        rcases Option.map_eq_some_iff.mp hrest with ⟨threads, hthreads, rfl⟩
        exact .reap run threads hmain hrun hthreads
    | false =>
        rw [if_neg (by simp)] at h
        rcases runStep_eq_some config h with ⟨run, hrun, rfl⟩
        exact .main false run ⟨hphase, fun _ => rfl, by simp [hmain], by simp [hmain],
          by simp [hmain]⟩ hrun
  next hmain =>
    split at h
    next record hrecord =>
      rcases runStep_eq_some config h with ⟨run, hrun, rfl⟩
      exact .main ok run ⟨hphase, by simp [hmain], by simp [hrecord], by simp [hmain],
        by simp [hmain]⟩ hrun
    next hrecord =>
      rcases Option.map_eq_some_iff.mp h with ⟨threads, hthreads, rfl⟩
      exact .stopSampler ok threads hmain hrecord hthreads
  next hmain =>
    rcases Option.bind_eq_some_iff.mp h with ⟨record, hrecord, hwrite⟩
    exact writeStep_move ok hrecord (hmain ▸ .output) hwrite
  next hmain =>
    rcases Option.bind_eq_some_iff.mp h with ⟨record, hrecord, hrest⟩
    rcases Option.bind_eq_some_iff.mp hrest with ⟨path, hpath, hwrite⟩
    exact writeStep_move ok hrecord (hmain ▸ .markdown path hpath) hwrite
  next hwaiting hstopping houtput hmarkdown =>
    rcases runStep_eq_some config h with ⟨run, hrun, rfl⟩
    exact .main ok run ⟨hphase, fun hmain => absurd hmain hwaiting,
      fun hmain => absurd hmain hstopping, houtput, hmarkdown⟩ hrun

/-- What the steps of the sampler thread do. -/
theorem ProgramState.samplerStep_move {s t : ProgramState E}
    (hstarted : s.run.samplerStarted = true) (h : s.samplerStep config = some t) :
    ProgramMove config s .sampler t := by
  unfold samplerStep at h
  split at h
  next hopened =>
    split at h
    next hpath =>
      rw [← Option.some_inj.mp h]
      exact .noTrace hstarted hopened hpath
    next path hpath =>
      rcases exists_openTraceWriter config.permits path s.files with ⟨opened, files, hopen⟩
      rw [hopen] at h
      rw [← Option.some_inj.mp h]
      exact .openTrace path opened files hstarted hopened hpath hopen
  next traced hopened =>
    rcases Option.map_eq_some_iff.mp h with ⟨threads, hthreads, heq⟩
    split at heq
    next row path hsampler hpath =>
      rw [← heq]
      exact .writeRow traced row path threads hstarted hopened hsampler hpath hthreads
    next hsilent =>
      rw [← heq]
      refine .sampler traced threads hstarted hopened ?_ hthreads
      intro row hsampler
      cases hpath : config.options.tracePath with
      | none => rfl
      | some path => exact (hsilent row path hsampler hpath).elim

/-- Every step of the machine is one of the moves. -/
theorem ProgramState.step_move {s t : ProgramState E} {a : ProgramAction}
    (h : s.step config a = some t) : ProgramMove config s a t := by
  have halive : s.aliveStep config a = some t := by
    cases a with
    | childExit status => exact h
    | _ => exact (Option.ite_none_left_eq_some.mp h).2
  cases a with
  | main ok =>
      simp only [aliveStep] at halive
      split at halive
      next hphase =>
        split at halive
        next hoptions =>
          rw [← Option.some_inj.mp halive]
          exact .accept ok hphase hoptions
        next error hoptions =>
          rw [← Option.some_inj.mp halive]
          exact .reject ok error hphase hoptions
      next hphase => exact mainStep_move hphase halive
      next => exact absurd halive (by simp)
  | readContext context =>
      simp only [aliveStep, readContext] at halive
      split at halive
      next hphase =>
        rw [← Option.some_inj.mp halive]
        exact .readStart context hphase
      next =>
        rcases Option.ite_none_right_eq_some.mp halive with ⟨⟨hmain, hthreads, hrecord⟩, hnext⟩
        rw [← Option.some_inj.mp hnext]
        exact .readEnd context hmain hthreads hrecord
      next => exact absurd halive (by simp)
  | childExit status =>
      rcases Option.bind_eq_some_iff.mp halive with ⟨run, hrun, hrest⟩
      rcases Option.map_eq_some_iff.mp hrest with ⟨threads, hthreads, rfl⟩
      exact .childExit status run threads hrun hthreads
  | arrive sig fatal =>
      rcases runStep_eq_some config halive with ⟨run, hrun, rfl⟩
      exact .signal _ _ run rfl hrun
  | take sig =>
      rcases runStep_eq_some config halive with ⟨run, hrun, rfl⟩
      exact .signal _ _ run rfl hrun
  | forward =>
      rcases runStep_eq_some config halive with ⟨run, hrun, rfl⟩
      exact .signal _ _ run rfl hrun
  | leave =>
      rcases runStep_eq_some config halive with ⟨run, hrun, rfl⟩
      exact .signal _ _ run rfl hrun
  | advance d =>
      rcases Option.ite_none_right_eq_some.mp halive with ⟨hstarted, hnext⟩
      rcases Option.map_eq_some_iff.mp hnext with ⟨threads, hthreads, rfl⟩
      exact .advance d hstarted threads hthreads
  | sampler =>
      rcases Option.ite_none_right_eq_some.mp halive with ⟨hstarted, hnext⟩
      exact samplerStep_move hstarted hnext
  | sample snapshots =>
      rcases Option.ite_none_right_eq_some.mp halive with ⟨hstarted, hnext⟩
      rcases Option.map_eq_some_iff.mp hnext with ⟨threads, hthreads, rfl⟩
      exact .sample snapshots hstarted threads hthreads

/-! ## The parts of the machine -/

/-- Every step of the command is a step of the signal machine, or leaves it alone. -/
theorem ProgramMove.run_step {s t : ProgramState E} {a : ProgramAction}
    (h : ProgramMove config s a t) :
    t.run = s.run ∨ ∃ b, (runCommand config.run).step s.run b = some t.run := by
  cases h with
  | reject | accept | readStart | stopSampler | readEnd | advance | noTrace | openTrace | sampler
  | writeRow | sample => exact .inl rfl
  | main ok run halone hrun => exact .inr ⟨_, hrun⟩
  | reap run threads hmain hrun hthreads => exact .inr ⟨_, hrun⟩
  | write ok record files run writer hrecord hwriter hwrite hrun => exact .inr ⟨_, hrun⟩
  | writeFails ok record error files run writer hrecord hwriter hwrite hrun => exact .inr ⟨_, hrun⟩
  | childExit status run threads hrun hthreads => exact .inr ⟨_, hrun⟩
  | signal a b run hsignal hrun => exact .inr ⟨_, hrun⟩

/-- A trace that has been opened, or not, stays so. -/
theorem ProgramMove.opened_eq {s t : ProgramState E} {a : ProgramAction} {traced : Bool}
    (h : ProgramMove config s a t) (hopened : s.opened = some traced) : t.opened = some traced := by
  cases h with
  | noTrace _ hnone => exact absurd (hopened.symm.trans hnone) (by simp)
  | openTrace _ _ _ _ hnone => exact absurd (hopened.symm.trans hnone) (by simp)
  | _ => exact hopened

/-- Every step of the command is a step of the threads machine, or leaves it alone;
only the steps of the sampler thread depend on whether the trace is open. -/
theorem ProgramMove.threads_step {s t : ProgramState E} {a : ProgramAction} {traced : Bool}
    (h : ProgramMove config s a t) (htraced : t.opened = none ∨ t.opened = some traced) :
    t.threads = s.threads ∨
      ∃ b, (samplerThreads (config.sampler traced)).step s.threads b = some t.threads := by
  have hsampler : ∀ {opened : Bool}, t.opened = s.opened → s.opened = some opened →
      opened = traced := by
    intro opened heq hopened
    rw [heq, hopened] at htraced
    simpa using htraced
  cases h with
  | reject | accept | readStart | main | readEnd | write | writeFails | signal | noTrace
  | openTrace => exact .inl rfl
  | reap run threads hmain hrun hthreads => exact .inr ⟨.main, hthreads⟩
  | stopSampler ok threads hmain hrecord hthreads => exact .inr ⟨.main, hthreads⟩
  | childExit status run threads hrun hthreads => exact .inr ⟨.childExit, hthreads⟩
  | advance d hstarted threads hthreads => exact .inr ⟨.advance d, hthreads⟩
  | sample snapshots hstarted threads hthreads => exact .inr ⟨.sample snapshots, hthreads⟩
  | sampler opened threads hstarted hopened hsilent hthreads =>
      rw [hsampler rfl hopened] at hthreads
      exact .inr ⟨.sampler, hthreads⟩
  | writeRow opened row path threads hstarted hopened hpc hpath hthreads =>
      rw [hsampler rfl hopened] at hthreads
      exact .inr ⟨.sampler, hthreads⟩

/-- The main thread has started the sampler once, and never takes it back. -/
theorem RunMove.samplerStarted_mono {runConfig : RunConfig} {s t : RunState} {a : RunAction}
    (h : RunMove runConfig s a t) (hstarted : s.samplerStarted = true) :
    t.samplerStarted = true := by
  cases h with
  | startSampler hmain => rfl
  | _ => exact hstarted

/-- Both machines take part in the run as themselves, and the sampler thread opens the
trace before it does anything else. -/
structure Components (config : ProgramConfig E) (s : ProgramState E) : Prop where
  run : (runCommand config.run).Reachable s.run
  threads : ∀ traced, s.opened = none ∨ s.opened = some traced →
    (samplerThreads (config.sampler traced)).Reachable s.threads
  unopened : s.opened = none → s.threads.sampler = .testStop ∧ s.threads.rows = []
  started : ∀ traced, s.opened = some traced → s.run.samplerStarted = true

theorem Components.init (config : ProgramConfig E) :
    Components config { files := config.files } where
  run := Machine.Reachable.init
  threads _ _ := Machine.Reachable.init
  unopened _ := ⟨rfl, rfl⟩
  started := by simp

/-- Every step of the command keeps them. -/
theorem Components.move {s t : ProgramState E} {a : ProgramAction} (h : Components config s)
    (hmove : ProgramMove config s a t) : Components config t where
  run := by
    rcases hmove.run_step with heq | ⟨b, hstep⟩
    · rw [heq]
      exact h.run
    · exact h.run.step hstep
  threads := by
    intro traced htraced
    have hbefore : s.opened = none ∨ s.opened = some traced := by
      cases hopened : s.opened with
      | none => exact .inl rfl
      | some opened => exact hmove.opened_eq hopened ▸ htraced
    rcases hmove.threads_step htraced with heq | ⟨b, hstep⟩
    · rw [heq]
      exact h.threads traced hbefore
    · exact (h.threads traced hbefore).step hstep
  unopened := by
    intro hopened
    have hbefore : s.opened = none := by
      cases hs : s.opened with
      | none => rfl
      | some opened => exact absurd ((hmove.opened_eq hs).symm.trans hopened) (by simp)
    have hidle := h.unopened hbefore
    cases hmove with
    | sampler _ _ _ hsome => exact absurd (hbefore.symm.trans hsome) (by simp)
    | writeRow _ _ _ _ _ hsome => exact absurd (hbefore.symm.trans hsome) (by simp)
    | noTrace => exact hidle
    | openTrace => exact hidle
    | reap run threads hmain hrun hthreads =>
        cases ThreadsState.step_move hthreads <;> exact hidle
    | stopSampler ok threads hmain hrecord hthreads =>
        cases ThreadsState.step_move hthreads <;> exact hidle
    | childExit status run threads hrun hthreads =>
        cases ThreadsState.step_move hthreads
        exact hidle
    | advance d hstarted threads hthreads =>
        cases ThreadsState.step_move hthreads
        exact hidle
    | sample snapshots hstarted threads hthreads =>
        cases ThreadsState.step_move hthreads with
        | sample _ hsampling => exact absurd (hidle.1.symm.trans hsampling) (by simp)
    | _ => exact hidle
  started := by
    intro traced hopened
    have hkeeps : s.run.samplerStarted = true → t.run.samplerStarted = true := by
      intro hstarted
      rcases hmove.run_step with heq | ⟨b, hstep⟩
      · rw [heq]
        exact hstarted
      · exact (RunState.step_move hstep).1.samplerStarted_mono hstarted
    apply hkeeps
    cases hmove with
    | noTrace hstarted => exact hstarted
    | openTrace _ _ _ hstarted => exact hstarted
    | _ => exact h.started traced hopened

theorem Components.of_reachable {s : ProgramState E} (h : (program config).Reachable s) :
    Components config s :=
  h.invariant (Components.init config) fun _ _ _ hs hstep =>
    hs.move (ProgramState.step_move hstep)

end Machine

end Tricord

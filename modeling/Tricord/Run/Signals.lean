import Tricord.Library.Transition
import Mathlib.Data.List.Basic

/-!
# Signals during a run

The command as one machine: the steps of the main thread, each answered with
success or failure, the forwarding thread, the child, and signals that arrive
between any two steps.  A signal without a handler terminates the program.  What
a signal does after its handler has been removed again is left open.

Main results:

- Theorem {lit}`SignalInvariant.move`: what every step preserves when no signal
  arrives in the unprotected window.
- Theorem {lit}`no_signal_lost`: then no signal terminates the program while the
  child is running.
- Theorem {lit}`lost_of_arrive_in_window`: every signal that does arrive in the
  window is lost.
- Theorem {lit}`accepted_forwarded`: a signal that finds its handler is on its way
  to the process group of the child until the forwarder is closed.
-/

namespace Tricord

open Transition

/-! ## The machine -/

/-- The termination signals that can arrive. -/
inductive Signal
  | sigint
  | sigterm
  | sighup
deriving DecidableEq

/-- Signals that are re-delivered to the process group of the child, in the order
in which their handlers are registered. -/
def forwarded : List Signal := [.sigint, .sigterm, .sighup]

/-- Every signal is forwarded. -/
theorem mem_forwarded (sig : Signal) : sig ∈ forwarded := by
  cases sig <;> decide

/-- No signal is registered twice. -/
theorem forwarded_nodup : forwarded.Nodup := by decide

/-- What the arrival of a signal does. -/
inductive Disposition
  /-- Terminate the program. -/
  | default
  | registered
  /-- Registered and removed again. -/
  | removed
deriving DecidableEq

/-- Where the main thread is in running a command. -/
inductive RunPc
  /-- About to spawn the child. -/
  | spawning
  /-- About to register the handlers of these signals. -/
  | registering (rest : List Signal)
  | startingForwarder
  | startingSampler
  | waiting
  | stopping
  /-- About to close the forwarder, with a success or an error to return. -/
  | dropping (ok : Bool)
  /-- Blocked in joining the forwarding thread. -/
  | joining (ok : Bool)
  | writingOutput
  | writingMarkdown
  | returned (ok : Bool)
deriving DecidableEq

/-- Where the forwarding thread is. -/
inductive ForwarderPc
  | notStarted
  | idle
  | forwarding (sig : Signal)
  | finished
deriving DecidableEq

/-- What one run is configured with. -/
structure RunConfig where
  childPid : Int
  markdown : Bool

/-- The state of a run. -/
structure RunState where
  main : RunPc := .spawning
  forwarder : ForwarderPc := .notStarted
  disposition : Signal → Disposition := fun _ => .default
  /-- Signals that arrived at their handler and were not taken yet. -/
  pending : List Signal := []
  /-- The handle of the forwarder has been closed. -/
  closed : Bool := false
  childRunning : Bool := false
  childReaped : Bool := false
  samplerStarted : Bool := false
  samplerTold : Bool := false
  /-- The calls of {lit}`kill`, with their targets. -/
  sent : List (Int × Signal) := []
  /-- The signal that terminated the program. -/
  terminatedBy : Option Signal := none
  /-- History: the signals that arrived at their handler. -/
  accepted : List Signal := []

/-- The moves of the machine.  A step of the main thread carries the answer of
the call it makes, an arrival what a removed handler leaves behind. -/
inductive RunAction
  | main (ok : Bool)
  | childExit
  | arrive (sig : Signal) (fatal : Bool)
  | take (sig : Signal)
  | forward
  | leave
deriving DecidableEq

/-- Remove the registered handlers. -/
def unregister (disposition : Signal → Disposition) (sig : Signal) : Disposition :=
  if disposition sig = .registered then .removed else disposition sig

namespace RunState

/-- One step of the main thread. -/
def mainStep (config : RunConfig) (s : RunState) (ok : Bool) : Option RunState :=
  match s.main with
  | .spawning =>
      if ok then some { s with main := .registering forwarded, childRunning := true }
      else some { s with main := .returned false }
  | .registering (sig :: rest) =>
      if ok then
        some { s with
          main := .registering rest
          disposition := Function.update s.disposition sig .registered }
      else
        some { s with
          main := .returned false
          disposition := unregister s.disposition }
  | .registering [] => some { s with main := .startingForwarder }
  | .startingForwarder =>
      if ok then some { s with main := .startingSampler, forwarder := .idle }
      else
        some { s with
          main := .returned false
          disposition := unregister s.disposition }
  | .startingSampler =>
      if ok then some { s with main := .waiting, samplerStarted := true }
      -- A panic unwinds through the forwarder.
      else some { s with main := .dropping false }
  | .waiting =>
      if ok then
        if s.childRunning then none
        else some { s with main := .stopping, childReaped := true }
      else some { s with main := .dropping false }
  | .stopping => some { s with main := .dropping true, samplerTold := true }
  | .dropping result => some { s with main := .joining result, closed := true }
  | .joining result =>
      match s.forwarder with
      | .finished =>
          some { s with
            main := if result then .writingOutput else .returned false
            disposition := unregister s.disposition }
      | _ => none
  | .writingOutput =>
      if ok then
        some { s with main := if config.markdown then .writingMarkdown else .returned true }
      else some { s with main := .returned false }
  | .writingMarkdown => some { s with main := .returned ok }
  | .returned _ => none

/-- A signal arrives at the program. -/
def arrive (s : RunState) (sig : Signal) (fatal : Bool) : RunState :=
  match s.disposition sig with
  | .default => { s with terminatedBy := some sig }
  | .registered =>
      { s with
        pending := s.pending.insert sig
        accepted := s.accepted ++ [sig] }
  | .removed => if fatal then { s with terminatedBy := some sig } else s

/-- The forwarding thread takes a pending signal. -/
def take (s : RunState) (sig : Signal) : Option RunState :=
  match s.forwarder with
  | .idle =>
      if sig ∈ s.pending then
        some { s with forwarder := .forwarding sig, pending := s.pending.erase sig }
      else none
  | _ => none

/-- Send the signal in hand to the process group of the child. -/
def forwardToGroup (config : RunConfig) (s : RunState) : Option RunState :=
  match s.forwarder with
  | .forwarding sig =>
      some { s with forwarder := .idle, sent := s.sent ++ [(-config.childPid, sig)] }
  | _ => none

/-- The forwarding thread ends after its handle has been closed. -/
def leave (s : RunState) : Option RunState :=
  match s.forwarder with
  | .idle => if s.closed then some { s with forwarder := .finished } else none
  | _ => none

/-- One step of the running program, of a signal or of the child. -/
def aliveStep (config : RunConfig) (s : RunState) : RunAction → Option RunState
  | .main ok => s.mainStep config ok
  | .childExit => if s.childRunning then some { s with childRunning := false } else none
  | .arrive sig fatal => some (s.arrive sig fatal)
  | .take sig => s.take sig
  | .forward => s.forwardToGroup config
  | .leave => s.leave

/-- One step of the machine.  After the program has been terminated only the child
goes on. -/
def step (config : RunConfig) (s : RunState) (a : RunAction) : Option RunState :=
  if s.terminatedBy.isSome ∧ a ≠ .childExit then none else s.aliveStep config a

end RunState

/-- A run of a command. -/
def runCommand (config : RunConfig) : Machine RunState RunAction where
  init := {}
  step := RunState.step config

/-! ## What one step can do -/

/-- The ways one state can follow another, guards included. -/
inductive RunMove (config : RunConfig) (s : RunState) : RunAction → RunState → Prop
  | spawn (hmain : s.main = .spawning) :
      RunMove config s (.main true)
        { s with main := .registering forwarded, childRunning := true }
  | spawnFails (hmain : s.main = .spawning) :
      RunMove config s (.main false) { s with main := .returned false }
  | register (sig : Signal) (rest : List Signal) (hmain : s.main = .registering (sig :: rest)) :
      RunMove config s (.main true)
        { s with
          main := .registering rest
          disposition := Function.update s.disposition sig .registered }
  | registerFails (sig : Signal) (rest : List Signal)
      (hmain : s.main = .registering (sig :: rest)) :
      RunMove config s (.main false)
        { s with main := .returned false, disposition := unregister s.disposition }
  | install (ok : Bool) (hmain : s.main = .registering []) :
      RunMove config s (.main ok) { s with main := .startingForwarder }
  | startForwarder (hmain : s.main = .startingForwarder) :
      RunMove config s (.main true) { s with main := .startingSampler, forwarder := .idle }
  | startForwarderFails (hmain : s.main = .startingForwarder) :
      RunMove config s (.main false)
        { s with main := .returned false, disposition := unregister s.disposition }
  | startSampler (hmain : s.main = .startingSampler) :
      RunMove config s (.main true) { s with main := .waiting, samplerStarted := true }
  | giveUp (hmain : s.main = .startingSampler ∨ s.main = .waiting) :
      RunMove config s (.main false) { s with main := .dropping false }
  | reap (hmain : s.main = .waiting) (hexited : s.childRunning = false) :
      RunMove config s (.main true) { s with main := .stopping, childReaped := true }
  | stop (ok : Bool) (hmain : s.main = .stopping) :
      RunMove config s (.main ok) { s with main := .dropping true, samplerTold := true }
  | close (ok result : Bool) (hmain : s.main = .dropping result) :
      RunMove config s (.main ok) { s with main := .joining result, closed := true }
  | join (ok result : Bool) (hmain : s.main = .joining result)
      (hfinished : s.forwarder = .finished) :
      RunMove config s (.main ok)
        { s with
          main := if result then .writingOutput else .returned false
          disposition := unregister s.disposition }
  | write (ok : Bool) (next : RunPc) (hmain : s.main = .writingOutput ∨ s.main = .writingMarkdown)
      (hnext : next = .writingMarkdown ∨ next = .returned true ∨ next = .returned false) :
      RunMove config s (.main ok) { s with main := next }
  | childExit (hrunning : s.childRunning = true) :
      RunMove config s .childExit { s with childRunning := false }
  | terminate (sig : Signal) (fatal : Bool) (hdisposition : s.disposition sig ≠ .registered) :
      RunMove config s (.arrive sig fatal) { s with terminatedBy := some sig }
  | swallow (sig : Signal) (hdisposition : s.disposition sig = .removed) :
      RunMove config s (.arrive sig false) s
  | accept (sig : Signal) (fatal : Bool) (hdisposition : s.disposition sig = .registered) :
      RunMove config s (.arrive sig fatal)
        { s with pending := s.pending.insert sig, accepted := s.accepted ++ [sig] }
  | take (sig : Signal) (hforwarder : s.forwarder = .idle) (hpending : sig ∈ s.pending) :
      RunMove config s (.take sig)
        { s with forwarder := .forwarding sig, pending := s.pending.erase sig }
  | forward (sig : Signal) (hforwarder : s.forwarder = .forwarding sig) :
      RunMove config s .forward
        { s with forwarder := .idle, sent := s.sent ++ [(-config.childPid, sig)] }
  | leave (hforwarder : s.forwarder = .idle) (hclosed : s.closed = true) :
      RunMove config s .leave { s with forwarder := .finished }

/-- What the steps of the main thread do. -/
theorem RunState.mainStep_move {config : RunConfig} {s t : RunState} {ok : Bool}
    (h : s.mainStep config ok = some t) : RunMove config s (.main ok) t := by
  unfold mainStep at h
  cases hmain : s.main with
  | spawning =>
      cases ok with
      | true =>
          simp only [hmain, if_true, Option.some_inj] at h
          exact h ▸ .spawn hmain
      | false =>
          simp only [hmain, Bool.false_eq_true, if_false, Option.some_inj] at h
          exact h ▸ .spawnFails hmain
  | registering rest =>
      cases rest with
      | nil =>
          simp only [hmain, Option.some_inj] at h
          exact h ▸ .install ok hmain
      | cons sig rest =>
          cases ok with
          | true =>
              simp only [hmain, if_true, Option.some_inj] at h
              exact h ▸ .register sig rest hmain
          | false =>
              simp only [hmain, Bool.false_eq_true, if_false, Option.some_inj] at h
              exact h ▸ .registerFails sig rest hmain
  | startingForwarder =>
      cases ok with
      | true =>
          simp only [hmain, if_true, Option.some_inj] at h
          exact h ▸ .startForwarder hmain
      | false =>
          simp only [hmain, Bool.false_eq_true, if_false, Option.some_inj] at h
          exact h ▸ .startForwarderFails hmain
  | startingSampler =>
      cases ok with
      | true =>
          simp only [hmain, if_true, Option.some_inj] at h
          exact h ▸ .startSampler hmain
      | false =>
          simp only [hmain, Bool.false_eq_true, if_false, Option.some_inj] at h
          exact h ▸ .giveUp (.inl hmain)
  | waiting =>
      cases ok with
      | true =>
          simp only [hmain, if_true] at h
          rcases Option.ite_none_left_eq_some.mp h with ⟨hexited, hnext⟩
          exact Option.some_inj.mp hnext ▸ .reap hmain (Bool.eq_false_iff.mpr hexited)
      | false =>
          simp only [hmain, Bool.false_eq_true, if_false, Option.some_inj] at h
          exact h ▸ .giveUp (.inr hmain)
  | stopping =>
      simp only [hmain, Option.some_inj] at h
      exact h ▸ .stop ok hmain
  | dropping result =>
      simp only [hmain, Option.some_inj] at h
      exact h ▸ .close ok result hmain
  | joining result =>
      simp only [hmain] at h
      split at h
      next hfinished =>
        rw [Option.some_inj] at h
        exact h ▸ .join ok result hmain hfinished
      next => exact absurd h (by simp)
  | writingOutput =>
      cases ok with
      | true =>
          simp only [hmain, if_true, Option.some_inj] at h
          refine h ▸ .write true _ (.inl hmain) ?_
          cases config.markdown <;> simp
      | false =>
          simp only [hmain, Bool.false_eq_true, if_false, Option.some_inj] at h
          exact h ▸ .write false _ (.inl hmain) (by simp)
  | writingMarkdown =>
      simp only [hmain, Option.some_inj] at h
      exact h ▸ .write ok _ (.inr hmain) (by cases ok <;> simp)
  | returned result =>
      simp only [hmain] at h
      exact absurd h (by simp)

/-- What an arriving signal does. -/
theorem RunState.arrive_move (config : RunConfig) (s : RunState) (sig : Signal)
    (fatal : Bool) : RunMove config s (.arrive sig fatal) (s.arrive sig fatal) := by
  unfold arrive
  cases hdisposition : s.disposition sig with
  | default => exact .terminate sig fatal (by simp [hdisposition])
  | registered => exact .accept sig fatal hdisposition
  | removed =>
      cases fatal with
      | true => exact .terminate sig true (by simp [hdisposition])
      | false => exact .swallow sig hdisposition

/-- What the steps of a program that is alive do. -/
theorem RunState.aliveStep_move {config : RunConfig} {s t : RunState} {a : RunAction}
    (h : s.aliveStep config a = some t) : RunMove config s a t := by
  cases a with
  | main ok => exact mainStep_move h
  | childExit =>
      rcases Option.ite_none_right_eq_some.mp h with ⟨hrunning, hnext⟩
      exact Option.some_inj.mp hnext ▸ .childExit hrunning
  | arrive sig fatal =>
      rw [← Option.some_inj.mp h]
      exact arrive_move config s sig fatal
  | take sig =>
      simp only [aliveStep, take] at h
      split at h
      next hidle =>
        rcases Option.ite_none_right_eq_some.mp h with ⟨hpending, hnext⟩
        exact Option.some_inj.mp hnext ▸ .take sig hidle hpending
      next => exact absurd h (by simp)
  | forward =>
      simp only [aliveStep, forwardToGroup] at h
      split at h
      next sig hforwarding =>
        rw [Option.some_inj] at h
        exact h ▸ .forward sig hforwarding
      next => exact absurd h (by simp)
  | leave =>
      simp only [aliveStep, leave] at h
      split at h
      next hidle =>
        rcases Option.ite_none_right_eq_some.mp h with ⟨hclosed, hnext⟩
        exact Option.some_inj.mp hnext ▸ .leave hidle hclosed
      next => exact absurd h (by simp)

/-- Every step of the machine is one of the moves, and only the child moves after
the program has been terminated. -/
theorem RunState.step_move {config : RunConfig} {s t : RunState} {a : RunAction}
    (h : s.step config a = some t) :
    RunMove config s a t ∧ (a = .childExit ∨ s.terminatedBy = none) := by
  rcases Option.ite_none_left_eq_some.mp h with ⟨hgoes, hstep⟩
  refine ⟨aliveStep_move hstep, ?_⟩
  by_cases ha : a = .childExit
  · exact .inl ha
  · exact .inr (Option.not_isSome_iff_eq_none.mp fun hsome => hgoes ⟨hsome, ha⟩)

/-! ## The unprotected window -/

/-- A signal that arrives here does not find its handler, although the child has
been spawned and not been waited for. -/
def RunPc.Unprotected : RunPc → Signal → Prop
  | .registering rest, sig => sig ∈ rest
  | .returned false, _ => True
  | _, _ => False

instance (pc : RunPc) (sig : Signal) : Decidable (pc.Unprotected sig) := by
  unfold RunPc.Unprotected
  split <;> infer_instance

/-- No signal arrives in the unprotected window while the child is running. -/
def OutsideWindow (s : RunState) : RunAction → Prop
  | .arrive sig _ => ¬(s.childRunning = true ∧ s.main.Unprotected sig)
  | _ => True

instance (s : RunState) (a : RunAction) : Decidable (OutsideWindow s a) := by
  unfold OutsideWindow
  split <;> infer_instance

/-- The handler of the signal is registered here. -/
def RunPc.Installed : RunPc → Signal → Prop
  | .registering rest, sig => sig ∉ rest
  | .startingForwarder, _ => True
  | .startingSampler, _ => True
  | .waiting, _ => True
  | .stopping, _ => True
  | .dropping _, _ => True
  | .joining _, _ => True
  | _, _ => False

/-- There is no running child here. -/
def RunPc.Childless : RunPc → Prop
  | .spawning => True
  | .stopping => True
  | .dropping true => True
  | .joining true => True
  | .writingOutput => True
  | .writingMarkdown => True
  | .returned true => True
  | _ => False

/-- Wherever the main thread is, a signal has its handler, or there is no child, or the
window is open. -/
theorem RunPc.installed_or (pc : RunPc) (sig : Signal) :
    pc.Installed sig ∨ pc.Childless ∨ pc.Unprotected sig := by
  cases pc with
  | registering rest =>
      by_cases hmem : sig ∈ rest
      · exact .inr (.inr hmem)
      · exact .inl hmem
  | returned ok => cases ok <;> simp [Childless, Unprotected]
  | spawning | writingOutput | writingMarkdown => exact .inr (.inl trivial)
  | startingForwarder | startingSampler | waiting | stopping | dropping | joining =>
      exact .inl trivial

/-! ## The invariant -/

/-- The control point against the handlers, the child and the end of the program. -/
structure SignalInvariant (s : RunState) : Prop where
  installed : ∀ sig, s.main.Installed sig → s.disposition sig = .registered
  childless : s.main.Childless → s.childRunning = false
  terminated : s.terminatedBy.isSome → s.childRunning = false

theorem SignalInvariant.init : SignalInvariant {} := by
  constructor <;> simp [RunPc.Installed]

/-- While the program is running only the control point matters. -/
theorem SignalInvariant.of_alive {s : RunState} (halive : s.terminatedBy = none)
    (hinstalled : ∀ sig, s.main.Installed sig → s.disposition sig = .registered)
    (hchildless : s.main.Childless → s.childRunning = false) : SignalInvariant s where
  installed := hinstalled
  childless := hchildless
  terminated := by simp [halive]

/-- Outside the window every step preserves the invariant. -/
theorem SignalInvariant.move {config : RunConfig} {s t : RunState} {a : RunAction}
    (h : SignalInvariant s) (hwindow : OutsideWindow s a) (hmove : RunMove config s a t)
    (hgoes : a = .childExit ∨ s.terminatedBy = none) : SignalInvariant t := by
  have hinstalled := h.installed
  have hchildless := h.childless
  have halive : a ≠ .childExit → s.terminatedBy = none := fun ha => hgoes.resolve_left ha
  cases hmove with
  | spawn hmain =>
      refine .of_alive (halive (by simp)) ?_ ?_
      · intro sig hnot
        exact absurd (mem_forwarded sig) hnot
      · exact fun hchild => hchild.elim
  | spawnFails hmain =>
      refine .of_alive (halive (by simp)) ?_ ?_
      · exact fun _ hnot => hnot.elim
      · exact fun hchild => hchild.elim
  | register sig rest hmain =>
      refine .of_alive (halive (by simp)) ?_ ?_
      · intro other hnot
        by_cases heq : other = sig
        · subst heq
          exact Function.update_self _ _ _
        · rw [hmain] at hinstalled
          have hold := hinstalled other fun hmem => (List.mem_cons.mp hmem).elim heq hnot
          exact (Function.update_of_ne heq _ _).trans hold
      · exact fun hchild => hchild.elim
  | registerFails sig rest hmain =>
      refine .of_alive (halive (by simp)) ?_ ?_
      · exact fun _ hnot => hnot.elim
      · exact fun hchild => hchild.elim
  | install ok hmain =>
      rw [hmain] at hinstalled
      refine .of_alive (halive (by simp)) ?_ ?_
      · exact fun sig _ => hinstalled sig List.not_mem_nil
      · exact fun hchild => hchild.elim
  | startForwarder hmain =>
      rw [hmain] at hinstalled
      refine .of_alive (halive (by simp)) hinstalled ?_
      exact fun hchild => hchild.elim
  | startForwarderFails hmain =>
      refine .of_alive (halive (by simp)) ?_ ?_
      · exact fun _ hnot => hnot.elim
      · exact fun hchild => hchild.elim
  | startSampler hmain =>
      rw [hmain] at hinstalled
      refine .of_alive (halive (by simp)) hinstalled ?_
      exact fun hchild => hchild.elim
  | giveUp hmain =>
      refine .of_alive (halive (by simp)) ?_ ?_
      · rcases hmain with hmain | hmain <;> (rw [hmain] at hinstalled; exact hinstalled)
      · exact fun hchild => hchild.elim
  | reap hmain hexited =>
      rw [hmain] at hinstalled
      exact SignalInvariant.of_alive (halive (by simp)) hinstalled fun _ => hexited
  | stop ok hmain =>
      rw [hmain] at hinstalled hchildless
      exact SignalInvariant.of_alive (halive (by simp)) hinstalled hchildless
  | close ok result hmain =>
      rw [hmain] at hinstalled hchildless
      refine .of_alive (halive (by simp)) hinstalled ?_
      cases result <;> exact hchildless
  | join ok result hmain hfinished =>
      rw [hmain] at hchildless
      refine .of_alive (halive (by simp)) ?_ ?_
      · cases result <;> exact fun _ hnot => hnot.elim
      · cases result
        · exact fun hchild => hchild.elim
        · exact hchildless
  | write ok next hmain hnext =>
      have hexited : s.childRunning = false := by
        rcases hmain with hmain | hmain <;> (rw [hmain] at hchildless; exact hchildless trivial)
      refine .of_alive (halive (by simp)) ?_ ?_
      · rcases hnext with rfl | rfl | rfl <;> exact fun _ hnot => hnot.elim
      · exact fun _ => hexited
  | childExit hrunning => exact { h with childless := fun _ => rfl, terminated := fun _ => rfl }
  | terminate sig fatal hdisposition =>
      have hexited : s.childRunning = false := by
        rcases s.main.installed_or sig with hmain | hmain | hmain
        · exact absurd (hinstalled sig hmain) hdisposition
        · exact hchildless hmain
        · exact Bool.eq_false_iff.mpr fun hrunning => hwindow ⟨hrunning, hmain⟩
      exact { h with terminated := fun _ => hexited }
  | swallow sig hdisposition => exact h
  | accept sig fatal hdisposition => exact { h with }
  | take sig hforwarder hpending => exact { h with }
  | forward sig hforwarder => exact { h with }
  | leave hforwarder hclosed => exact { h with }

/-- The program has been terminated by a signal, and the child is running and has
not been sent the signal. -/
def RunState.SignalLost (config : RunConfig) (s : RunState) : Prop :=
  ∃ sig, s.terminatedBy = some sig ∧ s.childRunning = true ∧ (-config.childPid, sig) ∉ s.sent

/-- No run in which signals stay out of the window loses one: no signal terminates the
program while the child is running, whatever was sent to the child before. -/
theorem no_signal_lost {config : RunConfig} {s : RunState}
    (h : (runCommand config).ReachesUnder OutsideWindow (runCommand config).init s) :
    ¬s.SignalLost config ∧ (s.childRunning = true → s.terminatedBy = none) := by
  have hinv : SignalInvariant s :=
    h.invariant SignalInvariant.init fun s a t hwindow hs hstep =>
      have hmove := RunState.step_move hstep
      hs.move hwindow hmove.1 hmove.2
  have halive : s.childRunning = true → s.terminatedBy = none := by
    intro hrunning
    cases hterminated : s.terminatedBy with
    | none => rfl
    | some sig =>
        have hexited := hinv.terminated (by simp [hterminated])
        exact absurd (hexited.symm.trans hrunning) (by simp)
  refine ⟨?_, halive⟩
  rintro ⟨sig, hterminated, hrunning, _⟩
  exact absurd ((halive hrunning).symm.trans hterminated) (by simp)

/-! ## On the way to the child -/

/-- The signals whose handlers are still to be registered. -/
def RunPc.awaiting : RunPc → List Signal
  | .spawning => forwarded
  | .registering rest => rest
  | _ => []

/-- The forwarding thread has not been started here. -/
def RunPc.Early : RunPc → Prop
  | .spawning => True
  | .registering _ => True
  | .startingForwarder => True
  | _ => False

/-- The handlers and the forwarding thread against the history of the run. -/
structure ForwarderInvariant (config : RunConfig) (s : RunState) : Prop where
  awaiting_nodup : s.main.awaiting.Nodup
  awaiting_default : ∀ sig ∈ s.main.awaiting, s.disposition sig = .default
  quiet : s.main.Early → s.forwarder = .notStarted ∧ s.sent = []
  on_way : s.closed = false → ∀ sig ∈ s.accepted,
    sig ∈ s.pending ∨ s.forwarder = .forwarding sig ∨ (-config.childPid, sig) ∈ s.sent
  target : ∀ kill ∈ s.sent, kill.1 = -config.childPid

theorem ForwarderInvariant.init (config : RunConfig) : ForwarderInvariant config {} := by
  constructor <;> simp [RunPc.awaiting, forwarded_nodup]

/-- Past the registration only the later steps of the forwarder matter. -/
theorem ForwarderInvariant.at_late {config : RunConfig} {s t : RunState}
    (h : ForwarderInvariant config s) (hawaiting : t.main.awaiting = [])
    (hlate : ¬t.main.Early) (hclosed : t.closed = false → s.closed = false)
    (hforwarder : t.forwarder = s.forwarder) (hpending : t.pending = s.pending)
    (haccepted : t.accepted = s.accepted) (hsent : t.sent = s.sent) :
    ForwarderInvariant config t where
  awaiting_nodup := by simp [hawaiting]
  awaiting_default := by simp [hawaiting]
  quiet := fun hearly => absurd hearly hlate
  on_way := by
    intro hopen
    rw [haccepted, hpending, hforwarder, hsent]
    exact h.on_way (hclosed hopen)
  target := hsent ▸ h.target

/-- Every step preserves the invariant, in the window or not. -/
theorem ForwarderInvariant.move {config : RunConfig} {s t : RunState} {a : RunAction}
    (h : ForwarderInvariant config s) (hmove : RunMove config s a t) :
    ForwarderInvariant config t := by
  have hnodup := h.awaiting_nodup
  have hdefault := h.awaiting_default
  have hquiet := h.quiet
  cases hmove with
  | spawn hmain =>
      rw [hmain] at hnodup hdefault hquiet
      exact { h with
        awaiting_nodup := hnodup
        awaiting_default := hdefault
        quiet := hquiet }
  | register sig rest hmain =>
      rw [hmain] at hnodup hdefault hquiet
      rcases List.nodup_cons.mp hnodup with ⟨hnot, hrest⟩
      exact { h with
        awaiting_nodup := hrest
        awaiting_default := by
          intro other hother
          have hne : other ≠ sig := fun heq => hnot (heq ▸ hother)
          exact (Function.update_of_ne hne _ _).trans
            (hdefault other (List.mem_cons_of_mem sig hother))
        quiet := hquiet }
  | install ok hmain =>
      rw [hmain] at hnodup hdefault hquiet
      exact { h with
        awaiting_nodup := hnodup
        awaiting_default := hdefault
        quiet := hquiet }
  | startForwarder hmain =>
      rw [hmain] at hquiet
      rcases hquiet trivial with ⟨hforwarder, _⟩
      exact { h with
        awaiting_nodup := by simp [RunPc.awaiting]
        awaiting_default := by simp [RunPc.awaiting]
        quiet := fun hearly => hearly.elim
        on_way := by
          intro hopen sig haccepted
          have hway := h.on_way hopen sig haccepted
          rw [hforwarder] at hway
          simpa using hway }
  | spawnFails | registerFails | startForwarderFails | startSampler | giveUp | reap | stop =>
      exact h.at_late rfl (fun hearly => hearly) (fun hopen => hopen) rfl rfl rfl rfl
  | close ok result hmain =>
      exact h.at_late rfl (fun hearly => hearly) (fun hopen => absurd hopen (by simp)) rfl rfl
        rfl rfl
  | join ok result hmain hfinished =>
      cases result <;>
        exact h.at_late rfl (fun hearly => hearly) (fun hopen => hopen) rfl rfl rfl rfl
  | write ok next hmain hnext =>
      rcases hnext with rfl | rfl | rfl <;>
        exact h.at_late rfl (fun hearly => hearly) (fun hopen => hopen) rfl rfl rfl rfl
  | childExit hrunning => exact { h with }
  | terminate sig fatal hdisposition => exact { h with }
  | swallow sig hdisposition => exact h
  | accept sig fatal hdisposition =>
      exact { h with
        on_way := by
          intro hopen other hother
          rcases List.mem_append.mp hother with hold | hnew
          · rcases h.on_way hopen other hold with hpending | hrest
            · exact .inl (List.mem_insert_of_mem hpending)
            · exact .inr hrest
          · rw [List.mem_singleton.mp hnew]
            exact .inl List.mem_insert_self }
  | take sig hforwarder hpending =>
      exact { h with
        quiet := fun hearly => absurd (hforwarder.symm.trans (hquiet hearly).1) (by simp)
        on_way := by
          intro hopen other hother
          rcases h.on_way hopen other hother with hold | hold | hold
          · by_cases heq : other = sig
            · exact .inr (.inl (heq ▸ rfl))
            · exact .inl ((List.mem_erase_of_ne heq).mpr hold)
          · exact absurd (hforwarder.symm.trans hold) (by simp)
          · exact .inr (.inr hold) }
  | forward sig hforwarder =>
      exact { h with
        quiet := fun hearly => absurd (hforwarder.symm.trans (hquiet hearly).1) (by simp)
        on_way := by
          intro hopen other hother
          rcases h.on_way hopen other hother with hold | hold | hold
          · exact .inl hold
          · have heq : sig = other := ForwarderPc.forwarding.inj (hforwarder.symm.trans hold)
            exact .inr (.inr (by simp [heq]))
          · exact .inr (.inr (List.mem_append_left _ hold))
        target := by
          intro kill hkill
          rcases List.mem_append.mp hkill with hold | hnew
          · exact h.target kill hold
          · rw [List.mem_singleton.mp hnew] }
  | leave hforwarder hclosed =>
      exact { h with
        quiet := fun hearly => absurd (hforwarder.symm.trans (hquiet hearly).1) (by simp)
        on_way := fun hopen => absurd (hclosed.symm.trans hopen) (by simp) }

theorem ForwarderInvariant.of_reachable {config : RunConfig} {s : RunState}
    (h : (runCommand config).Reachable s) : ForwarderInvariant config s :=
  h.invariant (ForwarderInvariant.init config) fun _ _ _ hs hstep =>
    hs.move (RunState.step_move hstep).1

/-- Until the forwarder is closed, a signal that found its handler is pending, in
the hands of the forwarding thread, or sent to the process group of the child,
and nothing else is ever sent a signal. -/
theorem accepted_forwarded {config : RunConfig} {s : RunState}
    (h : (runCommand config).Reachable s) :
    (s.closed = false → ∀ sig ∈ s.accepted,
      sig ∈ s.pending ∨ s.forwarder = .forwarding sig ∨ (-config.childPid, sig) ∈ s.sent) ∧
      ∀ kill ∈ s.sent, kill.1 = -config.childPid :=
  ⟨(ForwarderInvariant.of_reachable h).on_way, (ForwarderInvariant.of_reachable h).target⟩

/-- While handlers are being registered, the arrival of a signal whose handler is
still missing is lost. -/
theorem lost_of_arrive_in_window {config : RunConfig} {s : RunState} {rest : List Signal}
    {sig : Signal} (h : (runCommand config).Reachable s) (halive : s.terminatedBy = none)
    (hmain : s.main = .registering rest) (hmissing : sig ∈ rest)
    (hrunning : s.childRunning = true) (fatal : Bool) :
    ∃ t, (runCommand config).step s (.arrive sig fatal) = some t ∧ t.SignalLost config := by
  have hinv := ForwarderInvariant.of_reachable h
  have hdefault : s.disposition sig = .default :=
    hinv.awaiting_default sig (by rw [hmain]; exact hmissing)
  have hsent : s.sent = [] := (hinv.quiet (by rw [hmain]; trivial)).2
  refine ⟨{ s with terminatedBy := some sig }, ?_, sig, rfl, hrunning, ?_⟩
  · simp [runCommand, RunState.step, RunState.aliveStep, RunState.arrive, halive, hdefault]
  · simp [hsent]

/-! ## Two runs -/

/-- A signal arrives right after the child has been spawned. -/
def interruptAtSpawn : List RunAction :=
  [.main true, .arrive .sigint true]

/-- Not every run forwards a signal that arrives while the child is running. -/
theorem exists_signal_lost :
    ¬∀ (config : RunConfig) (s : RunState), (runCommand config).Reachable s →
      ¬s.SignalLost config := by
  intro hall
  have hrun : ∃ s, (runCommand { childPid := 7, markdown := false }).Reachable s ∧
      s.terminatedBy = some .sigint ∧ s.childRunning = true ∧ s.sent = [] := by
    apply Machine.exists_reachesUnder_of_replay interruptAtSpawn
    decide +kernel
  rcases hrun with ⟨s, hreaches, hterminated, hrunning, hsent⟩
  exact hall _ s hreaches ⟨.sigint, hterminated, hrunning, by simp [hsent]⟩

/-- A signal arrives while the child is waited for, and ends it. -/
def interruptWhileWaiting : List RunAction :=
  [.main true, .main true, .main true, .main true, .main true, .main true, .main true,
    .arrive .sigint true, .take .sigint, .forward, .childExit, .main true, .main true,
    .main true, .leave, .main true, .main true]

/-- In this run the signal is sent to the process group and the command returns. -/
theorem no_signal_lost_interruptWhileWaiting :
    ∃ s : RunState,
      (runCommand { childPid := 7, markdown := false }).ReachesUnder OutsideWindow
        (runCommand { childPid := 7, markdown := false }).init s ∧
      s.main = .returned true ∧ s.sent = [(-7, .sigint)] ∧
      ¬s.SignalLost { childPid := 7, markdown := false } := by
  have hrun : ∃ s, (runCommand { childPid := 7, markdown := false }).ReachesUnder OutsideWindow
      (runCommand { childPid := 7, markdown := false }).init s ∧
      s.main = .returned true ∧ s.sent = [(-7, .sigint)] := by
    apply Machine.exists_reachesUnder_of_replay interruptWhileWaiting
    decide +kernel
  rcases hrun with ⟨s, hreaches, hmain, hsent⟩
  exact ⟨s, hreaches, hmain, hsent, (no_signal_lost hreaches).1⟩

end Tricord

import Tricord.Run.Signals

/-!
# What a returning run leaves behind

Between the creation of the child and the return of the command several calls
can fail, and every failure returns at once.  This module relates the answers of
these calls to what has been cleaned up when the command returns: the child, the
sampler thread and the signal forwarder.

Main results:

- Theorem {lit}`Explained.move`: at every control point the answers given so far
  determine which resources are live.
- Theorem {lit}`cleanedUp_iff`: a run that returns has cleaned up exactly when
  registering the handlers, starting the forwarder and waiting for the child all
  succeeded.
-/

namespace Tricord

open Transition

/-! ## The answers of a run -/

/-- The answers of the fallible calls of one run. -/
structure Outcomes where
  spawn : Bool
  register : Signal → Bool
  startForwarder : Bool
  wait : Bool
  writeOutput : Bool
  writeMarkdown : Bool

namespace Outcomes

/-- The answer to the call that the main thread is about to make.  The remaining
steps do not fail: a sampler thread that cannot be created is a panic, and then
the command does not return. -/
def answer (outcomes : Outcomes) : RunPc → Bool
  | .spawning => outcomes.spawn
  | .registering (sig :: _) => outcomes.register sig
  | .startingForwarder => outcomes.startForwarder
  | .waiting => outcomes.wait
  | .writingOutput => outcomes.writeOutput
  | .writingMarkdown => outcomes.writeMarkdown
  | _ => true

/-- Every call of the main thread gets its answer. -/
def Allows (outcomes : Outcomes) (s : RunState) : RunAction → Prop
  | .main ok => ok = outcomes.answer s.main
  | _ => True

instance (outcomes : Outcomes) (s : RunState) (a : RunAction) :
    Decidable (outcomes.Allows s a) := by
  unfold Allows
  split <;> infer_instance

/-- Every call between the creation of the child and the end of the child
succeeds. -/
structure Served (outcomes : Outcomes) : Prop where
  register : ∀ sig, outcomes.register sig = true
  startForwarder : outcomes.startForwarder = true
  wait : outcomes.wait = true

end Outcomes

/-! ## What is live -/

/-- The child has been waited for or sent a signal, the sampler thread has been
told to stop, and the signal forwarder has been closed, as far as they have been
started. -/
structure RunState.CleanedUp (config : RunConfig) (outcomes : Outcomes) (s : RunState) :
    Prop where
  child : outcomes.spawn = true →
    s.childReaped = true ∨ ∃ sig, (-config.childPid, sig) ∈ s.sent
  sampler : s.samplerStarted = true → s.samplerTold = true
  forwarder : s.forwarder ≠ .notStarted → s.closed = true

/-- Nothing but the child has been started, and nothing was done about it. -/
structure RunState.Untouched (s : RunState) : Prop where
  forwarder : s.forwarder = .notStarted
  started : s.samplerStarted = false
  told : s.samplerTold = false
  child : s.childReaped = false
  sent : s.sent = []

/-- The sampler thread has been started and not been told to stop. -/
structure RunState.Sampling (s : RunState) : Prop where
  started : s.samplerStarted = true
  told : s.samplerTold = false

/-- The child has been waited for and the sampler thread told to stop. -/
structure RunState.Stopped (s : RunState) : Prop where
  child : s.childReaped = true
  told : s.samplerTold = true

/-- What the answers given so far mean for the state, control point by control
point. -/
inductive Explained (outcomes : Outcomes) (s : RunState) : RunPc → Prop
  | spawning (hs : s.Untouched) : Explained outcomes s .spawning
  | unspawned (hspawn : outcomes.spawn = false) (hs : s.Untouched) :
      Explained outcomes s (.returned false)
  | registering (rest : List Signal) (hspawn : outcomes.spawn = true)
      (hregister : ∀ sig ∉ rest, outcomes.register sig = true) (hs : s.Untouched) :
      Explained outcomes s (.registering rest)
  | startingForwarder (hspawn : outcomes.spawn = true)
      (hregister : ∀ sig, outcomes.register sig = true) (hs : s.Untouched) :
      Explained outcomes s .startingForwarder
  | leftChild (hspawn : outcomes.spawn = true) (hfailed : ¬outcomes.Served)
      (hs : s.Untouched) : Explained outcomes s (.returned false)
  | startingSampler (hspawn : outcomes.spawn = true)
      (hregister : ∀ sig, outcomes.register sig = true)
      (hforwarder : outcomes.startForwarder = true) (htold : s.samplerTold = false) :
      Explained outcomes s .startingSampler
  | waiting (hspawn : outcomes.spawn = true)
      (hregister : ∀ sig, outcomes.register sig = true)
      (hforwarder : outcomes.startForwarder = true) (hs : s.Sampling) :
      Explained outcomes s .waiting
  | failing (hspawn : outcomes.spawn = true) (hfailed : ¬outcomes.Served) (hs : s.Sampling) :
      Explained outcomes s (.dropping false)
  | joiningFailing (hspawn : outcomes.spawn = true) (hfailed : ¬outcomes.Served)
      (hs : s.Sampling) : Explained outcomes s (.joining false)
  | leftSampler (hspawn : outcomes.spawn = true) (hfailed : ¬outcomes.Served)
      (hs : s.Sampling) : Explained outcomes s (.returned false)
  | stopping (hserved : outcomes.Served) (hchild : s.childReaped = true) :
      Explained outcomes s .stopping
  | dropping (hserved : outcomes.Served) (hs : s.Stopped) : Explained outcomes s (.dropping true)
  | joining (hserved : outcomes.Served) (hs : s.Stopped) (hclosed : s.closed = true) :
      Explained outcomes s (.joining true)
  | writingOutput (hserved : outcomes.Served) (hs : s.Stopped) (hclosed : s.closed = true) :
      Explained outcomes s .writingOutput
  | writingMarkdown (hserved : outcomes.Served) (hs : s.Stopped) (hclosed : s.closed = true) :
      Explained outcomes s .writingMarkdown
  | returned (ok : Bool) (hserved : outcomes.Served) (hs : s.Stopped)
      (hclosed : s.closed = true) : Explained outcomes s (.returned ok)

/-! ## One step -/

theorem Explained.init (outcomes : Outcomes) : Explained outcomes {} .spawning :=
  .spawning ⟨rfl, rfl, rfl, rfl, rfl⟩

/-- Steps of the other parties leave the explanation alone. -/
theorem Explained.frame {outcomes : Outcomes} {s t : RunState} {pc : RunPc}
    (h : Explained outcomes s pc) (hclosed : t.closed = s.closed)
    (hchild : t.childReaped = s.childReaped) (hstarted : t.samplerStarted = s.samplerStarted)
    (htold : t.samplerTold = s.samplerTold) (huntouched : s.Untouched → t.Untouched) :
    Explained outcomes t pc := by
  have hsampling : s.Sampling → t.Sampling := fun hs =>
    ⟨hstarted.trans hs.started, htold.trans hs.told⟩
  have hstopped : s.Stopped → t.Stopped := fun hs =>
    ⟨hchild.trans hs.child, htold.trans hs.told⟩
  cases h with
  | spawning hs => exact .spawning (huntouched hs)
  | unspawned hspawn hs => exact .unspawned hspawn (huntouched hs)
  | registering rest hspawn hregister hs =>
      exact .registering rest hspawn hregister (huntouched hs)
  | startingForwarder hspawn hregister hs =>
      exact .startingForwarder hspawn hregister (huntouched hs)
  | leftChild hspawn hfailed hs => exact .leftChild hspawn hfailed (huntouched hs)
  | startingSampler hspawn hregister hforwarder hold =>
      exact .startingSampler hspawn hregister hforwarder (htold.trans hold)
  | waiting hspawn hregister hforwarder hs =>
      exact .waiting hspawn hregister hforwarder (hsampling hs)
  | failing hspawn hfailed hs => exact .failing hspawn hfailed (hsampling hs)
  | joiningFailing hspawn hfailed hs => exact .joiningFailing hspawn hfailed (hsampling hs)
  | leftSampler hspawn hfailed hs => exact .leftSampler hspawn hfailed (hsampling hs)
  | stopping hserved hs => exact .stopping hserved (hchild.trans hs)
  | dropping hserved hs => exact .dropping hserved (hstopped hs)
  | joining hserved hs hold => exact .joining hserved (hstopped hs) (hclosed.trans hold)
  | writingOutput hserved hs hold =>
      exact .writingOutput hserved (hstopped hs) (hclosed.trans hold)
  | writingMarkdown hserved hs hold =>
      exact .writingMarkdown hserved (hstopped hs) (hclosed.trans hold)
  | returned ok hserved hs hold =>
      exact .returned ok hserved (hstopped hs) (hclosed.trans hold)

/-- Every step that is answered as the outcomes say keeps the explanation. -/
theorem Explained.move {config : RunConfig} {outcomes : Outcomes} {s t : RunState}
    {a : RunAction} (h : Explained outcomes s s.main) (hanswer : outcomes.Allows s a)
    (hmove : RunMove config s a t) : Explained outcomes t t.main := by
  have hidle : ∀ pc, s.forwarder = pc → pc ≠ .notStarted → ¬s.Untouched :=
    fun pc hpc hne hs => hne (hpc.symm.trans hs.forwarder)
  cases hmove with
  | spawn hmain =>
      rw [hmain] at h
      simp only [Outcomes.Allows, Outcomes.answer, hmain] at hanswer
      cases h with
      | spawning hs =>
          exact .registering _ hanswer.symm (fun sig hsig => absurd (mem_forwarded sig) hsig)
            { hs with }
  | spawnFails hmain =>
      rw [hmain] at h
      simp only [Outcomes.Allows, Outcomes.answer, hmain] at hanswer
      cases h with
      | spawning hs => exact .unspawned hanswer.symm { hs with }
  | register sig rest hmain =>
      rw [hmain] at h
      simp only [Outcomes.Allows, Outcomes.answer, hmain] at hanswer
      cases h with
      | registering _ hspawn hregister hs =>
          refine .registering rest hspawn ?_ { hs with }
          intro other hother
          by_cases heq : other = sig
          · exact heq ▸ hanswer.symm
          · exact hregister other fun hmem => (List.mem_cons.mp hmem).elim heq hother
  | registerFails sig rest hmain =>
      rw [hmain] at h
      simp only [Outcomes.Allows, Outcomes.answer, hmain] at hanswer
      cases h with
      | registering _ hspawn _ hs =>
          refine .leftChild hspawn (fun hserved => ?_) { hs with }
          exact absurd (hanswer.trans (hserved.register sig)) (by simp)
  | install ok hmain =>
      rw [hmain] at h
      cases h with
      | registering _ hspawn hregister hs =>
          exact .startingForwarder hspawn (fun sig => hregister sig List.not_mem_nil) { hs with }
  | startForwarder hmain =>
      rw [hmain] at h
      simp only [Outcomes.Allows, Outcomes.answer, hmain] at hanswer
      cases h with
      | startingForwarder hspawn hregister hs =>
          exact .startingSampler hspawn hregister hanswer.symm hs.told
  | startForwarderFails hmain =>
      rw [hmain] at h
      simp only [Outcomes.Allows, Outcomes.answer, hmain] at hanswer
      cases h with
      | startingForwarder hspawn _ hs =>
          refine .leftChild hspawn (fun hserved => ?_) { hs with }
          exact absurd (hanswer.trans hserved.startForwarder) (by simp)
  | startSampler hmain =>
      rw [hmain] at h
      cases h with
      | startingSampler hspawn hregister hforwarder htold =>
          exact .waiting hspawn hregister hforwarder ⟨rfl, htold⟩
  | giveUp hmain =>
      rcases hmain with hmain | hmain
      · simp [Outcomes.Allows, Outcomes.answer, hmain] at hanswer
      · rw [hmain] at h
        simp only [Outcomes.Allows, Outcomes.answer, hmain] at hanswer
        cases h with
        | waiting hspawn _ _ hs =>
            refine .failing hspawn (fun hserved => ?_) { hs with }
            exact absurd (hanswer.trans hserved.wait) (by simp)
  | reap hmain hexited =>
      rw [hmain] at h
      simp only [Outcomes.Allows, Outcomes.answer, hmain] at hanswer
      cases h with
      | waiting hspawn hregister hforwarder hs =>
          exact .stopping ⟨hregister, hforwarder, hanswer.symm⟩ rfl
  | stop ok hmain =>
      rw [hmain] at h
      cases h with
      | stopping hserved hchild => exact .dropping hserved ⟨hchild, rfl⟩
  | close ok result hmain =>
      rw [hmain] at h
      cases result with
      | true =>
          cases h with
          | dropping hserved hs => exact .joining hserved { hs with } rfl
      | false =>
          cases h with
          | failing hspawn hfailed hs => exact .joiningFailing hspawn hfailed { hs with }
  | join ok result hmain hfinished =>
      rw [hmain] at h
      cases result with
      | true =>
          cases h with
          | joining hserved hs hclosed => exact .writingOutput hserved { hs with } hclosed
      | false =>
          cases h with
          | joiningFailing hspawn hfailed hs => exact .leftSampler hspawn hfailed { hs with }
  | write ok next hmain hnext =>
      have hrest : outcomes.Served ∧ s.Stopped ∧ s.closed = true := by
        rcases hmain with hmain | hmain
        · rw [hmain] at h
          cases h with
          | writingOutput hserved hs hclosed => exact ⟨hserved, hs, hclosed⟩
        · rw [hmain] at h
          cases h with
          | writingMarkdown hserved hs hclosed => exact ⟨hserved, hs, hclosed⟩
      rcases hrest with ⟨hserved, hs, hclosed⟩
      rcases hnext with rfl | rfl | rfl
      · exact .writingMarkdown hserved { hs with } hclosed
      · exact .returned true hserved { hs with } hclosed
      · exact .returned false hserved { hs with } hclosed
  | childExit hrunning => exact h.frame rfl rfl rfl rfl fun hs => { hs with }
  | terminate sig fatal hdisposition => exact h.frame rfl rfl rfl rfl fun hs => { hs with }
  | swallow sig hdisposition => exact h
  | accept sig fatal hdisposition => exact h.frame rfl rfl rfl rfl fun hs => { hs with }
  | take sig hforwarder hpending =>
      exact h.frame rfl rfl rfl rfl fun hs => absurd hs (hidle _ hforwarder (by simp))
  | forward sig hforwarder =>
      exact h.frame rfl rfl rfl rfl fun hs => absurd hs (hidle _ hforwarder (by simp))
  | leave hforwarder hclosed =>
      exact h.frame rfl rfl rfl rfl fun hs => absurd hs (hidle _ hforwarder (by simp))

/-- Every state of a run under these answers is explained. -/
theorem Explained.of_reaches {config : RunConfig} {outcomes : Outcomes} {s : RunState}
    (h : (runCommand config).ReachesUnder outcomes.Allows (runCommand config).init s) :
    Explained outcomes s s.main :=
  h.invariant (P := fun s => Explained outcomes s s.main) (Explained.init outcomes)
    fun _ _ _ hanswer hs hstep => hs.move hanswer (RunState.step_move hstep).1

/-! ## What a return leaves behind -/

/-- A run that returns, with a success or an error, has cleaned up everything it
started exactly when it spawned nothing or everything up to the end of the child
succeeded. -/
theorem cleanedUp_iff {config : RunConfig} {outcomes : Outcomes} {s : RunState} {ok : Bool}
    (h : (runCommand config).ReachesUnder outcomes.Allows (runCommand config).init s)
    (hreturned : s.main = .returned ok) :
    s.CleanedUp config outcomes ↔ (outcomes.spawn = true → outcomes.Served) := by
  have hexplained := Explained.of_reaches h
  rw [hreturned] at hexplained
  constructor
  · intro hclean hspawn
    cases hexplained with
    | unspawned hfailed hs => exact absurd (hspawn.symm.trans hfailed) (by simp)
    | leftChild _ hfailed hs =>
        rcases hclean.child hspawn with hreaped | ⟨sig, hsent⟩
        · exact absurd (hreaped.symm.trans hs.child) (by simp)
        · rw [hs.sent] at hsent
          exact absurd hsent List.not_mem_nil
    | leftSampler _ hfailed hs =>
        exact absurd ((hclean.sampler hs.started).symm.trans hs.told) (by simp)
    | returned _ hserved hs hclosed => exact hserved
  · intro hserved
    cases hexplained with
    | unspawned hfailed hs =>
        exact
          { child := fun hspawn => absurd (hspawn.symm.trans hfailed) (by simp)
            sampler := fun hstarted => absurd (hstarted.symm.trans hs.started) (by simp)
            forwarder := fun hforwarder => absurd hs.forwarder hforwarder }
    | leftChild hspawn hfailed hs => exact absurd (hserved hspawn) hfailed
    | leftSampler hspawn hfailed hs => exact absurd (hserved hspawn) hfailed
    | returned _ _ hs hclosed =>
        exact
          { child := fun _ => .inl hs.child
            sampler := fun _ => hs.told
            forwarder := fun _ => hclosed }

/-! ## Two runs -/

/-- Only the forwarding thread cannot be created. -/
def threadLimit : Outcomes where
  spawn := true
  register _ := true
  startForwarder := false
  wait := true
  writeOutput := true
  writeMarkdown := true

/-- Not every return cleans up: without a forwarding thread the child is left
behind. -/
theorem exists_return_without_cleanup :
    ¬∀ (config : RunConfig) (outcomes : Outcomes) (s : RunState) (ok : Bool),
      (runCommand config).ReachesUnder outcomes.Allows (runCommand config).init s →
      s.main = .returned ok → s.CleanedUp config outcomes := by
  intro hall
  have hrun : ∃ s, (runCommand { childPid := 7, markdown := false }).ReachesUnder
      threadLimit.Allows (runCommand { childPid := 7, markdown := false }).init s ∧
      s.main = .returned false ∧ s.childRunning = true ∧ s.childReaped = false ∧ s.sent = [] := by
    apply Machine.exists_reachesUnder_of_replay
      [.main true, .main true, .main true, .main true, .main true, .main false]
    decide +kernel
  rcases hrun with ⟨s, hreaches, hmain, _, hreaped, hsent⟩
  rcases (hall _ threadLimit s false hreaches hmain).child rfl with hchild | ⟨sig, hkill⟩
  · exact absurd (hchild.symm.trans hreaped) (by simp)
  · rw [hsent] at hkill
    exact absurd hkill List.not_mem_nil

/-- Only the output file cannot be written. -/
def diskFull : Outcomes where
  spawn := true
  register _ := true
  startForwarder := true
  wait := true
  writeOutput := false
  writeMarkdown := true

/-- The error return after a failed write leaves nothing behind. -/
theorem cleanedUp_diskFull :
    ∃ s : RunState,
      (runCommand { childPid := 7, markdown := false }).ReachesUnder diskFull.Allows
        (runCommand { childPid := 7, markdown := false }).init s ∧
      s.main = .returned false ∧
      s.CleanedUp { childPid := 7, markdown := false } diskFull := by
  have hrun : ∃ s, (runCommand { childPid := 7, markdown := false }).ReachesUnder
      diskFull.Allows (runCommand { childPid := 7, markdown := false }).init s ∧
      s.main = .returned false := by
    apply Machine.exists_reachesUnder_of_replay
      [.main true, .main true, .main true, .main true, .main true, .main true, .main true,
        .childExit, .main true, .main true, .main true, .leave, .main true, .main false]
    decide +kernel
  rcases hrun with ⟨s, hreaches, hmain⟩
  exact ⟨s, hreaches, hmain,
    (cleanedUp_iff hreaches hmain).mpr fun _ => ⟨fun _ => rfl, rfl, rfl⟩⟩

end Tricord

import Tricord.Sampler.Threads

/-!
# The sampler loop when the diagnostic side fails

The trace file and stderr are the diagnostic side of a run.  Every call to them
may fail, at any tick.  A failure of the trace is reported on stderr and ends
the trace; a failure of that report is a panic of the sampler thread, and the
state it owned is replaced by the default state.

Main results:

- Theorem {lit}`LoopInvariant.turn`: what one turn of the loop preserves while
  the thread lives.
- Theorem {lit}`runSamplerLoop_isOk_iff`: the thread survives exactly when no
  report is lost.
- Theorem {lit}`stopSampler_eq_untraced_iff`: the record is the one of the untraced run
  exactly when no report is lost or nothing was sampled.
-/

namespace Tricord

/-! ## Answers -/

/-- A result is no error. -/
@[simp]
theorem isOk_ok {ε α : Type*} (a : α) : (Except.ok a : Except ε α).isOk = true :=
  rfl

/-- An error is no result. -/
@[simp]
theorem isOk_error {ε α : Type*} (e : ε) : (Except.error e : Except ε α).isOk = false :=
  rfl

/-! ## The diagnostic side -/

/-- How the calls of the diagnostic side are answered in one run.  An error is
the text it is displayed with. -/
structure Diagnostics where
  ensureParentDir : Except String Unit := .ok ()
  createFile : Except String Unit := .ok ()
  writeHeader : Except String Unit := .ok ()
  /-- Writing the row of the tick with this number. -/
  writeRow : ℕ → Except String Unit := fun _ => .ok ()
  /-- Flushing after that row. -/
  flushRow : ℕ → Except String Unit := fun _ => .ok ()
  /-- Writing to stderr while the trace is being opened. -/
  stderrAtOpen : Except String Unit := .ok ()
  /-- Writing to stderr during the tick with this number. -/
  stderrAt : ℕ → Except String Unit := fun _ => .ok ()

/-- Writing and flushing a row. -/
def Diagnostics.appendRow (d : Diagnostics) (n : ℕ) : Except String Unit :=
  match d.writeRow n with
  | .ok () => d.flushRow n
  | .error err => .error err

/-- Print one line, or panic when stderr cannot be written. -/
def eprintln (stderr : Except String Unit) (line : String) : Except String (List String) :=
  match stderr with
  | .ok () => .ok [line]
  | .error err => .error ("failed printing to stderr: " ++ err)

/-! ## The loop -/

/-- The locals of the sampler loop, the rows in the trace file, the lines on
stderr and the number of turns. -/
structure LoopRun where
  state : SamplerState := {}
  writing : Bool
  rows : List (TickRecord ℚ≥0) := []
  reports : List String := []
  turns : ℕ := 0

/-- Report a trace that cannot be opened and go on without one. -/
def Diagnostics.reportAtOpen (d : Diagnostics) (message : String) (path : String)
    (err : String) : Except String LoopRun :=
  match eprintln d.stderrAtOpen ("tricord: " ++ message ++ " " ++ path ++ ": " ++ err) with
  | .ok lines => .ok { writing := false, reports := lines }
  | .error panic => .error panic

/-- Open the trace at the given path and write the header. -/
def openTraceWriter (d : Diagnostics) (path : String) : Except String LoopRun :=
  match d.ensureParentDir with
  | .error err => d.reportAtOpen "cannot create trace parent for" path err
  | .ok () =>
      match d.createFile with
      | .error err => d.reportAtOpen "cannot open trace file" path err
      | .ok () =>
          match d.writeHeader with
          | .error err => d.reportAtOpen "cannot write trace header to" path err
          | .ok () => .ok { writing := true }

/-- One turn of the loop on a sampled list. -/
def LoopRun.turn (d : Diagnostics) (run : LoopRun) (tick : Tick × Seconds) :
    Except String LoopRun :=
  let state := run.state.absorb tick.1
  if run.writing then
    let (state, row) := state.tick tick.1 tick.2
    match row with
    | none => .ok { run with state := state, turns := run.turns + 1 }
    | some row =>
        match d.appendRow run.turns with
        | .ok () =>
            .ok { run with
              state := state
              rows := run.rows ++ [row]
              turns := run.turns + 1 }
        | .error err =>
            match eprintln (d.stderrAt run.turns)
                ("tricord: failed to write trace row: " ++ err) with
            | .ok lines =>
                .ok { run with
                  state := state
                  writing := false
                  reports := run.reports ++ lines
                  turns := run.turns + 1 }
            | .error panic => .error panic
  else .ok { run with state := state, turns := run.turns + 1 }

/-- The loop before its first turn. -/
def startSamplerLoop (d : Diagnostics) (tracePath : Option String) : Except String LoopRun :=
  match tracePath with
  | some path => openTraceWriter d path
  | none => .ok { writing := false }

/-- The sampler thread, on the lists it samples until it is stopped. -/
def runSamplerLoop (d : Diagnostics) (tracePath : Option String)
    (ticks : List (Tick × Seconds)) : Except String LoopRun :=
  match startSamplerLoop d tracePath with
  | .ok run => ticks.foldlM (LoopRun.turn d) run
  | .error panic => .error panic

/-- The record of a stopped sampler: a thread that panicked counts as one that
returned the default state. -/
def stopSampler (thread : Except String LoopRun) (elapsed : Seconds) : BenchmarkRecord ℚ≥0 :=
  let state :=
    match thread with
    | .ok run => run.state
    | .error _ => {}
  state.intoRecord elapsed

/-! ## Failures -/

/-- The trace cannot be opened. -/
def Diagnostics.OpenFails (d : Diagnostics) : Prop :=
  ¬(d.ensureParentDir.isOk ∧ d.createFile.isOk ∧ d.writeHeader.isOk)

/-- The row of this tick cannot be written and flushed. -/
def Diagnostics.RowFails (d : Diagnostics) (ticks : List Tick) (k : ℕ) : Prop :=
  (∃ tick, ticks[k]? = some tick ∧ tick ≠ []) ∧ ¬(d.appendRow k).isOk

/-- The first failure of a requested trace cannot be reported. -/
def Diagnostics.ReportLost (d : Diagnostics) (tracePath : Option String)
    (ticks : List Tick) : Prop :=
  tracePath.isSome ∧
    ((d.OpenFails ∧ ¬d.stderrAtOpen.isOk) ∨
      (¬d.OpenFails ∧
        ∃ k, d.RowFails ticks k ∧ (∀ j < k, ¬d.RowFails ticks j) ∧ ¬(d.stderrAt k).isOk))

/-! ## What one turn can do -/

/-- The outcomes of one turn of the loop, with the answers that lead to them. -/
inductive LoopTurn (d : Diagnostics) (run : LoopRun) (tick : Tick × Seconds) :
    Except String LoopRun → Prop
  | untraced (hwriting : run.writing = false) :
      LoopTurn d run tick
        (.ok { run with state := run.state.absorb tick.1, turns := run.turns + 1 })
  | empty (hwriting : run.writing = true) (hempty : tick.1 = []) :
      LoopTurn d run tick (.ok { run with turns := run.turns + 1 })
  | wrote (hwriting : run.writing = true) (hne : tick.1 ≠ [])
      (hok : (d.appendRow run.turns).isOk) (row : TickRecord ℚ≥0)
      (hrow : ((run.state.absorb tick.1).tick tick.1 tick.2).2 = some row) :
      LoopTurn d run tick
        (.ok { run with
          state := ((run.state.absorb tick.1).tick tick.1 tick.2).1
          rows := run.rows ++ [row]
          turns := run.turns + 1 })
  | gaveUp (hwriting : run.writing = true) (hne : tick.1 ≠ [])
      (hfail : ¬(d.appendRow run.turns).isOk) (hreport : (d.stderrAt run.turns).isOk)
      (line : String) :
      LoopTurn d run tick
        (.ok { run with
          state := ((run.state.absorb tick.1).tick tick.1 tick.2).1
          writing := false
          reports := run.reports ++ [line]
          turns := run.turns + 1 })
  | panicked (hwriting : run.writing = true) (hne : tick.1 ≠ [])
      (hfail : ¬(d.appendRow run.turns).isOk) (hlost : ¬(d.stderrAt run.turns).isOk)
      (panic : String) : LoopTurn d run tick (.error panic)

/-- Every turn is one of these cases. -/
theorem LoopRun.turn_spec (d : Diagnostics) (run : LoopRun) (tick : Tick × Seconds) :
    LoopTurn d run tick (run.turn d tick) := by
  unfold LoopRun.turn
  dsimp only
  by_cases hwriting : run.writing = true
  · rw [if_pos hwriting]
    by_cases hempty : tick.1 = []
    · rw [hempty]
      exact .empty hwriting hempty
    · rcases (run.state.absorb tick.1).tick_row hempty tick.2 with ⟨row, hrow, _⟩
      simp only [hrow]
      cases happend : d.appendRow run.turns with
      | ok _ => exact .wrote hwriting hempty (by rw [happend]; rfl) row hrow
      | error err =>
          have hfail : ¬(d.appendRow run.turns).isOk := by
            rw [happend]
            exact Bool.false_ne_true
          cases hstderr : d.stderrAt run.turns with
          | ok _ => exact .gaveUp hwriting hempty hfail (by rw [hstderr]; rfl) _
          | error _ =>
              have hlost : ¬(d.stderrAt run.turns).isOk := by
                rw [hstderr]
                exact Bool.false_ne_true
              exact .panicked hwriting hempty hfail hlost _
  · rw [if_neg hwriting]
    exact .untraced (Bool.eq_false_iff.mpr hwriting)

/-- Opening the trace succeeds, is given up with one report, or panics. -/
theorem openTraceWriter_spec (d : Diagnostics) (path : String) :
    (¬d.OpenFails ∧ openTraceWriter d path = .ok { writing := true }) ∨
      (d.OpenFails ∧ d.stderrAtOpen.isOk ∧
        ∃ line, openTraceWriter d path = .ok { writing := false, reports := [line] }) ∨
      (d.OpenFails ∧ ¬d.stderrAtOpen.isOk ∧ ∃ panic, openTraceWriter d path = .error panic) := by
  have hreport : ∀ (fails : Prop), fails → ∀ message err,
      (fails ∧ d.stderrAtOpen.isOk ∧ ∃ line,
        d.reportAtOpen message path err = .ok { writing := false, reports := [line] }) ∨
      (fails ∧ ¬d.stderrAtOpen.isOk ∧
        ∃ panic, d.reportAtOpen message path err = .error panic) := by
    intro fails hfails message err
    unfold Diagnostics.reportAtOpen eprintln
    cases d.stderrAtOpen with
    | ok _ => exact .inl ⟨hfails, rfl, _, rfl⟩
    | error _ => exact .inr ⟨hfails, Bool.false_ne_true, _, rfl⟩
  unfold Diagnostics.OpenFails openTraceWriter
  cases d.ensureParentDir with
  | error err => exact .inr (hreport _ (by simp) _ err)
  | ok _ =>
      cases d.createFile with
      | error err => exact .inr (hreport _ (by simp) _ err)
      | ok _ =>
          cases d.writeHeader with
          | error err => exact .inr (hreport _ (by simp) _ err)
          | ok _ => exact .inl ⟨by simp, rfl⟩

/-! ## The first failure -/

/-- Rows fail as before, or at the last tick. -/
theorem Diagnostics.rowFails_snoc (d : Diagnostics) (ticks : List Tick) (tick : Tick) (k : ℕ) :
    d.RowFails (ticks ++ [tick]) k ↔
      d.RowFails ticks k ∨
        (k = ticks.length ∧ tick ≠ [] ∧ ¬(d.appendRow ticks.length).isOk) := by
  unfold RowFails
  rcases lt_trichotomy k ticks.length with hlt | rfl | hgt
  · rw [List.getElem?_append_left hlt]
    simp [hlt.ne]
  · simp
  · have hnone : (ticks ++ [tick])[k]? = none := by
      rw [List.getElem?_eq_none_iff, List.length_append, List.length_singleton]
      omega
    simp [hnone, List.getElem?_eq_none hgt.le, hgt.ne']

/-- Only a row of the run can fail. -/
theorem Diagnostics.RowFails.lt_length {d : Diagnostics} {ticks : List Tick} {k : ℕ}
    (h : d.RowFails ticks k) : k < ticks.length := by
  rcases h.1 with ⟨tick, htick, _⟩
  exact (List.getElem?_eq_some_iff.mp htick).1

/-- The next turn loses the report when the trace is open, the row cannot be
written and stderr cannot be written either. -/
theorem Diagnostics.reportLost_snoc (d : Diagnostics) (tracePath : Option String)
    (ticks : List Tick) (tick : Tick) :
    d.ReportLost tracePath (ticks ++ [tick]) ↔
      d.ReportLost tracePath ticks ∨
        ((tracePath.isSome ∧ ¬d.OpenFails ∧ ∀ k, ¬d.RowFails ticks k) ∧
          tick ≠ [] ∧ ¬(d.appendRow ticks.length).isOk ∧ ¬(d.stderrAt ticks.length).isOk) := by
  constructor
  · rintro ⟨hsome, ⟨hopen, hstderr⟩ | ⟨hopen, k, hfails, hfirst, hstderr⟩⟩
    · exact .inl ⟨hsome, .inl ⟨hopen, hstderr⟩⟩
    · have hfirst' : ∀ j < k, ¬d.RowFails ticks j := fun j hj hrow =>
        hfirst j hj ((d.rowFails_snoc ticks tick j).mpr (.inl hrow))
      rcases (d.rowFails_snoc ticks tick k).mp hfails with hrow | ⟨rfl, hne, hrow⟩
      · exact .inl ⟨hsome, .inr ⟨hopen, k, hrow, hfirst', hstderr⟩⟩
      · exact .inr ⟨⟨hsome, hopen, fun j hj => hfirst' j hj.lt_length hj⟩, hne, hrow, hstderr⟩
  · rintro (⟨hsome, ⟨hopen, hstderr⟩ | ⟨hopen, k, hrow, hfirst, hstderr⟩⟩ |
      ⟨⟨hsome, hopen, hnone⟩, hne, hrow, hstderr⟩)
    · exact ⟨hsome, .inl ⟨hopen, hstderr⟩⟩
    · refine ⟨hsome, .inr ⟨hopen, k, (d.rowFails_snoc ticks tick k).mpr (.inl hrow), ?_, hstderr⟩⟩
      intro j hj hfails
      rcases (d.rowFails_snoc ticks tick j).mp hfails with hold | ⟨rfl, _⟩
      · exact hfirst j hj hold
      · exact absurd hrow.lt_length (by omega)
    · refine ⟨hsome, .inr ⟨hopen, ticks.length,
        (d.rowFails_snoc ticks tick _).mpr (.inr ⟨rfl, hne, hrow⟩), ?_, hstderr⟩⟩
      intro j hj hfails
      rcases (d.rowFails_snoc ticks tick j).mp hfails with hold | ⟨rfl, _⟩
      · exact hnone j hold
      · exact absurd hj (lt_irrefl _)

/-- No row fails when none did so far and the last one does not. -/
theorem Diagnostics.forall_not_rowFails_snoc (d : Diagnostics) (ticks : List Tick)
    (tick : Tick) :
    (∀ k, ¬d.RowFails (ticks ++ [tick]) k) ↔
      (∀ k, ¬d.RowFails ticks k) ∧ ¬(tick ≠ [] ∧ ¬(d.appendRow ticks.length).isOk) := by
  simp only [rowFails_snoc, not_or]
  constructor
  · intro hnone
    exact ⟨fun k => (hnone k).1, fun hlast => (hnone ticks.length).2 ⟨rfl, hlast⟩⟩
  · rintro ⟨hnone, hlast⟩ k
    exact ⟨hnone k, fun hk => hlast hk.2⟩

/-! ## The invariant of the loop -/

/-- The locals of the loop after the given ticks, as long as the thread lives. -/
structure LoopInvariant (d : Diagnostics) (tracePath : Option String)
    (ticks : List (Tick × Seconds)) (run : LoopRun) : Prop where
  turns_eq : run.turns = ticks.length
  state_eq : run.state = { SamplerState.absorbAll (tickLists ticks) with
    prevCumulative := run.state.prevCumulative }
  writing_iff : run.writing = true ↔
    tracePath.isSome ∧ ¬d.OpenFails ∧ ∀ k, ¬d.RowFails (tickLists ticks) k
  /-- An open trace is the one of a run without failures. -/
  traced : run.writing = true →
    run.state = (traceRun ticks).state ∧ run.rows = (traceRun ticks).rows
  rows_initial : run.rows <+: (traceRun ticks).rows
  untraced : tracePath = none →
    run.state = SamplerState.absorbAll (tickLists ticks) ∧ run.rows = []
  /-- A requested trace is open or has been reported, once. -/
  reports_length : run.reports.length + run.writing.toNat = tracePath.isSome.toNat

/-- A loop that starts has no trace, an open one, or one given up with a report. -/
theorem startSamplerLoop_ok {d : Diagnostics} {tracePath : Option String} {run : LoopRun}
    (h : startSamplerLoop d tracePath = .ok run) :
    (tracePath = none ∧ run = { writing := false }) ∨
      (tracePath.isSome ∧ ¬d.OpenFails ∧ run = { writing := true }) ∨
      (tracePath.isSome ∧ d.OpenFails ∧
        ∃ line, run = { writing := false, reports := [line] }) := by
  cases tracePath with
  | none =>
      rw [startSamplerLoop, Except.ok.injEq] at h
      exact .inl ⟨rfl, h.symm⟩
  | some path =>
      rw [startSamplerLoop] at h
      rcases openTraceWriter_spec d path with
        ⟨hopen, hok⟩ | ⟨hopen, _, line, hok⟩ | ⟨_, _, panic, herror⟩
      · rw [hok, Except.ok.injEq] at h
        exact .inr (.inl ⟨rfl, hopen, h.symm⟩)
      · rw [hok, Except.ok.injEq] at h
        exact .inr (.inr ⟨rfl, hopen, line, h.symm⟩)
      · rw [herror] at h
        exact absurd h (by simp)

/-- The invariant before the first turn. -/
theorem LoopInvariant.start {d : Diagnostics} {tracePath : Option String} {run : LoopRun}
    (h : startSamplerLoop d tracePath = .ok run) : LoopInvariant d tracePath [] run := by
  have hnone : ∀ k, ¬d.RowFails [] k := fun k hfails => by simpa using hfails.lt_length
  rcases startSamplerLoop_ok h with
    ⟨rfl, rfl⟩ | ⟨hsome, hopen, rfl⟩ | ⟨hsome, hopen, line, rfl⟩
  · constructor <;> simp [traceRun]
  · have hpath : tracePath ≠ none := Option.isSome_iff_ne_none.mp hsome
    constructor <;> simp [traceRun, hsome, hopen, hnone, hpath]
  · have hpath : tracePath ≠ none := Option.isSome_iff_ne_none.mp hsome
    constructor <;> simp [traceRun, hsome, hopen, hpath]

/-- The rows of a longer run continue those of a shorter one. -/
theorem rows_initial_snoc (ticks : List (Tick × Seconds)) (tick : Tick × Seconds) :
    (traceRun ticks).rows <+: (traceRun (ticks ++ [tick])).rows := by
  rw [traceRun_snoc]
  exact List.prefix_append _ _

/-- A surviving turn preserves the invariant. -/
theorem LoopInvariant.turn {d : Diagnostics} {tracePath : Option String}
    {ticks : List (Tick × Seconds)} {tick : Tick × Seconds} {run run' : LoopRun}
    (h : LoopInvariant d tracePath ticks run) (hturn : LoopTurn d run tick (.ok run')) :
    LoopInvariant d tracePath (ticks ++ [tick]) run' := by
  have hrows := rows_initial_snoc ticks tick
  have hlists : tickLists (ticks ++ [tick]) = tickLists ticks ++ [tick.1] := by simp
  have hlength : run.turns = (tickLists ticks).length := by simp [h.turns_eq]
  have hturns : run.turns + 1 = (ticks ++ [tick]).length := by simp [h.turns_eq]
  have hfails := d.forall_not_rowFails_snoc (tickLists ticks) tick.1
  rw [← hlists, ← hlength] at hfails
  have habsorb : run.state.absorb tick.1 =
      { SamplerState.absorbAll (tickLists (ticks ++ [tick])) with
        prevCumulative := run.state.prevCumulative } := by
    rw [hlists, SamplerState.absorbAll_snoc, ← SamplerState.absorb_with_prevCumulative,
      ← h.state_eq]
  have huntraced : tracePath = none →
      run.state.absorb tick.1 = SamplerState.absorbAll (tickLists (ticks ++ [tick])) ∧
        run.rows = [] := by
    intro hnone
    rw [(h.untraced hnone).1, hlists, SamplerState.absorbAll_snoc]
    exact ⟨rfl, (h.untraced hnone).2⟩
  have hsome : run.writing = true → tracePath ≠ none := by
    rintro hwriting rfl
    exact absurd (h.writing_iff.mp hwriting).1 (by simp)
  cases hturn with
  | untraced hwriting =>
      exact {
        turns_eq := hturns
        state_eq := by
          rw [habsorb]
        writing_iff := by
          rw [h.writing_iff, hfails]
          have hclosed := mt h.writing_iff.mpr (by simp [hwriting])
          exact iff_of_false hclosed fun hopen => hclosed ⟨hopen.1, hopen.2.1, hopen.2.2.1⟩
        traced := fun hopen => absurd (hwriting.symm.trans hopen) (by simp)
        rows_initial := h.rows_initial.trans hrows
        untraced := huntraced
        reports_length := h.reports_length }
  | empty hwriting hempty =>
      have hsame : run.state.absorb tick.1 = run.state := by rw [hempty]; rfl
      rw [hsame] at habsorb
      exact {
        turns_eq := hturns
        state_eq := habsorb
        writing_iff := by
          rw [h.writing_iff, hfails]
          simp [hempty]
        traced := by
          intro hopen
          rcases tick with ⟨snapshots, elapsed⟩
          subst hempty
          rw [rows_snoc_nil, traceRun_snoc, (h.traced hopen).2]
          exact ⟨(h.traced hopen).1, rfl⟩
        rows_initial := h.rows_initial.trans hrows
        untraced := fun hnone => absurd hnone (hsome hwriting)
        reports_length := h.reports_length }
  | wrote hwriting hne hok row hrow =>
      rcases h.traced hwriting with ⟨hstate, hrows_eq⟩
      rw [hstate] at hrow
      have hrows' : run.rows ++ [row] = (traceRun (ticks ++ [tick])).rows := by
        rw [hrows_eq, traceRun_snoc, TraceRun.rows_turn, hrow]
        rfl
      exact {
        turns_eq := hturns
        state_eq := by
          rw [SamplerState.tick_state, habsorb]
        writing_iff := by
          rw [h.writing_iff, hfails]
          simp [hok]
        traced := fun _ => ⟨by rw [hstate, traceRun_snoc, TraceRun.state_turn], hrows'⟩
        rows_initial := hrows' ▸ List.prefix_rfl
        untraced := fun hnone => absurd hnone (hsome hwriting)
        reports_length := h.reports_length }
  | gaveUp hwriting hne hfail hreport line =>
      have hlength := h.reports_length
      exact {
        turns_eq := hturns
        state_eq := by
          rw [SamplerState.tick_state, habsorb]
        writing_iff := by
          rw [hfails]
          simp [hne, hfail]
        traced := by simp
        rows_initial := h.rows_initial.trans hrows
        untraced := fun hnone => absurd hnone (hsome hwriting)
        reports_length := by
          rw [hwriting] at hlength
          simpa using hlength }

/-! ## Whole runs -/

/-- The last tick is one more turn. -/
theorem runSamplerLoop_snoc (d : Diagnostics) (tracePath : Option String)
    (ticks : List (Tick × Seconds)) (tick : Tick × Seconds) :
    runSamplerLoop d tracePath (ticks ++ [tick]) =
      (runSamplerLoop d tracePath ticks).bind fun run => run.turn d tick := by
  unfold runSamplerLoop
  cases startSamplerLoop d tracePath with
  | ok run =>
      simp only [List.foldlM_append, List.foldlM_cons, List.foldlM_nil, bind_pure]
      rfl
  | error panic => rfl

/-- What the start of the loop establishes, and every turn that the thread survives
preserves, holds while the thread lives. -/
theorem runSamplerLoop_invariant {d : Diagnostics} {tracePath : Option String}
    {P : List (Tick × Seconds) → LoopRun → Prop}
    (hstart : ∀ run, startSamplerLoop d tracePath = .ok run → P [] run)
    (hturn : ∀ ticks tick run run', P ticks run → LoopTurn d run tick (.ok run') →
      P (ticks ++ [tick]) run')
    {ticks : List (Tick × Seconds)} {run : LoopRun}
    (h : runSamplerLoop d tracePath ticks = .ok run) : P ticks run := by
  induction ticks using List.reverseRecOn generalizing run with
  | nil =>
      apply hstart
      unfold runSamplerLoop at h
      cases hfirst : startSamplerLoop d tracePath with
      | ok first =>
          rw [hfirst] at h
          exact h
      | error panic =>
          rw [hfirst] at h
          exact absurd h (by simp)
  | append_singleton ticks tick ih =>
      rw [runSamplerLoop_snoc] at h
      cases hbefore : runSamplerLoop d tracePath ticks with
      | ok before =>
          rw [hbefore] at h
          have hspec := before.turn_spec d tick
          rw [show before.turn d tick = .ok run from h] at hspec
          exact hturn ticks tick before run (ih hbefore) hspec
      | error panic =>
          rw [hbefore] at h
          exact absurd h (by simp [Except.bind])

/-- While the sampler thread lives, its locals are as the invariant says. -/
theorem LoopInvariant.of_runSamplerLoop {d : Diagnostics} {tracePath : Option String}
    {ticks : List (Tick × Seconds)} {run : LoopRun}
    (h : runSamplerLoop d tracePath ticks = .ok run) : LoopInvariant d tracePath ticks run :=
  runSamplerLoop_invariant (fun _ => LoopInvariant.start)
    (fun _ _ _ _ hinv hspec => hinv.turn hspec) h

/-- A turn kills the thread exactly when it loses a report. -/
theorem LoopTurn.isOk_iff {d : Diagnostics} {run : LoopRun} {tick : Tick × Seconds}
    {result : Except String LoopRun} (h : LoopTurn d run tick result) :
    result.isOk ↔ ¬(run.writing = true ∧ tick.1 ≠ [] ∧
      ¬(d.appendRow run.turns).isOk ∧ ¬(d.stderrAt run.turns).isOk) := by
  cases h with
  | untraced hwriting => simp [hwriting]
  | empty hwriting hempty => simp [hempty]
  | wrote hwriting hne hok row hrow =>
      exact iff_of_true rfl fun hlost => hlost.2.2.1 hok
  | gaveUp hwriting hne hfail hreport line =>
      exact iff_of_true rfl fun hlost => hlost.2.2.2 hreport
  | panicked hwriting hne hfail hlost panic =>
      exact iff_of_false Bool.false_ne_true fun hnot => hnot ⟨hwriting, hne, hfail, hlost⟩

/-- Before the first turn only the report of a trace that cannot be opened can be
lost. -/
theorem startSamplerLoop_isOk_iff (d : Diagnostics) (tracePath : Option String) :
    (startSamplerLoop d tracePath).isOk ↔ ¬d.ReportLost tracePath [] := by
  have hrow : ∀ k, ¬d.RowFails [] k := fun k hfails => by simpa using hfails.lt_length
  unfold startSamplerLoop Diagnostics.ReportLost
  cases tracePath with
  | none => simp
  | some path =>
      rcases openTraceWriter_spec d path with
        ⟨hopen, hok⟩ | ⟨hopen, hreport, line, hok⟩ | ⟨hopen, hlost, panic, herror⟩
      · simp [hok, hopen, hrow]
      · simp [hok, hopen, hreport]
      · simp [herror, hopen, hlost]

/-- The sampler thread survives exactly when no report is lost. -/
theorem runSamplerLoop_isOk_iff (d : Diagnostics) (tracePath : Option String)
    (ticks : List (Tick × Seconds)) :
    (runSamplerLoop d tracePath ticks).isOk ↔ ¬d.ReportLost tracePath (tickLists ticks) := by
  induction ticks using List.reverseRecOn with
  | nil =>
      rw [tickLists, List.map_nil, ← startSamplerLoop_isOk_iff, runSamplerLoop]
      cases startSamplerLoop d tracePath <;> rfl
  | append_singleton ticks tick ih =>
      have hlists : tickLists (ticks ++ [tick]) = tickLists ticks ++ [tick.1] := by simp
      rw [runSamplerLoop_snoc, hlists, d.reportLost_snoc, not_or, ← ih]
      cases hbefore : runSamplerLoop d tracePath ticks with
      | ok before =>
          have hinv := LoopInvariant.of_runSamplerLoop hbefore
          have hlength : before.turns = (tickLists ticks).length := by simp [hinv.turns_eq]
          rw [← hinv.writing_iff, ← hlength]
          have hspec := (before.turn_spec d tick).isOk_iff
          simpa [Except.bind] using hspec
      | error panic => simp [Except.bind]

/-- Without a failure the loop computes what the thread machine assumes of it. -/
theorem runSamplerLoop_loopRun {d : Diagnostics} {tracePath : Option String}
    {ticks : List (Tick × Seconds)} {run : LoopRun}
    (h : runSamplerLoop d tracePath ticks = .ok run)
    (hworks : tracePath.isSome → ¬d.OpenFails ∧ ∀ k, ¬d.RowFails (tickLists ticks) k) :
    run.state = (loopRun tracePath.isSome ticks).state ∧
      run.rows = (loopRun tracePath.isSome ticks).rows := by
  have hinv := LoopInvariant.of_runSamplerLoop h
  cases tracePath with
  | none => exact hinv.untraced rfl
  | some path => exact hinv.traced (hinv.writing_iff.mpr ⟨rfl, hworks rfl⟩)

/-! ## The record of a stopped sampler -/

/-- A thread that lives to be stopped reports the aggregate of what it sampled,
however the trace fared. -/
theorem stopSampler_of_ok {d : Diagnostics} {tracePath : Option String}
    {ticks : List (Tick × Seconds)} (elapsed : Seconds)
    (h : (runSamplerLoop d tracePath ticks).isOk) :
    stopSampler (runSamplerLoop d tracePath ticks) elapsed =
      aggregateRecord (tickLists ticks) elapsed := by
  cases hrun : runSamplerLoop d tracePath ticks with
  | ok run =>
      have hstate := (LoopInvariant.of_runSamplerLoop hrun).state_eq
      rw [stopSampler, hstate, ← SamplerState.intoRecord_absorbAll_eq]
      rfl
  | error panic =>
      rw [hrun] at h
      exact absurd h Bool.false_ne_true

/-- A thread that panicked reports nothing but the running time. -/
theorem stopSampler_of_error {d : Diagnostics} {tracePath : Option String}
    {ticks : List (Tick × Seconds)} (elapsed : Seconds)
    (h : ¬(runSamplerLoop d tracePath ticks).isOk) :
    stopSampler (runSamplerLoop d tracePath ticks) elapsed = { runningTime := elapsed } := by
  cases hrun : runSamplerLoop d tracePath ticks with
  | ok run =>
      rw [hrun] at h
      exact absurd rfl h
  | error panic => rfl

/-- An aggregate is the empty record exactly when no tick has a process. -/
theorem aggregateRecord_eq_default_iff (ticks : List Tick) (elapsed : Seconds) :
    ({ runningTime := elapsed } : BenchmarkRecord ℚ≥0) = aggregateRecord ticks elapsed ↔
      ∀ tick ∈ ticks, tick = [] := by
  unfold aggregateRecord
  by_cases hempty : ∀ tick ∈ ticks, tick = []
  · rw [if_pos hempty]
    exact iff_of_true rfl hempty
  · rw [if_neg hempty]
    refine iff_of_false ?_ hempty
    intro heq
    exact absurd (congrArg BenchmarkRecord.dataCollected heq) (by simp)

/-- Whatever fails and whenever, the record is the one of the same ticks with no
trace requested exactly when the first failure could be reported or nothing was
sampled. -/
theorem stopSampler_eq_untraced_iff (d : Diagnostics) (tracePath : Option String)
    (ticks : List (Tick × Seconds)) (elapsed : Seconds) :
    stopSampler (runSamplerLoop d tracePath ticks) elapsed =
        stopSampler (runSamplerLoop d none ticks) elapsed ↔
      ¬d.ReportLost tracePath (tickLists ticks) ∨ ∀ tick ∈ tickLists ticks, tick = [] := by
  have huntraced : (runSamplerLoop d none ticks).isOk :=
    (runSamplerLoop_isOk_iff d none ticks).mpr fun hlost => absurd hlost.1 (by simp)
  rw [stopSampler_of_ok elapsed huntraced, ← runSamplerLoop_isOk_iff]
  by_cases hok : (runSamplerLoop d tracePath ticks).isOk = true
  · rw [stopSampler_of_ok elapsed hok]
    exact iff_of_true rfl (Or.inl hok)
  · rw [stopSampler_of_error elapsed hok, aggregateRecord_eq_default_iff]
    exact ⟨Or.inr, fun h => h.resolve_left hok⟩

/-- A full disk that holds both the trace and a redirected stderr. -/
def fullDisk : Diagnostics where
  writeRow _ := .error "No space left on device (os error 28)"
  stderrAt _ := .error "No space left on device (os error 28)"

/-- On a full disk the first row costs the run all of its data. -/
theorem fullDisk_loses_data :
    ¬∀ (d : Diagnostics) (tracePath : Option String) (ticks : List (Tick × Seconds))
      (elapsed : Seconds),
      stopSampler (runSamplerLoop d tracePath ticks) elapsed =
        stopSampler (runSamplerLoop d none ticks) elapsed := by
  intro hall
  have hsame := hall fullDisk (some "trace.tsv")
    [([{ pid := 7, rssBytes := BoundedNat.clamp 4096 }], 1 / 2)] 1
  exact absurd (congrArg BenchmarkRecord.dataCollected hsame) (by decide +kernel)

end Tricord

import Tricord.Library.BufferedWriter
import Tricord.Record.Decoding
import Tricord.Run.Outputs
import Tricord.Sampler.Loop

/-!
# The trace file while it is being written

The trace is written through a buffered writer that is flushed after every row.
The operating system takes what it is offered in parts, interrupts or refuses
calls, and the program can be killed between any two of them.  This module relates
what is in the file at such a moment to the rows of the run.

Main results:

- Theorem {lit}`OnDisk.turn`: what one turn of the loop does to the file.
- Theorem {lit}`traceFile_recoverable`: whenever the run ends, the file is a cut off
  trace from which all acknowledged rows can be read back.
- Theorem {lit}`bufferedRun_refines`: the loop with the buffered writer is the loop
  with some answers of the diagnostic side.
-/

namespace Tricord

open BufferedWriter Delimited Outputs TextTable

/-! ## Writing through a buffer -/

/-- The capacity of a buffered writer that is not told otherwise. -/
def defaultBufSize : ℕ := 8 * 1024

/-- Write a line, the text and the line end one after the other. -/
def writeln (line : String) : WriterM Char Unit :=
  writePieces defaultBufSize [line.toList, ['\n']]

/-- The trace of the loop: a writer, or what was in the file when the writer had
been dropped. -/
inductive TraceSink
  | writing (w : Writer Char)
  | dropped (content : List Char)

/-- The locals of the sampler loop while it writes through a buffer. -/
structure BufferedRun where
  state : SamplerState := {}
  trace : TraceSink
  /-- The program has been killed. -/
  killed : Bool := false
  /-- History: the rows whose flush succeeded. -/
  acknowledged : List (TickRecord ℚ≥0) := []

/-- What is in the file. -/
def TraceSink.content : TraceSink → List Char
  | writing w => w.written
  | dropped content => content

section Loop

variable (fmt : FloatFormat ℚ≥0)

/-- Write a row and flush. -/
def appendRow (row : TickRecord ℚ≥0) : WriterM Char Unit := do
  writeln (row.toTsvRow fmt)
  flushBuf

namespace BufferedRun

/-- Go on without the writer. -/
def dropWriter (run : BufferedRun) (w : Writer Char) : BufferedRun :=
  { run with
    trace := .dropped (drop w).written
    killed := match flushBuf w with
      | .error .killed _ => true
      | _ => run.killed }

/-- Open the trace on a device that will give these answers. -/
def start (answers : List Answer) : BufferedRun :=
  match writeln traceTsvHeader { answers := answers } with
  | .ok () w => { trace := .writing w }
  | .error .failed w => dropWriter { trace := .dropped [] } w
  | .error .killed w => { trace := .writing w, killed := true }

/-- One turn of the loop on a sampled list. -/
def turn (run : BufferedRun) (tick : Tick × Seconds) : BufferedRun :=
  if run.killed then run
  else
    let state := run.state.absorb tick.1
    match run.trace with
    | .dropped _ => { run with state := state }
    | .writing w =>
        let (state, row) := state.tick tick.1 tick.2
        match row with
        | none => { run with state := state }
        | some row =>
            match appendRow fmt row w with
            | .ok () w =>
                { run with
                  state := state
                  trace := .writing w
                  acknowledged := run.acknowledged ++ [row] }
            | .error .failed w => dropWriter { run with state := state } w
            | .error .killed w =>
                { run with
                  state := state
                  trace := .writing w
                  killed := true }

/-- The end of the loop drops a writer that is still there. -/
def finish (run : BufferedRun) : BufferedRun :=
  match run.trace with
  | .writing w => if run.killed then run else run.dropWriter w
  | .dropped _ => run

end BufferedRun

/-- The loop on the lists it samples. -/
def bufferedRun (answers : List Answer) (ticks : List (Tick × Seconds)) : BufferedRun :=
  ticks.foldl (BufferedRun.turn fmt) (BufferedRun.start answers)

/-! ## What one turn can do -/

/-- The outcomes of one turn of the loop, with the answers that lead to them. -/
inductive BufferedTurn (fmt : FloatFormat ℚ≥0) (run : BufferedRun) (tick : Tick × Seconds) :
    BufferedRun → Prop
  | dead (hkilled : run.killed = true) : BufferedTurn fmt run tick run
  | untraced (hkilled : run.killed = false) (content : List Char)
      (htrace : run.trace = .dropped content) :
      BufferedTurn fmt run tick { run with state := run.state.absorb tick.1 }
  | empty (hkilled : run.killed = false) (w : Writer Char) (htrace : run.trace = .writing w)
      (hempty : tick.1 = []) : BufferedTurn fmt run tick run
  | wrote (hkilled : run.killed = false) (w w' : Writer Char) (row : TickRecord ℚ≥0)
      (htrace : run.trace = .writing w)
      (hrow : ((run.state.absorb tick.1).tick tick.1 tick.2).2 = some row)
      (happend : appendRow fmt row w = .ok () w') :
      BufferedTurn fmt run tick
        { run with
          state := ((run.state.absorb tick.1).tick tick.1 tick.2).1
          trace := .writing w'
          acknowledged := run.acknowledged ++ [row] }
  | gaveUp (hkilled : run.killed = false) (w w' : Writer Char) (row : TickRecord ℚ≥0)
      (htrace : run.trace = .writing w)
      (hrow : ((run.state.absorb tick.1).tick tick.1 tick.2).2 = some row)
      (happend : appendRow fmt row w = .error .failed w') :
      BufferedTurn fmt run tick
        (BufferedRun.dropWriter
          { run with state := ((run.state.absorb tick.1).tick tick.1 tick.2).1 } w')
  | killed (hkilled : run.killed = false) (w w' : Writer Char) (row : TickRecord ℚ≥0)
      (htrace : run.trace = .writing w)
      (hrow : ((run.state.absorb tick.1).tick tick.1 tick.2).2 = some row)
      (happend : appendRow fmt row w = .error .killed w') :
      BufferedTurn fmt run tick
        { run with
          state := ((run.state.absorb tick.1).tick tick.1 tick.2).1
          trace := .writing w'
          killed := true }

/-- Every turn is one of these cases. -/
theorem BufferedRun.turn_spec {fmt : FloatFormat ℚ≥0} (run : BufferedRun)
    (tick : Tick × Seconds) : BufferedTurn fmt run tick (run.turn fmt tick) := by
  unfold BufferedRun.turn
  by_cases hkilled : run.killed = true
  · rw [if_pos hkilled]
    exact .dead hkilled
  · rw [if_neg hkilled]
    rw [Bool.not_eq_true] at hkilled
    rcases run with ⟨state, trace, killed, acknowledged⟩
    cases trace with
    | dropped content => exact .untraced hkilled content rfl
    | writing w =>
        dsimp only
        by_cases hempty : tick.1 = []
        · rw [hempty]
          exact .empty hkilled w rfl hempty
        · rcases (state.absorb tick.1).tick_row hempty tick.2 with ⟨row, hrow, _⟩
          simp only [hrow]
          cases happend : appendRow fmt row w with
          | ok _ w' => exact .wrote hkilled w w' row rfl hrow happend
          | error stop w' =>
              cases stop with
              | failed => exact .gaveUp hkilled w w' row rfl hrow happend
              | killed => exact .killed hkilled w w' row rfl hrow happend

/-! ## Reading the file back -/

/-- Read the complete lines of a trace file by its header. -/
def readTraceFile (text : List Char) : Option (List (TickRecord String)) :=
  match completeLines text with
  | [] => some []
  | header :: lines => lines.mapM (readTraceRow header)

/-! ## Invariant -/

/-- The file and the writer against the rows of the run. -/
structure OnDisk (ticks : List (Tick × Seconds)) (run : BufferedRun) : Prop where
  acknowledged_initial : run.acknowledged <+: (traceRun ticks).rows
  content_initial : run.trace.content <+: (traceDocument fmt (traceRun ticks).rows).toList
  /-- Acknowledged rows are in the file, behind the header. -/
  kept : run.acknowledged ≠ [] →
    (traceDocument fmt run.acknowledged).toList <+: run.trace.content
  /-- The writer has been given the trace of all rows so far. -/
  writing : run.killed = false → ∀ w, run.trace = .writing w →
    run.acknowledged = (traceRun ticks).rows ∧ run.state = (traceRun ticks).state ∧
      w.accepted = (traceDocument fmt (traceRun ticks).rows).toList

variable {fmt}

/-- One more row is one more line at the end. -/
theorem toList_traceDocument_snoc (rows : List (TickRecord ℚ≥0)) (row : TickRecord ℚ≥0) :
    (traceDocument fmt (rows ++ [row])).toList =
      (traceDocument fmt rows).toList ++ [(row.toTsvRow fmt).toList, ['\n']].flatten := by
  rw [traceDocument, traceDocument, toList_terminated, toList_terminated, List.map_append,
    ← List.cons_append, List.map_append, List.flatten_append, List.append_assoc,
    List.map_singleton, List.map_singleton, List.flatten_singleton, List.flatten_cons,
    List.flatten_singleton]

/-- Fewer rows give an initial part of the document. -/
theorem traceDocument_initial {rows rows' : List (TickRecord ℚ≥0)} (h : rows <+: rows') :
    (traceDocument fmt rows).toList <+: (traceDocument fmt rows').toList := by
  rcases h with ⟨rest, rfl⟩
  rw [traceDocument, traceDocument, toList_terminated, toList_terminated, List.map_append,
    ← List.cons_append, List.map_append, List.flatten_append, ← List.append_assoc]
  exact List.prefix_append _ _

/-- What writing a row does. -/
theorem appendRow_appends (row : TickRecord ℚ≥0) (w : Writer Char) :
    Appends w [(row.toTsvRow fmt).toList, ['\n']].flatten (appendRow fmt row w) ∧
      ∀ w', appendRow fmt row w = .ok () w' →
        w'.written = w.accepted ++ [(row.toTsvRow fmt).toList, ['\n']].flatten :=
  writePieces_flush_appends (by decide) _ w

/-- A row that could not be written leaves a first part of itself at most. -/
theorem accepted_initial_of_error {row : TickRecord ℚ≥0} {rows : List (TickRecord ℚ≥0)}
    {w w' : Writer Char} {stop : Stop}
    (haccepted : w.accepted = (traceDocument fmt rows).toList)
    (h : appendRow fmt row w = .error stop w') :
    w.written <+: w'.written ∧
      w'.accepted <+: (traceDocument fmt (rows ++ [row])).toList := by
  have happends : Appends w [(row.toTsvRow fmt).toList, ['\n']].flatten (appendRow fmt row w) :=
    (appendRow_appends row w).1
  rw [h] at happends
  refine ⟨happends.written, ?_⟩
  rcases happends.part with ⟨part, hpart, hgiven⟩
  rw [show w'.accepted = w.accepted ++ part from hgiven, haccepted, toList_traceDocument_snoc]
  exact (List.prefix_append_right_inj _).mpr hpart

/-- Later rows do not disturb what is known of a trace that is not being written. -/
theorem OnDisk.later {ticks : List (Tick × Seconds)} {run run' : BufferedRun}
    (h : OnDisk fmt ticks run) (tick : Tick × Seconds)
    (hacknowledged : run'.acknowledged = run.acknowledged)
    (hgrows : run.trace.content <+: run'.trace.content)
    (hinitial : run'.trace.content <+:
      (traceDocument fmt (traceRun (ticks ++ [tick])).rows).toList)
    (hwriting : run'.killed = false → ∀ w, run'.trace ≠ .writing w) :
    OnDisk fmt (ticks ++ [tick]) run' where
  acknowledged_initial := by
    rw [hacknowledged]
    exact h.acknowledged_initial.trans (rows_initial_snoc ticks tick)
  content_initial := hinitial
  kept := by
    rw [hacknowledged]
    exact fun hne => (h.kept hne).trans hgrows
  writing hkilled w hw := absurd hw (hwriting hkilled w)

theorem toList_traceDocument_nil :
    (traceDocument fmt []).toList = [traceTsvHeader.toList, ['\n']].flatten := by
  rw [traceDocument, toList_terminated, String.toList_empty, List.nil_append, List.map_nil,
    List.map_singleton, List.flatten_singleton, List.flatten_cons, List.flatten_singleton]

/-- The header fits into the buffer, so writing it makes no call. -/
theorem writeln_header (fmt : FloatFormat ℚ≥0) (answers : List Answer) :
    writeln traceTsvHeader { answers := answers } =
      .ok () { answers, buffer := (traceDocument fmt []).toList } := by
  have hshort : traceTsvHeader.length + 1 < defaultBufSize := by
    rw [TickRecord.traceTsvHeader_eq, length_pushCells]
    decide +kernel
  have hfits : ([] : List Char).length + [traceTsvHeader.toList, ['\n']].flatten.length <
      defaultBufSize := by
    simpa [String.length_toList] using hshort
  rw [writeln, writePieces_of_fits (by exact hfits), List.nil_append, toList_traceDocument_nil]

/-- The writer starts with the header in its buffer. -/
theorem start_eq (fmt : FloatFormat ℚ≥0) (answers : List Answer) :
    BufferedRun.start answers =
      { trace := .writing { answers, buffer := (traceDocument fmt []).toList } } := by
  unfold BufferedRun.start
  rw [writeln_header fmt]

/-- Before the first turn nothing is on the disk. -/
theorem OnDisk.start (answers : List Answer) : OnDisk fmt [] (BufferedRun.start answers) := by
  rw [start_eq fmt]
  exact {
    acknowledged_initial := List.prefix_rfl
    content_initial := List.nil_prefix
    kept := fun hne => absurd rfl hne
    writing := by
      intro _ w hw
      cases hw
      refine ⟨rfl, rfl, ?_⟩
      rw [Writer.accepted, List.nil_append, traceRun, List.foldl_nil] }

/-- What one turn does to the file. -/
theorem OnDisk.turn {ticks : List (Tick × Seconds)} {run run' : BufferedRun}
    {tick : Tick × Seconds} (h : OnDisk fmt ticks run) (hturn : BufferedTurn fmt run tick run') :
    OnDisk fmt (ticks ++ [tick]) run' := by
  have hlater : run.trace.content <+:
      (traceDocument fmt (traceRun (ticks ++ [tick])).rows).toList :=
    h.content_initial.trans (traceDocument_initial (rows_initial_snoc ticks tick))
  cases hturn with
  | dead hkilled =>
      exact h.later tick rfl List.prefix_rfl hlater fun hlive => absurd hkilled (by simp [hlive])
  | untraced hkilled content htrace =>
      exact h.later tick rfl List.prefix_rfl hlater fun _ => by simp [htrace]
  | empty hkilled w htrace hempty =>
      rcases tick with ⟨snapshots, elapsed⟩
      subst hempty
      have hrows := rows_snoc_nil ticks elapsed
      exact {
        acknowledged_initial := hrows ▸ h.acknowledged_initial
        content_initial := hlater
        kept := h.kept
        writing := by
          intro hlive w' hw'
          rw [hrows, traceRun_snoc]
          exact h.writing hlive w' hw' }
  | wrote hkilled w w' row htrace hrow happend =>
      rcases h.writing hkilled w htrace with ⟨hacknowledged, hstate, haccepted⟩
      rw [hstate] at hrow
      have hrows : (traceRun (ticks ++ [tick])).rows = run.acknowledged ++ [row] := by
        rw [traceRun_snoc, TraceRun.rows_turn, hrow, hacknowledged]
        rfl
      have hwritten : w'.written =
          (traceDocument fmt (traceRun (ticks ++ [tick])).rows).toList := by
        rw [(appendRow_appends row w).2 w' happend, haccepted, hrows, hacknowledged,
          toList_traceDocument_snoc]
      have hgiven : w'.accepted = w.accepted ++ [(row.toTsvRow fmt).toList, ['\n']].flatten :=
        (appendRow_appends row w).1.whole () w' happend
      exact {
        acknowledged_initial := hrows ▸ List.prefix_rfl
        content_initial := hwritten ▸ List.prefix_rfl
        kept := fun _ => by
          rw [← hrows, ← hwritten]
          exact List.prefix_rfl
        writing := by
          intro _ w'' hw''
          cases hw''
          refine ⟨hrows.symm, ?_, ?_⟩
          · rw [traceRun_snoc, TraceRun.state_turn, hstate]
          · rw [hgiven, haccepted, hrows, hacknowledged, toList_traceDocument_snoc] }
  | gaveUp hkilled w w' row htrace hrow happend =>
      rcases h.writing hkilled w htrace with ⟨hacknowledged, hstate, haccepted⟩
      rcases accepted_initial_of_error haccepted happend with ⟨hgrew, hinitial⟩
      rw [hstate] at hrow
      have hrows : (traceRun (ticks ++ [tick])).rows = (traceRun ticks).rows ++ [row] := by
        rw [traceRun_snoc, TraceRun.rows_turn, hrow]
        rfl
      refine h.later tick rfl ?_ ?_ fun _ w'' hw'' => nomatch hw''
      · rw [htrace]
        exact hgrew.trans (drop_written w').1
      · rw [hrows]
        exact (drop_written w').2.trans hinitial
  | killed hkilled w w' row htrace hrow happend =>
      rcases h.writing hkilled w htrace with ⟨hacknowledged, hstate, haccepted⟩
      rcases accepted_initial_of_error haccepted happend with ⟨hgrew, hinitial⟩
      rw [hstate] at hrow
      have hrows : (traceRun (ticks ++ [tick])).rows = (traceRun ticks).rows ++ [row] := by
        rw [traceRun_snoc, TraceRun.rows_turn, hrow]
        rfl
      refine h.later tick rfl ?_ ?_ fun hlive => absurd hlive (by simp)
      · rw [htrace]
        exact hgrew
      · rw [hrows]
        exact (List.prefix_append _ _).trans hinitial

/-- Flushing at the end keeps the file an initial part of the document. -/
theorem OnDisk.finish {ticks : List (Tick × Seconds)} {run : BufferedRun}
    (h : OnDisk fmt ticks run) : OnDisk fmt ticks run.finish := by
  unfold BufferedRun.finish
  cases htrace : run.trace with
  | dropped content => exact h
  | writing w =>
      dsimp only
      split_ifs with hkilled
      · exact h
      · have haccepted := (h.writing (Bool.eq_false_iff.mpr hkilled) w htrace).2.2
        exact {
          acknowledged_initial := h.acknowledged_initial
          content_initial := haccepted ▸ (drop_written w).2
          kept := fun hne => by
            have hkept := h.kept hne
            rw [htrace] at hkept
            exact hkept.trans (drop_written w).1
          writing := fun _ w'' hw'' => nomatch hw'' }

/-- The last tick is one more turn. -/
theorem bufferedRun_snoc (answers : List Answer) (ticks : List (Tick × Seconds))
    (tick : Tick × Seconds) :
    bufferedRun fmt answers (ticks ++ [tick]) = (bufferedRun fmt answers ticks).turn fmt tick := by
  simp [bufferedRun]

/-- Any run leaves an initial part of the document on the disk. -/
theorem OnDisk.of_bufferedRun (answers : List Answer) (ticks : List (Tick × Seconds)) :
    OnDisk fmt ticks (bufferedRun fmt answers ticks) := by
  induction ticks using List.reverseRecOn with
  | nil =>
      rw [bufferedRun, List.foldl_nil]
      exact OnDisk.start answers
  | append_singleton ticks tick ih =>
      rw [bufferedRun_snoc]
      exact ih.turn (BufferedRun.turn_spec _ tick)

/-! ## What can be read back -/

/-- No line of the document contains a line feed. -/
theorem free_of_mem_traceLines (hnewline : fmt.FreeOf '\n') :
    ∀ (rows : List (TickRecord ℚ≥0)) (line : String),
      line ∈ traceTsvHeader :: rows.map (TickRecord.toTsvRow fmt) → Free '\n' line := by
  intro rows line hline
  rcases List.mem_cons.mp hline with rfl | hrow
  · rw [TickRecord.traceTsvHeader_eq]
    exact free_pushCells (by decide) (by decide +kernel)
  · rcases List.mem_map.mp hrow with ⟨row, _, rfl⟩
    rw [row.toTsvRow_eq]
    apply free_pushCells (by decide)
    intro cell hcell
    rcases List.mem_map.mp (show cell ∈ (row.columns fmt).map Prod.snd from hcell) with
      ⟨column, hcolumn, rfl⟩
    exact TickRecord.free_of_mem_columns hnewline (by decide) row column hcolumn

/-- From a trace that was cut off the first rows are read back, at least those that
were there before the cut. -/
theorem readTraceFile_of_initial (htab : fmt.FreeOf '\t') (hnewline : fmt.FreeOf '\n')
    (hplaceholder : fmt.NoPlaceholder) {rows kept : List (TickRecord ℚ≥0)} {text : List Char}
    (hcut : text <+: (traceDocument fmt rows).toList) (hinitial : kept <+: rows)
    (hkept : kept ≠ [] → (traceDocument fmt kept).toList <+: text) :
    ∃ k, kept.length ≤ k ∧
      readTraceFile text = some ((rows.take k).map (TickRecord.rendered fmt)) := by
  rcases exists_completeLines (free_of_mem_traceLines hnewline rows) hcut with
    ⟨k, hlines, hmost⟩
  have hread : ∀ rows : List (TickRecord ℚ≥0),
      (rows.map (TickRecord.toTsvRow fmt)).mapM (readTraceRow traceTsvHeader) =
        some (rows.map (TickRecord.rendered fmt)) := by
    intro rows
    induction rows with
    | nil => rfl
    | cons row rows ih =>
        rw [List.map_cons, List.mapM_cons, row.readTraceRow_toTsvRow htab hplaceholder, ih]
        rfl
  have henough : kept ≠ [] → kept.length + 1 ≤ k := by
    intro hne
    apply hmost
    · simpa using hinitial.length_le
    · rw [List.take_succ_cons, ← List.map_take, ← List.prefix_iff_eq_take.mp hinitial]
      exact hkept hne
  have hlength : kept.length ≤ k - 1 := by
    cases kept with
    | nil => exact Nat.zero_le _
    | cons row rows => exact Nat.le_sub_one_of_lt (henough (by simp))
  refine ⟨k - 1, hlength, ?_⟩
  unfold readTraceFile
  cases k with
  | zero =>
      rw [hlines]
      rfl
  | succ k =>
      rw [List.take_succ_cons, ← List.map_take] at hlines
      rw [hlines]
      exact hread (rows.take k)

/-- Whatever the device answers, and whether the loop has ended or the program was
killed at any moment of it: the file is a first part of the trace of the rows of
the run; reading it back gives the first of these rows, among them all whose
flush succeeded; while the trace is open these are all rows; and when they are
all rows, and not none, the file is complete. -/
theorem traceFile_recoverable (fmt : FloatFormat ℚ≥0) (htab : fmt.FreeOf '\t')
    (hnewline : fmt.FreeOf '\n') (hplaceholder : fmt.NoPlaceholder) (answers : List Answer)
    (ticks : List (Tick × Seconds)) :
    ∀ run ∈ [bufferedRun fmt answers ticks, (bufferedRun fmt answers ticks).finish],
      let rows := (traceRun ticks).rows
      run.trace.content <+: (traceDocument fmt rows).toList ∧
        run.acknowledged <+: rows ∧
        (∃ k, run.acknowledged.length ≤ k ∧
          readTraceFile run.trace.content =
            some ((rows.take k).map (TickRecord.rendered fmt))) ∧
        (run.killed = false → (∃ w, run.trace = .writing w) → run.acknowledged = rows) ∧
        (run.acknowledged = rows → rows ≠ [] →
          run.trace.content = (traceDocument fmt rows).toList) := by
  intro run hrun rows
  have hdisk : OnDisk fmt ticks run := by
    have hloop : OnDisk fmt ticks (bufferedRun fmt answers ticks) :=
      OnDisk.of_bufferedRun answers ticks
    rcases List.mem_cons.mp hrun with rfl | hfinished
    · exact hloop
    · rw [List.mem_singleton.mp hfinished]
      exact hloop.finish
  refine ⟨hdisk.content_initial, hdisk.acknowledged_initial, ?_, ?_, ?_⟩
  · exact readTraceFile_of_initial htab hnewline hplaceholder hdisk.content_initial
      hdisk.acknowledged_initial hdisk.kept
  · rintro hlive ⟨w, hw⟩
    exact (hdisk.writing hlive w hw).1
  · intro hall hne
    refine hdisk.content_initial.eq_of_length_le (List.IsPrefix.length_le ?_)
    have hkept := hdisk.kept
    rw [hall] at hkept
    exact hkept hne

/-- Exact non-negative rationals. -/
def exactNonnegFormat : FloatFormat ℚ≥0 :=
  exactFormat.comap NNRat.cast

/-- The device takes the header with a part of the first row, is interrupted, takes
the rest of that row, then five characters of the second one, and fails. -/
theorem traceFile_recoverable_torn :
    let ticks : List (Tick × Seconds) := [([{ pid := 7 }], 1), ([{ pid := 7 }], 2)]
    let run := bufferedRun exactNonnegFormat
      [.wrote 180, .interrupted, .wrote 900, .wrote 5, .failed, .failed] ticks
    let rows := (traceRun ticks).rows
    run.acknowledged.length = 1 ∧
      run.trace.content <+: (traceDocument exactNonnegFormat rows).toList ∧
      ∃ k, run.acknowledged.length ≤ k ∧
        readTraceFile run.trace.content =
          some ((rows.take k).map (TickRecord.rendered exactNonnegFormat)) := by
  intro ticks run rows
  have hrecoverable := traceFile_recoverable exactNonnegFormat
    ((exactFormat_freeOf (by decide) (by decide) (by decide)).comap _)
    ((exactFormat_freeOf (by decide) (by decide) (by decide)).comap _)
    (exactFormat_noPlaceholder.comap _)
    [.wrote 180, .interrupted, .wrote 900, .wrote 5, .failed, .failed] ticks run (by simp [run])
  exact ⟨by decide +kernel, hrecoverable.1, hrecoverable.2.2.1⟩

/-! ## The answers of the diagnostic side -/

/-- The answers of a run that gives up its trace at the row of the given tick. -/
def failingAt (n : ℕ) : Diagnostics where
  writeRow k := if k = n then .error "failed to write" else .ok ()

/-- Before the failing row, and behind it, rows are written. -/
theorem appendRow_failingAt {n k : ℕ} (h : k ≠ n) : (failingAt n).appendRow k = .ok () := by
  simp [Diagnostics.appendRow, failingAt, h]

/-- The loop with the writer against the loop with the answers. -/
structure Answered (path : String) (ticks : List (Tick × Seconds)) (run : BufferedRun) :
    Prop where
  writing : run.killed = false → ∀ w, run.trace = .writing w → ∀ n ≥ ticks.length,
    runSamplerLoop (failingAt n) (some path) ticks =
      .ok { state := run.state, writing := true, rows := run.acknowledged, turns := ticks.length }
  dropped : run.killed = false → ∀ content, run.trace = .dropped content →
    ∃ n loop, runSamplerLoop (failingAt n) (some path) ticks = .ok loop ∧
      loop.writing = false ∧ loop.state = run.state ∧ loop.rows = run.acknowledged

/-- A turn answers as the diagnostics of the loop do. -/
theorem Answered.turn {path : String} {ticks : List (Tick × Seconds)} {run run' : BufferedRun}
    {tick : Tick × Seconds} (h : Answered path ticks run)
    (hturn : BufferedTurn fmt run tick run') : Answered path (ticks ++ [tick]) run' := by
  have hlength : (ticks ++ [tick]).length = ticks.length + 1 := List.length_append
  cases hturn with
  | dead hkilled =>
      exact ⟨fun hlive => absurd hkilled (by simp [hlive]),
        fun hlive => absurd hkilled (by simp [hlive])⟩
  | untraced hkilled content htrace =>
      rcases h.dropped hkilled content htrace with ⟨n, loop, hloop, hwriting, hstate, hrows⟩
      refine ⟨fun _ w hw => ?_, fun _ _ _ => ?_⟩
      · exact nomatch htrace.symm.trans hw
      · refine ⟨n, { loop with
            state := loop.state.absorb tick.1
            turns := loop.turns + 1 }, ?_, hwriting, ?_, hrows⟩
        · rw [runSamplerLoop_snoc, hloop]
          simp [Except.bind, LoopRun.turn, hwriting]
        · rw [← hstate]
  | empty hkilled w htrace hempty =>
      refine ⟨fun _ _ _ n hn => ?_, fun _ _ hdropped => ?_⟩
      · rw [hlength] at hn ⊢
        rw [runSamplerLoop_snoc, h.writing hkilled w htrace n (by omega)]
        simp [Except.bind, LoopRun.turn, hempty]
      · exact nomatch htrace.symm.trans hdropped
  | wrote hkilled w w' row htrace hrow happend =>
      refine ⟨fun _ _ _ n hn => ?_, fun _ _ hdropped => nomatch hdropped⟩
      rw [hlength] at hn ⊢
      rw [runSamplerLoop_snoc, h.writing hkilled w htrace n (by omega)]
      simp [Except.bind, LoopRun.turn, hrow,
        appendRow_failingAt (show ticks.length ≠ n by omega)]
  | gaveUp hkilled w w' row htrace hrow happend =>
      refine ⟨fun _ _ hw => (nomatch hw), fun _ _ _ => ?_⟩
      -- The answers fail at this very row, and at no earlier one.
      have hfail : (failingAt ticks.length).appendRow ticks.length = .error "failed to write" := by
        simp [Diagnostics.appendRow, failingAt]
      refine ⟨ticks.length,
        { state := ((run.state.absorb tick.1).tick tick.1 tick.2).1
          writing := false
          rows := run.acknowledged
          reports := ["tricord: failed to write trace row: " ++ "failed to write"]
          turns := ticks.length + 1 }, ?_, rfl, rfl, rfl⟩
      rw [runSamplerLoop_snoc, h.writing hkilled w htrace _ (Nat.le_refl _)]
      simp only [Except.bind, LoopRun.turn, if_true, hrow, hfail]
      rfl
  | killed hkilled w w' row htrace hrow happend =>
      exact ⟨fun hlive => absurd hlive (by simp), fun hlive => absurd hlive (by simp)⟩

end Loop

end Tricord

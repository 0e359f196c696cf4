import Mathlib.Data.List.Basic
import Mathlib.Tactic.SplitIfs

/-!
# Buffered writers

A writer that collects small writes in a buffer of bounded capacity in front of a
device.  The device answers every call as it likes: it takes a part of what it is
offered, is interrupted, or fails.  When the answers run out the program is killed
before its next call, so that finite lists of answers stand for every moment at
which a program can be cut off.

Main results:

- Theorem {lit}`Appends.bind`: what operations do one after another.
- Theorem {lit}`writeAll_appends`: writing passes on what it is given, in order, all
  of it or a first part of it.
- Theorem {lit}`flush_appends`: after a flush that succeeds, nothing is held back.
-/

namespace BufferedWriter

/-! ## Devices -/

/-- How a device answers one call. -/
inductive Answer
  /-- It takes as many of the offered elements, at most all of them. -/
  | wrote (count : ℕ)
  | interrupted
  | failed
deriving DecidableEq

/-- Why an operation did not end well. -/
inductive Stop
  | failed
  /-- The program was killed before its next call. -/
  | killed
deriving DecidableEq

/-- A writer: the answers to come, what has reached the device and what is held
back. -/
structure Writer (α : Type) where
  answers : List Answer
  written : List α := []
  buffer : List α := []

/-- What the writer has been given and not lost. -/
def Writer.accepted {α : Type} (w : Writer α) : List α :=
  w.written ++ w.buffer

/-- Operations on a writer. -/
abbrev WriterM (α : Type) := EStateM Stop (Writer α)

/-- The state after an operation, however it ended. -/
def after {α β : Type} : EStateM.Result Stop (Writer α) β → Writer α
  | .ok _ w => w
  | .error _ w => w

section Operations

variable {α : Type}

/-- How the loop over the calls of the device ends. -/
structure Drained (α : Type) where
  stop : Option Stop
  answers : List Answer
  written : List α
  rest : List α

/-- Offer the data to the device until all of it is taken.  A call that takes
nothing is a failure. -/
def drain : List Answer → List α → List α → Drained α
  | answers, written, [] => { stop := none, answers, written, rest := [] }
  | [], written, data => { stop := some .killed, answers := [], written, rest := data }
  | .interrupted :: answers, written, data => drain answers written data
  | .failed :: answers, written, data =>
      { stop := some .failed, answers, written, rest := data }
  | .wrote count :: answers, written, data =>
      if count = 0 then { stop := some .failed, answers, written, rest := data }
      else drain answers (written ++ data.take count) (data.drop count)

/-- The result of a loop that leaves the given buffer. -/
def Drained.result (drained : Drained α) (buffer : List α) :
    EStateM.Result Stop (Writer α) Unit :=
  let w := { answers := drained.answers, written := drained.written, buffer }
  match drained.stop with
  | none => .ok () w
  | some stop => .error stop w

/-- Pass the buffer on; what the device does not take stays in it. -/
def flushBuf : WriterM α Unit := fun w =>
  let drained := drain w.answers w.written w.buffer
  drained.result drained.rest

/-- Write past the buffer. -/
def writeThrough (data : List α) : WriterM α Unit := fun w =>
  (drain w.answers w.written data).result w.buffer

/-- Put data into the buffer. -/
def hold (data : List α) : WriterM α Unit := fun w =>
  .ok () { w with buffer := w.buffer ++ data }

/-- Write all of the data: into the buffer if there is room, past the buffer if
there never is, and into the emptied buffer otherwise. -/
def writeAll (capacity : ℕ) (data : List α) : WriterM α Unit := fun w =>
  let spare := capacity - w.buffer.length
  if data.length < spare then hold data w
  else
    (do
      if data.length > spare then flushBuf
      if data.length ≥ capacity then writeThrough data else hold data : WriterM α Unit) w

/-- Write all of the pieces. -/
def writePieces (capacity : ℕ) : List (List α) → WriterM α Unit
  | [] => pure ()
  | piece :: pieces => do
      writeAll capacity piece
      writePieces capacity pieces

/-- Dropping a writer passes the buffer on and ignores failures. -/
def drop (w : Writer α) : Writer α :=
  after (flushBuf w)

end Operations

/-! ## What operations do -/

section Spec

variable {α β γ : Type}

/-- However it ended, the operation took a first part of the data, all of it if it
ended well, and nothing that had reached the device was lost. -/
structure Appends (w : Writer α) (data : List α) (result : EStateM.Result Stop (Writer α) β) :
    Prop where
  written : w.written <+: (after result).written
  part : ∃ part, part <+: data ∧ (after result).accepted = w.accepted ++ part
  whole : ∀ b w', result = .ok b w' → w'.accepted = w.accepted ++ data

/-- What has been written and what is left are together the bytes there were, nothing
written is taken back, and nothing is left unless the device stopped. -/
theorem drain_partition (answers : List Answer) (written data : List α) :
    (drain answers written data).written ++ (drain answers written data).rest =
        written ++ data ∧
      written <+: (drain answers written data).written ∧
      ((drain answers written data).stop = none → (drain answers written data).rest = []) := by
  induction answers generalizing written data with
  | nil => cases data <;> simp [drain]
  | cons answer answers ih =>
      cases data with
      | nil => simp [drain]
      | cons a data =>
          cases answer with
          | interrupted => exact ih written (a :: data)
          | failed => simp [drain]
          | wrote count =>
              simp only [drain]
              split_ifs with hcount
              · simp
              · rcases ih (written ++ (a :: data).take count) ((a :: data).drop count) with
                  ⟨hpartition, hgrew, hdone⟩
                refine ⟨?_, (List.prefix_append _ _).trans hgrew, hdone⟩
                rw [hpartition, List.append_assoc, List.take_append_drop]

/-- Sequencing takes the data of both operations. -/
theorem Appends.bind {w : Writer α} {x : WriterM α β} {f : β → WriterM α γ}
    {first second : List α} (hx : Appends w first (x w))
    (hf : ∀ b w', x w = .ok b w' → Appends w' second (f b w')) :
    Appends w (first ++ second) ((x >>= f) w) := by
  change Appends w (first ++ second) (EStateM.bind x f w)
  unfold EStateM.bind
  cases hresult : x w with
  | ok b w' =>
      rw [hresult] at hx
      have hnext := hf b w' hresult
      have hwhole := hx.whole b w' rfl
      rcases hnext.part with ⟨part, hpart, haccepted⟩
      exact {
        written := hx.written.trans hnext.written
        part := by
          refine ⟨first ++ part, (List.prefix_append_right_inj first).mpr hpart, ?_⟩
          rw [haccepted, hwhole, List.append_assoc]
        whole := by
          intro c w'' hc
          rw [hnext.whole c w'' hc, hwhole, List.append_assoc] }
  | error stop w' =>
      rw [hresult] at hx
      rcases hx.part with ⟨part, hpart, haccepted⟩
      exact {
        written := hx.written
        part := ⟨part, hpart.trans (List.prefix_append first second), haccepted⟩
        whole := by simp }

/-- After an operation that takes nothing. -/
theorem Appends.bind_nil {w : Writer α} {x : WriterM α β} {f : β → WriterM α γ} {data : List α}
    (hx : Appends w [] (x w)) (hf : ∀ b w', x w = .ok b w' → Appends w' data (f b w')) :
    Appends w data ((x >>= f) w) :=
  hx.bind hf

theorem Appends.pure (w : Writer α) (b : β) : Appends w [] ((pure b : WriterM α β) w) where
  written := List.prefix_rfl
  part := ⟨[], List.prefix_rfl, (List.append_nil _).symm⟩
  whole := by
    intro c w' hc
    cases hc
    exact (List.append_nil _).symm

/-- The writer after a drain has the drained answers and bytes, whatever the outcome. -/
theorem Drained.after_result (drained : Drained α) (buffer : List α) :
    after (drained.result buffer) =
      { answers := drained.answers, written := drained.written, buffer } := by
  unfold result
  cases drained.stop <;> rfl

/-- A drain succeeds only when the device did not stop it. -/
theorem Drained.result_eq_ok {drained : Drained α} {buffer : List α} {b : Unit} {w : Writer α}
    (h : drained.result buffer = .ok b w) :
    drained.stop = none ∧
      w = { answers := drained.answers, written := drained.written, buffer } := by
  unfold result at h
  cases hstop : drained.stop with
  | none =>
      simp only [hstop] at h
      cases h
      exact ⟨rfl, rfl⟩
  | some stop =>
      simp only [hstop] at h
      exact absurd h (by simp)

/-- A flush takes nothing in, and leaves nothing in the buffer when it succeeds. -/
theorem flush_appends (w : Writer α) :
    Appends w [] (flushBuf w) ∧ ∀ b w', flushBuf w = .ok b w' → w'.buffer = [] := by
  rcases drain_partition w.answers w.written w.buffer with ⟨hpartition, hgrew, hdone⟩
  have hafter := Drained.after_result (drain w.answers w.written w.buffer)
    (drain w.answers w.written w.buffer).rest
  constructor
  · constructor
    · rw [flushBuf, hafter]
      exact hgrew
    · refine ⟨[], List.prefix_rfl, ?_⟩
      rw [flushBuf, hafter, List.append_nil]
      exact hpartition
    · intro b w' hw'
      rw [(Drained.result_eq_ok hw').2, List.append_nil]
      exact hpartition
  · intro b w' hw'
    rcases Drained.result_eq_ok hw' with ⟨hstop, rfl⟩
    exact hdone hstop

/-- Writing past an empty buffer. -/
theorem writeThrough_appends {w : Writer α} (hbuffer : w.buffer = []) (data : List α) :
    Appends w data (writeThrough data w) := by
  rcases drain_partition w.answers w.written data with ⟨hpartition, hgrew, hdone⟩
  have hafter := Drained.after_result (drain w.answers w.written data) w.buffer
  constructor
  · rw [writeThrough, hafter]
    exact hgrew
  · rcases hgrew with ⟨part, hpart⟩
    refine ⟨part, ⟨(drain w.answers w.written data).rest, ?_⟩, ?_⟩
    · rw [← hpart, List.append_assoc] at hpartition
      exact List.append_cancel_left hpartition
    · rw [writeThrough, hafter, Writer.accepted, Writer.accepted, hbuffer, ← hpart,
        List.append_nil, List.append_nil]
  · intro b w' hw'
    rcases Drained.result_eq_ok hw' with ⟨hstop, rfl⟩
    rw [hdone hstop, List.append_nil] at hpartition
    rw [Writer.accepted, Writer.accepted, hpartition, hbuffer, List.append_nil, List.append_nil]

/-- Data put into the buffer is appended without a call. -/
theorem hold_appends (data : List α) (w : Writer α) : Appends w data (hold data w) where
  written := List.prefix_rfl
  part := ⟨data, List.prefix_rfl, (List.append_assoc _ _ _).symm⟩
  whole := by
    intro _ w' hw'
    cases hw'
    exact (List.append_assoc _ _ _).symm

/-- Writing passes on what it is given, in order. -/
theorem writeAll_appends {capacity : ℕ} (hcapacity : 0 < capacity) (data : List α)
    (w : Writer α) : Appends w data (writeAll capacity data w) := by
  unfold writeAll
  dsimp only
  split_ifs with hroom hflush hlarge hlarge
  · exact hold_appends data w
  · -- The buffer has been passed on, so writing past it keeps the order.
    have hflushed := flush_appends w
    refine Appends.bind_nil hflushed.1 fun _ w' hw' => ?_
    exact writeThrough_appends (hflushed.2 () w' hw') data
  · exact Appends.bind_nil (flush_appends w).1 fun _ w' _ => hold_appends data w'
  · -- Data that fits exactly and is not smaller than the capacity meets an empty buffer.
    have hbuffer : w.buffer = [] := by
      rw [← List.length_eq_zero_iff]
      omega
    exact writeThrough_appends hbuffer data
  · exact hold_appends data w

/-- Writing piece after piece appends them all. -/
theorem writePieces_appends {capacity : ℕ} (hcapacity : 0 < capacity)
    (pieces : List (List α)) (w : Writer α) :
    Appends w pieces.flatten (writePieces capacity pieces w) := by
  induction pieces generalizing w with
  | nil => exact Appends.pure w ()
  | cons piece pieces ih =>
      rw [writePieces, List.flatten_cons]
      exact Appends.bind (writeAll_appends hcapacity piece w) fun _ w' _ => ih w'

/-- Pieces that fit into the buffer are held there, and no call is made. -/
theorem writePieces_of_fits {capacity : ℕ} {pieces : List (List α)} {w : Writer α}
    (h : w.buffer.length + pieces.flatten.length < capacity) :
    writePieces capacity pieces w =
      .ok () { w with buffer := w.buffer ++ pieces.flatten } := by
  induction pieces generalizing w with
  | nil => simp [writePieces, pure, EStateM.pure]
  | cons piece pieces ih =>
      rw [List.flatten_cons, List.length_append] at h
      have hroom : piece.length < capacity - w.buffer.length := by omega
      have hhold : writeAll capacity piece w = .ok () { w with buffer := w.buffer ++ piece } := by
        simp only [writeAll, if_pos hroom]
        rfl
      change EStateM.bind (writeAll capacity piece) (fun _ => writePieces capacity pieces) w = _
      unfold EStateM.bind
      rw [hhold]
      dsimp only
      rw [ih (by rw [List.length_append]; omega), List.flatten_cons, List.append_assoc]

/-- Writing pieces and flushing; where that ends well the device has everything. -/
theorem writePieces_flush_appends {capacity : ℕ} (hcapacity : 0 < capacity)
    (pieces : List (List α)) (w : Writer α) :
    let result := (do
      writePieces capacity pieces
      flushBuf : WriterM α Unit) w
    Appends w pieces.flatten result ∧
      ∀ w', result = .ok () w' → w'.written = w.accepted ++ pieces.flatten := by
  intro result
  have happends : Appends w (pieces.flatten ++ []) result :=
    Appends.bind (writePieces_appends hcapacity pieces w) fun _ w' _ => (flush_appends w').1
  rw [List.append_nil] at happends
  refine ⟨happends, fun w' hw' => ?_⟩
  have hwhole := happends.whole () w' hw'
  have hbuffer : w'.buffer = [] := by
    change EStateM.bind _ _ w = _ at hw'
    unfold EStateM.bind at hw'
    cases hpieces : writePieces capacity pieces w with
    | ok _ between =>
        rw [hpieces] at hw'
        exact (flush_appends between).2 () w' hw'
    | error stop between =>
        rw [hpieces] at hw'
        exact absurd hw' (by simp)
  rwa [Writer.accepted, hbuffer, List.append_nil] at hwhole

/-- Dropping a writer loses nothing that has reached the device and adds nothing
that the writer was not given. -/
theorem drop_written (w : Writer α) :
    w.written <+: (drop w).written ∧ (drop w).written <+: w.accepted := by
  have happends := (flush_appends w).1
  rcases happends.part with ⟨part, hpart, haccepted⟩
  rw [List.prefix_nil.mp hpart, List.append_nil] at haccepted
  refine ⟨happends.written, ?_⟩
  rw [← haccepted]
  exact List.prefix_append _ _

end Spec

end BufferedWriter

import Tricord.Record.Format

/-!
# The clock rendering as an encoding

Whole seconds are written as a mixed-radix clock, hours, minutes and seconds,
after a day count past 24 hours.  This module defines one parser for all forms
of the clock and proves that it returns the seconds that were written.

Main results:

- Theorem {lit}`readHms_formatHms`: the parser inverts the rendering.
- Theorem {lit}`formatHms_faithful`: for every rational number of seconds, the
  shape of the clock and what it stands for.
-/

namespace Tricord

open BoundedNat Delimited

/-! ## Reading a clock -/

/-- Read hours, minutes and seconds. -/
def readClock (text : String) : Option ℕ :=
  match pieces ':' text with
  | [hh, mm, ss] => do
      let hours ← readNat hh
      let minutes ← readNat mm
      let seconds ← readNat ss
      some (hours * 3600 + minutes * 60 + seconds)
  | _ => none

/-- Read a clock with an optional day count in front. -/
def readHms (text : String) : Option ℕ :=
  match pieces ' ' text with
  | [clock] => readClock clock
  | [count, unit, clock] =>
      if unit = "day," ∨ unit = "days," then do
        let days ← readNat count
        let seconds ← readClock clock
        some (days * 86400 + seconds)
      else none
  | _ => none

/-! ## The clock -/

/-- Hours, minutes and seconds as the rendering puts them together. -/
def clockText (hh mm ss : ℕ) : String :=
  toString hh ++ ":" ++ padded 2 mm ++ ":" ++ padded 2 ss

/-- A clock is three numbers with colons between them. -/
theorem clockText_eq (hh mm ss : ℕ) :
    clockText hh mm ss = pushCells ':' (toString hh) [padded 2 mm, padded 2 ss] := by
  apply String.toList_inj.mp
  simp [clockText, pushCells]

/-- The three numbers of a clock are read back. -/
theorem readClock_clockText (hh mm ss : ℕ) :
    readClock (clockText hh mm ss) = some (hh * 3600 + mm * 60 + ss) := by
  have hpieces : pieces ':' (clockText hh mm ss) = [toString hh, padded 2 mm, padded 2 ss] := by
    rw [clockText_eq]
    apply pieces_pushCells
    simp only [List.forall_mem_cons]
    exact ⟨free_toString (by decide) hh, free_padded (by decide) 2 mm,
      free_padded (by decide) 2 ss, by simp⟩
  unfold readClock
  rw [hpieces]
  simp only [readNat_toString, readNat_padded, Option.bind_eq_bind, Option.bind_some]

/-- A clock has no space. -/
theorem free_clockText (hh mm ss : ℕ) : Free ' ' (clockText hh mm ss) := by
  rw [clockText_eq]
  apply free_pushCells (by decide)
  simp only [List.forall_mem_cons]
  exact ⟨free_toString (by decide) hh, free_padded (by decide) 2 mm,
    free_padded (by decide) 2 ss, by simp⟩

/-! ## The day count -/

/-- A text without a space is read as a clock alone. -/
theorem readHms_clock {clock : String} (hfree : Free ' ' clock) :
    readHms clock = readClock clock := by
  have hpieces : pieces ' ' (pushCells ' ' clock []) = [clock] :=
    pieces_pushCells (by simpa using hfree)
  rw [pushCells_nil] at hpieces
  simp [readHms, hpieces]

/-- A day count in front of a clock is read as whole days. -/
theorem readHms_days {clock unit : String} (hfree : Free ' ' clock)
    (hunit : unit = "day," ∨ unit = "days,") (days : ℕ) {seconds : ℕ}
    (hclock : readClock clock = some seconds) :
    readHms (pushCells ' ' (toString days) [unit, clock]) = some (days * 86400 + seconds) := by
  have hpieces : pieces ' ' (pushCells ' ' (toString days) [unit, clock]) =
      [toString days, unit, clock] := by
    apply pieces_pushCells
    simp only [List.forall_mem_cons]
    refine ⟨free_toString (by decide) days, ?_, hfree, by simp⟩
    rcases hunit with rfl | rfl <;> decide
  unfold readHms
  rw [hpieces]
  simp only [hunit, if_true, readNat_toString, hclock, Option.bind_eq_bind, Option.bind_some]

section Format

variable {F : Type} (fmt : FloatFormat F) (seconds : F)

/-- The rendering is a clock after a day count. -/
theorem formatHms_eq :
    let total := (fmt.wholeSeconds seconds).toNat
    let clock := clockText (total % 86400 / 3600) (total % 86400 % 3600 / 60) (total % 86400 % 60)
    formatHms fmt seconds =
      if total / 86400 = 0 then clock
      else if total / 86400 = 1 then "1 day, " ++ clock
      else toString (total / 86400) ++ " days, " ++ clock :=
  rfl

/-- Reading the rendering returns the seconds that were written. -/
theorem readHms_formatHms :
    readHms (formatHms fmt seconds) = some (fmt.wholeSeconds seconds).toNat := by
  rw [formatHms_eq]
  set total := (fmt.wholeSeconds seconds).toNat
  set clock := clockText (total % 86400 / 3600) (total % 86400 % 3600 / 60) (total % 86400 % 60)
  have hfree : Free ' ' clock := free_clockText _ _ _
  have hclock : readClock clock = some (total % 86400) := by
    rw [readClock_clockText, Option.some_inj]
    omega
  split_ifs with hnone hone
  · rw [readHms_clock hfree, hclock]
    exact congrArg some (by omega)
  · have htext : "1 day, " ++ clock = pushCells ' ' (toString 1) ["day,", clock] := by
      apply String.toList_inj.mp
      rw [show toString 1 = "1" from rfl]
      simp [pushCells]
    rw [htext]
    exact (readHms_days hfree (Or.inl rfl) 1 hclock).trans (congrArg some (by omega))
  · have htext : toString (total / 86400) ++ " days, " ++ clock =
        pushCells ' ' (toString (total / 86400)) ["days,", clock] := by
      apply String.toList_inj.mp
      simp [pushCells]
    rw [htext]
    exact (readHms_days hfree (Or.inr rfl) _ hclock).trans (congrArg some (by omega))

end Format

/-! ## Rational numbers of seconds -/

/-- The text is a clock of two-digit minutes and seconds, both below 60, after
unpadded hours below 24. -/
def IsClock (text : String) : Prop :=
  ∃ hours mm minutes ss seconds, text = toString hours ++ ":" ++ mm ++ ":" ++ ss ∧ hours < 24 ∧
    mm.length = 2 ∧ readNat mm = some minutes ∧ minutes < 60 ∧
    ss.length = 2 ∧ readNat ss = some seconds ∧ seconds < 60

/-- The day count in front of a clock: nothing for less than a day, and in the
plural except for a single day. -/
structure IsDayCount (count : String) (days : ℕ) : Prop where
  present_iff : count ≠ "" ↔ 1 ≤ days
  singular_iff : count = "1 day, " ↔ days = 1
  plural : 2 ≤ days → count = toString days ++ " days, "

/-- Hours, minutes and seconds within their ranges have the shape of a clock. -/
theorem isClock_clockText {hh mm ss : ℕ} (hhours : hh < 24) (hminutes : mm < 60)
    (hseconds : ss < 60) : IsClock (clockText hh mm ss) :=
  ⟨hh, padded 2 mm, mm, padded 2 ss, ss, rfl, hhours,
    length_padded (by decide) (by omega), readNat_padded 2 mm, hminutes,
    length_padded (by decide) (by omega), readNat_padded 2 ss, hseconds⟩

/-- Two days and more are written in the plural. -/
theorem isDayCount_plural {days : ℕ} (h : 2 ≤ days) :
    IsDayCount (toString days ++ " days, ") days := by
  have hlength : (toString days ++ " days, ").length = days.repr.length + 7 :=
    String.length_append _ _
  have hdigits : 0 < days.repr.length := Nat.length_repr_pos
  refine ⟨⟨fun _ => by omega, ?_⟩, ⟨?_, fun hone => by omega⟩, fun _ => rfl⟩
  · intro _ hempty
    rw [hempty, String.length_empty] at hlength
    omega
  · intro htext
    rw [htext, show "1 day, ".length = 7 from rfl] at hlength
    omega

/-- The rendering is a day count and a clock. -/
theorem formatHms_shape {F : Type} (fmt : FloatFormat F) (seconds : F) :
    ∃ count clock, formatHms fmt seconds = count ++ clock ∧
      IsDayCount count ((fmt.wholeSeconds seconds).toNat / 86400) ∧ IsClock clock ∧
      Free ' ' clock := by
  rw [formatHms_eq]
  set total := (fmt.wholeSeconds seconds).toNat
  set clock := clockText (total % 86400 / 3600) (total % 86400 % 3600 / 60) (total % 86400 % 60)
    with hclock
  have hshape : IsClock clock := by
    rw [hclock]
    exact isClock_clockText (by omega) (by omega) (by omega)
  have hfree : Free ' ' clock := free_clockText _ _ _
  split_ifs with hnone hone
  · exact ⟨"", clock, by simp, ⟨by simp [hnone], by simp [hnone], by omega⟩, hshape, hfree⟩
  · exact ⟨"1 day, ", clock, rfl, ⟨by simp [hone], by simp [hone], by omega⟩, hshape, hfree⟩
  · exact ⟨_, clock, rfl, isDayCount_plural (by omega), hshape, hfree⟩

/-- The clock stands for the floor of the value, between zero and the largest
{lit}`u64`. -/
theorem toNat_wholeSeconds (x : ℚ) : (exactFormat.wholeSeconds x).toNat = min ⌊x⌋₊ u64Max :=
  toNat_clamp ⌊x⌋₊

/-- Only the clamped whole seconds count. -/
theorem formatHms_congr {F : Type} (fmt : FloatFormat F) {x y : F}
    (h : (fmt.wholeSeconds x).toNat = (fmt.wholeSeconds y).toNat) :
    formatHms fmt x = formatHms fmt y := by
  unfold formatHms
  rw [h]

/-- The clock of a rational number of seconds is a faithful encoding of its floor:
one parser reads every form of it, the day count is present from a full day on
and singular for a single day, and two values have the same clock exactly when
they have the same floor. -/
theorem formatHms_faithful (x : ℚ) :
    let total := min ⌊x⌋₊ u64Max
    readHms (formatHms exactFormat x) = some total ∧
      (∃ count clock, formatHms exactFormat x = count ++ clock ∧
        IsDayCount count (total / 86400) ∧ IsClock clock ∧ Free ' ' clock) ∧
      ∀ y, formatHms exactFormat x = formatHms exactFormat y ↔ total = min ⌊y⌋₊ u64Max := by
  intro total
  have hread : ∀ y : ℚ, readHms (formatHms exactFormat y) = some (min ⌊y⌋₊ u64Max) := by
    intro y
    rw [readHms_formatHms, toNat_wholeSeconds]
  refine ⟨hread x, ?_, ?_⟩
  · have hshape := formatHms_shape exactFormat x
    rwa [toNat_wholeSeconds] at hshape
  · intro y
    constructor
    · intro htext
      exact Option.some_inj.mp ((hread x).symm.trans (htext ▸ hread y))
    · intro htotal
      apply formatHms_congr
      rw [toNat_wholeSeconds, toNat_wholeSeconds]
      exact htotal

example : readHms "1 day, 0:00:07" = some 86407 := by decide +kernel

end Tricord

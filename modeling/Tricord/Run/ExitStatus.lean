import Mathlib.Algebra.Order.Group.Nat
import Mathlib.Logic.Function.Iterate
import Mathlib.Tactic.SplitIfs

/-!
# Exit codes

The status of the child is one machine word.  Its low seven bits tell an exit from
the death by a signal, and eight further bits hold the code of an exit.  The command
turns the word into an exit code, and the program clamps that code to a byte.

Main results:

- Theorem {lit}`toInt_exitCodeFor`: the exit code of a status, in terms of its bits.
- Theorem {lit}`exitByte_spec`: no exit code is clamped, and measuring a program that
  measures a command does not change it.
-/

namespace Tricord

/-! ## The status word -/

/-- The status of a child as the system reports it. -/
structure ExitStatus where
  raw : Int32
deriving DecidableEq

namespace ExitStatus

/-- The child has exited. -/
def wifexited (status : ExitStatus) : Bool :=
  status.raw &&& 0x7f == 0

/-- The code that it exited with. -/
def wexitstatus (status : ExitStatus) : Int32 :=
  (status.raw >>> 8) &&& 0xff

/-- A signal killed the child. -/
def wifsignaled (status : ExitStatus) : Bool :=
  2 ≤ ((status.raw &&& 0x7f) + 1).toInt8

/-- The signal that killed it. -/
def wtermsig (status : ExitStatus) : Int32 :=
  status.raw &&& 0x7f

/-- The code of a child that has exited. -/
def code (status : ExitStatus) : Option Int32 :=
  if status.wifexited then some status.wexitstatus else none

/-- The signal that killed the child. -/
def signal (status : ExitStatus) : Option Int32 :=
  if status.wifsignaled then some status.wtermsig else none

end ExitStatus

/-! ## The exit code -/

/-- The code of the child if it exited, else 128 and the signal, else 1. -/
def exitCodeFor (status : ExitStatus) : Int32 :=
  match status.code with
  | some code => code
  | none =>
      match status.signal with
      | some sig => 128 + sig
      | none => 1

/-- A code as a byte, 1 for one that is none. -/
def clampExitCode (code : Int32) : UInt8 :=
  if 0 ≤ code.toInt ∧ code.toInt ≤ 255 then UInt8.ofNat code.toInt.toNat else 1

/-- The exit code of the program: without a command, after a run that ended with the
status of the child, and after one that failed. -/
def mainExitCode {E : Type} : Option (Except E ExitStatus) → UInt8
  | none => 2
  | some (.ok status) => clampExitCode (exitCodeFor status)
  | some (.error _) => 127

/-- The exit code after a run that ended. -/
def exitByte (status : ExitStatus) : UInt8 :=
  clampExitCode (exitCodeFor status)

/-! ## The bits of the word -/

namespace ExitStatus

/-- The low seven bits. -/
def low (status : ExitStatus) : ℕ :=
  status.raw.toBitVec.toNat % 128

/-- The eight bits above the lowest eight. -/
def high (status : ExitStatus) : ℕ :=
  status.raw.toBitVec.toNat / 256 % 256

/-- The low bits are a number below 128. -/
theorem low_lt (status : ExitStatus) : status.low < 128 :=
  Nat.mod_lt _ (by decide)

/-- The high bits are a byte. -/
theorem high_lt (status : ExitStatus) : status.high < 256 :=
  Nat.mod_lt _ (by decide)

end ExitStatus

/-- A word without its sign bit is a natural number. -/
theorem toInt_eq_toNat {n : Int32} (h : n.toBitVec.toNat < 2 ^ 31) :
    n.toInt = n.toBitVec.toNat := by
  rw [← Int32.toInt_toBitVec, BitVec.toInt_eq_toNat_cond]
  split <;> omega

/-- Which bits come in at the top of a shift does not show below. -/
theorem sshiftRight_and_byte (x : BitVec 32) :
    x.sshiftRight 8 &&& 255#32 = (x >>> 8) &&& 255#32 := by
  apply BitVec.eq_of_getLsbD_eq
  intro i hi
  by_cases hlow : i < 8
  · have hword : ¬32 ≤ i := by omega
    have hshift : 8 + i < 32 := by omega
    rw [BitVec.getLsbD_and, BitVec.getLsbD_and, BitVec.getLsbD_sshiftRight, if_pos hshift,
      BitVec.getLsbD_ushiftRight]
    simp [hword]
  · have hclear : (255#32).getLsbD i = false := by
      rw [BitVec.getLsbD_ofNat, Nat.testBit_lt_two_pow, Bool.and_false]
      calc
        255 < 2 ^ 8 := by decide
        _ ≤ 2 ^ i := Nat.pow_le_pow_right (by decide) (Nat.le_of_not_lt hlow)
    rw [BitVec.getLsbD_and, BitVec.getLsbD_and, hclear, Bool.and_false, Bool.and_false]

namespace ExitStatus

/-- The signal is in the low bits. -/
theorem toInt_wtermsig (status : ExitStatus) : status.wtermsig.toInt = status.low := by
  have hmask : (status.raw.toBitVec &&& 127#32).toNat = status.low := by
    rw [BitVec.toNat_and]
    exact Nat.and_two_pow_sub_one_eq_mod _ 7
  have hlow := status.low_lt
  rw [toInt_eq_toNat]
  · exact congrArg _ hmask
  · exact lt_of_eq_of_lt hmask (by omega)

/-- The code is in the high bits. -/
theorem toInt_wexitstatus (status : ExitStatus) : status.wexitstatus.toInt = status.high := by
  have hmask : (status.raw.toBitVec.sshiftRight 8 &&& 255#32).toNat = status.high := by
    rw [sshiftRight_and_byte, BitVec.toNat_and, BitVec.toNat_ushiftRight,
      Nat.shiftRight_eq_div_pow]
    exact Nat.and_two_pow_sub_one_eq_mod _ 8
  have hhigh := status.high_lt
  rw [toInt_eq_toNat]
  · exact congrArg _ hmask
  · exact lt_of_eq_of_lt hmask (by omega)

/-- A child has exited when its low bits are zero. -/
theorem wifexited_iff (status : ExitStatus) : status.wifexited = true ↔ status.low = 0 := by
  have hzero : status.wtermsig = 0 ↔ status.wtermsig.toInt = 0 := Int32.toInt_inj.symm
  rw [wifexited, beq_iff_eq]
  exact hzero.trans (by rw [toInt_wtermsig, Int.natCast_eq_zero])

/-- One more than the low bits is a signed byte of at least two, unless the low bits
are all clear or all set. -/
theorem wifsignaled_iff (status : ExitStatus) :
    status.wifsignaled = true ↔ status.low ≠ 0 ∧ status.low ≠ 127 := by
  have hlow := status.low_lt
  have hsum : (status.wtermsig + 1).toInt = status.low + 1 := by
    rw [Int32.toInt_add, toInt_wtermsig, show (1 : Int32).toInt = 1 from rfl, Int.bmod_def]
    split <;> omega
  have hbyte : (status.wtermsig + 1).toInt8.toInt =
      if status.low = 127 then -128 else (status.low : ℤ) + 1 := by
    rw [Int32.toInt_toInt8, hsum, Int.bmod_def]
    split <;> split <;> omega
  rw [wifsignaled, decide_eq_true_iff]
  change 2 ≤ (status.wtermsig + 1).toInt8 ↔ _
  rw [Int8.le_iff_toInt_le, hbyte, show (2 : Int8).toInt = 2 from rfl]
  split <;> omega

end ExitStatus

/-! ## The exit code of a status -/

/-- The exit code of a status, in terms of its bits. -/
def codeOf (status : ExitStatus) : ℕ :=
  if status.low = 0 then status.high
  else if status.low = 127 then 1
  else 128 + status.low

/-- The exit code is the one that the bits of the word give. -/
theorem toInt_exitCodeFor (status : ExitStatus) : (exitCodeFor status).toInt = codeOf status := by
  have hlow := status.low_lt
  unfold exitCodeFor ExitStatus.code ExitStatus.signal codeOf
  by_cases hexited : status.low = 0
  · rw [if_pos (status.wifexited_iff.mpr hexited), if_pos hexited]
    exact status.toInt_wexitstatus
  · rw [if_neg (mt status.wifexited_iff.mp hexited), if_neg hexited]
    by_cases hstopped : status.low = 127
    · rw [if_neg fun hsignal => (status.wifsignaled_iff.mp hsignal).2 hstopped, if_pos hstopped]
      rfl
    · rw [if_pos (status.wifsignaled_iff.mpr ⟨hexited, hstopped⟩), if_neg hstopped]
      change (128 + status.wtermsig).toInt = _
      rw [Int32.toInt_add, status.toInt_wtermsig, show (128 : Int32).toInt = 128 from rfl,
        Int.bmod_def]
      split <;> omega

/-- The exit code is always a byte. -/
theorem codeOf_lt (status : ExitStatus) : codeOf status < 256 := by
  have hlow := status.low_lt
  have hhigh := status.high_lt
  unfold codeOf
  split_ifs <;> omega

/-- No exit code has to be clamped. -/
theorem toNat_exitByte (status : ExitStatus) : (exitByte status).toNat = codeOf status := by
  have hcode := toInt_exitCodeFor status
  have hlt := codeOf_lt status
  rw [exitByte, clampExitCode, if_pos (by omega), hcode, Int.toNat_natCast, UInt8.toNat_ofNat']
  exact Nat.mod_eq_of_lt hlt

/-! ## Statuses by their kind -/

/-- The status of a child that exits with a byte. -/
def exited (code : UInt8) : ExitStatus where
  raw := Int32.ofNat (code.toNat * 256)

/-- The status of a child that is killed by a signal, with or without a core dump. -/
def killed (sig : ℕ) (core : Bool) : ExitStatus where
  raw := Int32.ofNat (sig + if core then 128 else 0)

/-- The word of a child that has exited is its code, shifted. -/
theorem toNat_raw_exited (code : UInt8) :
    (exited code).raw.toBitVec.toNat = code.toNat * 256 := by
  have hlt := code.toNat_lt
  change (BitVec.ofNat 32 (code.toNat * 256)).toNat = _
  rw [BitVec.toNat_ofNat, Nat.mod_eq_of_lt (by omega)]

/-- A child that has exited hands on its code. -/
theorem codeOf_exited (code : UInt8) : codeOf (exited code) = code.toNat := by
  have hlt := code.toNat_lt
  have hlow : (exited code).low = 0 := by
    rw [ExitStatus.low, toNat_raw_exited]
    omega
  rw [codeOf, if_pos hlow, ExitStatus.high, toNat_raw_exited]
  omega

/-- A child that was killed hands on 128 and the signal. -/
theorem codeOf_killed {sig : ℕ} (hpos : 0 < sig) (hlt : sig < 127) (core : Bool) :
    codeOf (killed sig core) = 128 + sig := by
  have hraw : (killed sig core).raw.toBitVec.toNat = sig + if core then 128 else 0 := by
    change (BitVec.ofNat 32 _).toNat = _
    rw [BitVec.toNat_ofNat, Nat.mod_eq_of_lt]
    split <;> omega
  have hlow : (killed sig core).low = sig := by
    rw [ExitStatus.low, hraw]
    split <;> omega
  rw [codeOf, hlow, if_neg (by omega), if_neg (by omega)]

/-- The status of a program that measured a child with this status. -/
def measured (status : ExitStatus) : ExitStatus :=
  exited (exitByte status)

/-- For every status word: the exit code is a byte before it is clamped; it is the
code of a child that exited and 128 and the signal of one that was killed; a program
that measures such programs, to any depth, exits with the same code as the innermost
one; and an exit and a death by a signal that end in the same code are those where
the code is 128 and the signal. -/
theorem exitByte_spec (status : ExitStatus) :
    ((exitByte status).toNat : ℤ) = (exitCodeFor status).toInt ∧
      (∀ code, exitByte (exited code) = code) ∧
      (∀ sig core, 0 < sig → sig < 127 → (exitByte (killed sig core)).toNat = 128 + sig) ∧
      (∀ n, exitByte (measured^[n] status) = exitByte status) ∧
      (∀ code sig core, 0 < sig → sig < 127 →
        (exitByte (exited code) = exitByte (killed sig core) ↔ code.toNat = 128 + sig)) := by
  have hexited : ∀ code, exitByte (exited code) = code := by
    intro code
    rw [← UInt8.toNat_inj, toNat_exitByte, codeOf_exited]
  have hkilled : ∀ sig core, 0 < sig → sig < 127 →
      (exitByte (killed sig core)).toNat = 128 + sig := by
    intro sig core hpos hlt
    rw [toNat_exitByte, codeOf_killed hpos hlt]
  refine ⟨?_, hexited, hkilled, ?_, ?_⟩
  · rw [toNat_exitByte, toInt_exitCodeFor]
  · intro n
    induction n with
    | zero => rfl
    | succ n ih => rw [Function.iterate_succ_apply', measured, hexited, ih]
  · intro code sig core hpos hlt
    rw [hexited, ← UInt8.toNat_inj, hkilled sig core hpos hlt]

end Tricord

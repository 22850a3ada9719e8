import Mathlib.Algebra.Order.Floor.Semifield
import Mathlib.Data.Rat.Floor
import Mathlib.Order.GaloisConnection.Basic
import Mathlib.Tactic.Ring
import Mathlib.Tactic.Common

/-!
# Counts in two units

A span of time is counted in two units, `a` and `b` of which make up the same
span. One count is converted to the other rounded up, and back rounded down.
The two conversions are adjoint; to the finer unit and back nothing is lost.
-/

namespace SyncAudio

variable {a b m n : Nat}

/-- `n` units of `a`, in units of `b`, rounded up. -/
def rescaleUp (a b n : Nat) : Nat := (n * b + a - 1) / a

/-- `m` units of `b`, in units of `a`, rounded down. -/
def rescaleDown (a b m : Nat) : Nat := m * a / b

theorem rescaleUp_le_iff (ha : 0 < a) : rescaleUp a b n ≤ m ↔ n * b ≤ m * a := by
  unfold rescaleUp
  rw [Nat.div_le_iff_le_mul_add_pred ha, Nat.mul_comm a m]
  omega

theorem le_rescaleDown_iff (hb : 0 < b) : n ≤ rescaleDown a b m ↔ n * b ≤ m * a :=
  Nat.le_div_iff_mul_le hb

theorem rescale_gc (ha : 0 < a) (hb : 0 < b) :
    GaloisConnection (rescaleUp a b) (rescaleDown a b) := by
  intro n m
  rw [rescaleUp_le_iff ha, le_rescaleDown_iff hb]

/-- The finer unit tells all counts of the coarser one apart. -/
theorem rescaleDown_rescaleUp (ha : 0 < a) (hab : a ≤ b) :
    rescaleDown a b (rescaleUp a b n) = n := by
  have hb : 0 < b := Nat.lt_of_lt_of_le ha hab
  apply Nat.le_antisymm
  · apply Nat.le_of_lt_succ
    apply (Nat.div_lt_iff_lt_mul hb).mpr
    calc rescaleUp a b n * a ≤ n * b + a - 1 := Nat.div_mul_le_self _ _
      _ < n * b + b := by omega
      _ = (n + 1) * b := by ring
  · exact (rescale_gc ha hb).le_u_l n

/-- Two spans that are rounded up apart are at least as long as their sum, and
less than one unit longer. -/
theorem rescaleUp_add_le (ha : 0 < a) :
    rescaleUp a b (m + n) ≤ rescaleUp a b m + rescaleUp a b n := by
  apply (rescaleUp_le_iff ha).mpr
  rw [Nat.add_mul, Nat.add_mul]
  exact Nat.add_le_add ((rescaleUp_le_iff ha).mp le_rfl) ((rescaleUp_le_iff ha).mp le_rfl)

theorem rescaleUp_add_rescaleUp_le (ha : 0 < a) :
    rescaleUp a b m + rescaleUp a b n ≤ rescaleUp a b (m + n) + 1 := by
  have hm : rescaleUp a b m * a ≤ m * b + a - 1 := Nat.div_mul_le_self _ _
  have hn : rescaleUp a b n * a ≤ n * b + a - 1 := Nat.div_mul_le_self _ _
  have hsum : (m + n) * b ≤ rescaleUp a b (m + n) * a := (rescaleUp_le_iff ha).mp le_rfl
  rw [Nat.add_mul] at hsum
  apply Nat.le_of_lt_succ
  apply Nat.lt_of_mul_lt_mul_right (a := a)
  calc (rescaleUp a b m + rescaleUp a b n) * a
      = rescaleUp a b m * a + rescaleUp a b n * a := Nat.add_mul _ _ _
    _ < rescaleUp a b (m + n) * a + 2 * a := by omega
    _ = (rescaleUp a b (m + n) + 1).succ * a := by
        rw [Nat.succ_eq_add_one]
        ring

/-- The quotient rounded up, as a ceiling of rational numbers. -/
theorem rescaleUp_eq_ceil (ha : 0 < a) : rescaleUp a b n = ⌈(n * b / a : ℚ)⌉₊ := by
  apply eq_of_forall_ge_iff
  intro m
  have hpos : (0 : ℚ) < a := by exact_mod_cast ha
  rw [rescaleUp_le_iff ha, Nat.ceil_le, div_le_iff₀ hpos]
  exact_mod_cast Iff.rfl

/-- The quotient rounded down, as a floor of rational numbers. -/
theorem rescaleDown_eq_floor : rescaleDown a b m = ⌊(m * a / b : ℚ)⌋₊ := by
  have hfloor : ⌊((m * a : Nat) / b : ℚ)⌋₊ = m * a / b := Nat.floor_div_eq_div (m * a) b
  rw [rescaleDown, ← hfloor, Nat.cast_mul]

end SyncAudio

import Mathlib.Algebra.Order.Floor.Ring
import Mathlib.Tactic.Linarith

/-!
# Rounding to the nearest integer

Halves are rounded away from zero, as the rounding functions of the C library do.
-/

namespace SyncAudio

variable {α : Type*} [Field α] [LinearOrder α] [FloorRing α]

/-- The nearest integer; of two, the one further from zero. -/
def lround (x : α) : Int := if 0 ≤ x then ⌊x + 1 / 2⌋ else -⌊-x + 1 / 2⌋

variable [IsStrictOrderedRing α]

theorem abs_lround_sub_le (x : α) : |(lround x : α) - x| ≤ 1 / 2 := by
  unfold lround
  split_ifs with hx
  · have hle := Int.floor_le (x + 1 / 2)
    have hlt := Int.lt_floor_add_one (x + 1 / 2)
    exact abs_le.mpr ⟨by linarith, by linarith⟩
  · have hle := Int.floor_le (-x + 1 / 2)
    have hlt := Int.lt_floor_add_one (-x + 1 / 2)
    push_cast
    exact abs_le.mpr ⟨by linarith, by linarith⟩

/-- Rounding stays between integer bounds. -/
theorem lround_mem {x : α} {low high : Int} (hlow : (low : α) ≤ x) (hhigh : x ≤ high) :
    low ≤ lround x ∧ lround x ≤ high := by
  have hnear := abs_le.mp (abs_lround_sub_le x)
  constructor
  · have hlt : (low : α) < lround x + 1 := by linarith [hnear.1]
    exact Int.lt_add_one_iff.mp (by exact_mod_cast hlt)
  · have hlt : (lround x : α) < high + 1 := by linarith [hnear.2]
    exact Int.lt_add_one_iff.mp (by exact_mod_cast hlt)

theorem abs_lround_le {x : α} {bound : Int} (h : |x| ≤ bound) : |lround x| ≤ bound := by
  obtain ⟨hlow, hhigh⟩ := abs_le.mp h
  exact abs_le.mpr (lround_mem (by exact_mod_cast hlow) hhigh)

@[simp] theorem lround_intCast (n : Int) : lround (n : α) = n := by
  obtain ⟨hlow, hhigh⟩ := lround_mem (le_refl (n : α)) (le_refl (n : α))
  exact Int.le_antisymm hhigh hlow

end SyncAudio

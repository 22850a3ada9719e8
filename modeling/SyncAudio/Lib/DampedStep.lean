import Mathlib.Algebra.Order.Field.Basic
import Mathlib.Logic.Function.Iterate
import Mathlib.Tactic.Linarith
import Mathlib.Tactic.Ring

/-!
# Damped corrections

A quantity is corrected towards a target again and again. A damped correction
pulls it to the target, and never past it. The target is then the only point that
stays, and every step elsewhere brings the quantity strictly nearer.
-/

namespace SyncAudio

variable {K : Type*} [Field K] [LinearOrder K] [IsStrictOrderedRing K]

/-- What is taken away has the direction of the distance and is not larger. -/
structure Damped (correction : K → K) (target : K) : Prop where
  rest : correction target = 0
  above : ∀ x, target < x → 0 < correction x ∧ correction x ≤ x - target
  below : ∀ x, x < target → x - target ≤ correction x ∧ correction x < 0

namespace Damped

variable {correction : K → K} {target x : K}

/-- One step. -/
def next (correction : K → K) (x : K) : K := x - correction x

/-- A step stays on its side of the target. -/
theorem not_past (h : Damped correction target) (x : K) :
    (target ≤ x → target ≤ next correction x) ∧ (x ≤ target → next correction x ≤ target) := by
  unfold next
  constructor
  · intro hle
    rcases hle.eq_or_lt with rfl | hlt
    · rw [h.rest, sub_zero]
    · have habove := (h.above x hlt).2
      linarith
  · intro hle
    rcases hle.eq_or_lt with rfl | hlt
    · rw [h.rest, sub_zero]
    · have hbelow := (h.below x hlt).1
      linarith

/-- A step from anywhere else brings the quantity strictly nearer. -/
theorem dist_lt (h : Damped correction target) (hne : x ≠ target) :
    |next correction x - target| < |x - target| := by
  rcases lt_or_gt_of_ne hne with hlt | hgt
  · obtain ⟨-, hpull⟩ := h.below x hlt
    have hside := (h.not_past x).2 hlt.le
    rw [abs_of_nonpos (sub_nonpos.mpr hside), abs_of_neg (sub_neg.mpr hlt)]
    unfold next
    linarith
  · obtain ⟨hpull, -⟩ := h.above x hgt
    have hside := (h.not_past x).1 hgt.le
    rw [abs_of_nonneg (sub_nonneg.mpr hside), abs_of_pos (sub_pos.mpr hgt)]
    unfold next
    linarith

omit [IsStrictOrderedRing K] in
theorem next_target (h : Damped correction target) : next correction target = target := by
  rw [next, h.rest, sub_zero]

/-- No step leads away. -/
theorem dist_le (h : Damped correction target) (x : K) :
    |next correction x - target| ≤ |x - target| := by
  by_cases hne : x = target
  · rw [hne, h.next_target]
  · exact (h.dist_lt hne).le

/-- The target is the only point that stays. -/
theorem fixed_iff (h : Damped correction target) : next correction x = x ↔ x = target := by
  constructor
  · intro hfixed
    by_contra hne
    have hlt := h.dist_lt hne
    rw [hfixed] at hlt
    exact lt_irrefl _ hlt
  · rintro rfl
    exact h.next_target

end Damped

section Saturated

variable {gain low high offset slope target x : K}

/-- A value that is clamped to a range around a point of it keeps its side. -/
theorem clamp_above (low : K) (hhigh : offset + slope * target < high)
    (hslope : 0 < slope) (hlt : target < x) :
    offset + slope * target < max low (min (offset + slope * x) high) := by
  apply lt_max_of_lt_right
  apply lt_min _ hhigh
  have hrise := mul_lt_mul_of_pos_left hlt hslope
  linarith

theorem clamp_below (high : K) (hlow : low < offset + slope * target)
    (hslope : 0 < slope) (hlt : x < target) :
    max low (min (offset + slope * x) high) < offset + slope * target := by
  apply max_lt hlow
  apply min_lt_of_left_lt
  have hfall := mul_lt_mul_of_pos_left hlt hslope
  linarith

/-- A proportional correction that saturates is damped, if it rests inside its
range and its gain is at most one. -/
theorem damped_clamp (hlow : low < offset + slope * target) (hhigh : offset + slope * target < high)
    (hgain : 0 < gain) (hslope : 0 < slope) (hone : gain * slope ≤ 1) :
    Damped (fun x => gain *
      (max low (min (offset + slope * x) high) - (offset + slope * target))) target where
  rest := by
    rw [min_eq_left hhigh.le, max_eq_right hlow.le, sub_self, mul_zero]
  above := fun x hlt => by
    have hside := clamp_above low hhigh hslope hlt
    constructor
    · exact mul_pos hgain (sub_pos.mpr hside)
    · have hclamp : max low (min (offset + slope * x) high) ≤ offset + slope * x := by
        apply max_le _ (min_le_left _ _)
        have hrise := mul_lt_mul_of_pos_left hlt hslope
        linarith
      have hdistance := sub_pos.mpr hlt
      calc gain * (max low (min (offset + slope * x) high) - (offset + slope * target))
          ≤ gain * (slope * (x - target)) := by
            apply mul_le_mul_of_nonneg_left _ hgain.le
            linarith
        _ = gain * slope * (x - target) := by ring
        _ ≤ x - target := mul_le_of_le_one_left hdistance.le hone
  below := fun x hlt => by
    have hside := clamp_below high hlow hslope hlt
    constructor
    · have hclamp : offset + slope * x ≤ max low (min (offset + slope * x) high) := by
        apply le_max_of_le_right
        apply le_min le_rfl
        have hfall := mul_lt_mul_of_pos_left hlt hslope
        linarith
      have hdistance := sub_neg.mpr hlt
      calc x - target ≤ gain * slope * (x - target) :=
            le_mul_of_le_one_left hdistance.le hone
        _ = gain * (slope * (x - target)) := by ring
        _ ≤ gain * (max low (min (offset + slope * x) high) - (offset + slope * target)) := by
            apply mul_le_mul_of_nonneg_left _ hgain.le
            linarith
    · exact mul_neg_of_pos_of_neg hgain (sub_neg.mpr hside)

end Saturated

end SyncAudio

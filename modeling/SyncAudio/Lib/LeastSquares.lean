import Mathlib.Algebra.BigOperators.Ring.List
import Mathlib.Algebra.Order.BigOperators.Group.List
import Mathlib.Algebra.Order.Field.Basic
import Mathlib.Tactic.FieldSimp
import Mathlib.Tactic.Positivity
import Mathlib.Tactic.Ring

/-!
# The regression line

The sums a least-squares fit is computed from. For points that lie on one line
the fit is that line.
-/

namespace SyncAudio.LeastSquares

variable {ι K : Type*} [Field K]

/-- The mean of a quantity over some observations. -/
def mean (f : ι → K) (observations : List ι) : K :=
  (observations.map f).sum / observations.length

/-- The sum of the products of two deviations. -/
def covariance (f g : ι → K) (observations : List ι) : K :=
  (observations.map fun i => (f i - mean f observations) * (g i - mean g observations)).sum

/-- The sum of the squared deviations. -/
def variance (f : ι → K) (observations : List ι) : K := covariance f f observations

variable {f g : ι → K} {observations : List ι} {intercept slope : K}

/-- The mean point of a line lies on it. -/
theorem mean_line [CharZero K] (hne : observations ≠ [])
    (hline : ∀ i ∈ observations, g i = intercept + slope * f i) :
    mean g observations = intercept + slope * mean f observations := by
  have hlength : (observations.length : K) ≠ 0 :=
    Nat.cast_ne_zero.mpr (List.length_pos_of_ne_nil hne).ne'
  have hmap : observations.map g = observations.map fun i => intercept + slope * f i :=
    List.map_congr_left hline
  have hsum : (observations.map g).sum =
      observations.length * intercept + slope * (observations.map f).sum := by
    rw [hmap, List.sum_map_add, List.sum_map_mul_left, List.map_const', List.sum_replicate,
      nsmul_eq_mul]
  unfold mean
  rw [hsum]
  field_simp

/-- On a line the deviations are proportional. -/
theorem covariance_line [CharZero K] (hline : ∀ i ∈ observations, g i = intercept + slope * f i) :
    covariance f g observations = slope * variance f observations := by
  by_cases hne : observations = []
  · subst hne
    simp [variance, covariance]
  · unfold variance covariance
    rw [← List.sum_map_mul_left]
    congr 1
    apply List.map_congr_left
    intro i hi
    rw [mean_line hne hline, hline i hi]
    ring

variable [LinearOrder K] [IsStrictOrderedRing K]

/-- Two different values have deviations. -/
theorem variance_pos {i j : ι} (hi : i ∈ observations) (hj : j ∈ observations)
    (hij : f i ≠ f j) : 0 < variance f observations := by
  have hnonneg : ∀ x ∈ observations.map fun i =>
      (f i - mean f observations) * (f i - mean f observations), 0 ≤ x := by
    intro x hx
    obtain ⟨k, -, rfl⟩ := List.mem_map.mp hx
    exact mul_self_nonneg _
  have hle : ∀ k ∈ observations,
      (f k - mean f observations) * (f k - mean f observations) ≤ variance f observations :=
    fun k hk => List.single_le_sum hnonneg _ (List.mem_map.mpr ⟨k, hk, rfl⟩)
  by_cases hmean : f i = mean f observations
  · have hother : f j - mean f observations ≠ 0 := by
      rw [← hmean]
      exact sub_ne_zero.mpr hij.symm
    exact lt_of_lt_of_le (mul_self_pos.mpr hother) (hle j hj)
  · exact lt_of_lt_of_le (mul_self_pos.mpr (sub_ne_zero.mpr hmean)) (hle i hi)

end SyncAudio.LeastSquares

import Mathlib.Algebra.BigOperators.Group.Finset.Piecewise
import Mathlib.Algebra.Order.BigOperators.Group.Finset
import Mathlib.Algebra.Order.Ring.Nat
import Mathlib.Tactic.SplitIfs

/-!
# Coverage of a window

Half-open intervals of natural numbers lie over a window. The overlaps of the
intervals with the window add up to the covered positions, each counted once for
every interval over it. The sum is the number of covered positions exactly when
no position is covered twice.
-/

namespace SyncAudio.Coverage

variable {α : Type*} (first last : α → Nat)

/-- The intervals over a position. -/
def multiplicity (xs : List α) (n : Nat) : Nat := xs.countP fun a => first a ≤ n ∧ n < last a

/-- The positions of a window that an interval is over. -/
def overlap (start count : Nat) (a : α) : Nat := min (start + count) (last a) - max start (first a)

/-- The positions of a window that some interval is over. -/
def covered (xs : List α) (start count : Nat) : Nat :=
  ((Finset.range count).filter fun i => 0 < multiplicity first last xs (start + i)).card

variable {first last}

theorem multiplicity_pos_iff {xs : List α} {n : Nat} :
    0 < multiplicity first last xs n ↔ ∃ a ∈ xs, first a ≤ n ∧ n < last a := by
  unfold multiplicity
  rw [List.countP_pos_iff]
  simp only [decide_eq_true_eq]

theorem overlap_eq_sum (start count : Nat) (a : α) :
    overlap first last start count a =
      ∑ i ∈ Finset.range count, if first a ≤ start + i ∧ start + i < last a then 1 else 0 := by
  induction count with
  | zero =>
      unfold overlap
      rw [Finset.sum_range_zero]
      omega
  | succ count ih =>
      rw [Finset.sum_range_succ, ← ih]
      unfold overlap
      split_ifs with hover
      · omega
      · omega

/-- The overlaps add up to the positions, counted with their multiplicity. -/
theorem sum_overlap (xs : List α) (start count : Nat) :
    (xs.map (overlap first last start count)).sum =
      ∑ i ∈ Finset.range count, multiplicity first last xs (start + i) := by
  induction xs with
  | nil => exact (Finset.sum_eq_zero fun _ _ => rfl).symm
  | cons a xs ih =>
      rw [List.map_cons, List.sum_cons, ih, overlap_eq_sum, ← Finset.sum_add_distrib]
      apply Finset.sum_congr rfl
      intro i _
      unfold multiplicity
      rw [List.countP_cons, Nat.add_comm]
      simp only [decide_eq_true_eq]

theorem covered_eq_sum (xs : List α) (start count : Nat) :
    covered first last xs start count =
      ∑ i ∈ Finset.range count, if 0 < multiplicity first last xs (start + i) then 1 else 0 :=
  Finset.card_filter _ _

theorem ite_pos_le (m : Nat) : (if 0 < m then 1 else 0) ≤ m := by
  split_ifs with hpos
  · exact hpos
  · exact Nat.zero_le m

theorem covered_le (xs : List α) (start count : Nat) :
    covered first last xs start count ≤ count := by
  calc covered first last xs start count
      ≤ (Finset.range count).card := Finset.card_filter_le _ _
    _ = count := Finset.card_range count

/-- The overlaps count no position twice if and only if none is covered twice. -/
theorem sum_overlap_eq_covered_iff (xs : List α) (start count : Nat) :
    (xs.map (overlap first last start count)).sum = covered first last xs start count ↔
      ∀ i < count, multiplicity first last xs (start + i) ≤ 1 := by
  rw [covered_eq_sum, sum_overlap, eq_comm, Finset.sum_eq_sum_iff_of_le fun i _ => ite_pos_le _]
  constructor
  · intro h i hi
    have hone := h i (Finset.mem_range.mpr hi)
    split_ifs at hone <;> omega
  · intro h i hi
    have hone := h i (Finset.mem_range.mp hi)
    split_ifs <;> omega

/-- When no interval reaches behind `bound`, the positions below it that no interval
is over are the ones that the coverage leaves. -/
theorem card_uncovered {xs : List α} {bound : Nat} (hbound : ∀ a ∈ xs, last a ≤ bound)
    (start count : Nat) :
    ((Finset.range count).filter fun i =>
        start + i < bound ∧ ¬ 0 < multiplicity first last xs (start + i)).card =
      min count (bound - start) - covered first last xs start count := by
  have hknown : ((Finset.range count).filter fun i => start + i < bound).card =
      min count (bound - start) := by
    rw [show ((Finset.range count).filter fun i => start + i < bound) =
        Finset.range (min count (bound - start)) by
      ext i
      simp only [Finset.mem_filter, Finset.mem_range]
      omega]
    exact Finset.card_range _
  have hsplit := Finset.card_filter_add_card_filter_not (s := (Finset.range count).filter fun i =>
    start + i < bound) fun i => 0 < multiplicity first last xs (start + i)
  rw [Finset.filter_filter, Finset.filter_filter, hknown] at hsplit
  have hcovered : ((Finset.range count).filter fun i =>
      start + i < bound ∧ 0 < multiplicity first last xs (start + i)).card =
      covered first last xs start count := by
    unfold covered
    congr 1
    apply Finset.filter_congr
    intro i _
    constructor
    · exact fun h => h.2
    · intro hpos
      obtain ⟨a, ha, -, hlast⟩ := multiplicity_pos_iff.mp hpos
      exact ⟨hlast.trans_le (hbound a ha), hpos⟩
  omega

end SyncAudio.Coverage

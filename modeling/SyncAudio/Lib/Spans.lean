import Mathlib.Algebra.BigOperators.Group.List.Basic
import Mathlib.Algebra.Order.Ring.Nat
import Mathlib.Data.List.Induction
import Mathlib.Tactic.Common

/-!
# Consecutive spans

Items of some sizes are laid out one behind the other. Every position in front of their
end lies in exactly one of them.
-/

namespace SyncAudio.Spans

variable {α : Type*} (size : α → Nat)

/-- The sizes of all items together. -/
def total (items : List α) : Nat := (items.map size).sum

variable {size} {items : List α} {item other : α} {i j position : Nat}

@[simp] theorem total_nil : total size [] = 0 := rfl

@[simp] theorem total_append (items : List α) (item : α) :
    total size (items ++ [item]) = total size items + size item := by
  unfold total
  rw [List.map_append, List.sum_append, List.map_singleton, List.sum_singleton]

theorem total_take_succ (h : items[i]? = some item) :
    total size (items.take (i + 1)) = total size (items.take i) + size item := by
  rw [List.take_add_one, h, Option.toList_some, total_append]

theorem total_take_mono (h : i ≤ j) : total size (items.take i) ≤ total size (items.take j) := by
  induction h with
  | refl => exact Nat.le_refl _
  | @step j _ ih =>
      cases hitem : items[j]? with
      | none => rwa [List.take_add_one, hitem, Option.toList_none, List.append_nil]
      | some item =>
          rw [total_take_succ hitem]
          exact Nat.le_trans ih (Nat.le_add_right _ _)

variable (size) in
/-- The position lies in the item with a number. -/
def Within (items : List α) (position i : Nat) : Prop :=
  ∃ item, items[i]? = some item ∧ total size (items.take i) ≤ position ∧
    position < total size (items.take i) + size item

theorem Within.le (hi : Within size items position i) (hj : Within size items position j) :
    j ≤ i := by
  obtain ⟨item, hitem, -, hend⟩ := hi
  obtain ⟨other, -, hstart, -⟩ := hj
  by_contra hlt
  have hmono := @total_take_mono α size items (i + 1) j (Nat.succ_le_of_lt (Nat.not_le.mp hlt))
  rw [total_take_succ hitem] at hmono
  omega

/-- Every position in front of the end is in exactly one item. -/
theorem existsUnique_within (h : position < total size items) :
    ∃! i, Within size items position i := by
  have hexists : ∃ i, Within size items position i := by
    induction items using List.reverseRecOn with
    | nil => exact absurd h (Nat.not_lt_zero _)
    | append_singleton items item ih =>
        rw [total_append] at h
        by_cases hbefore : position < total size items
        · obtain ⟨i, other, hother, hstart, hend⟩ := ih hbefore
          obtain ⟨hi, -⟩ := List.getElem?_eq_some_iff.mp hother
          refine ⟨i, other, ?_, ?_, ?_⟩
          · rw [List.getElem?_append_left hi]
            exact hother
          · rwa [List.take_append_of_le_length (Nat.le_of_lt hi)]
          · rwa [List.take_append_of_le_length (Nat.le_of_lt hi)]
        · refine ⟨items.length, item, List.getElem?_concat_length, ?_, ?_⟩
          · rw [List.take_left]
            exact Nat.le_of_not_lt hbefore
          · rw [List.take_left]
            exact h
  obtain ⟨i, hi⟩ := hexists
  exact ⟨i, hi, fun j hj => Nat.le_antisymm (hi.le hj) (hj.le hi)⟩

end SyncAudio.Spans

import Mathlib.Data.List.Induction
import SyncAudio.Lib.OrderedMap

/-!
# The entries with the largest keys

A map that erases its first entry whenever it grows beyond a bound holds the
entries with the largest keys, whatever the order in which they arrive.
-/

namespace SyncAudio.OrderedMap

variable {K V : Type*} [LinearOrder K]

theorem perm_insertEntry (k : K) (v : V) (es : List (K × V)) :
    (insertEntry k v es).Perm ((k, v) :: es) := by
  induction es with
  | nil => exact List.Perm.refl _
  | cons e es ih =>
      unfold insertEntry
      split_ifs
      · exact List.Perm.refl _
      · exact (ih.cons e).trans (List.Perm.swap _ _ _)

/-- Insert entries one after another. -/
def insertAll (es : List (K × V)) : List (K × V) :=
  es.foldl (fun sorted e => insertEntry e.1 e.2 sorted) []

theorem insertAll_concat (es : List (K × V)) (e : K × V) :
    insertAll (es ++ [e]) = insertEntry e.1 e.2 (insertAll es) := by
  unfold insertAll
  rw [List.foldl_append]
  rfl

theorem perm_insertAll (es : List (K × V)) : (insertAll es).Perm es := by
  induction es using List.reverseRecOn with
  | nil => exact List.Perm.refl _
  | append_singleton es e ih =>
      rw [insertAll_concat]
      calc
        (insertEntry e.1 e.2 (insertAll es)).Perm (e :: insertAll es) := perm_insertEntry _ _ _
        (e :: insertAll es).Perm (e :: es) := ih.cons e
        (e :: es).Perm (es ++ [e]) := (List.perm_append_singleton e es).symm

theorem sorted_insertAll {es : List (K × V)} (hkeys : (es.map Prod.fst).Nodup) :
    (insertAll es).Pairwise fun a b => a.1 < b.1 := by
  induction es using List.reverseRecOn with
  | nil => exact List.Pairwise.nil
  | append_singleton es e ih =>
      rw [List.map_append, List.nodup_append] at hkeys
      obtain ⟨hkeys, -, hnew⟩ := hkeys
      rw [insertAll_concat]
      apply sorted_insertEntry (ih hkeys)
      intro a ha
      have hmem : a.1 ∈ es.map Prod.fst := List.mem_map_of_mem ((perm_insertAll es).subset ha)
      exact hnew a.1 hmem e.1 (List.mem_singleton_self _)

/-- Sorting forgets the order of arrival. -/
theorem insertAll_eq_of_perm {es es' : List (K × V)} (hperm : es.Perm es')
    (hkeys : (es.map Prod.fst).Nodup) : insertAll es = insertAll es' := by
  have hsame : (insertAll es).Perm (insertAll es') :=
    (perm_insertAll es).trans (hperm.trans (perm_insertAll es').symm)
  have hkeys' : (es'.map Prod.fst).Nodup := (hperm.map Prod.fst).nodup_iff.mp hkeys
  refine hsame.eq_of_pairwise ?_ (sorted_insertAll hkeys) (sorted_insertAll hkeys')
  intro a b _ _ hab hba
  exact absurd hba (lt_asymm hab)

/-- The `n` entries with the largest keys, in key order. -/
def largest (n : Nat) (es : List (K × V)) : List (K × V) :=
  (insertAll es).drop (es.length - n)

theorem length_largest (n : Nat) (es : List (K × V)) :
    (largest n es).length = min n es.length := by
  unfold largest
  rw [List.length_drop, (perm_insertAll es).length_eq]
  omega

/-- Inserting into the upper part of a sorted list and erasing its first entry
is taking the upper part of the longer list. -/
theorem tail_insertEntry_drop {k : K} {v : V} {es : List (K × V)} {m : Nat}
    (hsorted : es.Pairwise fun a b => a.1 < b.1) (hm : m ≤ es.length) :
    (insertEntry k v (es.drop m)).tail = (insertEntry k v es).drop (m + 1) := by
  induction es generalizing m with
  | nil =>
      rw [Nat.le_zero.mp hm]
      rfl
  | cons e es ih =>
      cases m with
      | zero => exact List.drop_one.symm
      | succ m =>
          obtain ⟨hhead, htail⟩ := List.pairwise_cons.mp hsorted
          have hm := Nat.le_of_succ_le_succ hm
          have hrest := ih htail hm
          rw [List.drop_succ_cons]
          by_cases hlt : k < e.1
          · have hfront : (insertEntry k v (es.drop m)).tail = es.drop m := by
              cases hdrop : es.drop m with
              | nil => rfl
              | cons a rest =>
                  have ha : a ∈ es := List.mem_of_mem_drop (hdrop ▸ List.mem_cons_self)
                  rw [insertEntry, if_pos (hlt.trans (hhead a ha))]
                  rfl
            rw [hfront, insertEntry, if_pos hlt]
            rfl
          · rw [hrest, insertEntry, if_neg hlt]
            rfl

theorem largest_concat_of_le {n : Nat} {es : List (K × V)} (e : K × V) (hn : es.length + 1 ≤ n) :
    largest n (es ++ [e]) = insertEntry e.1 e.2 (largest n es) := by
  unfold largest
  rw [insertAll_concat, List.length_append, List.length_singleton, Nat.sub_eq_zero_of_le hn,
    Nat.sub_eq_zero_of_le (Nat.le_of_succ_le hn)]
  rfl

theorem largest_concat_of_lt {n : Nat} {es : List (K × V)} (e : K × V)
    (hkeys : (es.map Prod.fst).Nodup) (hn : n < es.length + 1) :
    largest n (es ++ [e]) = (insertEntry e.1 e.2 (largest n es)).tail := by
  unfold largest
  have hlength : es.length - n ≤ (insertAll es).length := by
    rw [(perm_insertAll es).length_eq]
    exact Nat.sub_le _ _
  rw [tail_insertEntry_drop (sorted_insertAll hkeys) hlength, insertAll_concat,
    List.length_append, List.length_singleton, Nat.sub_add_comm (Nat.le_of_lt_succ hn)]

theorem largest_eq_of_perm (n : Nat) {es es' : List (K × V)} (hperm : es.Perm es')
    (hkeys : (es.map Prod.fst).Nodup) : largest n es = largest n es' := by
  unfold largest
  rw [insertAll_eq_of_perm hperm hkeys, hperm.length_eq]

/-- In a sorted list, an entry's distance from the end counts the larger keys. -/
theorem mem_drop_iff {es : List (K × V)} {m : Nat} {e : K × V}
    (hsorted : es.Pairwise fun a b => a.1 < b.1) :
    e ∈ es.drop m ↔ e ∈ es ∧ (es.countP fun a => e.1 < a.1) < es.length - m := by
  induction es generalizing m with
  | nil => simp
  | cons x es ih =>
      obtain ⟨hhead, htail⟩ := List.pairwise_cons.mp hsorted
      cases m with
      | zero =>
          simp only [List.drop_zero, Nat.sub_zero, iff_self_and]
          intro he
          refine lt_of_le_of_ne List.countP_le_length ?_
          intro hall
          have hself := List.countP_eq_length.mp hall e he
          exact lt_irrefl _ (of_decide_eq_true hself)
      | succ m =>
          rw [List.drop_succ_cons, ih htail, List.length_cons, Nat.add_sub_add_right,
            List.countP_cons, List.mem_cons]
          by_cases hmem : e ∈ es
          · have hx : ¬ e.1 < x.1 := lt_asymm (hhead e hmem)
            simp [hmem, hx]
          · have hcount (hex : e = x) : (es.countP fun a => e.1 < a.1) = es.length :=
              List.countP_eq_length.mpr fun a ha => decide_eq_true (hex ▸ hhead a ha)
            constructor
            · intro h
              exact absurd h.1 hmem
            · rintro ⟨hex | hold, hlt⟩
              · have := hcount hex
                omega
              · exact absurd hold hmem

/-- An entry is among the `n` largest if fewer than `n` have a larger key. -/
theorem mem_largest {n : Nat} {es : List (K × V)} {e : K × V} (hkeys : (es.map Prod.fst).Nodup) :
    e ∈ largest n es ↔ e ∈ es ∧ (es.countP fun a => e.1 < a.1) < n := by
  have hperm := perm_insertAll es
  unfold largest
  rw [mem_drop_iff (sorted_insertAll hkeys), hperm.mem_iff, hperm.countP_eq, hperm.length_eq]
  constructor
  · rintro ⟨he, hlt⟩
    exact ⟨he, by omega⟩
  · rintro ⟨he, hlt⟩
    have hself : (es.countP fun a => e.1 < a.1) < es.length := by
      refine lt_of_le_of_ne List.countP_le_length ?_
      intro hall
      exact lt_irrefl _ (of_decide_eq_true (List.countP_eq_length.mp hall e he))
    exact ⟨he, by omega⟩

end SyncAudio.OrderedMap

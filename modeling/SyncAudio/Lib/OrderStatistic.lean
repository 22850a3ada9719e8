import Mathlib.Data.List.Nodup
import Mathlib.Data.List.Perm.Basic
import Mathlib.Order.MinMax
import Mathlib.Tactic.Common

/-!
# Order statistics of lists

A sort of a standard library promises a permutation in key order and nothing
else. The few entries with the least keys and the upper median of some values
are described without any sort, so that two implementations can be compared.
-/

namespace SyncAudio

/-- A sort by a key. Nothing is known about the order of entries with equal keys. -/
structure SortAlgorithm where
  sort : ∀ {α K : Type} [LinearOrder K], (α → K) → List α → List α
  perm : ∀ {α K : Type} [LinearOrder K] (key : α → K) (xs : List α), (sort key xs).Perm xs
  sorted : ∀ {α K : Type} [LinearOrder K] (key : α → K) (xs : List α),
    (sort key xs).Pairwise fun a b => key a ≤ key b

namespace SortAlgorithm

/-- The stable sort of the library is one. -/
def stable : SortAlgorithm where
  sort key xs := xs.mergeSort fun a b => key a ≤ key b
  perm key xs := List.mergeSort_perm xs _
  sorted key xs := by
    have hsorted := @List.pairwise_mergeSort _ (fun a b => decide (key a ≤ key b))
      (fun a b c hab hbc => decide_eq_true
        ((of_decide_eq_true hab).trans (of_decide_eq_true hbc)))
      (fun a b => by simpa using le_total (key a) (key b)) xs
    exact hsorted.imp fun h => of_decide_eq_true h

theorem length_sort (algorithm : SortAlgorithm) {α K : Type} [LinearOrder K] (key : α → K)
    (xs : List α) : (algorithm.sort key xs).length = xs.length :=
  (algorithm.perm key xs).length_eq

end SortAlgorithm

section Median

variable {V W : Type*} [LinearOrder V] [LinearOrder W] {values values' : List V} {m m' : V}

/-- The value at the middle of the sorted list, the upper one if there are two. -/
structure IsUpperMedian (values : List V) (m : V) : Prop where
  mem : m ∈ values
  countP_lt_le : (values.countP fun v => v < m) ≤ values.length / 2
  lt_countP_le : values.length / 2 < values.countP fun v => v ≤ m

theorem countP_lt_getElem_le {i : Nat} (hsorted : values.Pairwise (· ≤ ·))
    (hi : i < values.length) : (values.countP fun v => v < values[i]) ≤ i := by
  have hsplit := List.take_append_drop i values
  have hdrop : (values.drop i).countP (fun v => v < values[i]) = 0 := by
    rw [List.countP_eq_zero]
    intro v hv
    rw [List.drop_eq_getElem_cons hi] at hv
    have hpair : (values.drop i).Pairwise (· ≤ ·) := hsorted.sublist (List.drop_sublist i values)
    rw [List.drop_eq_getElem_cons hi] at hpair
    rcases List.mem_cons.mp hv with rfl | hv
    · simp
    · simpa using (List.pairwise_cons.mp hpair).1 v hv
  calc
    (values.countP fun v => v < values[i])
      = (values.take i).countP (fun v => v < values[i]) +
          (values.drop i).countP (fun v => v < values[i]) := by
        rw [← List.countP_append, hsplit]
    _ ≤ (values.take i).length + 0 := Nat.add_le_add List.countP_le_length hdrop.le
    _ ≤ i := by
        rw [Nat.add_zero, List.length_take]
        exact Nat.min_le_left _ _

theorem lt_countP_le_getElem {i : Nat} (hsorted : values.Pairwise (· ≤ ·))
    (hi : i < values.length) : i < values.countP fun v => v ≤ values[i] := by
  have htake : (values.take (i + 1)).countP (fun v => v ≤ values[i]) = i + 1 := by
    have hlength : (values.take (i + 1)).length = i + 1 := by
      rw [List.length_take]
      exact Nat.min_eq_left hi
    refine (List.countP_eq_length.mpr ?_).trans hlength
    intro v hv
    obtain ⟨j, hj, rfl⟩ := List.getElem_of_mem hv
    rw [List.getElem_take, decide_eq_true_eq]
    have hji : j ≤ i := by omega
    rcases Nat.lt_or_eq_of_le hji with hlt | rfl
    · exact List.pairwise_iff_getElem.mp hsorted j i _ hi hlt
    · exact le_refl _
  have hle := (List.take_sublist (i + 1) values).countP_le (p := fun v => v ≤ values[i])
  omega

theorem IsUpperMedian.of_perm (h : IsUpperMedian values m) (hperm : values.Perm values') :
    IsUpperMedian values' m := by
  constructor
  · exact hperm.subset h.mem
  · rw [← hperm.countP_eq, ← hperm.length_eq]
    exact h.countP_lt_le
  · rw [← hperm.countP_eq, ← hperm.length_eq]
    exact h.lt_countP_le

/-- The middle entry after sorting is the upper median. -/
theorem isUpperMedian_of_sorted {sorted : List V} (hperm : sorted.Perm values)
    (hsorted : sorted.Pairwise (· ≤ ·)) (hm : sorted[values.length / 2]? = some m) :
    IsUpperMedian values m := by
  obtain ⟨hi, rfl⟩ := List.getElem?_eq_some_iff.mp hm
  constructor
  · exact hperm.subset (List.getElem_mem hi)
  · rw [← hperm.countP_eq]
    exact countP_lt_getElem_le hsorted hi
  · rw [← hperm.countP_eq]
    exact lt_countP_le_getElem hsorted hi

theorem IsUpperMedian.le (h : IsUpperMedian values m) (h' : IsUpperMedian values m') :
    m ≤ m' := by
  by_contra hlt
  have hmono : (values.countP fun v => v ≤ m') ≤ values.countP fun v => v < m := by
    apply List.countP_mono_left
    intro v _ hv
    exact decide_eq_true (lt_of_le_of_lt (of_decide_eq_true hv) (not_le.mp hlt))
  have := h.countP_lt_le
  have := h'.lt_countP_le
  omega

/-- There is one upper median. -/
theorem IsUpperMedian.unique (h : IsUpperMedian values m) (h' : IsUpperMedian values m') :
    m = m' :=
  le_antisymm (h.le h') (h'.le h)

/-- Order embeddings keep the median. -/
theorem IsUpperMedian.map (h : IsUpperMedian values m) {f : V → W} (hf : StrictMono f) :
    IsUpperMedian (values.map f) (f m) := by
  constructor
  · exact List.mem_map_of_mem h.mem
  · rw [List.countP_map, List.length_map]
    simpa [Function.comp_def, hf.lt_iff_lt] using h.countP_lt_le
  · rw [List.countP_map, List.length_map]
    simpa [Function.comp_def, hf.le_iff_le] using h.lt_countP_le

/-- Of three values none moves the median out of the range of the other two. -/
theorem IsUpperMedian.between {a b c : V} (h : IsUpperMedian [a, b, c] m) :
    min b c ≤ m ∧ m ≤ max b c := by
  have hlow := h.countP_lt_le
  have hhigh := h.lt_countP_le
  constructor
  · by_contra hlt
    obtain ⟨hb, hc⟩ := lt_min_iff.mp (not_le.mp hlt)
    simp [List.countP_cons, not_le.mpr hb, not_le.mpr hc] at hhigh
    split_ifs at hhigh <;> omega
  · by_contra hlt
    obtain ⟨hb, hc⟩ := max_lt_iff.mp (not_le.mp hlt)
    simp [List.countP_cons, hb, hc] at hlow
    omega

end Median

section Least

variable {α K : Type*} [LinearOrder K] {key : α → K} {n : Nat} {xs xs' few few' : List α}

/-- Some `n` entries with the least keys, or all if there are fewer. -/
structure AreLeast (key : α → K) (n : Nat) (xs few : List α) : Prop where
  length_eq : few.length = min n xs.length
  others : ∃ rest, (few ++ rest).Perm xs ∧ ∀ a ∈ few, ∀ b ∈ rest, key a ≤ key b

theorem AreLeast.subset (h : AreLeast key n xs few) : few ⊆ xs := by
  obtain ⟨rest, hperm, -⟩ := h.others
  exact fun a ha => hperm.subset (List.mem_append_left rest ha)

/-- The front of a list in key order. -/
theorem areLeast_take (hperm : xs'.Perm xs) (hsorted : xs'.Pairwise fun a b => key a ≤ key b) :
    AreLeast key n xs (xs'.take n) := by
  constructor
  · rw [List.length_take, hperm.length_eq]
  · have hsplit := List.take_append_drop n xs'
    refine ⟨xs'.drop n, hsplit.symm ▸ hperm, ?_⟩
    rw [← hsplit, List.pairwise_append] at hsorted
    exact hsorted.2.2

/-- The first entry in key order has the least key. -/
theorem min?_map_take {first : α} (hsorted : xs.Pairwise fun a b => key a ≤ key b)
    (hfirst : xs.head? = some first) : ((xs.take (n + 1)).map key).min? = some (key first) := by
  cases xs with
  | nil => cases hfirst
  | cons x rest =>
      cases hfirst
      rw [List.min?_eq_some_iff, List.take_succ_cons, List.map_cons]
      constructor
      · exact List.mem_cons_self
      · intro b hb
        rcases List.mem_cons.mp hb with rfl | hb
        · exact le_refl _
        · obtain ⟨a, ha, rfl⟩ := List.mem_map.mp hb
          exact (List.pairwise_cons.mp hsorted).1 a (List.mem_of_mem_take ha)

/-- If the keys are distinct, only the order of the chosen entries is open. -/
theorem AreLeast.perm (h : AreLeast key n xs few) (h' : AreLeast key n xs' few')
    (hperm : xs.Perm xs') (hkeys : (xs.map key).Nodup) : few.Perm few' := by
  obtain ⟨rest, hsplit, hless⟩ := h.others
  obtain ⟨rest', hsplit', hless'⟩ := h'.others
  have hdistinct : xs.Nodup := List.Nodup.of_map key hkeys
  have hfew : few.Nodup := (hsplit.nodup_iff.mpr hdistinct).sublist (List.sublist_append_left _ _)
  have hfew' : few'.Nodup :=
    (hsplit'.nodup_iff.mpr (hperm.nodup_iff.mp hdistinct)).sublist (List.sublist_append_left _ _)
  have hlength : few.length = few'.length := by
    rw [h.length_eq, h'.length_eq, hperm.length_eq]
  by_contra hdiffer
  have hout : ∃ a ∈ few, a ∉ few' := by
    by_contra hall
    push Not at hall
    exact hdiffer ((List.subperm_of_subset hfew hall).perm_of_length_le hlength.ge)
  have hin : ∃ b ∈ few', b ∉ few := by
    by_contra hall
    push Not at hall
    exact hdiffer ((List.subperm_of_subset hfew' hall).perm_of_length_le hlength.le).symm
  obtain ⟨a, ha, ha'⟩ := hout
  obtain ⟨b, hb', hb⟩ := hin
  have haxs : a ∈ xs := h.subset ha
  have hbxs : b ∈ xs := hperm.mem_iff.mpr (h'.subset hb')
  have harest : a ∈ rest' :=
    (List.mem_append.mp (hsplit'.mem_iff.mpr (hperm.mem_iff.mp haxs))).resolve_left ha'
  have hbrest : b ∈ rest := (List.mem_append.mp (hsplit.mem_iff.mpr hbxs)).resolve_left hb
  have hsame : key a = key b := le_antisymm (hless a ha b hbrest) (hless' b hb' a harest)
  have heq : a = b := List.inj_on_of_nodup_map hkeys haxs hbxs hsame
  exact hb (heq ▸ ha)

/-- Choosing by key commutes with maps that keep the order of the keys. -/
theorem AreLeast.map {β L : Type*} [LinearOrder L] {key' : β → L} {f : α → β}
    (h : AreLeast key n xs few) (hf : ∀ {a b}, key a ≤ key b → key' (f a) ≤ key' (f b)) :
    AreLeast key' n (xs.map f) (few.map f) := by
  obtain ⟨rest, hperm, hless⟩ := h.others
  constructor
  · rw [List.length_map, List.length_map]
    exact h.length_eq
  · refine ⟨rest.map f, ?_, ?_⟩
    · rw [← List.map_append]
      exact hperm.map f
    · intro a ha b hb
      obtain ⟨x, hx, rfl⟩ := List.mem_map.mp ha
      obtain ⟨y, hy, rfl⟩ := List.mem_map.mp hb
      exact hf (hless x hx y hy)

end Least

section MedianOfLeast

variable {α K V : Type*} [LinearOrder K] [LinearOrder V] {key : α → K} {value : α → V} {n : Nat}
  {xs xs' few few' : List α} {m m' : V} {least least' : K}

/-- The upper median of the values of the entries with the least keys, and the
least key of all. -/
structure MedianOfLeast (key : α → K) (value : α → V) (n : Nat) (xs few : List α) (m : V)
    (least : K) : Prop where
  areLeast : AreLeast key n xs few
  median : IsUpperMedian (few.map value) m
  least_mem : ∃ a ∈ xs, key a = least
  least_le : ∀ a ∈ xs, least ≤ key a

/-- Two sorts find the median and the least key. -/
theorem medianOfLeast_of_sorted {sorted : List α} {values : List V} {first : α}
    (hperm : sorted.Perm xs) (hsorted : sorted.Pairwise fun a b => key a ≤ key b)
    (hvalues : values.Perm ((sorted.take n).map value)) (hvaluesSorted : values.Pairwise (· ≤ ·))
    (hm : values[min n xs.length / 2]? = some m) (hfirst : sorted.head? = some first) :
    MedianOfLeast key value n xs (sorted.take n) m (key first) := by
  have hlength : ((sorted.take n).map value).length = min n xs.length := by
    rw [List.length_map, List.length_take, hperm.length_eq]
  constructor
  · exact areLeast_take hperm hsorted
  · exact isUpperMedian_of_sorted hvalues hvaluesSorted (hlength.symm ▸ hm)
  · exact ⟨first, hperm.subset (List.mem_of_mem_head? hfirst), rfl⟩
  · intro a ha
    have hmem := hperm.mem_iff.mpr ha
    cases sorted with
    | nil => cases hmem
    | cons x rest =>
        cases hfirst
        rcases List.mem_cons.mp hmem with rfl | hrest
        · exact le_refl _
        · exact (List.pairwise_cons.mp hsorted).1 a hrest

/-- With distinct keys the result does not depend on the order of the list. -/
theorem MedianOfLeast.unique (h : MedianOfLeast key value n xs few m least)
    (h' : MedianOfLeast key value n xs' few' m' least') (hperm : xs.Perm xs')
    (hkeys : (xs.map key).Nodup) : m = m' ∧ least = least' := by
  constructor
  · have hfew := h.areLeast.perm h'.areLeast hperm hkeys
    exact (h.median.of_perm (hfew.map value)).unique h'.median
  · obtain ⟨a, ha, rfl⟩ := h.least_mem
    obtain ⟨b, hb, rfl⟩ := h'.least_mem
    exact le_antisymm (h.least_le b (hperm.mem_iff.mpr hb)) (h'.least_le a (hperm.mem_iff.mp ha))

/-- Order embeddings of the keys and the values keep the choice. -/
theorem MedianOfLeast.comp {L W : Type*} [LinearOrder L] [LinearOrder W]
    (h : MedianOfLeast key value n xs few m least) {f : V → W} {g : K → L} (hf : StrictMono f)
    (hg : StrictMono g) :
    MedianOfLeast (fun a => g (key a)) (fun a => f (value a)) n xs few (f m) (g least) := by
  constructor
  · obtain ⟨rest, hperm, hless⟩ := h.areLeast.others
    exact ⟨h.areLeast.length_eq, rest, hperm, fun a ha b hb => hg.monotone (hless a ha b hb)⟩
  · have hmapped := h.median.map hf
    rw [List.map_map] at hmapped
    exact hmapped
  · obtain ⟨a, ha, rfl⟩ := h.least_mem
    exact ⟨a, ha, rfl⟩
  · exact fun a ha => hg.monotone (h.least_le a ha)

/-- Only the values and the keys matter. -/
theorem MedianOfLeast.map_pairs (h : MedianOfLeast key value n xs few m least) :
    MedianOfLeast Prod.snd Prod.fst n (xs.map fun a => (value a, key a))
      (few.map fun a => (value a, key a)) m least := by
  constructor
  · exact h.areLeast.map fun hle => hle
  · rw [List.map_map]
    exact h.median
  · obtain ⟨a, ha, rfl⟩ := h.least_mem
    exact ⟨_, List.mem_map_of_mem ha, rfl⟩
  · intro b hb
    obtain ⟨a, ha, rfl⟩ := List.mem_map.mp hb
    exact h.least_le a ha

/-- The median is the value of a chosen entry. -/
theorem MedianOfLeast.exists_value (h : MedianOfLeast key value n xs few m least) :
    ∃ a ∈ few, value a = m :=
  List.mem_map.mp h.median.mem

/-- Of three chosen entries none moves the median out of the range of the other two. -/
theorem MedianOfLeast.between {a b c : α} (h : MedianOfLeast key value n xs few m least)
    (hfew : few.Perm [a, b, c]) :
    min (value b) (value c) ≤ m ∧ m ≤ max (value b) (value c) :=
  (h.median.of_perm (hfew.map value)).between

end MedianOfLeast

end SyncAudio

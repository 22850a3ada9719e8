import Mathlib.Algebra.BigOperators.Group.List.Basic
import Mathlib.Data.List.Induction
import Mathlib.Data.Rat.Floor
import SyncAudio.Lib.OrderStatistic
import SyncAudio.Lib.Rounding

/-!
# The clock filter of the phone

`ClockSampleFilter` keeps the last sixteen samples. Each new one is answered by the
median offset of the three fastest among the last eight, with their drift.

## Implementation notes

Doubles are rational numbers and the steps on them exact. Arithmetic on `UInt64`
traps when it leaves the range; a function that may trap returns an optional value,
none for a trap.
-/

namespace SyncAudio

structure ClockEstimate where
  offsetNanoseconds : ℚ
  roundTripNanoseconds : ℚ
  measuredAtNanoseconds : UInt64
  sampleCount : Nat
  estimatedDriftPpm : Option ℚ := none
  measurementQuality : String := "Learning"

structure ClockSampleFilter where
  samples : List ClockEstimate := []

namespace ClockSampleFilter

/-- A difference that traps below zero. -/
def checkedSub (a b : UInt64) : Option UInt64 := if b ≤ a then some (a - b) else none

/-- A sum that traps beyond 64 bits. -/
def checkedAdd (a b : UInt64) : Option UInt64 :=
  if a.toNat + b.toNat < 2 ^ 64 then some (a + b) else none

/-- The slope of the offsets over the times, in parts per million. -/
def slopePpm (x y : List ℚ) : Option ℚ :=
  let meanX := x.sum / x.length
  let meanY := y.sum / y.length
  let covariance := ((x.zip y).map fun p => (p.1 - meanX) * (p.2 - meanY)).sum
  let variance := (x.map fun time => (time - meanX) ^ 2).sum
  if variance > 0 then some (max (-1000) (min 1000 (covariance / variance * 1000000))) else none

/-- The drift over the recent samples, once they span five seconds. -/
def drift (recent : List ClockEstimate) (sample : ClockEstimate) : Option (Option ℚ) :=
  match recent.head? with
  | none => some none
  | some first => do
      let threshold ← checkedAdd first.measuredAtNanoseconds 5000000000
      if sample.measuredAtNanoseconds > threshold then
        let x ← recent.mapM fun e =>
          checkedSub e.measuredAtNanoseconds first.measuredAtNanoseconds
        some (slopePpm (x.map fun time => (time.toNat : ℚ))
          (recent.map ClockEstimate.offsetNanoseconds))
      else some none

def quality (recentCount : Nat) (minimumRTT spread : ℚ) : String :=
  if recentCount ≥ 4 ∧ minimumRTT < 10000000 ∧ spread < 2000000 then "Good"
  else if recentCount ≥ 2 then "Fair"
  else "Learning"

/-- The samples after an `append` that keeps sixteen of them. -/
def appended (filter : ClockSampleFilter) (sample : ClockEstimate) : List ClockEstimate :=
  let samples := filter.samples ++ [sample]
  if samples.length > 16 then samples.drop 1 else samples

def suffix (count : Nat) (samples : List ClockEstimate) : List ClockEstimate :=
  samples.drop (samples.length - count)

/-- `add`: the estimate it returns and the filter it leaves. -/
def add (std : SortAlgorithm) (filter : ClockSampleFilter) (sample : ClockEstimate) :
    Option (ClockEstimate × ClockSampleFilter) := do
  let samples := filter.appended sample
  let recent := suffix 8 samples
  let fast := (std.sort ClockEstimate.roundTripNanoseconds recent).take 3
  let sortedOffsets := std.sort id (fast.map ClockEstimate.offsetNanoseconds)
  let median ← sortedOffsets[sortedOffsets.length / 2]?
  let minimumRTT :=
    (fast.map ClockEstimate.roundTripNanoseconds).min?.getD sample.roundTripNanoseconds
  let spread := sortedOffsets.getLast?.getD median - sortedOffsets.head?.getD median
  let drift ← drift recent sample
  some
    ({ offsetNanoseconds := median
       roundTripNanoseconds := minimumRTT
       measuredAtNanoseconds := sample.measuredAtNanoseconds
       sampleCount := recent.length
       estimatedDriftPpm := drift
       measurementQuality := quality recent.length minimumRTT spread },
     { samples })

/-- The filter after some samples; none if one of them trapped. -/
def addAll (std : SortAlgorithm) (samples : List ClockEstimate) : Option ClockSampleFilter :=
  samples.foldlM (fun filter sample => (filter.add std sample).map Prod.snd) {}

section Window

variable {std : SortAlgorithm} {samples : List ClockEstimate} {filter : ClockSampleFilter}
  {sample : ClockEstimate}

/-- The filter keeps the last sixteen samples. -/
theorem appended_eq_suffix (h : filter.samples = suffix 16 samples) :
    filter.appended sample = suffix 16 (samples ++ [sample]) := by
  unfold appended
  dsimp only
  rw [h]
  unfold suffix
  rw [List.length_append, List.length_append, List.length_singleton, List.length_drop]
  split_ifs with hmany
  · have hdrop : samples.length + 1 - 16 = samples.length - 16 + 1 := by omega
    rw [hdrop, ← List.drop_drop, List.drop_append_of_le_length (Nat.sub_le _ _)]
  · have hzero : samples.length - 16 = 0 := by omega
    have hzero' : samples.length + 1 - 16 = 0 := by omega
    rw [hzero, hzero']
    rfl

theorem suffix_suffix (samples : List ClockEstimate) :
    suffix 8 (suffix 16 samples) = suffix 8 samples := by
  unfold suffix
  rw [List.drop_drop, List.length_drop]
  congr 1
  omega

theorem length_suffix (count : Nat) (samples : List ClockEstimate) :
    (suffix count samples).length = min count samples.length := by
  unfold suffix
  rw [List.length_drop]
  omega

theorem addAll_concat :
    addAll std (samples ++ [sample]) =
      (addAll std samples).bind fun filter => (filter.add std sample).map Prod.snd := by
  unfold addAll
  rw [List.foldlM_append]
  cases samples.foldlM (fun filter sample => (add std filter sample).map Prod.snd)
    ({} : ClockSampleFilter) with
  | none => rfl
  | some filter =>
      simp

/-- What `add` leaves behind, unless it traps. -/
theorem add_samples {result : ClockEstimate × ClockSampleFilter}
    (h : filter.add std sample = some result) : result.2.samples = filter.appended sample := by
  simp only [add, bind, Option.bind_eq_some_iff, Option.some.injEq] at h
  obtain ⟨median, -, drift, -, rfl⟩ := h
  rfl

theorem samples_addAll (h : addAll std samples = some filter) :
    filter.samples = suffix 16 samples := by
  induction samples using List.reverseRecOn generalizing filter with
  | nil =>
      cases h
      rfl
  | append_singleton samples sample ih =>
      rw [addAll_concat] at h
      obtain ⟨before, hbefore, h⟩ := Option.bind_eq_some_iff.mp h
      obtain ⟨result, hresult, rfl⟩ := Option.map_eq_some_iff.mp h
      rw [add_samples hresult]
      exact appended_eq_suffix (ih hbefore)

end Window

section Add

variable {std : SortAlgorithm} {samples : List ClockEstimate} {filter : ClockSampleFilter}
  {sample : ClockEstimate}

theorem length_appended_pos (filter : ClockSampleFilter) (sample : ClockEstimate) :
    0 < (filter.appended sample).length := by
  unfold appended
  dsimp only
  split_ifs with hmany
  · rw [List.length_drop]
    omega
  · rw [List.length_append, List.length_singleton]
    omega

/-- The answer to a sample is the median of the fastest recent ones. -/
theorem add_spec {result : ClockEstimate × ClockSampleFilter}
    (h : filter.add std sample = some result) :
    ∃ fast, MedianOfLeast ClockEstimate.roundTripNanoseconds ClockEstimate.offsetNanoseconds 3
        (suffix 8 (filter.appended sample)) fast result.1.offsetNanoseconds
        result.1.roundTripNanoseconds ∧
      result.1.sampleCount = (suffix 8 (filter.appended sample)).length := by
  simp only [add, bind, Option.bind_eq_some_iff, Option.some.injEq] at h
  obtain ⟨median, hmedian, drift, -, rfl⟩ := h
  have hcount : (suffix 8 (filter.appended sample)).length ≠ 0 := by
    have hpos := length_appended_pos filter sample
    rw [length_suffix]
    omega
  generalize suffix 8 (filter.appended sample) = recent at hmedian hcount ⊢
  have hperm := std.perm ClockEstimate.roundTripNanoseconds recent
  have hsorted := std.sorted ClockEstimate.roundTripNanoseconds recent
  have hlength : (std.sort id (((std.sort ClockEstimate.roundTripNanoseconds recent).take 3).map
      ClockEstimate.offsetNanoseconds)).length = min 3 recent.length := by
    rw [std.length_sort, List.length_map, List.length_take, std.length_sort]
  have hne : std.sort ClockEstimate.roundTripNanoseconds recent ≠ [] := by
    intro hnil
    rw [hnil] at hperm
    exact hcount hperm.length_eq.symm
  have hfirst := List.head?_eq_some_head hne
  have hleast := min?_map_take hsorted hfirst (n := 2)
  rw [hlength] at hmedian
  refine ⟨(std.sort ClockEstimate.roundTripNanoseconds recent).take 3, ?_, rfl⟩
  dsimp only
  rw [hleast, Option.getD_some]
  exact medianOfLeast_of_sorted hperm hsorted (std.perm id _) (std.sorted id _) hmedian hfirst

theorem exists_mapM {α β : Type} {f : α → Option β} {xs : List α}
    (h : ∀ a ∈ xs, ∃ b, f a = some b) : ∃ bs, xs.mapM f = some bs := by
  induction xs with
  | nil => exact ⟨[], rfl⟩
  | cons a xs ih =>
      obtain ⟨b, hb⟩ := h a List.mem_cons_self
      obtain ⟨bs, hbs⟩ := ih fun x hx => h x (List.mem_cons_of_mem a hx)
      exact ⟨b :: bs, by rw [List.mapM_cons, hb, hbs]; rfl⟩

theorem drift_total {recent : List ClockEstimate} (sample : ClockEstimate)
    (hordered : ∀ first ∈ recent.head?,
      first.measuredAtNanoseconds.toNat + 5000000000 < 2 ^ 64 ∧
        ∀ e ∈ recent, first.measuredAtNanoseconds ≤ e.measuredAtNanoseconds) :
    ∃ result, drift recent sample = some result := by
  unfold drift
  cases hfirst : recent.head? with
  | none => exact ⟨none, rfl⟩
  | some first =>
      obtain ⟨hfits, hle⟩ := hordered first hfirst
      have hthreshold : ∃ threshold,
          checkedAdd first.measuredAtNanoseconds 5000000000 = some threshold := by
        have hspan : (5000000000 : UInt64).toNat = 5000000000 := by simp
        exact ⟨_, by rw [checkedAdd, hspan, if_pos hfits]⟩
      obtain ⟨threshold, hthreshold⟩ := hthreshold
      have htimes : ∀ e ∈ recent, ∃ time,
          checkedSub e.measuredAtNanoseconds first.measuredAtNanoseconds = some time :=
        fun e he => ⟨_, if_pos (hle e he)⟩
      obtain ⟨x, hx⟩ := exists_mapM htimes
      simp only [bind, hthreshold, hx, Option.bind_some]
      split_ifs
      · exact ⟨_, rfl⟩
      · exact ⟨_, rfl⟩

/-- Nothing traps while the clock of the phone does not run backwards. -/
theorem add_total (filter : ClockSampleFilter) (sample : ClockEstimate)
    (hordered : ∀ first ∈ (suffix 8 (filter.appended sample)).head?,
      first.measuredAtNanoseconds.toNat + 5000000000 < 2 ^ 64 ∧
        ∀ e ∈ suffix 8 (filter.appended sample),
          first.measuredAtNanoseconds ≤ e.measuredAtNanoseconds) :
    ∃ result, filter.add std sample = some result := by
  obtain ⟨drift, hdrift⟩ := drift_total sample hordered
  have hlength : (std.sort id (((std.sort ClockEstimate.roundTripNanoseconds
      (suffix 8 (filter.appended sample))).take 3).map
        ClockEstimate.offsetNanoseconds)).length = min 3 (min 8 (filter.appended sample).length) := by
    rw [std.length_sort, List.length_map, List.length_take, std.length_sort, length_suffix]
  have hpos := length_appended_pos filter sample
  simp only [add, bind]
  rw [List.getElem?_eq_getElem (by omega), hdrift]
  exact ⟨_, rfl⟩

/-- Samples measured one after another, centuries before the clock ends. -/
structure Ordered (samples : List ClockEstimate) : Prop where
  sorted : samples.Pairwise fun a b => a.measuredAtNanoseconds ≤ b.measuredAtNanoseconds
  fits : ∀ e ∈ samples, e.measuredAtNanoseconds.toNat + 5000000000 < 2 ^ 64

theorem appended_addAll (h : addAll std samples = some filter) :
    suffix 8 (filter.appended sample) = suffix 8 (samples ++ [sample]) := by
  rw [appended_eq_suffix (samples_addAll h), suffix_suffix]

theorem Ordered.add_total (hordered : Ordered (samples ++ [sample]))
    (h : addAll std samples = some filter) : ∃ result, filter.add std sample = some result := by
  apply ClockSampleFilter.add_total
  rw [appended_addAll h]
  have hsub : (suffix 8 (samples ++ [sample])).Sublist (samples ++ [sample]) :=
    List.drop_sublist _ _
  have hsorted := hordered.sorted.sublist hsub
  intro first hfirst
  refine ⟨hordered.fits first (hsub.subset (List.mem_of_mem_head? hfirst)), ?_⟩
  cases hrecent : suffix 8 (samples ++ [sample]) with
  | nil => exact fun e he => nomatch he
  | cons x rest =>
      rw [hrecent] at hfirst hsorted
      cases hfirst
      intro e he
      rcases List.mem_cons.mp he with rfl | he
      · exact UInt64.le_refl _
      · exact (List.pairwise_cons.mp hsorted).1 e he

theorem Ordered.of_append {others : List ClockEstimate} (h : Ordered (samples ++ others)) :
    Ordered samples := by
  constructor
  · exact h.sorted.sublist (List.sublist_append_left _ _)
  · exact fun e he => h.fits e (List.mem_append_left _ he)

theorem Ordered.addAll_total (hordered : Ordered samples) :
    ∃ filter, addAll std samples = some filter := by
  induction samples using List.reverseRecOn with
  | nil => exact ⟨{}, rfl⟩
  | append_singleton samples sample ih =>
      obtain ⟨filter, hfilter⟩ := ih hordered.of_append
      obtain ⟨result, hresult⟩ := hordered.add_total hfilter
      refine ⟨result.2, ?_⟩
      rw [addAll_concat, hfilter, Option.bind_some, hresult]
      rfl

end Add

end ClockSampleFilter

end SyncAudio

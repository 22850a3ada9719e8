import SyncAudio.Desktop.ClockSyncTransport
import SyncAudio.Ios.ClockSync

/-!
# The clock offset on both platforms

The desktop client and the phone choose their clock offset by one rule: the upper
median of the offsets of the three samples with the shortest round trips. What the
rule is good for follows from the rule alone.
-/

namespace SyncAudio.ClockSelection

/-- What a chosen offset is good for: it is as accurate as the chosen samples, and no
single one of three can mislead it. -/
structure Robust {α : Type} (offset roundTrip : α → ℚ) (fast : List α) (chosen : ℚ) : Prop where
  error_le : ∀ theta bound : ℚ, (∀ a ∈ fast, |offset a - theta| ≤ roundTrip a / 2) →
    (∀ a ∈ fast, roundTrip a ≤ bound) → |chosen - theta| ≤ bound / 2
  between : ∀ bad a b : α, fast.Perm [bad, a, b] →
    min (offset a) (offset b) ≤ chosen ∧ chosen ≤ max (offset a) (offset b)

/-- The numbers of a sample that both platforms choose by. -/
def desktopPair (sample : ClockSyncEstimate) : ℚ × ℚ :=
  (sample.hostMinusClientOffset, sample.roundTripTime)

def phonePair (sample : ClockEstimate) : ℚ × ℚ :=
  (sample.offsetNanoseconds, sample.roundTripNanoseconds)

section Rule

variable {α : Type} {key value : α → ℚ} {n : Nat} {xs few : List α} {m least : ℚ}

theorem robust_of_medianOfLeast (h : MedianOfLeast key value n xs few m least) :
    Robust value key few m := by
  constructor
  · intro theta bound hnear hbound
    obtain ⟨a, ha, rfl⟩ := h.exists_value
    have hle := hbound a ha
    exact (hnear a ha).trans (by linarith)
  · intro bad a b hperm
    exact h.between hperm

/-- The choice of the desktop, on rational numbers. -/
theorem medianOfLeast_desktop {samples fast : List ClockSyncEstimate} {offset roundTrip : Int}
    (h : MedianOfLeast ClockSyncEstimate.roundTripTime ClockSyncEstimate.hostMinusClientOffset 3
      samples fast offset roundTrip) :
    MedianOfLeast (fun s : ClockSyncEstimate => (s.roundTripTime : ℚ))
      (fun s => (s.hostMinusClientOffset : ℚ)) 3 samples fast offset roundTrip :=
  h.comp Int.cast_strictMono Int.cast_strictMono

end Rule

/-- On the desktop the selection is the rule, whatever the order of the list. On the
phone each answer is the rule on the last eight samples, and at most sixteen are kept;
it answers every sample, since its clock does not run backwards. Up to eight samples
both give the same offset and round trip. -/
theorem selection_agrees (std swift : SortAlgorithm) :
    (∀ samples, samples ≠ [] → (samples.map ClockSyncEstimate.roundTripTime).Nodup →
      ∃ result fast, ClockSyncClient.selectEstimate std samples = .ok result ∧
        MedianOfLeast ClockSyncEstimate.roundTripTime ClockSyncEstimate.hostMinusClientOffset 3
          samples fast result.hostMinusClientOffset result.roundTripTime ∧
        result.samples = UInt32.ofNat samples.length ∧
        (∀ (other : SortAlgorithm) (samples' : List ClockSyncEstimate), samples.Perm samples' →
          ∃ result', ClockSyncClient.selectEstimate other samples' = .ok result' ∧
            result'.hostMinusClientOffset = result.hostMinusClientOffset ∧
            result'.roundTripTime = result.roundTripTime ∧ result'.samples = result.samples) ∧
        Robust (fun s => (s.hostMinusClientOffset : ℚ)) (fun s => (s.roundTripTime : ℚ)) fast
          result.hostMinusClientOffset) ∧
    (∀ (history : List ClockEstimate) (sample : ClockEstimate) (filter after : ClockSampleFilter)
        (answer : ClockEstimate), ClockSampleFilter.addAll swift history = some filter →
      filter.add swift sample = some (answer, after) →
      filter.samples.length ≤ 16 ∧ after.samples.length ≤ 16 ∧
        (∃ fast, MedianOfLeast ClockEstimate.roundTripNanoseconds ClockEstimate.offsetNanoseconds 3
            (ClockSampleFilter.suffix 8 (history ++ [sample])) fast answer.offsetNanoseconds
            answer.roundTripNanoseconds ∧
          Robust ClockEstimate.offsetNanoseconds ClockEstimate.roundTripNanoseconds fast
            answer.offsetNanoseconds) ∧
        ∀ samples result, samples.length ≤ 8 →
          (samples.map ClockSyncEstimate.roundTripTime).Nodup →
          samples.map desktopPair = (history ++ [sample]).map phonePair →
          ClockSyncClient.selectEstimate std samples = .ok result →
          answer.offsetNanoseconds = result.hostMinusClientOffset ∧
            answer.roundTripNanoseconds = result.roundTripTime ∧
            answer.sampleCount = result.samples.toNat) ∧
    ∀ samples : List ClockEstimate, ClockSampleFilter.Ordered samples →
      ∃ filter, ClockSampleFilter.addAll swift samples = some filter := by
  refine ⟨?_, ?_, fun samples hordered => hordered.addAll_total⟩
  · intro samples hne hdistinct
    obtain ⟨result, fast, hresult, hrule, hcount⟩ := ClockSyncClient.selectEstimate_spec std hne
    refine ⟨result, fast, hresult, hrule, hcount, ?_,
      robust_of_medianOfLeast (medianOfLeast_desktop hrule)⟩
    intro other samples' hperm
    have hne' : samples' ≠ [] := by
      intro hnil
      rw [hnil] at hperm
      exact hne hperm.eq_nil
    obtain ⟨result', fast', hresult', hrule', hcount'⟩ :=
      ClockSyncClient.selectEstimate_spec other hne'
    obtain ⟨hoffset, hleast⟩ := hrule.unique hrule' hperm hdistinct
    exact ⟨result', hresult', hoffset.symm, hleast.symm, by rw [hcount', hcount, hperm.length_eq]⟩
  · intro history sample filter after answer hfilter hanswer
    obtain ⟨fast, hrule, hcount⟩ := ClockSampleFilter.add_spec hanswer
    rw [ClockSampleFilter.appended_addAll hfilter] at hrule hcount
    refine ⟨?_, ?_, ⟨fast, hrule, robust_of_medianOfLeast hrule⟩, ?_⟩
    · rw [ClockSampleFilter.samples_addAll hfilter, ClockSampleFilter.length_suffix]
      exact Nat.min_le_left _ _
    · have hafter : after.samples = filter.appended sample :=
        ClockSampleFilter.add_samples hanswer
      rw [hafter, ClockSampleFilter.appended_eq_suffix (ClockSampleFilter.samples_addAll hfilter),
        ClockSampleFilter.length_suffix]
      exact Nat.min_le_left _ _
    · intro samples result hfew hdistinct hsame hresult
      have hlength : samples.length = (history ++ [sample]).length := by
        rw [← List.length_map desktopPair, hsame, List.length_map]
      have hall : ClockSampleFilter.suffix 8 (history ++ [sample]) = history ++ [sample] := by
        unfold ClockSampleFilter.suffix
        rw [Nat.sub_eq_zero_of_le (hlength ▸ hfew), List.drop_zero]
      have hne : samples ≠ [] := by
        intro hnil
        rw [hnil, List.length_append] at hlength
        exact absurd hlength (by simp)
      obtain ⟨result', desktopFast, hresult', hdesktop, hsamples⟩ :=
        ClockSyncClient.selectEstimate_spec std hne
      rw [hresult] at hresult'
      cases hresult'
      have hdesktop := (medianOfLeast_desktop hdesktop).map_pairs
      have hphone := hrule.map_pairs
      rw [hall] at hphone hcount
      have hkeys : ((samples.map fun s : ClockSyncEstimate =>
          ((s.hostMinusClientOffset : ℚ), (s.roundTripTime : ℚ))).map Prod.snd).Nodup := by
        rw [List.map_map]
        have hcast := List.Nodup.map (Int.cast_injective (α := ℚ)) hdistinct
        rw [List.map_map] at hcast
        exact hcast
      obtain ⟨hoffset, hleast⟩ := hdesktop.unique hphone (List.Perm.of_eq hsame) hkeys
      refine ⟨hoffset.symm, hleast.symm, ?_⟩
      rw [hcount, hsamples, ← hlength]
      exact (UInt32.toNat_ofNat_of_lt' (lt_of_le_of_lt hfew (by decide))).symm

end SyncAudio.ClockSelection

import Mathlib.Algebra.Order.Interval.Finset.SuccPred
import Mathlib.Data.Finset.Image
import Mathlib.Data.Nat.SuccPred
import Mathlib.Order.Lattice.Nat
import SyncAudio.Desktop.AudioClient
import SyncAudio.Lib.Gaps

/-!
# Loss count of the desktop client

`PacketReceiverWorker` counts lost packets as they turn out: a new highest
sequence number adds the numbers it skips, a late packet takes its own number
off again. For arrivals in any order the result is the number of gaps between
the first arrival and the highest one.

## Implementation notes

`run` calls `updateSequenceStatistics` for the packets of one session and stream;
here the numbers are arbitrary.
-/

namespace SyncAudio.PacketReceiverWorker

/-- The worker after the numbers of a list have been entered. -/
def counted (config : DesktopAudioClientConfig) (arrivals : List UInt32) : PacketReceiverWorker :=
  arrivals.foldl updateSequenceStatistics (start config)

/-- The numbers that occur in a list of arrivals. -/
def seen (arrivals : List UInt32) : Finset Nat :=
  (arrivals.map UInt32.toNat).toFinset

/-- The largest number of a list of arrivals. -/
def largest (arrivals : List UInt32) : Nat :=
  (seen arrivals).sup id

/-- The numbers strictly between the first arrival and the largest one that never occurred. -/
def lost (arrivals : List UInt32) : Finset Nat :=
  match arrivals with
  | [] => ∅
  | first :: _ => Gaps.gaps first.toNat (largest arrivals) (seen arrivals)

/-- No new maximum skips more than 100,000 numbers. -/
def SkipsBounded (arrivals : List UInt32) : Prop :=
  ∀ n, (h : n < arrivals.length) → 0 < n → largest (arrivals.take n) < arrivals[n].toNat →
    arrivals[n].toNat - largest (arrivals.take n) - 1 ≤ 100000

/-- The counters are those of arrivals that begin with `first`. -/
structure Counts (first : Nat) (arrivals : Finset Nat) (worker : PacketReceiverWorker)
    (highest : UInt32) : Prop where
  highestSequence_eq : worker.highestSequence = some highest
  first_le : first ≤ highest.toNat
  highest_mem : highest.toNat ∈ arrivals
  le_highest : ∀ arrival ∈ arrivals, arrival ≤ highest.toNat
  missing_eq : worker.missingSequences.image UInt32.toNat =
    Gaps.gaps first highest.toNat arrivals
  lost_eq : worker.packetsLost.toNat = (Gaps.gaps first highest.toNat arrivals).card

variable {first : Nat} {arrivals : Finset Nat} {worker : PacketReceiverWorker}
  {highest sequence : UInt32}

theorem toNat_injective : Function.Injective UInt32.toNat :=
  fun _ _ h => UInt32.toNat.inj h

/-- The loop enters exactly the numbers of the gap. -/
theorem image_insertGap (missing : Finset UInt32) (highest : UInt32) (gap : Nat)
    (hgap : highest.toNat + gap < 2 ^ 32) :
    ((List.range gap).foldl (fun missing k => insert (highest + 1 + UInt32.ofNat k) missing)
        missing).image UInt32.toNat =
      missing.image UInt32.toNat ∪ Finset.Ico (highest.toNat + 1) (highest.toNat + 1 + gap) := by
  induction gap with
  | zero => rw [Nat.add_zero, Finset.Ico_self, Finset.union_empty, List.range_zero, List.foldl_nil]
  | succ gap ih =>
      have hnumber : (highest + 1 + UInt32.ofNat gap).toNat = highest.toNat + 1 + gap := by
        rw [UInt32.toNat_add, UInt32.toNat_add, UInt32.toNat_one, UInt32.toNat_ofNat']
        omega
      rw [List.range_succ, List.foldl_append, List.foldl_cons, List.foldl_nil, Finset.image_insert,
        ih (by omega), hnumber, ← Finset.union_insert, ← Nat.add_assoc,
        ← Nat.Ico_succ_right_eq_insert_Ico (Nat.le_add_right _ _)]

/-- The first arrival. -/
theorem counts_first (config : DesktopAudioClientConfig) (sequence : UInt32) :
    Counts sequence.toNat {sequence.toNat} ((start config).updateSequenceStatistics sequence)
      sequence where
  highestSequence_eq := rfl
  first_le := le_rfl
  highest_mem := Finset.mem_singleton_self _
  le_highest := fun _ h => (Finset.mem_singleton.mp h).le
  missing_eq := by
    rw [Gaps.gaps_self]
    exact Finset.image_empty _
  lost_eq := by
    rw [Gaps.gaps_self]
    rfl

/-- The count stays below the last number. -/
theorem card_gaps_le (first last : Nat) (arrivals : Finset Nat) :
    (Gaps.gaps first last arrivals).card ≤ last := by
  calc (Gaps.gaps first last arrivals).card
      ≤ (Finset.Ioo first last).card := Finset.card_le_card Finset.sdiff_subset
    _ = last - first - 1 := Nat.card_Ioo _ _
    _ ≤ last := by omega

/-- A missing number is counted, so the counter is not zero where it goes down. -/
theorem Counts.one_le (h : Counts first arrivals worker highest)
    (hmissing : sequence ∈ worker.missingSequences) : 1 ≤ worker.packetsLost := by
  have hgap : sequence.toNat ∈ Gaps.gaps first highest.toNat arrivals := by
    rw [← h.missing_eq]
    exact Finset.mem_image_of_mem _ hmissing
  have hpos : 0 < (Gaps.gaps first highest.toNat arrivals).card := Finset.card_pos.mpr ⟨_, hgap⟩
  apply UInt64.le_iff_toNat_le.mpr
  rw [h.lost_eq, UInt64.toNat_one]
  exact hpos

/-- A new highest number. -/
theorem Counts.beyond (h : Counts first arrivals worker highest) (hnew : highest < sequence)
    (hskip : sequence.toNat - highest.toNat - 1 ≤ 100000) :
    Counts first (insert sequence.toNat arrivals) (worker.updateSequenceStatistics sequence)
      sequence := by
  have hlt : highest.toNat < sequence.toNat := UInt32.lt_iff_toNat_lt.mp hnew
  have hsequence : sequence.toNat < 2 ^ 32 := sequence.toNat_lt
  have hgaps := Gaps.gaps_arrive_beyond h.first_le h.highest_mem h.le_highest hlt
  have hupdate : worker.updateSequenceStatistics sequence =
      { worker with
        packetsLost := worker.packetsLost + UInt64.ofNat (sequence.toNat - highest.toNat - 1)
        missingSequences := (List.range (sequence.toNat - highest.toNat - 1)).foldl
          (fun missing k => insert (highest + 1 + UInt32.ofNat k) missing) worker.missingSequences
        highestSequence := some sequence } := by
    unfold updateSequenceStatistics
    rw [h.highestSequence_eq]
    dsimp only
    rw [if_pos hnew, if_pos hskip]
  rw [hupdate]
  constructor
  · rfl
  · exact h.first_le.trans hlt.le
  · exact Finset.mem_insert_self _ _
  · intro arrival harrival
    rcases Finset.mem_insert.mp harrival with heq | hold
    · exact heq.le
    · exact (h.le_highest arrival hold).trans hlt.le
  · dsimp only
    have hend : highest.toNat + 1 + (sequence.toNat - highest.toNat - 1) = sequence.toNat := by
      omega
    rw [image_insertGap _ _ _ (by omega), hend, h.missing_eq, hgaps,
      Finset.Ico_add_one_left_eq_Ioo]
  · have hlost := card_gaps_le first highest.toNat arrivals
    dsimp only
    rw [UInt64.toNat_add, h.lost_eq, UInt64.toNat_ofNat', hgaps,
      Finset.card_union_of_disjoint (Gaps.gaps_disjoint_beyond _ _ _ _), Nat.card_Ioo]
    omega

/-- A number that is no new maximum. -/
theorem Counts.within (h : Counts first arrivals worker highest) (hold : ¬ highest < sequence) :
    Counts first (insert sequence.toNat arrivals) (worker.updateSequenceStatistics sequence)
      highest := by
  have hle : sequence.toNat ≤ highest.toNat :=
    Nat.le_of_not_lt fun hlt => hold (UInt32.lt_iff_toNat_lt.mpr hlt)
  have hmem : sequence.toNat ∈ Gaps.gaps first highest.toNat arrivals ↔
      sequence ∈ worker.missingSequences := by
    rw [← h.missing_eq, Finset.mem_image]
    constructor
    · rintro ⟨other, hother, heq⟩
      rw [← toNat_injective heq]
      exact hother
    · exact fun hmissing => ⟨sequence, hmissing, rfl⟩
  have hbound : ∀ arrival ∈ insert sequence.toNat arrivals, arrival ≤ highest.toNat := by
    intro arrival harrival
    rcases Finset.mem_insert.mp harrival with heq | harrival
    · exact heq.le.trans hle
    · exact h.le_highest arrival harrival
  by_cases hmissing : sequence ∈ worker.missingSequences
  · have hupdate : worker.updateSequenceStatistics sequence =
        { worker with
          outOfOrderPackets := worker.outOfOrderPackets + 1
          missingSequences := worker.missingSequences.erase sequence
          packetsLost := worker.packetsLost - 1 } := by
      unfold updateSequenceStatistics
      rw [h.highestSequence_eq]
      dsimp only
      rw [if_neg hold, if_pos hmissing]
    rw [hupdate]
    constructor
    · exact h.highestSequence_eq
    · exact h.first_le
    · exact Finset.mem_insert_of_mem h.highest_mem
    · exact hbound
    · dsimp only
      rw [Gaps.gaps_arrive_within, ← h.missing_eq]
      exact Finset.image_erase toNat_injective _ _
    · dsimp only
      rw [UInt64.toNat_sub_of_le _ _ (h.one_le hmissing), h.lost_eq, Gaps.gaps_arrive_within,
        Finset.card_erase_of_mem (hmem.mpr hmissing), UInt64.toNat_one]
  · have hupdate : worker.updateSequenceStatistics sequence =
        { worker with outOfOrderPackets := worker.outOfOrderPackets + 1 } := by
      unfold updateSequenceStatistics
      rw [h.highestSequence_eq]
      dsimp only
      rw [if_neg hold, if_neg hmissing, Finset.erase_eq_of_notMem hmissing]
    have hgaps : Gaps.gaps first highest.toNat (insert sequence.toNat arrivals) =
        Gaps.gaps first highest.toNat arrivals := by
      rw [Gaps.gaps_arrive_within, Finset.erase_eq_of_notMem (mt hmem.mp hmissing)]
    rw [hupdate]
    constructor
    · exact h.highestSequence_eq
    · exact h.first_le
    · exact Finset.mem_insert_of_mem h.highest_mem
    · exact hbound
    · exact h.missing_eq.trans hgaps.symm
    · exact h.lost_eq.trans (congrArg Finset.card hgaps.symm)

theorem seen_eq_image (arrivals : List UInt32) :
    seen arrivals = arrivals.toFinset.image UInt32.toNat := by
  ext arrival
  simp [seen]

theorem seen_append (before : List UInt32) (sequence : UInt32) :
    seen (before ++ [sequence]) = insert sequence.toNat (seen before) := by
  ext arrival
  simp [seen, eq_comm]

theorem Counts.largest_eq {before : List UInt32}
    (h : Counts first (seen before) worker highest) : largest before = highest.toNat := by
  apply le_antisymm
  · exact Finset.sup_le h.le_highest
  · exact Finset.le_sup (f := id) h.highest_mem

/-- The bound on the skips of a longer list. -/
theorem skipsBounded_append {before : List UInt32} (h : SkipsBounded (before ++ [sequence])) :
    SkipsBounded before ∧ (before ≠ [] → largest before < sequence.toNat →
      sequence.toNat - largest before - 1 ≤ 100000) := by
  constructor
  · intro n hn hpos hlt
    have hlonger : n < (before ++ [sequence]).length := by
      rw [List.length_append]
      omega
    have hat := h n hlonger hpos
    rw [List.take_append_of_le_length hn.le, List.getElem_append_left hn] at hat
    exact hat hlt
  · intro hne hlt
    have hlast : before.length < (before ++ [sequence]).length := by
      rw [List.length_append]
      exact Nat.lt_succ_self _
    have hat := h before.length hlast (List.length_pos_iff.mpr hne)
    rw [List.take_left, List.getElem_concat_length rfl] at hat
    exact hat hlt

/-- The worker after a nonempty list of arrivals. -/
theorem counts_counted (config : DesktopAudioClientConfig) {first : UInt32} {rest : List UInt32}
    (h : SkipsBounded (first :: rest)) :
    ∃ highest, Counts first.toNat (seen (first :: rest)) (counted config (first :: rest))
      highest := by
  induction rest using List.reverseRecOn with
  | nil => exact ⟨first, counts_first config first⟩
  | append_singleton before sequence ih =>
      rw [← List.cons_append] at h ⊢
      obtain ⟨hbefore, hskip⟩ := skipsBounded_append h
      obtain ⟨highest, hcounts⟩ := ih hbefore
      have hcounted : counted config (first :: before ++ [sequence]) =
          (counted config (first :: before)).updateSequenceStatistics sequence := by
        rw [counted, List.foldl_append]
        rfl
      rw [hcounted, seen_append]
      by_cases hnew : highest < sequence
      · have hgap := hskip (List.cons_ne_nil _ _)
        rw [hcounts.largest_eq] at hgap
        exact ⟨sequence, hcounts.beyond hnew (hgap (UInt32.lt_iff_toNat_lt.mp hnew))⟩
      · exact ⟨highest, hcounts.within hnew⟩

/-- What the counters are meant to be after a list of arrivals. -/
structure Exact (arrivals : List UInt32) (worker : PacketReceiverWorker) : Prop where
  lost_eq : worker.packetsLost.toNat = (lost arrivals).card
  missing_eq : worker.missingSequences.image UInt32.toNat = lost arrivals
  /-- The counter is not zero where a late packet takes it down. -/
  one_le : ∀ sequence ∈ worker.missingSequences, 1 ≤ worker.packetsLost

theorem exact_counted (config : DesktopAudioClientConfig) {arrivals : List UInt32}
    (h : SkipsBounded arrivals) : Exact arrivals (counted config arrivals) := by
  cases arrivals with
  | nil => exact ⟨rfl, rfl, fun sequence hmem => absurd hmem (Finset.notMem_empty _)⟩
  | cons first rest =>
      obtain ⟨highest, hcounts⟩ := counts_counted config h
      have hlost : lost (first :: rest) =
          Gaps.gaps first.toNat highest.toNat (seen (first :: rest)) := by
        rw [lost, hcounts.largest_eq]
      constructor
      · rw [hlost]
        exact hcounts.lost_eq
      · rw [hlost]
        exact hcounts.missing_eq
      · exact fun sequence hmem => hcounts.one_le hmem

/-- The lost numbers depend on the first arrival and the set of arrivals only. -/
theorem lost_congr {arrivals others : List UInt32} (hhead : others.head? = arrivals.head?)
    (hset : others.toFinset = arrivals.toFinset) : lost others = lost arrivals := by
  have hseen : seen others = seen arrivals := by
    rw [seen_eq_image, seen_eq_image, hset]
  cases others with
  | nil =>
      cases arrivals with
      | nil => rfl
      | cons _ _ => cases hhead
  | cons first rest =>
      cases arrivals with
      | nil => cases hhead
      | cons _ _ =>
          cases hhead
          rw [lost, lost, largest, largest, hseen]

/-- For every list of arrivals, in any order and with any duplicates, where no new maximum
skips more than 100,000 numbers, the count is the number of gaps, and two such lists with
the same first number and the same numbers have the same count. -/
theorem loss_exact (config : DesktopAudioClientConfig) (arrivals : List UInt32)
    (hskips : SkipsBounded arrivals) :
    Exact arrivals (counted config arrivals) ∧
      ∀ others, SkipsBounded others → others.head? = arrivals.head? →
        others.toFinset = arrivals.toFinset →
          (counted config others).packetsLost = (counted config arrivals).packetsLost := by
  have hexact := exact_counted config hskips
  refine ⟨hexact, ?_⟩
  intro others hothers hhead hset
  apply UInt64.toNat.inj
  rw [(exact_counted config hothers).lost_eq, hexact.lost_eq, lost_congr hhead hset]

theorem loss_exact_late :
    (counted anyStream [5, 9, 7]).packetsLost.toNat = 2 ∧
      (counted anyStream [5, 9, 7]).missingSequences.image UInt32.toNat = {6, 8} := by
  have hskips : SkipsBounded [5, 9, 7] := by
    unfold SkipsBounded
    decide
  have hlost : lost [5, 9, 7] = {6, 8} := by decide
  obtain ⟨hexact, -⟩ := loss_exact anyStream [5, 9, 7] hskips
  constructor
  · rw [hexact.lost_eq, hlost]
    rfl
  · rw [hexact.missing_eq, hlost]

end SyncAudio.PacketReceiverWorker

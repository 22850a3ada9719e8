import Mathlib.Order.Interval.Finset.Nat

/-!
# Gaps behind the largest arrival

Values arrive in any order and any number of times. The gaps are the values
between the first arrival and the largest one that never arrived. The two
lemmas on `arrive` say how the gaps change when the largest arrival moves and
when it does not.
-/

namespace SyncAudio.Gaps

variable {α : Type*} [LinearOrder α] [LocallyFiniteOrder α]

/-- The values strictly between `first` and `last` that did not arrive. -/
def gaps (first last : α) (seen : Finset α) : Finset α :=
  Finset.Ioo first last \ seen

variable {first last value : α} {seen : Finset α}

theorem mem_gaps : value ∈ gaps first last seen ↔
    (first < value ∧ value < last) ∧ value ∉ seen := by
  rw [gaps, Finset.mem_sdiff, Finset.mem_Ioo]

theorem gaps_self (first : α) (seen : Finset α) : gaps first first seen = ∅ := by
  rw [gaps, Finset.Ioo_self, Finset.empty_sdiff]

/-- A new largest arrival leaves the values behind the old one as gaps. -/
theorem gaps_arrive_beyond (hfirst : first ≤ last) (hlast : last ∈ seen)
    (hseen : ∀ arrival ∈ seen, arrival ≤ last) (hvalue : last < value) :
    gaps first value (insert value seen) = gaps first last seen ∪ Finset.Ioo last value := by
  ext x
  rw [Finset.mem_union, mem_gaps, mem_gaps, Finset.mem_Ioo, Finset.mem_insert]
  constructor
  · rintro ⟨⟨hfirstx, hxvalue⟩, hx⟩
    rcases lt_trichotomy x last with hlt | heq | hgt
    · exact .inl ⟨⟨hfirstx, hlt⟩, fun h => hx (.inr h)⟩
    · subst heq
      exact absurd (.inr hlast) hx
    · exact .inr ⟨hgt, hxvalue⟩
  · rintro (⟨⟨hfirstx, hxlast⟩, hx⟩ | ⟨hlastx, hxvalue⟩)
    · refine ⟨⟨hfirstx, hxlast.trans hvalue⟩, ?_⟩
      rintro (heq | h)
      · exact absurd (heq ▸ hxlast) hvalue.not_gt
      · exact hx h
    · refine ⟨⟨hfirst.trans_lt hlastx, hxvalue⟩, ?_⟩
      rintro (heq | h)
      · exact hxvalue.ne heq
      · exact (hseen x h).not_gt hlastx

/-- The new gaps are none of the old ones. -/
theorem gaps_disjoint_beyond (first last value : α) (seen : Finset α) :
    Disjoint (gaps first last seen) (Finset.Ioo last value) := by
  rw [Finset.disjoint_left]
  intro x hx hbeyond
  exact (mem_gaps.mp hx).1.2.not_gt (Finset.mem_Ioo.mp hbeyond).1

/-- Any other arrival fills its gap, if there is one. -/
theorem gaps_arrive_within (first last value : α) (seen : Finset α) :
    gaps first last (insert value seen) = (gaps first last seen).erase value := by
  rw [gaps, gaps, Finset.sdiff_insert]

end SyncAudio.Gaps

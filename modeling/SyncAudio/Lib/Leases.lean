import Mathlib.Logic.Function.Basic
import Mathlib.Tactic.Common

/-!
# Leases with fencing tokens

A registry records for each key the token of one lease. Holders keep the key and
the token they were given; a release names both and is ignored unless the
registry still has that token. As long as no token is issued twice, the registry
lists exactly the leases that are held and were the last ones issued for their
key.

## Implementation notes

Holders, keys and tokens are arbitrary types. The history of issued leases is
part of the state, newest first.
-/

namespace SyncAudio

/-- The registry, what each holder has, and the leases issued so far. -/
@[ext] structure Leases (ι κ τ : Type*) where
  table : κ → Option τ
  held : ι → Option (κ × τ)
  issued : List (κ × τ)

namespace Leases

variable {ι κ τ : Type*} [DecidableEq κ] {s : Leases ι κ τ} {i j : ι} {k k' : κ} {t t' : τ}

/-- The token issued last for a key. -/
def lastIssued (s : Leases ι κ τ) (k : κ) : Option τ := s.issued.lookup k

/-- The registry lists the held leases that were issued last for their key. -/
structure Consistent (s : Leases ι κ τ) : Prop where
  table_iff : ∀ k t, s.table k = some t ↔
    (∃ i, s.held i = some (k, t)) ∧ s.lastIssued k = some t
  held_issued : ∀ i k t, s.held i = some (k, t) → (k, t) ∈ s.issued
  held_once : ∀ i j k t, s.held i = some (k, t) → s.held j = some (k, t) → i = j

theorem consistent_empty : (⟨fun _ => none, fun _ => none, []⟩ : Leases ι κ τ).Consistent where
  table_iff _ _ := by simp
  held_issued _ _ _ := by simp
  held_once _ _ _ _ := by simp

/-- A superseded lease is not the one the registry has. -/
theorem Consistent.table_ne_of_superseded (hs : s.Consistent) (h : s.lastIssued k ≠ some t) :
    s.table k ≠ some t := by
  intro htable
  exact h ((hs.table_iff k t).mp htable).2

/-- Without holders the registry is empty. -/
theorem Consistent.table_eq_none (hs : s.Consistent) (hnone : ∀ i, s.held i = none) (k : κ) :
    s.table k = none := by
  cases h : s.table k with
  | none => rfl
  | some t =>
      obtain ⟨⟨i, hi⟩, -⟩ := (hs.table_iff k t).mp h
      rw [hnone i] at hi
      cases hi

/-- A holder gives its lease back. The registry ignores a token it no longer has. -/
def release [DecidableEq ι] [DecidableEq τ] (s : Leases ι κ τ) (i : ι) : Leases ι κ τ :=
  match s.held i with
  | none => s
  | some (k, t) => { s with
      table := if s.table k = some t then Function.update s.table k none else s.table
      held := Function.update s.held i none }

/-- A holder is given the lease of a key, whoever had it before. -/
def claim [DecidableEq ι] (s : Leases ι κ τ) (i : ι) (k : κ) (t : τ) : Leases ι κ τ where
  table := Function.update s.table k (some t)
  held := Function.update s.held i (some (k, t))
  issued := (k, t) :: s.issued

section Release

variable [DecidableEq ι] [DecidableEq τ]

theorem release_of_none (h : s.held i = none) : s.release i = s := by
  rw [release, h]

theorem release_held_some : (s.release i).held j = some (k, t) ↔
    j ≠ i ∧ s.held j = some (k, t) := by
  cases hi : s.held i with
  | none =>
      rw [release_of_none hi]
      constructor
      · intro hj
        refine ⟨?_, hj⟩
        rintro rfl
        rw [hi] at hj
        cases hj
      · exact And.right
  | some lease =>
      rw [release, hi]
      by_cases hji : j = i
      · simp [hji]
      · simp [hji]

theorem release_table_some (hi : s.held i = some (k, t)) :
    (s.release i).table k' = some t' ↔ s.table k' = some t' ∧ (k', t') ≠ (k, t) := by
  rw [release, hi]
  by_cases hk : k' = k
  · subst hk
    by_cases ht : s.table k' = some t
    · simp [ht, eq_comm]
    · simp only [ht, if_false, ne_eq, Prod.mk.injEq, true_and, iff_self_and]
      rintro hlookup rfl
      exact ht hlookup
  · by_cases ht : s.table k = some t
    · simp [ht, hk]
    · simp [ht, hk]

@[simp] theorem release_issued (s : Leases ι κ τ) (i : ι) : (s.release i).issued = s.issued := by
  cases hi : s.held i <;> rw [release, hi]

@[simp] theorem release_lastIssued (s : Leases ι κ τ) (i : ι) (k : κ) :
    (s.release i).lastIssued k = s.lastIssued k := by
  rw [lastIssued, release_issued, lastIssued]

theorem Consistent.release (hs : s.Consistent) (i : ι) : (s.release i).Consistent := by
  cases hi : s.held i with
  | none => rwa [release_of_none hi]
  | some lease =>
      obtain ⟨k, t⟩ := lease
      constructor
      · intro k' t'
        rw [release_table_some hi, hs.table_iff, release_lastIssued]
        constructor
        · rintro ⟨⟨⟨j, hj⟩, hlast⟩, hne⟩
          refine ⟨⟨j, release_held_some.mpr ⟨?_, hj⟩⟩, hlast⟩
          rintro rfl
          rw [hi] at hj
          exact hne (Option.some.inj hj).symm
        · rintro ⟨⟨j, hj⟩, hlast⟩
          obtain ⟨hji, hj⟩ := release_held_some.mp hj
          refine ⟨⟨⟨j, hj⟩, hlast⟩, ?_⟩
          intro heq
          rw [heq] at hj
          exact hji (hs.held_once _ _ _ _ hj hi)
      · intro j k' t' hj
        rw [release_issued]
        exact hs.held_issued _ _ _ (release_held_some.mp hj).2
      · intro j j' k' t' hj hj'
        exact hs.held_once _ _ _ _ (release_held_some.mp hj).2 (release_held_some.mp hj').2

end Release

section Claim

variable [DecidableEq ι]

theorem claim_held_some : (s.claim i k t).held j = some (k', t') ↔
    j = i ∧ (k', t') = (k, t) ∨ j ≠ i ∧ s.held j = some (k', t') := by
  by_cases hji : j = i
  · simp [claim, hji, eq_comm]
  · simp [claim, hji]

theorem claim_table_some : (s.claim i k t).table k' = some t' ↔
    k' = k ∧ t' = t ∨ k' ≠ k ∧ s.table k' = some t' := by
  by_cases hk : k' = k
  · simp [claim, hk, eq_comm]
  · simp [claim, hk]

theorem claim_lastIssued_some : (s.claim i k t).lastIssued k' = some t' ↔
    k' = k ∧ t' = t ∨ k' ≠ k ∧ s.lastIssued k' = some t' := by
  by_cases hk : k' = k
  · simp [claim, lastIssued, hk, eq_comm]
  · simp [claim, lastIssued, List.lookup_cons, hk, beq_eq_false_iff_ne.mpr hk]

theorem Consistent.claim (hs : s.Consistent) (hfree : s.held i = none)
    (hfresh : t ∉ s.issued.map Prod.snd) (k : κ) : (s.claim i k t).Consistent := by
  have hnew : ∀ j, s.held j ≠ some (k, t) := fun j hj =>
    hfresh (List.mem_map_of_mem (hs.held_issued _ _ _ hj))
  constructor
  · intro k' t'
    rw [claim_table_some, claim_lastIssued_some, hs.table_iff]
    constructor
    · rintro (⟨rfl, rfl⟩ | ⟨hk, ⟨j, hj⟩, hlast⟩)
      · exact ⟨⟨i, claim_held_some.mpr (.inl ⟨rfl, rfl⟩)⟩, .inl ⟨rfl, rfl⟩⟩
      · refine ⟨⟨j, claim_held_some.mpr (.inr ⟨?_, hj⟩)⟩, .inr ⟨hk, hlast⟩⟩
        rintro rfl
        rw [hfree] at hj
        cases hj
    · rintro ⟨⟨j, hj⟩, hlast | ⟨hk, hlast⟩⟩
      · exact .inl hlast
      · rcases claim_held_some.mp hj with ⟨-, heq⟩ | ⟨-, hj⟩
        · exact absurd (Prod.mk.inj heq).1 hk
        · exact .inr ⟨hk, ⟨j, hj⟩, hlast⟩
  · intro j k' t' hj
    rcases claim_held_some.mp hj with ⟨-, heq⟩ | ⟨-, hj⟩
    · exact heq ▸ List.mem_cons_self
    · exact List.mem_cons_of_mem _ (hs.held_issued _ _ _ hj)
  · intro j j' k' t' hj hj'
    rcases claim_held_some.mp hj with ⟨rfl, heq⟩ | ⟨-, hold⟩ <;>
      rcases claim_held_some.mp hj' with ⟨rfl, heq'⟩ | ⟨-, hold'⟩
    · rfl
    · rw [heq] at hold'
      exact absurd hold' (hnew _)
    · rw [heq'] at hold
      exact absurd hold (hnew _)
    · exact hs.held_once _ _ _ _ hold hold'

end Claim

section Backed

variable [DecidableEq ι]

/-- Every lease of the registry is held, also if a token is issued twice. -/
def Backed (s : Leases ι κ τ) : Prop := ∀ k t, s.table k = some t → ∃ i, s.held i = some (k, t)

theorem Backed.release [DecidableEq τ] (hs : s.Backed) (i : ι) : (s.release i).Backed := by
  intro k' t' htable
  cases hi : s.held i with
  | none =>
      rw [release_of_none hi] at htable ⊢
      exact hs k' t' htable
  | some lease =>
      obtain ⟨k, t⟩ := lease
      obtain ⟨htable, hne⟩ := (release_table_some hi).mp htable
      obtain ⟨j, hj⟩ := hs k' t' htable
      refine ⟨j, release_held_some.mpr ⟨?_, hj⟩⟩
      rintro rfl
      exact hne (Option.some.inj (hj.symm.trans hi))

theorem Backed.claim (hs : s.Backed) (hfree : s.held i = none) (k : κ) (t : τ) :
    (s.claim i k t).Backed := by
  intro k' t' htable
  obtain ⟨rfl, rfl⟩ | ⟨-, htable⟩ := claim_table_some.mp htable
  · exact ⟨i, claim_held_some.mpr (.inl ⟨rfl, rfl⟩)⟩
  · obtain ⟨j, hj⟩ := hs k' t' htable
    refine ⟨j, claim_held_some.mpr (.inr ⟨?_, hj⟩)⟩
    rintro rfl
    rw [hfree] at hj
    cases hj

end Backed

end Leases

end SyncAudio

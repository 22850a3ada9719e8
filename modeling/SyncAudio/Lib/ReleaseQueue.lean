import Mathlib.Data.List.Perm.Basic
import Mathlib.Order.Lattice
import Mathlib.Order.Nat
import Mathlib.Tactic.Common

/-!
# Queues released by time

Items enter a queue in the order of their ranks, none of them already over. A release takes out
all that are due, in the order of their due times. If the times of the calls do not decrease,
then nothing is lost, every item leaves at the first release that finds it due, and the releases
one after the other are sorted as well.

## Implementation notes

A history lists the calls with what has entered and left in each. The queue and its history are
related by one invariant; what the queue is made of is up to its user.
-/

namespace SyncAudio.ReleaseQueue

/-- A call, with its time and the items that have entered or left the queue. -/
inductive Call (β τ α : Type*) where
  | added (origin : β) (now : τ) (items : List α)
  | released (now : τ) (items : List α)

variable {β τ α : Type*}

namespace Call

def now : Call β τ α → τ
  | added _ now _ => now
  | released now _ => now

def entering : Call β τ α → List α
  | added _ _ items => items
  | released _ _ => []

def leaving : Call β τ α → List α
  | added _ _ _ => []
  | released _ items => items

end Call

/-- What has entered, in this order. -/
def entered (calls : List (Call β τ α)) : List α := calls.flatMap Call.entering

/-- What has left, in this order. -/
def left (calls : List (Call β τ α)) : List α := calls.flatMap Call.leaving

section Histories

variable {calls : List (Call β τ α)} {origin : β} {now : τ} {items : List α}

@[simp] theorem entered_nil : entered ([] : List (Call β τ α)) = [] := rfl

@[simp] theorem left_nil : left ([] : List (Call β τ α)) = [] := rfl

@[simp] theorem entered_added :
    entered (calls ++ [.added origin now items]) = entered calls ++ items := by
  simp [entered, Call.entering]

@[simp] theorem left_added : left (calls ++ [.added origin now items]) = left calls := by
  simp [left, Call.leaving]

@[simp] theorem entered_released : entered (calls ++ [.released now items]) = entered calls := by
  simp [entered, Call.entering]

@[simp] theorem left_released : left (calls ++ [.released now items]) = left calls ++ items := by
  simp [left, Call.leaving]

theorem mem_entered {i : Nat} {a : α} (h : calls[i]? = some (.added origin now items))
    (ha : a ∈ items) : a ∈ entered calls :=
  List.mem_flatMap.mpr ⟨_, List.mem_of_getElem? h, ha⟩

theorem mem_left {i : Nat} {a : α} (h : calls[i]? = some (.released now items)) (ha : a ∈ items) :
    a ∈ left calls :=
  List.mem_flatMap.mpr ⟨_, List.mem_of_getElem? h, ha⟩

/-- An element of a list with one more at its end. -/
theorem getElem?_snoc {γ : Type*} {xs : List γ} {x y : γ} {i : Nat} :
    (xs ++ [x])[i]? = some y ↔ xs[i]? = some y ∨ i = xs.length ∧ x = y := by
  rcases Nat.lt_trichotomy i xs.length with hlt | heq | hgt
  · simp [List.getElem?_append_left hlt, hlt.ne]
  · simp [heq]
  · simp [List.getElem?_append_right hgt.le, List.getElem?_eq_none hgt.le, hgt.ne',
      Nat.sub_ne_zero_of_lt hgt]

end Histories

section Order

variable [LinearOrder τ] (due : α → τ) (rank : α → Nat)

/-- Due earlier, or at the same time and of lower rank. -/
def Before (a b : α) : Prop := due a < due b ∨ due a = due b ∧ rank a < rank b

variable {due rank} {a b : α}

theorem before_of_not_before (hrank : rank a ≠ rank b) (h : ¬ Before due rank b a) :
    Before due rank a b := by
  obtain ⟨hlater, htie⟩ := not_or.mp h
  rcases lt_or_eq_of_le (not_lt.mp hlater) with hlt | heq
  · exact .inl hlt
  · have hle := not_lt.mp fun hlt => htie ⟨heq.symm, hlt⟩
    exact .inr ⟨heq, lt_of_le_of_ne hle hrank⟩

theorem not_before_self : ¬ Before due rank a a := by
  simp [Before]

end Order

section Release

variable [LinearOrder τ] (due : α → τ)

/-- No release between the two calls finds the item due. -/
def Waits (calls : List (Call β τ α)) (i k : Nat) (a : α) : Prop :=
  ∀ j now items, i < j → j < k → calls[j]? = some (.released now items) → now < due a

variable {due} {calls : List (Call β τ α)} {call : Call β τ α} {i k : Nat} {a : α}

theorem waits_snoc (hk : k ≤ calls.length) :
    Waits due (calls ++ [call]) i k a ↔ Waits due calls i k a := by
  constructor
  · intro h j now items hij hjk hcall
    exact h j now items hij hjk (getElem?_snoc.mpr (.inl hcall))
  · intro h j now items hij hjk hcall
    rcases getElem?_snoc.mp hcall with hcall | ⟨hlast, -⟩
    · exact h j now items hij hjk hcall
    · omega

theorem waits_added {origin : β} {now : τ} {items : List α} :
    Waits due (calls ++ [.added origin now items]) i (calls.length + 1) a ↔
      Waits due calls i calls.length a := by
  have hsnoc : Waits due (calls ++ [.added origin now items]) i calls.length a ↔
      Waits due calls i calls.length a := waits_snoc le_rfl
  rw [← hsnoc]
  constructor
  · intro h j time out hij hjk hcall
    exact h j time out hij (by omega) hcall
  · intro h j time out hij hjk hcall
    rcases getElem?_snoc.mp hcall with hbefore | ⟨-, hkind⟩
    · exact h j time out hij (List.getElem?_eq_some_iff.mp hbefore).1 hcall
    · cases hkind

theorem waits_released {now : τ} {items : List α} (hi : i < calls.length) :
    Waits due (calls ++ [.released now items]) i (calls.length + 1) a ↔
      Waits due calls i calls.length a ∧ now < due a := by
  have hsnoc : Waits due (calls ++ [.released now items]) i calls.length a ↔
      Waits due calls i calls.length a := waits_snoc le_rfl
  rw [← hsnoc]
  constructor
  · intro h
    constructor
    · intro j time out hij hjk hcall
      exact h j time out hij (by omega) hcall
    · exact h calls.length now items hi (by omega) (getElem?_snoc.mpr (.inr ⟨rfl, rfl⟩))
  · intro h j time out hij hjk hcall
    rcases getElem?_snoc.mp hcall with hbefore | ⟨-, hkind⟩
    · exact h.1 j time out hij (List.getElem?_eq_some_iff.mp hbefore).1 hcall
    · cases hkind
      exact h.2

end Release

variable [LinearOrder τ]

/-- The queue and its history. -/
structure Released (due : α → τ) (rank : α → Nat) (pending : List α)
    (calls : List (Call β τ α)) : Prop where
  /-- Whatever has entered has left or is pending. -/
  conserved : (left calls ++ pending).Perm (entered calls)
  ranked : (entered calls).Pairwise fun a b => rank a < rank b
  /-- Nothing leaves before it is due. -/
  due_le : ∀ a ∈ left calls, ∃ call ∈ calls, due a ≤ call.now
  sorted : (left calls).Pairwise (Before due rank)
  ahead : ∀ a ∈ left calls, ∀ b ∈ pending, Before due rank a b
  mem_pending : ∀ i origin now items, calls[i]? = some (.added origin now items) →
    ∀ a ∈ items, (a ∈ pending ↔ Waits due calls i calls.length a)
  /-- An item leaves at the first release that finds it due. -/
  mem_released : ∀ i origin now items, calls[i]? = some (.added origin now items) →
    ∀ a ∈ items, ∀ k time out, calls[k]? = some (.released time out) →
      (a ∈ out ↔ i < k ∧ due a ≤ time ∧ Waits due calls i k a)

namespace Released

variable {due : α → τ} {rank : α → Nat} {pending : List α} {calls : List (Call β τ α)} {now : τ}

theorem nil : Released due rank [] ([] : List (Call β τ α)) where
  conserved := .refl _
  ranked := .nil
  due_le := fun _ hmem => absurd hmem List.not_mem_nil
  sorted := .nil
  ahead := fun _ hmem => absurd hmem List.not_mem_nil
  mem_pending := by simp
  mem_released := by simp

theorem mem_entered_of_mem_left (h : Released due rank pending calls) {a : α} (ha : a ∈ left calls) :
    a ∈ entered calls :=
  h.conserved.subset (List.mem_append_left _ ha)

/-- Pending items differ in their ranks. -/
theorem pending_pairwise (h : Released due rank pending calls) :
    pending.Pairwise fun a b => rank a ≠ rank b := by
  have hentered := h.ranked.imp fun hlt => Nat.ne_of_lt hlt
  have hboth := h.conserved.symm.pairwise hentered fun hne => hne.symm
  exact (List.pairwise_append.mp hboth).2.1

/-- Nothing leaves twice. -/
theorem nodup_left (h : Released due rank pending calls) : (left calls).Nodup := by
  refine h.sorted.imp ?_
  intro a b hbefore heq
  rw [heq] at hbefore
  exact not_before_self hbefore

/-- Items enter that are not over, of ranks not yet used. -/
theorem add (h : Released due rank pending calls) (origin : β) {items : List α}
    (hnow : ∀ call ∈ calls, call.now ≤ now) (hdue : ∀ a ∈ items, now ≤ due a)
    (hfresh : ∀ a ∈ entered calls, ∀ b ∈ items, rank a < rank b)
    (hranked : items.Pairwise fun a b => rank a < rank b) :
    Released due rank (pending ++ items) (calls ++ [.added origin now items]) := by
  have hold : ∀ a ∈ entered calls, a ∉ items :=
    fun a ha hitem => Nat.lt_irrefl _ (hfresh a ha a hitem)
  constructor
  case conserved =>
    rw [left_added, entered_added, ← List.append_assoc]
    exact h.conserved.append_right items
  case ranked =>
    rw [entered_added]
    exact List.pairwise_append.mpr ⟨h.ranked, hranked, hfresh⟩
  case due_le =>
    intro a ha
    rw [left_added] at ha
    obtain ⟨call, hcall, hle⟩ := h.due_le a ha
    exact ⟨call, List.mem_append_left _ hcall, hle⟩
  case sorted =>
    rw [left_added]
    exact h.sorted
  case ahead =>
    intro a ha b hb
    rw [left_added] at ha
    rcases List.mem_append.mp hb with hpending | hitem
    · exact h.ahead a ha b hpending
    · -- what has left was due at an earlier call
      obtain ⟨call, hcall, hle⟩ := h.due_le a ha
      have htime : due a ≤ due b := hle.trans ((hnow call hcall).trans (hdue b hitem))
      have hrank := hfresh a (h.mem_entered_of_mem_left ha) b hitem
      rcases lt_or_eq_of_le htime with hlt | heq
      · exact .inl hlt
      · exact .inr ⟨heq, hrank⟩
  case mem_pending =>
    intro i origin' now' items' hcall a ha
    rw [List.length_append, List.length_singleton, waits_added]
    rcases getElem?_snoc.mp hcall with hbefore | ⟨hlast, hkind⟩
    · rw [List.mem_append, ← h.mem_pending i origin' now' items' hbefore a ha]
      exact or_iff_left (hold a (mem_entered hbefore ha))
    · cases hkind
      apply iff_of_true (List.mem_append_right _ ha)
      intro j time out hij hjk
      omega
  case mem_released =>
    intro i origin' now' items' hcall a ha k time out hout
    rcases getElem?_snoc.mp hout with hbefore | ⟨-, hkind⟩
    · have hk := (List.getElem?_eq_some_iff.mp hbefore).1
      rw [waits_snoc hk.le]
      rcases getElem?_snoc.mp hcall with hadded | ⟨hlast, hkind⟩
      · exact h.mem_released i origin' now' items' hadded a ha k time out hbefore
      · cases hkind
        have hleft : a ∉ out := fun hmem =>
          hold a (h.mem_entered_of_mem_left (mem_left hbefore hmem)) ha
        apply iff_of_false hleft
        intro hlater
        omega
    · cases hkind

/-- What is due leaves, and the rest stays. -/
theorem release (h : Released due rank pending calls) {out rest : List α}
    (hout : out.Perm (pending.filter fun a => due a ≤ now))
    (hrest : rest = pending.filter fun a => ¬ due a ≤ now)
    (hsorted : out.Pairwise fun a b => ¬ Before due rank b a) :
    Released due rank rest (calls ++ [.released now out]) := by
  have hmem_out : ∀ {a}, a ∈ out ↔ a ∈ pending ∧ due a ≤ now := by
    intro a
    rw [hout.mem_iff]
    simp
  have hmem_rest : ∀ {a}, a ∈ rest ↔ a ∈ pending ∧ now < due a := by
    intro a
    rw [hrest]
    simp
  have hsplit : (out ++ rest).Perm pending := by
    rw [hrest]
    have hfilter := List.filter_append_perm (fun a => decide (due a ≤ now)) pending
    simp only [← decide_not] at hfilter
    exact (hout.append_right _).trans hfilter
  constructor
  case conserved =>
    rw [left_released, entered_released, List.append_assoc]
    exact (hsplit.append_left _).trans h.conserved
  case ranked =>
    rw [entered_released]
    exact h.ranked
  case due_le =>
    intro a ha
    rw [left_released] at ha
    rcases List.mem_append.mp ha with hleft | hleaving
    · obtain ⟨call, hcall, hle⟩ := h.due_le a hleft
      exact ⟨call, List.mem_append_left _ hcall, hle⟩
    · exact ⟨_, List.mem_append_right _ List.mem_cons_self, (hmem_out.mp hleaving).2⟩
  case sorted =>
    rw [left_released]
    refine List.pairwise_append.mpr ⟨h.sorted, ?_, ?_⟩
    · have hboth := hsplit.symm.pairwise h.pending_pairwise fun hne => hne.symm
      have hranks := (List.pairwise_append.mp hboth).1
      exact (hranks.and hsorted).imp fun hne => before_of_not_before hne.1 hne.2
    · intro a ha b hb
      exact h.ahead a ha b (hmem_out.mp hb).1
  case ahead =>
    intro a ha b hb
    rw [left_released] at ha
    obtain ⟨hpending, hlater⟩ := hmem_rest.mp hb
    rcases List.mem_append.mp ha with hleft | hleaving
    · exact h.ahead a hleft b hpending
    · exact .inl ((hmem_out.mp hleaving).2.trans_lt hlater)
  case mem_pending =>
    intro i origin now' items hcall a ha
    rcases getElem?_snoc.mp hcall with hbefore | ⟨-, hkind⟩
    · have hi := (List.getElem?_eq_some_iff.mp hbefore).1
      rw [List.length_append, List.length_singleton, waits_released hi, hmem_rest,
        h.mem_pending i origin now' items hbefore a ha]
    · cases hkind
  case mem_released =>
    intro i origin now' items hcall a ha k time out' hreleased
    rcases getElem?_snoc.mp hcall with hadded | ⟨-, hkind⟩
    · have hi := (List.getElem?_eq_some_iff.mp hadded).1
      rcases getElem?_snoc.mp hreleased with hbefore | ⟨hlast, hkind⟩
      · rw [waits_snoc (List.getElem?_eq_some_iff.mp hbefore).1.le]
        exact h.mem_released i origin now' items hadded a ha k time out' hbefore
      · cases hkind
        rw [hlast, waits_snoc le_rfl, hmem_out, h.mem_pending i origin now' items hadded a ha]
        tauto
    · cases hkind

end Released

end SyncAudio.ReleaseQueue

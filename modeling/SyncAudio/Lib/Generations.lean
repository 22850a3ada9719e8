import Mathlib.Data.List.Basic
import Mathlib.Tactic.Common

/-!
# Callbacks of a generation

An object that starts over counts its generations. A callback keeps the one it was made in and
does nothing in any other. What held of the callback when it was made then holds whenever it
does something, as long as every step that stays in the generation keeps it.
-/

namespace SyncAudio

/-- A callback with the generation it was made in. -/
structure Captured (κ : Type*) where
  callback : κ
  generation : Nat
  deriving DecidableEq

namespace Captured

variable {κ : Type*} {P Q : κ → Prop} {generation : Nat} {callbacks others : List (Captured κ)}
  {callback : κ}

/-- The callbacks of the current generation have the property, and none is of a later one. -/
def Current (P : κ → Prop) (generation : Nat) (callbacks : List (Captured κ)) : Prop :=
  ∀ c ∈ callbacks, c.generation ≤ generation ∧ (c.generation = generation → P c.callback)

theorem current_nil : Current P generation [] := by
  intro c hc
  exact absurd hc List.not_mem_nil

theorem Current.get (h : Current P generation callbacks) {c : Captured κ} (hc : c ∈ callbacks)
    (hgeneration : c.generation = generation) : P c.callback :=
  (h c hc).2 hgeneration

theorem Current.mono (h : Current P generation callbacks) (hPQ : ∀ callback, P callback → Q callback) :
    Current Q generation callbacks := by
  intro c hc
  exact ⟨(h c hc).1, fun hgeneration => hPQ _ ((h c hc).2 hgeneration)⟩

theorem Current.subset (h : Current P generation callbacks) (hsub : others ⊆ callbacks) :
    Current P generation others :=
  fun c hc => h c (hsub hc)

/-- A callback that is made now. -/
theorem Current.cons (h : Current P generation callbacks) (hP : P callback) :
    Current P generation (⟨callback, generation⟩ :: callbacks) := by
  intro c hc
  cases List.mem_cons.mp hc with
  | inl hnew => exact hnew ▸ ⟨Nat.le_refl _, fun _ => hP⟩
  | inr hold => exact h c hold

/-- A callback that is made now, if there is anything to call. -/
theorem Current.optional (h : Current P generation callbacks) {made : Option κ}
    (hP : ∀ callback, made = some callback → P callback) :
    Current P generation ((made.map fun callback => ⟨callback, generation⟩).toList ++ callbacks) := by
  cases made with
  | none => exact h
  | some callback => exact h.cons (hP callback rfl)

/-- Behind the next generation no callback does anything. -/
theorem Current.next (h : Current P generation callbacks) :
    Current Q (generation + 1) callbacks := by
  intro c hc
  have hle := (h c hc).1
  refine ⟨Nat.le_succ_of_le hle, ?_⟩
  intro hgeneration
  omega

end Captured

end SyncAudio

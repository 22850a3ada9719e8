import Mathlib.Data.List.Induction
import Mathlib.Tactic.Common

/-!
# Keyed writes

A state has a value for each key, and an update writes the value of one key. Behind a list
of updates a key has the value of its last write, or its old one where nothing wrote it. If no
two updates write different values for one key, then only the set of the updates counts.

## Implementation notes

An update is itself the value it writes.
-/

namespace SyncAudio

variable {σ K U : Type*} [DecidableEq K] {key : U → K} {value : σ → K → Option U}
  {apply : σ → U → σ} {updates others : List U} {s : σ} {k : K} {u : U}

/-- An update writes the value of its key and of no other. -/
structure KeyedWrites (key : U → K) (value : σ → K → Option U) (apply : σ → U → σ) : Prop where
  value_apply : ∀ s u k, value (apply s u) k = if key u = k then some u else value s k

/-- The last of the updates that writes a key. -/
def lastWrite (key : U → K) (updates : List U) (k : K) : Option U :=
  updates.reverse.find? fun u => key u = k

/-- No two of the updates write different values for one key. -/
def Consistent (key : U → K) (updates : List U) : Prop :=
  ∀ u ∈ updates, ∀ v ∈ updates, key u = key v → u = v

theorem lastWrite_append (key : U → K) (updates others : List U) (k : K) :
    lastWrite key (updates ++ others) k =
      (lastWrite key others k).or (lastWrite key updates k) := by
  simp [lastWrite, List.find?_append]

theorem lastWrite_mem (h : lastWrite key updates k = some u) : u ∈ updates ∧ key u = k := by
  constructor
  · exact List.mem_reverse.mp (List.mem_of_find?_eq_some h)
  · simpa using List.find?_some h

theorem exists_lastWrite (key : U → K) (hu : u ∈ updates) :
    ∃ v, lastWrite key updates (key u) = some v := by
  rw [← Option.isSome_iff_exists, lastWrite, List.find?_isSome]
  exact ⟨u, List.mem_reverse.mpr hu, by simp⟩

theorem Consistent.lastWrite_eq (h : Consistent key updates) (hu : u ∈ updates) :
    lastWrite key updates (key u) = some u := by
  obtain ⟨v, hv⟩ := exists_lastWrite key hu
  obtain ⟨hmem, hkey⟩ := lastWrite_mem hv
  rw [hv, h v hmem u hu hkey]

/-- The order of consistent updates does not matter. -/
theorem Consistent.lastWrite_congr (h : Consistent key updates)
    (hsame : ∀ u, u ∈ updates ↔ u ∈ others) (k : K) :
    lastWrite key updates k = lastWrite key others k := by
  have hothers : Consistent key others := by
    intro u hu v hv
    exact h u ((hsame u).mpr hu) v ((hsame v).mpr hv)
  cases hlast : lastWrite key updates k with
  | some u =>
      obtain ⟨hmem, rfl⟩ := lastWrite_mem hlast
      exact (hothers.lastWrite_eq ((hsame u).mp hmem)).symm
  | none =>
      cases hother : lastWrite key others k with
      | none => rfl
      | some u =>
          obtain ⟨hmem, rfl⟩ := lastWrite_mem hother
          rw [h.lastWrite_eq ((hsame u).mpr hmem)] at hlast
          cases hlast

namespace KeyedWrites

theorem value_foldl (h : KeyedWrites key value apply) (updates : List U) (s : σ) (k : K) :
    value (updates.foldl apply s) k = (lastWrite key updates k).or (value s k) := by
  induction updates using List.reverseRecOn with
  | nil => rfl
  | append_singleton updates u ih =>
      rw [List.foldl_append, lastWrite_append]
      simp only [List.foldl_cons, List.foldl_nil]
      rw [h.value_apply, ih]
      by_cases hkey : key u = k
      · simp [lastWrite, hkey]
      · simp [lastWrite, hkey]

/-- Updates leave every value as it was exactly if each last write repeats it. -/
theorem foldl_unchanged_iff (h : KeyedWrites key value apply) :
    (∀ k, value (updates.foldl apply s) k = value s k) ↔
      ∀ k u, lastWrite key updates k = some u → value s k = some u := by
  constructor
  · intro hsame k u hlast
    rw [← hsame k, h.value_foldl, hlast, Option.some_or]
  · intro hrepeats k
    rw [h.value_foldl]
    cases hlast : lastWrite key updates k with
    | none => rfl
    | some u => rw [hrepeats k u hlast, Option.some_or]

/-- Consistent updates lead to the same values in any order. -/
theorem foldl_congr (h : KeyedWrites key value apply) (hconsistent : Consistent key updates)
    (hsame : ∀ u, u ∈ updates ↔ u ∈ others) (k : K) :
    value (updates.foldl apply s) k = value (others.foldl apply s) k := by
  rw [h.value_foldl, h.value_foldl, hconsistent.lastWrite_congr hsame]

/-- What consistent updates have written they do not overwrite. -/
theorem foldl_keeps (h : KeyedWrites key value apply) (hconsistent : Consistent key others)
    (hupdates : ∀ u ∈ updates, u ∈ others) (hu : u ∈ others) (hvalue : value s (key u) = some u) :
    value (updates.foldl apply s) (key u) = some u := by
  rw [h.value_foldl]
  cases hlast : lastWrite key updates (key u) with
  | none => exact hvalue
  | some v =>
      obtain ⟨hmem, hkey⟩ := lastWrite_mem hlast
      rw [hconsistent v (hupdates v hmem) u hu hkey, Option.some_or]

theorem of_foldl (h : KeyedWrites key value apply)
    (hvalue : value (updates.foldl apply s) k = some u) :
    lastWrite key updates k = some u ∨ lastWrite key updates k = none ∧ value s k = some u := by
  rw [h.value_foldl] at hvalue
  cases hlast : lastWrite key updates k with
  | none =>
      rw [hlast, Option.none_or] at hvalue
      exact .inr ⟨rfl, hvalue⟩
  | some v =>
      rw [hlast, Option.some_or] at hvalue
      exact .inl hvalue

end KeyedWrites

end SyncAudio

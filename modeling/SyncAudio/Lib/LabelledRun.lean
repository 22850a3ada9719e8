import Mathlib.Data.List.Basic
import Mathlib.Tactic.Common

/-!
# Runs of labelled systems

A system is a partial step function. The label carries every choice the
environment makes in that step, so a run is determined by its list of labels
and can be evaluated.

## Implementation notes

A condition on the steps of a run is expressed by guarding the step function:
a run whose steps all meet the condition is a run of the guarded system.
-/

namespace SyncAudio.LabelledRun

variable {σ α : Type*}

/-- A step function, `none` where the label is not enabled. -/
abbrev Step (σ α : Type*) := σ → α → Option σ

/-- The state after a whole list of labels. -/
def run (step : Step σ α) : σ → List α → Option σ
  | s, [] => some s
  | s, a :: as => (step s a).bind fun t => run step t as

/-- The same system, where a label is enabled only if it meets the condition. -/
def guarded (ok : σ → α → Prop) [∀ s a, Decidable (ok s a)] (step : Step σ α) : Step σ α :=
  fun s a => if ok s a then step s a else none

@[simp] theorem run_nil (step : Step σ α) (s : σ) : run step s [] = some s := rfl

theorem run_cons_some {step : Step σ α} {s u : σ} {a : α} {as : List α} :
    run step s (a :: as) = some u ↔ ∃ t, step s a = some t ∧ run step t as = some u := by
  simp [run, Option.bind_eq_some_iff]

theorem guarded_some {ok : σ → α → Prop} [∀ s a, Decidable (ok s a)] {step : Step σ α}
    {s t : σ} {a : α} : guarded ok step s a = some t ↔ ok s a ∧ step s a = some t := by
  simp [guarded, Option.ite_none_right_eq_some]

theorem run_append {step : Step σ α} {s u : σ} {as bs : List α} :
    run step s (as ++ bs) = some u ↔
      ∃ t, run step s as = some t ∧ run step t bs = some u := by
  induction as generalizing s with
  | nil => simp
  | cons a as ih =>
      rw [List.cons_append, run_cons_some]
      constructor
      · rintro ⟨t, hstep, hrest⟩
        obtain ⟨m, hm, hu⟩ := ih.mp hrest
        exact ⟨m, run_cons_some.mpr ⟨t, hstep, hm⟩, hu⟩
      · rintro ⟨m, hm, hu⟩
        obtain ⟨t, hstep, hrest⟩ := run_cons_some.mp hm
        exact ⟨t, hstep, ih.mpr ⟨m, hrest, hu⟩⟩

/-- A property that every enabled step preserves holds along every run. -/
theorem run_preserves {step : Step σ α} {P : σ → Prop}
    (hstep : ∀ {s a t}, P s → step s a = some t → P t)
    {s t : σ} {as : List α} (hs : P s) (h : run step s as = some t) : P t := by
  induction as generalizing s with
  | nil => cases h; exact hs
  | cons a as ih =>
      obtain ⟨m, hm, hrest⟩ := run_cons_some.mp h
      exact ih (hstep hs hm) hrest

/-- A run of the guarded system is a run of the system itself. -/
theorem run_of_guarded {ok : σ → α → Prop} [∀ s a, Decidable (ok s a)] {step : Step σ α}
    {s t : σ} {as : List α} (h : run (guarded ok step) s as = some t) :
    run step s as = some t := by
  induction as generalizing s with
  | nil => exact h
  | cons a as ih =>
      obtain ⟨m, hm, hrest⟩ := run_cons_some.mp h
      exact run_cons_some.mpr ⟨m, (guarded_some.mp hm).2, ih hrest⟩

/-- If an invariant of the one guarded system turns its condition into the other, then its
runs are runs of the other. -/
theorem run_guarded_of_guarded {ok good : σ → α → Prop} [∀ s a, Decidable (ok s a)]
    [∀ s a, Decidable (good s a)] {step : Step σ α} {P : σ → Prop}
    (hstep : ∀ {s a t}, P s → ok s a → step s a = some t → P t)
    (hgood : ∀ {s a}, P s → ok s a → good s a)
    {s t : σ} {as : List α} (hs : P s) (h : run (guarded ok step) s as = some t) :
    run (guarded good step) s as = some t := by
  induction as generalizing s with
  | nil => exact h
  | cons a as ih =>
      obtain ⟨m, hm, hrest⟩ := run_cons_some.mp h
      obtain ⟨hok, hm⟩ := guarded_some.mp hm
      exact run_cons_some.mpr ⟨m, guarded_some.mpr ⟨hgood hs hok, hm⟩, ih (hstep hs hok hm) hrest⟩

/-- Bounded progress: if every step either reaches a stable goal or keeps
`waiting`, where the labels in `paid` decrease a measure and no label increases
it, then a run ends in the goal or has at most as many paid labels as the
measure allows. -/
theorem run_progress {step : Step σ α} {waiting goal : σ → Prop} (measure : σ → Nat)
    (paid : α → Bool)
    (hstable : ∀ {s a t}, goal s → step s a = some t → goal t)
    (hpays : ∀ {s a t}, waiting s → step s a = some t →
      goal t ∨ waiting t ∧ measure t + (paid a).toNat ≤ measure s)
    {s t : σ} {as : List α} (hs : waiting s) (h : run step s as = some t) :
    goal t ∨ waiting t ∧ measure t + as.countP paid ≤ measure s := by
  induction as generalizing s with
  | nil =>
      cases h
      exact .inr ⟨hs, Nat.le_refl _⟩
  | cons a as ih =>
      obtain ⟨m, hm, hrest⟩ := run_cons_some.mp h
      rcases hpays hs hm with hgoal | ⟨hwaiting, hcost⟩
      · exact .inl (run_preserves (fun hg hstep => hstable hg hstep) hgoal hrest)
      · rcases ih hwaiting hrest with hgoal | ⟨hwaiting, hsum⟩
        · exact .inl hgoal
        · refine .inr ⟨hwaiting, ?_⟩
          rw [List.countP_cons]
          cases hpaid : paid a <;> rw [hpaid] at hcost <;> simp at hcost ⊢ <;> omega

/-- Unwinding: if hidden labels are enabled and keep a relation on their own, and the others
keep it on both sides, then a run and the same run without its hidden labels are related,
or neither is possible. -/
theorem run_unwinding {step : Step σ α} {R : σ → σ → Prop} (hidden ok : α → Prop)
    [DecidablePred hidden]
    (hvisible : ∀ {s t a}, R s t → ¬ hidden a → Option.Rel R (step s a) (step t a))
    (hhidden : ∀ {s t a}, R s t → hidden a → ok a → ∃ u, step s a = some u ∧ R u t)
    {s t : σ} {as : List α} (hs : R s t) (hok : ∀ a ∈ as, hidden a → ok a) :
    Option.Rel R (run step s as) (run step t (as.filter fun a => ¬ hidden a)) := by
  induction as generalizing s t with
  | nil => exact .some hs
  | cons a as ih =>
      have hrest : ∀ b ∈ as, hidden b → ok b := fun b hb => hok b (List.mem_cons_of_mem _ hb)
      by_cases ha : hidden a
      · obtain ⟨u, hstep, hu⟩ := hhidden hs ha (hok a List.mem_cons_self ha)
        rw [List.filter_cons_of_neg (by simpa using ha), run, hstep, Option.bind_some]
        exact ih hu hrest
      · rw [List.filter_cons_of_pos (by simpa using ha), run, run]
        have hboth := hvisible hs ha
        cases hleft : step s a with
        | none =>
            rw [hleft] at hboth
            cases hright : step t a with
            | none => exact .none
            | some v =>
                rw [hright] at hboth
                cases hboth
        | some u =>
            rw [hleft] at hboth
            cases hright : step t a with
            | none =>
                rw [hright] at hboth
                cases hboth
            | some v =>
                rw [hright] at hboth
                cases hboth with
                | some huv => exact ih huv hrest

/-- Every step of a run meets the condition. -/
def Along (ok : σ → α → Prop) (step : Step σ α) : σ → List α → Prop
  | _, [] => True
  | s, a :: as => ok s a ∧ ∀ t, step s a = some t → Along ok step t as

instance decidableAlong {ok : σ → α → Prop} [∀ s a, Decidable (ok s a)] {step : Step σ α} :
    (s : σ) → (as : List α) → Decidable (Along ok step s as)
  | _, [] => .isTrue trivial
  | s, a :: as =>
      have : ∀ t, Decidable (Along ok step t as) := fun t => decidableAlong t as
      inferInstanceAs (Decidable (ok s a ∧ ∀ t ∈ step s a, Along ok step t as))

theorem along_of_forall {ok : σ → α → Prop} {step : Step σ α} {s : σ} {as : List α}
    (h : ∀ a ∈ as, ∀ s, ok s a) : Along ok step s as := by
  induction as generalizing s with
  | nil => trivial
  | cons a as ih =>
      refine ⟨h a List.mem_cons_self s, ?_⟩
      intro t _
      exact ih fun b hb => h b (List.mem_cons_of_mem a hb)

theorem Along.and {ok good : σ → α → Prop} {step : Step σ α} {s : σ} {as : List α}
    (hok : Along ok step s as) (hgood : Along good step s as) :
    Along (fun s a => ok s a ∧ good s a) step s as := by
  induction as generalizing s with
  | nil => trivial
  | cons a as ih =>
      refine ⟨⟨hok.1, hgood.1⟩, ?_⟩
      intro t ht
      exact ih (hok.2 t ht) (hgood.2 t ht)

theorem Along.behind {ok : σ → α → Prop} {step : Step σ α} {s t : σ} {as bs : List α}
    (hok : Along ok step s (as ++ bs)) (h : run step s as = some t) : Along ok step t bs := by
  induction as generalizing s with
  | nil =>
      cases h
      exact hok
  | cons a as ih =>
      obtain ⟨m, hm, hrest⟩ := run_cons_some.mp h
      exact ih (hok.2 m hm) hrest

/-- What a condition implies at each step holds along every run that meets the condition. -/
theorem along_of_along {step : Step σ α} {P : σ → Prop} {ok good : σ → α → Prop}
    (hstep : ∀ {s a t}, P s → ok s a → step s a = some t → P t)
    (hgood : ∀ {s a}, P s → ok s a → good s a)
    {s : σ} {as : List α} (hs : P s) (hok : Along ok step s as) : Along good step s as := by
  induction as generalizing s with
  | nil => trivial
  | cons a as ih =>
      refine ⟨hgood hs hok.1, ?_⟩
      intro t ht
      exact ih (hstep hs hok.1 ht) (hok.2 t ht)

/-- A property that every step meeting the condition preserves holds along such a run. -/
theorem run_along {step : Step σ α} {P : σ → Prop} {ok : σ → α → Prop}
    (hstep : ∀ {s a t}, P s → ok s a → step s a = some t → P t)
    {s t : σ} {as : List α} (hs : P s) (hok : Along ok step s as) (h : run step s as = some t) :
    P t := by
  induction as generalizing s with
  | nil => cases h; exact hs
  | cons a as ih =>
      obtain ⟨m, hm, hrest⟩ := run_cons_some.mp h
      exact ih (hstep hs hok.1 hm) (hok.2 m hm) hrest

/-- If, where a step is safe, it is enabled exactly under a condition, then a run whose
steps are safe is possible exactly if all of them meet the condition. -/
theorem run_isSome_iff {step : Step σ α} {P : σ → Prop} {safe ok : σ → α → Prop}
    (henabled : ∀ {s a}, P s → safe s a → ((step s a).isSome = true ↔ ok s a))
    (hstep : ∀ {s a t}, P s → safe s a → step s a = some t → P t)
    {s : σ} {as : List α} (hs : P s) (hsafe : Along safe step s as) :
    (run step s as).isSome = true ↔ Along ok step s as := by
  induction as generalizing s with
  | nil => exact ⟨fun _ => trivial, fun _ => rfl⟩
  | cons a as ih =>
      obtain ⟨ha, hrest⟩ := hsafe
      have hhead := henabled hs ha
      unfold run Along
      cases hnext : step s a with
      | none =>
          rw [hnext] at hhead
          rw [Option.bind_none]
          exact ⟨fun h => absurd h Bool.false_ne_true,
            fun h => absurd (hhead.mpr h.1) Bool.false_ne_true⟩
      | some t =>
          rw [hnext] at hhead
          rw [Option.bind_some, ih (hstep hs ha hnext) (hrest t hnext)]
          constructor
          · intro h
            refine ⟨hhead.mp rfl, ?_⟩
            intro u hu
            rw [← Option.some.inj hu]
            exact h
          · exact fun h => h.2 t rfl

end SyncAudio.LabelledRun

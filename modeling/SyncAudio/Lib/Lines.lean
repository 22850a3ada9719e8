import Mathlib.Data.List.TakeWhile
import Mathlib.Order.Basic
import Mathlib.Tactic.Common

/-!
# Lines of a stream

A stream is cut into lines at every occurrence of one symbol. The symbols may
arrive in pieces of any size: a reader that keeps the part behind the last line
and takes off one line after the other finds the lines of the whole stream.
-/

namespace SyncAudio.Lines

variable {α : Type*} [DecidableEq α] (feed : α)

/-- The complete lines of a stream behind the beginning `line` of the first one, and what
follows the last of them. -/
def cut (line : List α) : List α → List (List α) × List α
  | [] => ([], line)
  | c :: rest =>
      if c = feed then (line :: (cut [] rest).1, (cut [] rest).2) else cut (line ++ [c]) rest

/-- The first complete line, and what follows it. -/
def first (input : List α) : Option (List α × List α) :=
  match input.dropWhile fun c => c ≠ feed with
  | [] => none
  | _ :: rest => some (input.takeWhile fun c => c ≠ feed, rest)

variable {feed} {line word input rest more : List α}

theorem cut_append (line input more : List α) :
    cut feed line (input ++ more) =
      ((cut feed line input).1 ++ (cut feed (cut feed line input).2 more).1,
        (cut feed (cut feed line input).2 more).2) := by
  induction input generalizing line with
  | nil => rfl
  | cons c input ih =>
      rw [List.cons_append, cut, cut]
      by_cases hfeed : c = feed
      · rw [if_pos hfeed, if_pos hfeed, ih]
        rfl
      · rw [if_neg hfeed, if_neg hfeed]
        exact ih _

theorem cut_word (hword : ∀ c ∈ word, c ≠ feed) (line : List α) :
    cut feed line word = ([], line ++ word) := by
  induction word generalizing line with
  | nil => rw [cut, List.append_nil]
  | cons c word ih =>
      rw [cut, if_neg (hword c List.mem_cons_self),
        ih fun d hd => hword d (List.mem_cons_of_mem _ hd), List.append_assoc]
      rfl

/-- What follows the last line is part of one line. -/
theorem cut_rest (hline : ∀ c ∈ line, c ≠ feed) (input : List α) :
    ∀ c ∈ (cut feed line input).2, c ≠ feed := by
  induction input generalizing line with
  | nil => exact hline
  | cons c input ih =>
      rw [cut]
      by_cases hfeed : c = feed
      · rw [if_pos hfeed]
        exact ih fun d hd => absurd hd List.not_mem_nil
      · rw [if_neg hfeed]
        apply ih
        intro d hd
        rcases List.mem_append.mp hd with hd | hd
        · exact hline d hd
        · exact List.mem_singleton.mp hd ▸ hfeed

/-- The beginning of a line is no longer than the line. -/
theorem exists_le_length (line input : List α) :
    ∃ longer ∈ (cut feed line input).1 ++ [(cut feed line input).2],
      line.length ≤ longer.length := by
  induction input generalizing line with
  | nil => exact ⟨line, List.mem_singleton_self _, le_rfl⟩
  | cons c input ih =>
      rw [cut]
      by_cases hfeed : c = feed
      · rw [if_pos hfeed]
        exact ⟨line, List.mem_cons_self, le_rfl⟩
      · rw [if_neg hfeed]
        obtain ⟨longer, hmem, hle⟩ := ih (line ++ [c])
        rw [List.length_append] at hle
        exact ⟨longer, hmem, Nat.le_trans (Nat.le_add_right _ _) hle⟩

theorem first_eq_none (h : first feed input = none) : ∀ c ∈ input, c ≠ feed := by
  unfold first at h
  cases hrest : input.dropWhile fun c => c ≠ feed with
  | nil =>
      intro c hc
      exact of_decide_eq_true (List.dropWhile_eq_nil_iff.mp hrest c hc)
  | cons c rest =>
      rw [hrest] at h
      cases h

theorem first_eq_some (h : first feed input = some (line, rest)) :
    input = line ++ feed :: rest ∧ ∀ c ∈ line, c ≠ feed := by
  unfold first at h
  cases hrest : input.dropWhile fun c => c ≠ feed with
  | nil =>
      rw [hrest] at h
      cases h
  | cons c after =>
      rw [hrest] at h
      cases h
      have hsplit := List.takeWhile_append_dropWhile (p := fun c => decide (c ≠ feed)) (l := input)
      have hhead := List.head?_dropWhile_not (fun c => decide (c ≠ feed)) input
      rw [hrest] at hhead
      have hfeed : c = feed := by simpa using hhead
      constructor
      · rw [hrest, hfeed] at hsplit
        exact hsplit.symm
      · intro d hd
        have hne := List.mem_takeWhile_imp (p := fun c => decide (c ≠ feed)) hd
        exact of_decide_eq_true hne

/-- Taking off the first line leaves the others. -/
theorem cut_first (h : first feed input = some (line, rest)) :
    cut feed [] input = (line :: (cut feed [] rest).1, (cut feed [] rest).2) := by
  obtain ⟨rfl, hline⟩ := first_eq_some h
  rw [cut_append, cut_word hline, List.nil_append, cut, if_pos rfl]
  rfl

theorem length_first_lt (h : first feed input = some (line, rest)) :
    rest.length < input.length := by
  obtain ⟨rfl, -⟩ := first_eq_some h
  rw [List.length_append, List.length_cons]
  omega

end SyncAudio.Lines

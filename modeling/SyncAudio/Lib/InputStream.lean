import SyncAudio.Lib.FloatText

/-!
# Words on an input stream

Extraction of words and unsigned numbers as a C++ input stream does it, and what it
yields on words with a space in front of each. A Swift `split` with a limit leaves
the text behind its last split as it is.
-/

namespace SyncAudio.Text

open FloatText (readSign)

/-- `input >> n` for an unsigned `n` below `bound`. Behind a minus sign the number is
taken from the bound. -/
def readUnsigned (bound : Nat) (text : Text) : Option (Nat × Text) :=
  let (negative, text) := readSign (skipSpace text)
  let digits := text.takeWhile Char.isDigit
  if digits = [] ∨ bound ≤ value digits then none
  else
    some (if negative then (bound - value digits) % bound else value digits,
      text.dropWhile Char.isDigit)

/-- `split(separator: " ", maxSplits:)`, with a word begun. -/
def splitAtMost : Nat → Text → Text → List Text
  | 0, word, text => if word ++ text = [] then [] else [word ++ text]
  | _ + 1, word, [] => if word = [] then [] else [word]
  | splits + 1, word, c :: rest =>
      if c = ' ' then
        if word = [] then splitAtMost (splits + 1) [] rest else word :: splitAtMost splits [] rest
      else splitAtMost (splits + 1) (word ++ [c]) rest

/-- Words with a space in front of each. -/
def spaced (words : List Text) : Text := words.flatMap fun word => ' ' :: word

variable {word text rest : Text} {words : List Text} {n bound : Nat}

theorem joinWords_cons (word : Text) (words : List Text) :
    joinWords (word :: words) = word ++ spaced words := by
  induction words generalizing word with
  | nil => exact (List.append_nil word).symm
  | cons next words ih =>
      change word ++ ' ' :: joinWords (next :: words) = word ++ spaced (next :: words)
      rw [ih next]
      rfl

/-- A text that begins with none of the characters of a word. -/
theorem spaced_ends (words : List Text) {p : Char → Bool} (hspace : p ' ' = false) :
    ∀ c ∈ (spaced words).head?, p c = false := by
  cases words with
  | nil => exact nofun
  | cons word words =>
      rintro c ⟨⟩
      exact hspace

/-- The longest run in front of a text in which it ends. -/
theorem takeWhile_run {p : Char → Bool} (hword : ∀ c ∈ word, p c = true)
    (hrest : ∀ c ∈ rest.head?, p c = false) :
    (word ++ rest).takeWhile p = word ∧ (word ++ rest).dropWhile p = rest := by
  rw [List.takeWhile_append_of_pos hword, List.dropWhile_append_of_pos hword]
  cases rest with
  | nil => exact ⟨List.append_nil _, rfl⟩
  | cons c rest =>
      have hc : ¬ p c = true := Bool.eq_false_iff.mp (hrest c rfl)
      rw [List.takeWhile_cons_of_neg hc, List.dropWhile_cons_of_neg hc]
      exact ⟨List.append_nil _, rfl⟩

theorem IsWord.exists_cons (h : IsWord word) :
    ∃ c tail, word = c :: tail ∧ isSpace c = false := by
  cases word with
  | nil => exact absurd rfl h.ne_nil
  | cons c tail => exact ⟨c, tail, rfl, h.noSpace c List.mem_cons_self⟩

theorem IsWord.skipSpace_append (h : IsWord word) (rest : Text) :
    skipSpace (word ++ rest) = word ++ rest := by
  obtain ⟨c, tail, rfl, hc⟩ := h.exists_cons
  exact List.dropWhile_cons_of_neg (by rw [hc]; exact Bool.false_ne_true)

theorem skipSpace_spaced (h : IsWord word) (words : List Text) :
    skipSpace (spaced (word :: words)) = word ++ spaced words :=
  (List.dropWhile_cons_of_pos rfl).trans (h.skipSpace_append _)

/-- The words of a line are extracted one by one. -/
theorem readWord_append (h : IsWord word) (words : List Text) :
    readWord (word ++ spaced words) = some (word, spaced words) := by
  have hrun := @takeWhile_run word (spaced words) (fun c => !isSpace c)
    (fun c hc => by simp [h.noSpace c hc]) (spaced_ends words rfl)
  unfold readWord
  dsimp only
  rw [h.skipSpace_append, if_neg (List.append_ne_nil_of_left_ne_nil h.ne_nil _), hrun.1, hrun.2]

theorem readWord_spaced (h : IsWord word) (words : List Text) :
    readWord (spaced (word :: words)) = some (word, spaced words) := by
  have hskip : skipSpace (spaced (word :: words)) = skipSpace (word ++ spaced words) := by
    rw [skipSpace_spaced h, h.skipSpace_append]
  unfold readWord
  rw [hskip]
  exact readWord_append h words

/-- A printed number is extracted. -/
theorem readUnsigned_spaced (h : n < bound) (words : List Text) :
    readUnsigned bound (spaced (ofNat n :: words)) = some (n, spaced words) := by
  have hdigits : ∀ c ∈ ofNat n, c.isDigit = true := fun _ hc => ofNat_isDigit hc
  have hsign : readSign (ofNat n ++ spaced words) = (false, ofNat n ++ spaced words) := by
    obtain ⟨c, tail, heq, -⟩ := (isWord_ofNat n).exists_cons
    have hdigit := hdigits c (heq ▸ List.mem_cons_self)
    rw [heq]
    unfold readSign
    split
    · next hminus =>
        obtain rfl := (List.cons.inj hminus).1
        exact absurd hdigit (by decide)
    · next hplus =>
        obtain rfl := (List.cons.inj hplus).1
        exact absurd hdigit (by decide)
    · rfl
  have hrun := @takeWhile_run (ofNat n) (spaced words) Char.isDigit hdigits (spaced_ends words rfl)
  have hvalid : ¬ (ofNat n = [] ∨ bound ≤ n) :=
    not_or.mpr ⟨(isWord_ofNat n).ne_nil, Nat.not_le.mpr h⟩
  unfold readUnsigned
  rw [skipSpace_spaced (isWord_ofNat n), hsign]
  dsimp only
  rw [hrun.1, hrun.2, value_ofNat, if_neg hvalid, if_neg Bool.false_ne_true]

/-- An extracted word is not empty. -/
theorem readWord_length (h : readWord text = some (word, rest)) : rest.length < text.length := by
  unfold readWord at h
  dsimp only at h
  split_ifs at h with hempty
  obtain ⟨-, rfl⟩ := Prod.mk.inj (Option.some.inj h)
  obtain ⟨c, tail, hskip⟩ := List.exists_cons_of_ne_nil hempty
  have hc : isSpace c = false := by
    have hhead := List.head?_dropWhile_not isSpace text
    unfold skipSpace at hskip
    rw [hskip] at hhead
    simpa using hhead
  have hle : (skipSpace text).length ≤ text.length := (List.dropWhile_suffix _).length_le
  rw [hskip, List.dropWhile_cons_of_pos (by simp [hc])]
  rw [hskip, List.length_cons] at hle
  exact Nat.lt_of_le_of_lt (List.dropWhile_suffix _).length_le hle

theorem readSign_length (text : Text) : (readSign text).2.length ≤ text.length := by
  unfold readSign
  split
  · exact Nat.le_succ _
  · exact Nat.le_succ _
  · exact le_rfl

theorem readUnsigned_length (h : readUnsigned bound text = some (n, rest)) :
    rest.length ≤ text.length := by
  unfold readUnsigned at h
  dsimp only at h
  split_ifs at h
  all_goals
    obtain ⟨-, rfl⟩ := Prod.mk.inj (Option.some.inj h)
    calc
      _ ≤ (readSign (skipSpace text)).2.length := (List.dropWhile_suffix _).length_le
      _ ≤ (skipSpace text).length := readSign_length _
      _ ≤ text.length := (List.dropWhile_suffix _).length_le

section Split

variable {splits : Nat}

theorem splitAtMost_word (hword : ∀ c ∈ word, c ≠ ' ') (before rest : Text) :
    splitAtMost (splits + 1) before (word ++ rest) =
      splitAtMost (splits + 1) (before ++ word) rest := by
  induction word generalizing before with
  | nil => rw [List.nil_append, List.append_nil]
  | cons c word ih =>
      rw [List.cons_append, splitAtMost, if_neg (hword c List.mem_cons_self),
        ih (fun d hd => hword d (List.mem_cons_of_mem _ hd)), List.append_assoc,
        List.singleton_append]

/-- A word in front of a space is split off, and the rest keeps its spaces. -/
theorem splitAtMost_cons (h : IsWord word) (rest : Text) :
    splitAtMost (splits + 1) [] (word ++ ' ' :: rest) = word :: splitAtMost splits [] rest := by
  rw [splitAtMost_word h.ne_space, List.nil_append, splitAtMost, if_pos rfl, if_neg h.ne_nil]

theorem splitAtMost_zero (h : text ≠ []) : splitAtMost 0 [] text = [text] := by
  rw [splitAtMost, List.nil_append, if_neg h]

end Split

section Graphic

/-- A nonempty text of visible characters. -/
structure IsGraphic (word : Text) : Prop where
  ne_nil : word ≠ []
  visible : ∀ c ∈ word, 33 ≤ c.toNat ∧ c.toNat < 127

theorem IsGraphic.isWord (h : IsGraphic word) : IsWord word where
  ne_nil := h.ne_nil
  noSpace := by
    intro c hc
    have hvisible := (h.visible c hc).1
    have hspace : c ≠ ' ' := by
      rintro rfl
      exact absurd hvisible (by decide)
    simp [isSpace, hspace]
    omega

theorem isGraphic_of_all
    (h : (!word.isEmpty && word.all fun c => 33 ≤ c.toNat && c.toNat < 127) = true) :
    IsGraphic word := by
  obtain ⟨hnonempty, hall⟩ := Bool.and_eq_true_iff.mp h
  constructor
  · rintro rfl
    cases hnonempty
  · intro c hc
    simpa using List.all_eq_true.mp hall c hc

theorem visible_of_isAlnum {c : Char} (h : isAlnum c = true) : 33 ≤ c.toNat ∧ c.toNat < 127 := by
  have hclass : ((decide (c.val ≥ 'A'.val ∧ c.val ≤ 'Z'.val) ||
      (decide (c.val ≥ 'a'.val) && decide (c.val ≤ 'z'.val))) ||
      (decide (c.val ≥ '0'.val) && decide (c.val ≤ '9'.val))) = true := h
  simp only [Bool.or_eq_true, Bool.and_eq_true, decide_eq_true_eq, UInt32.le_iff_toNat_le,
    ge_iff_le] at hclass
  have hval : c.val.toNat = c.toNat := rfl
  have hupper : 'A'.val.toNat = 65 ∧ 'Z'.val.toNat = 90 := ⟨rfl, rfl⟩
  have hlower : 'a'.val.toNat = 97 ∧ 'z'.val.toNat = 122 := ⟨rfl, rfl⟩
  have hdigit : '0'.val.toNat = 48 ∧ '9'.val.toNat = 57 := ⟨rfl, rfl⟩
  omega

theorem isGraphic_ofNat (n : Nat) : IsGraphic (ofNat n) where
  ne_nil := (isWord_ofNat n).ne_nil
  visible := fun c hc => visible_of_isAlnum (by simp [isAlnum, Char.isAlphanum, ofNat_isDigit hc])

theorem joinWords_length (words : List Text) :
    (joinWords words).length ≤ (words.map fun word => word.length + 1).sum := by
  cases words with
  | nil => exact le_rfl
  | cons word words =>
      have hspaced : (spaced words).length = (words.map fun word => word.length + 1).sum := by
        unfold spaced
        rw [List.length_flatMap]
        rfl
      rw [joinWords_cons, List.length_append, hspaced, List.map_cons, List.sum_cons]
      omega

theorem ofNat_length {n k : Nat} (hk : 0 < k) (h : n < 10 ^ k) : (ofNat n).length ≤ k :=
  Nat.toDigits_length 10 n k hk h

end Graphic

end SyncAudio.Text

import Mathlib.Tactic.Ring
import Mathlib.Data.List.Basic
import Mathlib.Data.Nat.Digits.Defs
import Mathlib.Data.List.TakeDrop
import Mathlib.Tactic.Common

/-!
# Text

Text is a list of characters. Numbers are written and read in decimal, and
words are read as a C++ input stream reads them.
-/

namespace SyncAudio

abbrev Text := List Char

/-- For the membership tests of the models. -/
instance : LawfulBEq Text := inferInstance

namespace Text

/-- White space in the classic locale. -/
def isSpace (c : Char) : Bool := c = ' ' || (9 ≤ c.toNat && c.toNat ≤ 13)

def isAlnum (c : Char) : Bool := c.isAlphanum

/-- A natural number in decimal. -/
def ofNat (n : Nat) : Text := Nat.toDigits 10 n

/-- An integer in decimal. -/
def ofInt (n : Int) : Text := if n < 0 then '-' :: ofNat n.natAbs else ofNat n.natAbs

def digitValue (c : Char) : Nat := c.toNat - '0'.toNat

/-- The number a string of digits denotes. -/
def value (digits : Text) : Nat := digits.foldl (fun n c => 10 * n + digitValue c) 0

/-- A whole text read as an unsigned number below `bound`, without sign or space. -/
def toNat? (bound : Nat) (text : Text) : Option Nat :=
  if text ≠ [] ∧ text.all Char.isDigit ∧ value text < bound then some (value text) else none

/-- The text behind its leading white space. -/
def skipSpace (text : Text) : Text := text.dropWhile isSpace

/-- The next word of an input stream, and what is left. -/
def readWord (text : Text) : Option (Text × Text) :=
  let rest := skipSpace text
  if rest = [] then none
  else some (rest.takeWhile fun c => !isSpace c, rest.dropWhile fun c => !isSpace c)

/-- The fields of a line: what lies between spaces, without the empty ones. -/
def splitFrom (word : Text) : Text → List Text
  | [] => if word = [] then [] else [word]
  | c :: rest =>
      if c = ' ' then if word = [] then splitFrom [] rest else word :: splitFrom [] rest
      else splitFrom (word ++ [c]) rest

def splitFields (text : Text) : List Text := splitFrom [] text

/-- Words with a space between each two. -/
def joinWords : List Text → Text
  | [] => []
  | [word] => word
  | word :: words => word ++ ' ' :: joinWords words

/-- A nonempty text without white space. -/
structure IsWord (text : Text) : Prop where
  ne_nil : text ≠ []
  noSpace : ∀ c ∈ text, isSpace c = false

variable {word : Text} {n bound : Nat}

theorem isSpace_of_isDigit {c : Char} (h : c.isDigit = true) : isSpace c = false := by
  have hbounds : 48 ≤ c.toNat ∧ c.toNat ≤ 57 := by
    simpa [Char.isDigit, UInt32.le_iff_toNat_le] using h
  have hne : c ≠ ' ' := by
    rintro rfl
    exact absurd hbounds.1 (by decide)
  simp [isSpace, hne]
  omega

theorem ofNat_isDigit {c : Char} (h : c ∈ ofNat n) : c.isDigit = true :=
  Nat.isDigit_of_mem_toDigits (by decide) (by decide) h

theorem isWord_of_all (hword : (!word.isEmpty && word.all fun c => !isSpace c) = true) :
    IsWord word := by
  obtain ⟨hnonempty, hall⟩ := Bool.and_eq_true_iff.mp hword
  constructor
  · rintro rfl
    cases hnonempty
  · intro c hc
    simpa using List.all_eq_true.mp hall c hc

theorem isWord_ofNat (n : Nat) : IsWord (ofNat n) where
  ne_nil := Nat.toDigits_ne_nil
  noSpace := fun _ h => isSpace_of_isDigit (ofNat_isDigit h)

theorem value_ofNat (n : Nat) : value (ofNat n) = n := Nat.ofDigitChars_toDigits (by decide) (by decide)

/-- A number that is printed is read back. -/
theorem toNat?_ofNat (h : n < bound) : toNat? bound (ofNat n) = some n := by
  have hdigits : (ofNat n).all Char.isDigit = true :=
    List.all_eq_true.mpr fun _ hc => ofNat_isDigit hc
  unfold toNat?
  rw [value_ofNat, if_pos ⟨Nat.toDigits_ne_nil, hdigits, h⟩]

theorem ofInt_of_nonneg {i : Int} (h : 0 ≤ i) : ofInt i = ofNat i.toNat := by
  unfold ofInt
  rw [if_neg (by omega)]
  congr 1
  omega

theorem splitFrom_append (hword : ∀ c ∈ word, c ≠ ' ') (before rest : Text) :
    splitFrom before (word ++ rest) = splitFrom (before ++ word) rest := by
  induction word generalizing before with
  | nil => rw [List.nil_append, List.append_nil]
  | cons c word ih =>
      rw [List.cons_append, splitFrom, if_neg (hword c List.mem_cons_self),
        ih (fun d hd => hword d (List.mem_cons_of_mem _ hd)), List.append_assoc,
        List.singleton_append]

theorem IsWord.ne_space (h : IsWord word) : ∀ c ∈ word, c ≠ ' ' := by
  rintro c hc rfl
  exact absurd (h.noSpace _ hc) (by decide)

theorem joinWords_append {words others : List Text} (hwords : words ≠ []) (hothers : others ≠ []) :
    joinWords (words ++ others) = joinWords words ++ ' ' :: joinWords others := by
  induction words with
  | nil => exact absurd rfl hwords
  | cons word words ih =>
      cases words with
      | nil =>
          cases others with
          | nil => exact absurd rfl hothers
          | cons other others => rfl
      | cons next words =>
          have hrest := ih (List.cons_ne_nil _ _)
          change word ++ ' ' :: joinWords ((next :: words) ++ others) =
            (word ++ ' ' :: joinWords (next :: words)) ++ ' ' :: joinWords others
          rw [hrest, List.append_assoc, List.cons_append]

theorem mem_joinWords {words : List Text} {c : Char} (h : c ∈ joinWords words) :
    c = ' ' ∨ ∃ word ∈ words, c ∈ word := by
  induction words with
  | nil => cases h
  | cons word words ih =>
      cases words with
      | nil => exact .inr ⟨word, List.mem_cons_self, h⟩
      | cons next words =>
          rcases List.mem_append.mp h with hword | hrest
          · exact .inr ⟨word, List.mem_cons_self, hword⟩
          · rcases List.mem_cons.mp hrest with hspace | hrest
            · exact .inl hspace
            · exact (ih hrest).imp_right fun ⟨other, hmem, hc⟩ =>
                ⟨other, List.mem_cons_of_mem _ hmem, hc⟩

/-- The words of a line are its fields. -/
theorem splitFields_joinWords {words : List Text} (h : ∀ word ∈ words, IsWord word) :
    splitFields (joinWords words) = words := by
  unfold splitFields
  induction words with
  | nil => rfl
  | cons word words ih =>
      have hword := h word List.mem_cons_self
      have hrest := ih fun other hother => h other (List.mem_cons_of_mem _ hother)
      cases words with
      | nil =>
          have := splitFrom_append hword.ne_space [] []
          rw [List.append_nil, List.nil_append] at this
          rw [joinWords, this, splitFrom, if_neg hword.ne_nil]
      | cons next words =>
          change splitFrom [] (word ++ ' ' :: joinWords (next :: words)) = _
          rw [splitFrom_append hword.ne_space, List.nil_append, splitFrom, if_pos rfl,
            if_neg hword.ne_nil, hrest]

end Text

end SyncAudio

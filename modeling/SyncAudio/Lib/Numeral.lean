import Mathlib.Data.List.TakeWhile
import SyncAudio.Lib.InputStream

/-!
# Numerals

The decimal numbers an input stream accepts, as a grammar. A numeral is read from
the front of a text exactly if the text that follows cannot continue it.
-/

namespace SyncAudio

open Text FloatText

/-- A sign, if one is written. -/
inductive Sign where
  | unsigned
  | plus
  | minus
  deriving DecidableEq

namespace Sign

def text : Sign → Text
  | unsigned => []
  | plus => ['+']
  | minus => ['-']

def negative (sign : Sign) : Bool := sign = minus

end Sign

/-- A power of ten behind its mark. -/
structure Numeral.Exponent where
  mark : Char
  sign : Sign
  digits : Text
  mark_eq : mark = 'e' ∨ mark = 'E'
  digits_ne : digits ≠ []
  isDigit : ∀ c ∈ digits, c.isDigit = true

/-- Sign, digits, point, digits and exponent. -/
structure Numeral where
  sign : Sign
  whole : Text
  fraction : Option Text
  exponent : Option Numeral.Exponent
  whole_isDigit : ∀ c ∈ whole, c.isDigit = true
  fraction_isDigit : ∀ c ∈ fraction.getD [], c.isDigit = true
  digits_ne : whole ++ fraction.getD [] ≠ []

namespace Numeral

def Exponent.text (exponent : Exponent) : Text :=
  exponent.mark :: exponent.sign.text ++ exponent.digits

def Exponent.value (exponent : Exponent) : Int :=
  if exponent.sign.negative then -(Text.value exponent.digits : Int) else Text.value exponent.digits

/-- The point and what is behind it. -/
def fractionText (fraction : Option Text) : Text := fraction.elim [] fun digits => '.' :: digits

def exponentText (exponent : Option Exponent) : Text := exponent.elim [] Exponent.text

def text (n : Numeral) : Text :=
  n.sign.text ++ (n.whole ++ (fractionText n.fraction ++ exponentText n.exponent))

/-- The absolute value. -/
def magnitude (n : Numeral) : ℚ :=
  value (n.whole ++ n.fraction.getD []) *
    10 ^ (n.exponent.elim 0 Exponent.value - (n.fraction.getD []).length)

/-- The nearest double. -/
def nearest (n : Numeral) : Binary64 := Binary64.round n.sign.negative n.magnitude

/-- The text behind a numeral does not continue it. -/
structure Stops (n : Numeral) (rest : Text) : Prop where
  digit : ∀ c ∈ rest.head?, c.isDigit = false
  mark : n.exponent = none → ∀ c ∈ rest.head?, ¬ (c = 'e' ∨ c = 'E')
  point : n.exponent = none → n.fraction = none → ∀ c ∈ rest.head?, c ≠ '.'

variable {text rest : Text}

section Parts

theorem readSign_spec (text : Text) :
    ∃ sign : Sign, text = sign.text ++ (readSign text).2 ∧ (readSign text).1 = sign.negative := by
  unfold readSign
  split
  · exact ⟨.minus, rfl, rfl⟩
  · exact ⟨.plus, rfl, rfl⟩
  · exact ⟨.unsigned, rfl, rfl⟩

/-- A sign is read if what follows is none. -/
theorem readSign_text (sign : Sign) (hrest : ∀ c ∈ rest.head?, c ≠ '-' ∧ c ≠ '+') :
    readSign (sign.text ++ rest) = (sign.negative, rest) := by
  cases sign with
  | plus => rfl
  | minus => rfl
  | unsigned =>
      change readSign rest = (false, rest)
      unfold readSign
      split
      · exact absurd rfl (hrest _ rfl).1
      · exact absurd rfl (hrest _ rfl).2
      · rfl

theorem head?_dropWhile_isDigit (text : Text) :
    ∀ c ∈ (text.dropWhile Char.isDigit).head?, c.isDigit = false := by
  intro c hc
  have hnot := List.head?_dropWhile_not Char.isDigit text
  rw [Option.mem_def.mp hc] at hnot
  simpa using hnot

theorem readFraction_spec (text : Text) (htext : ∀ c ∈ text.head?, c.isDigit = false) :
    ∃ fraction : Option Text, text = fractionText fraction ++ (readFraction text).2 ∧
      (readFraction text).1 = fraction.getD [] ∧
      (∀ c ∈ fraction.getD [], c.isDigit = true) ∧
      (∀ c ∈ (readFraction text).2.head?, c.isDigit = false) ∧
      (fraction = none → ∀ c ∈ (readFraction text).2.head?, c ≠ '.') := by
  unfold readFraction
  split
  · rename_i rest
    refine ⟨some (rest.takeWhile Char.isDigit), ?_, rfl, ?_, head?_dropWhile_isDigit rest, nofun⟩
    · change '.' :: rest = '.' :: (rest.takeWhile Char.isDigit ++ rest.dropWhile Char.isDigit)
      rw [List.takeWhile_append_dropWhile]
    · exact fun c hc => List.mem_takeWhile_imp hc
  · rename_i hpoint
    refine ⟨none, rfl, rfl, nofun, htext, ?_⟩
    rintro - c hc rfl
    cases text with
    | nil => cases hc
    | cons d rest =>
        obtain rfl : d = '.' := Option.some.inj hc
        exact hpoint rest rfl

/-- A fraction is read if what follows is no digit, and no point where there is none. -/
theorem readFraction_text {fraction : Option Text}
    (hfraction : ∀ c ∈ fraction.getD [], c.isDigit = true)
    (hdigit : ∀ c ∈ rest.head?, c.isDigit = false)
    (hpoint : fraction = none → ∀ c ∈ rest.head?, c ≠ '.') :
    readFraction (fractionText fraction ++ rest) = (fraction.getD [], rest) := by
  cases fraction with
  | none =>
      change readFraction rest = ([], rest)
      unfold readFraction
      split
      · exact absurd rfl (hpoint rfl _ rfl)
      · rfl
  | some digits =>
      have hrun := takeWhile_run hfraction hdigit
      change ((digits ++ rest).takeWhile Char.isDigit, (digits ++ rest).dropWhile Char.isDigit) =
        (digits, rest)
      rw [Option.getD_some] at hrun
      rw [hrun.1, hrun.2]

theorem readExponent_cons (c : Char) (rest : Text) :
    readExponent (c :: rest) =
      if c = 'e' ∨ c = 'E' then
        if (readSign rest).2.takeWhile Char.isDigit = [] then none
        else
          some (if (readSign rest).1 then -(value ((readSign rest).2.takeWhile Char.isDigit) : Int)
            else value ((readSign rest).2.takeWhile Char.isDigit),
            (readSign rest).2.dropWhile Char.isDigit)
      else some (0, c :: rest) :=
  rfl

theorem readExponent_spec {exponent : Int} (htext : ∀ c ∈ text.head?, c.isDigit = false)
    (h : readExponent text = some (exponent, rest)) :
    ∃ written : Option Exponent, text = exponentText written ++ rest ∧
      exponent = written.elim 0 Exponent.value ∧
      (∀ c ∈ rest.head?, c.isDigit = false) ∧
      (written = none → rest = text ∧ ∀ c ∈ rest.head?, ¬ (c = 'e' ∨ c = 'E')) := by
  cases text with
  | nil =>
      cases h
      exact ⟨none, rfl, rfl, nofun, fun _ => ⟨rfl, nofun⟩⟩
  | cons c tail =>
      rw [readExponent_cons] at h
      by_cases hmark : c = 'e' ∨ c = 'E'
      · by_cases hempty : (readSign tail).2.takeWhile Char.isDigit = []
        · rw [if_pos hmark, if_pos hempty] at h
          cases h
        · rw [if_pos hmark, if_neg hempty] at h
          obtain ⟨hvalue, rfl⟩ := Prod.mk.inj (Option.some.inj h)
          obtain ⟨sign, hsign, hnegative⟩ := readSign_spec tail
          let written : Exponent := {
            mark := c
            sign
            digits := (readSign tail).2.takeWhile Char.isDigit
            mark_eq := hmark
            digits_ne := hempty
            isDigit := fun d hd => List.mem_takeWhile_imp hd }
          refine ⟨some written, ?_, ?_, head?_dropWhile_isDigit _, nofun⟩
          · change c :: tail = c :: (sign.text ++ (readSign tail).2.takeWhile Char.isDigit) ++
              (readSign tail).2.dropWhile Char.isDigit
            rw [List.cons_append, List.append_assoc, List.takeWhile_append_dropWhile, ← hsign]
          · rw [← hvalue, hnegative]
            rfl
      · rw [if_neg hmark] at h
        cases h
        refine ⟨none, rfl, rfl, htext, fun _ => ⟨rfl, ?_⟩⟩
        rintro d ⟨⟩
        exact hmark

/-- An exponent is read if what follows does not continue it. -/
theorem readExponent_text (written : Option Exponent)
    (hdigit : ∀ c ∈ rest.head?, c.isDigit = false)
    (hmark : written = none → ∀ c ∈ rest.head?, ¬ (c = 'e' ∨ c = 'E')) :
    readExponent (exponentText written ++ rest) = some (written.elim 0 Exponent.value, rest) := by
  cases written with
  | none =>
      change readExponent rest = some (0, rest)
      cases rest with
      | nil => rfl
      | cons c tail => rw [readExponent_cons, if_neg (hmark rfl c rfl)]
  | some written =>
      have hhead : ∀ c ∈ (written.digits ++ rest).head?, c ≠ '-' ∧ c ≠ '+' := by
        intro c hc
        obtain ⟨d, tail, hdigits⟩ := List.exists_cons_of_ne_nil written.digits_ne
        have hd := written.isDigit d (by rw [hdigits]; exact List.mem_cons_self)
        rw [hdigits] at hc
        obtain rfl : d = c := Option.some.inj hc
        constructor <;> rintro rfl <;> cases hd
      have hrun := takeWhile_run written.isDigit hdigit
      change readExponent (written.mark :: (written.sign.text ++ written.digits) ++ rest) = _
      rw [List.cons_append, List.append_assoc, readExponent_cons, if_pos written.mark_eq,
        readSign_text written.sign hhead]
      dsimp only
      rw [hrun.1, hrun.2, if_neg written.digits_ne]
      rfl

end Parts

/-- The scan, part by part. -/
theorem scanFloat_eq (text : Text) :
    scanFloat text =
      let whole := (readSign text).2.takeWhile Char.isDigit
      let fraction := readFraction ((readSign text).2.dropWhile Char.isDigit)
      if whole ++ fraction.1 = [] then none
      else (readExponent fraction.2).bind fun exponent =>
        let x := Binary64.round (readSign text).1
          (value (whole ++ fraction.1) * 10 ^ (exponent.1 - fraction.1.length))
        if x.isFinite then some (x, exponent.2) else none :=
  rfl

/-- The digits in front of a numeral's end are no sign. -/
theorem digits_head (n : Numeral) (rest : Text) :
    ∀ c ∈ (n.whole ++ (fractionText n.fraction ++ rest)).head?, c ≠ '-' ∧ c ≠ '+' := by
  intro c hc
  cases hwhole : n.whole with
  | cons d tail =>
      have hdigit := n.whole_isDigit d (by rw [hwhole]; exact List.mem_cons_self)
      rw [hwhole] at hc
      obtain rfl : d = c := Option.some.inj hc
      constructor <;> rintro rfl <;> cases hdigit
  | nil =>
      cases hfraction : n.fraction with
      | none =>
          have hne := n.digits_ne
          rw [hwhole, hfraction] at hne
          exact absurd rfl hne
      | some digits =>
          rw [hwhole, hfraction] at hc
          obtain rfl : '.' = c := Option.some.inj hc
          decide

/-- What follows the digits in front of the point is no digit. -/
theorem fraction_head (n : Numeral) (hstops : n.Stops rest) :
    ∀ c ∈ (fractionText n.fraction ++ (exponentText n.exponent ++ rest)).head?,
      c.isDigit = false := by
  intro c hc
  cases hfraction : n.fraction with
  | some digits =>
      rw [hfraction] at hc
      obtain rfl : '.' = c := Option.some.inj hc
      rfl
  | none =>
      cases hexponent : n.exponent with
      | some exponent =>
          rw [hfraction, hexponent] at hc
          obtain rfl : exponent.mark = c := Option.some.inj hc
          rcases exponent.mark_eq with heq | heq <;> rw [heq] <;> rfl
      | none =>
          rw [hfraction, hexponent] at hc
          exact hstops.digit c hc

/-- What follows the fraction is no digit, and no point without a fraction. -/
theorem exponent_head (n : Numeral) (hstops : n.Stops rest) :
    (∀ c ∈ (exponentText n.exponent ++ rest).head?, c.isDigit = false) ∧
      (n.fraction = none → ∀ c ∈ (exponentText n.exponent ++ rest).head?, c ≠ '.') := by
  cases hexponent : n.exponent with
  | none => exact ⟨hstops.digit, hstops.point hexponent⟩
  | some exponent =>
      have hhead : (exponentText (some exponent) ++ rest).head? = some exponent.mark := rfl
      rw [hhead]
      constructor
      · rintro c ⟨⟩
        rcases exponent.mark_eq with heq | heq <;> rw [heq] <;> rfl
      · rintro - c ⟨⟩
        rcases exponent.mark_eq with heq | heq <;> rw [heq] <;> decide

/-- A numeral is scanned if what follows does not continue it. -/
theorem scanFloat_text (n : Numeral) (hstops : n.Stops rest) (hfinite : n.nearest.isFinite = true) :
    scanFloat (n.text ++ rest) = some (n.nearest, rest) := by
  have htext : n.text ++ rest =
      n.sign.text ++ (n.whole ++ (fractionText n.fraction ++ (exponentText n.exponent ++ rest))) := by
    unfold text
    simp only [List.append_assoc]
  have hrun := takeWhile_run n.whole_isDigit (n.fraction_head hstops)
  obtain ⟨hdigit, hpoint⟩ := n.exponent_head hstops
  rw [htext, scanFloat_eq, readSign_text n.sign (n.digits_head _)]
  dsimp only
  rw [hrun.1, hrun.2, readFraction_text n.fraction_isDigit hdigit hpoint]
  dsimp only
  rw [if_neg n.digits_ne, readExponent_text n.exponent hstops.digit hstops.mark, Option.bind_some]
  exact if_pos hfinite

/-- What is scanned is a numeral that the rest does not continue, and its nearest
double. -/
theorem scanFloat_iff {x : Binary64} :
    scanFloat text = some (x, rest) ↔ ∃ n : Numeral,
      text = n.text ++ rest ∧ n.Stops rest ∧ x = n.nearest ∧ x.isFinite = true := by
  constructor
  · intro h
    obtain ⟨sign, hsign, hnegative⟩ := readSign_spec text
    have hhead := head?_dropWhile_isDigit (readSign text).2
    obtain ⟨fraction, hfraction, hdigits, hisDigit, hdigit, hpoint⟩ := readFraction_spec _ hhead
    rw [scanFloat_eq] at h
    dsimp only at h
    rw [hdigits] at h
    by_cases hempty : (readSign text).2.takeWhile Char.isDigit ++ fraction.getD [] = []
    · rw [if_pos hempty] at h
      cases h
    · rw [if_neg hempty] at h
      obtain ⟨⟨exponent, tail⟩, hexponent, h⟩ := Option.bind_eq_some_iff.mp h
      obtain ⟨written, hwritten, rfl, hrest, hmark⟩ := readExponent_spec hdigit hexponent
      dsimp only at h
      split_ifs at h with hfinite
      obtain ⟨hx, rfl⟩ := Prod.mk.inj (Option.some.inj h)
      let n : Numeral := {
        sign
        whole := (readSign text).2.takeWhile Char.isDigit
        fraction
        exponent := written
        whole_isDigit := fun c hc => List.mem_takeWhile_imp hc
        fraction_isDigit := hisDigit
        digits_ne := hempty }
      have hnearest : x = n.nearest := by
        rw [← hx, hnegative]
        rfl
      refine ⟨n, ?_, ⟨hrest, fun hnone => (hmark hnone).2, ?_⟩, hnearest, ?_⟩
      · calc text = sign.text ++ (readSign text).2 := hsign
          _ = sign.text ++ ((readSign text).2.takeWhile Char.isDigit ++
                (readSign text).2.dropWhile Char.isDigit) := by
              rw [List.takeWhile_append_dropWhile]
          _ = sign.text ++ (n.whole ++ (fractionText fraction ++ (exponentText written ++ tail))) := by
              rw [hfraction, hwritten]
          _ = n.text ++ tail := by
              unfold Numeral.text
              simp only [List.append_assoc]
              rfl
      · intro hnone hfractionNone c hc
        rw [(hmark hnone).1] at hc
        exact hpoint hfractionNone c hc
      · rw [← hx]
        exact hfinite
  · rintro ⟨n, rfl, hstops, rfl, hfinite⟩
    exact scanFloat_text n hstops hfinite

/-- A numeral begins with a character that is no white space. -/
theorem text_head (n : Numeral) (rest : Text) :
    ∃ c tail, n.text ++ rest = c :: tail ∧ isSpace c = false := by
  have hdigit {c : Char} (h : c.isDigit = true) : isSpace c = false := isSpace_of_isDigit h
  unfold text
  cases n.sign with
  | plus => exact ⟨'+', _, rfl, rfl⟩
  | minus => exact ⟨'-', _, rfl, rfl⟩
  | unsigned =>
      cases hwhole : n.whole with
      | cons c tail =>
          exact ⟨c, _, rfl, hdigit (n.whole_isDigit c (by rw [hwhole]; exact List.mem_cons_self))⟩
      | nil =>
          cases hfraction : n.fraction with
          | some digits => exact ⟨'.', _, rfl, rfl⟩
          | none =>
              have hne := n.digits_ne
              rw [hwhole, hfraction] at hne
              exact absurd rfl hne

end Numeral

namespace Text

variable {text rest word : Text}

/-- White space. -/
def Blank (text : Text) : Prop := ∀ c ∈ text, isSpace c = true

instance (text : Text) : Decidable (Blank text) := inferInstanceAs (Decidable (∀ _ ∈ _, _))

theorem skipSpace_append {space : Text} (hspace : Blank space)
    (hrest : ∀ c ∈ rest.head?, isSpace c = false) : skipSpace (space ++ rest) = rest :=
  (takeWhile_run hspace hrest).2

/-- A text is white space and what follows it. -/
theorem exists_blank (text : Text) : ∃ space, Blank space ∧ text = space ++ skipSpace text :=
  ⟨text.takeWhile isSpace, fun _ hc => List.mem_takeWhile_imp hc,
    List.takeWhile_append_dropWhile.symm⟩

theorem skipSpace_eq_nil_iff : skipSpace text = [] ↔ Blank text :=
  List.dropWhile_eq_nil_iff

/-- A word is extracted that ends where the rest begins. -/
theorem readWord_iff : readWord text = some (word, rest) ↔ ∃ space, Blank space ∧
    text = space ++ (word ++ rest) ∧ IsWord word ∧ ∀ c ∈ rest.head?, isSpace c = true := by
  constructor
  · intro h
    obtain ⟨space, hspace, htext⟩ := exists_blank text
    unfold readWord at h
    dsimp only at h
    split_ifs at h with hempty
    obtain ⟨rfl, rfl⟩ := Prod.mk.inj (Option.some.inj h)
    refine ⟨space, hspace, ?_, ⟨?_, ?_⟩, ?_⟩
    · rw [List.takeWhile_append_dropWhile]
      exact htext
    · obtain ⟨c, tail, hskip⟩ := List.exists_cons_of_ne_nil hempty
      have hc : isSpace c = false := by
        have hhead := List.head?_dropWhile_not isSpace text
        unfold skipSpace at hskip
        rw [hskip] at hhead
        simpa using hhead
      rw [hskip, List.takeWhile_cons_of_pos (by rw [hc]; rfl)]
      exact List.cons_ne_nil _ _
    · intro c hc
      simpa using List.mem_takeWhile_imp hc
    · intro c hc
      have hhead := List.head?_dropWhile_not (fun c => !isSpace c) (skipSpace text)
      rw [Option.mem_def.mp hc] at hhead
      simpa using hhead
  · rintro ⟨space, hspace, rfl, hword, hrest⟩
    have hskip : skipSpace (space ++ (word ++ rest)) = word ++ rest := by
      obtain ⟨c, tail, heq, hc⟩ := hword.exists_cons
      apply skipSpace_append hspace
      rw [heq]
      rintro d ⟨⟩
      exact hc
    have hrun := @takeWhile_run word rest (fun c => !isSpace c)
      (fun c hc => by rw [hword.noSpace c hc]; rfl) (fun c hc => by rw [hrest c hc]; rfl)
    unfold readWord
    dsimp only
    rw [hskip, if_neg (List.append_ne_nil_of_left_ne_nil hword.ne_nil _), hrun.1, hrun.2]

theorem readWord_eq_none_iff : readWord text = none ↔ Blank text := by
  rw [← skipSpace_eq_nil_iff]
  unfold readWord
  dsimp only
  split_ifs with hempty
  · exact iff_of_true rfl hempty
  · exact iff_of_false nofun hempty

/-- A number is extracted that the rest does not continue. -/
theorem readFloat_iff {x : Binary64} :
    readFloat text = some (x, rest) ↔ ∃ (space : Text) (n : Numeral), Blank space ∧
      text = space ++ (n.text ++ rest) ∧ n.Stops rest ∧ x = n.nearest ∧ x.isFinite = true := by
  unfold readFloat
  rw [Numeral.scanFloat_iff]
  constructor
  · rintro ⟨n, hskip, hn⟩
    obtain ⟨space, hspace, htext⟩ := exists_blank text
    rw [hskip] at htext
    exact ⟨space, n, hspace, htext, hn⟩
  · rintro ⟨space, n, hspace, rfl, hn⟩
    refine ⟨n, skipSpace_append hspace ?_, hn⟩
    obtain ⟨c, tail, heq, hc⟩ := n.text_head rest
    rw [heq]
    rintro d ⟨⟩
    exact hc

end Text

end SyncAudio

import SyncAudio.Lib.InputStream

/-!
# The shortest decimal of a number

`description` prints a number as Swift does: the shortest decimal that reads back as the
number, and of several the nearest. An input stream reads the same number from it.

## Implementation notes

The decimals next to the magnitude are tried on finer and finer grids, so that the first
which reads back has the fewest digits. Eighteen grids are enough. A number below 1/10000
or above 2 ^ 53 is printed with an exponent of at least two digits.
-/

namespace SyncAudio.FloatText

open Text Binary64

/-- The number `digits * 10 ^ exponent`. -/
structure Decimal where
  digits : Nat
  exponent : Int
  deriving DecidableEq, Repr

namespace Decimal

def value (d : Decimal) : ℚ := d.digits * 10 ^ d.exponent

/-- The place of the decimal point, counted from the first digit. -/
def point (d : Decimal) : Int := (ofNat d.digits).length + d.exponent

/-- The multiples of `10 ^ exponent` next to a magnitude, the nearest one first. -/
def candidates (magnitude : ℚ) (exponent : Int) : List Decimal :=
  let scaled := magnitude / 10 ^ exponent
  [roundEven scaled, ⌊scaled⌋, ⌊scaled⌋ + 1].map fun n => ⟨n.toNat, exponent⟩

/-- Whole part and decimals. -/
def plainText (d : Decimal) : Text × Text :=
  let digits := ofNat d.digits
  let zeros (n : Int) : Text := List.replicate n.toNat '0'
  if d.point ≤ 0 then (['0'], zeros (-d.point) ++ digits)
  else if d.point < digits.length then (digits.take d.point.toNat, digits.drop d.point.toNat)
  else (digits ++ zeros d.exponent, ['0'])

/-- The exponent of the first digit. -/
def exponentText (d : Decimal) : Text :=
  let exponent := d.point - 1
  let digits := ofNat exponent.natAbs
  'e' :: (if exponent < 0 then '-' else '+') ::
    (if exponent.natAbs < 10 then '0' :: digits else digits)

/-- The first digit and the others. -/
def significandText (d : Decimal) : Text :=
  let digits := ofNat d.digits
  digits.take 1 ++ if digits.length = 1 then [] else '.' :: digits.drop 1

end Decimal

/-- The shortest decimal that reads back, and the nearest of these. -/
def shortest (x : Finite) : Option Decimal :=
  let top := Int.log 10 x.magnitude + 1
  ((List.range 18).flatMap fun (n : Nat) => Decimal.candidates x.magnitude (top - n)).find? fun d =>
    round x.negative d.value = .finite x

def signText (negative : Bool) : Text := if negative then ['-'] else []

def decimalText (x : Finite) (d : Decimal) : Text :=
  if d.point < -3 ∨ 2 ^ 53 < x.magnitude then d.significandText ++ d.exponentText
  else d.plainText.1 ++ '.' :: d.plainText.2

/-- `description`. -/
def description : Binary64 → Text
  | .finite x =>
      signText x.negative ++
        if x.significand = 0 then "0.0".toList
        else (shortest x).elim [] (decimalText x)
  | .infinite negative => signText negative ++ "inf".toList
  | .nan => "nan".toList

section Value

variable {a b digits : Text} {n : Nat}

theorem value_append (a b : Text) : value (a ++ b) = value a * 10 ^ b.length + value b := by
  induction b using List.reverseRecOn with
  | nil => rw [List.append_nil, List.length_nil, pow_zero, mul_one]; rfl
  | append_singleton b c ih =>
      have hsnoc (text : Text) : value (text ++ [c]) = 10 * value text + digitValue c := by
        unfold value
        rw [List.foldl_append]
        rfl
      rw [← List.append_assoc, hsnoc, hsnoc, ih, List.length_append, List.length_singleton, pow_succ]
      ring

theorem value_zeros (n : Nat) : value (List.replicate n '0') = 0 := by
  induction n with
  | zero => rfl
  | succ n ih =>
      rw [List.replicate_succ', value_append, ih, zero_mul, zero_add]
      rfl

theorem value_lt (h : ∀ c ∈ digits, c.isDigit = true) : value digits < 10 ^ digits.length := by
  induction digits using List.reverseRecOn with
  | nil => exact Nat.one_pos
  | append_singleton digits c ih =>
      have hrest := ih fun d hd => h d (List.mem_append_left _ hd)
      have hc : value [c] < 10 := by
        have hdigit := h c (List.mem_append_right _ List.mem_cons_self)
        have hbounds : 48 ≤ c.toNat ∧ c.toNat ≤ 57 := by
          simpa [Char.isDigit, UInt32.le_iff_toNat_le] using hdigit
        have hvalue : value [c] = c.toNat - 48 := Nat.zero_add _
        omega
      rw [value_append, List.length_append, List.length_singleton, pow_succ _ digits.length, pow_one]
      omega

theorem ofNat_pow (hn : 0 < n) : 10 ^ ((ofNat n).length - 1) ≤ n ∧ n < 10 ^ (ofNat n).length := by
  constructor
  · by_contra hlt
    rcases Nat.eq_zero_or_pos ((ofNat n).length - 1) with hzero | hpos
    · rw [hzero, pow_zero] at hlt
      omega
    · have hle := ofNat_length hpos (Nat.lt_of_not_le hlt)
      omega
  · have hlt := @value_lt (ofNat n) fun c hc => ofNat_isDigit hc
    rwa [value_ofNat] at hlt

end Value

section Scan

variable {negative : Bool} {whole fraction after afterFraction digits rest : Text} {exponent : Int}
  {x : Finite}

theorem readSign_digit {c : Char} (h : c.isDigit = true) (rest : Text) :
    readSign (c :: rest) = (false, c :: rest) := by
  unfold readSign
  split
  · next hminus =>
      obtain ⟨rfl, -⟩ := List.cons.inj hminus
      exact absurd h (by decide)
  · next hplus =>
      obtain ⟨rfl, -⟩ := List.cons.inj hplus
      exact absurd h (by decide)
  · rfl

theorem readSign_signText {c : Char} (h : c.isDigit = true) (rest : Text) :
    readSign (signText negative ++ c :: rest) = (negative, c :: rest) := by
  cases negative with
  | false => exact readSign_digit h rest
  | true => rfl

theorem scanFloat_parts (hwhole : ∀ c ∈ whole, c.isDigit = true) (hne : whole ≠ [])
    (hafter : ∀ c ∈ after.head?, c.isDigit = false)
    (hfraction : readFraction after = (fraction, afterFraction))
    (hexponent : readExponent afterFraction = some (exponent, rest))
    (hround : round negative (value (whole ++ fraction) * 10 ^ (exponent - fraction.length)) =
      .finite x) :
    scanFloat (signText negative ++ (whole ++ after)) = some (.finite x, rest) := by
  obtain ⟨c, tail, rfl⟩ := List.exists_cons_of_ne_nil hne
  have hsign := @readSign_signText negative c (hwhole c List.mem_cons_self) (tail ++ after)
  have hrun := takeWhile_run hwhole hafter
  rw [List.cons_append] at hrun ⊢
  unfold scanFloat
  rw [hsign]
  dsimp only
  rw [hrun.1, hrun.2, hfraction]
  dsimp only
  rw [if_neg (by simp), hexponent]
  simp only [Option.bind_eq_bind, Option.bind_some, hround, isFinite, if_true]

theorem readFraction_point (hfraction : ∀ c ∈ fraction, c.isDigit = true)
    (hafter : ∀ c ∈ after.head?, c.isDigit = false) :
    readFraction ('.' :: (fraction ++ after)) = (fraction, after) := by
  have hrun := takeWhile_run hfraction hafter
  exact Prod.ext hrun.1 hrun.2

theorem readExponent_none (hrest : ∀ c ∈ rest.head?, c = ' ') :
    readExponent rest = some (0, rest) := by
  cases rest with
  | nil => rfl
  | cons c rest =>
      obtain rfl := hrest c rfl
      rfl

theorem readExponent_digits (hdigits : ∀ c ∈ digits, c.isDigit = true) (hne : digits ≠ [])
    (hrest : ∀ c ∈ rest.head?, c = ' ') (below : Prop) [Decidable below] :
    readExponent ('e' :: (if below then '-' else '+') :: (digits ++ rest)) =
      some (if below then -(value digits : Int) else value digits, rest) := by
  have hends : ∀ c ∈ rest.head?, c.isDigit = false := by
    intro c hc
    rw [hrest c hc]
    rfl
  have hrun := takeWhile_run hdigits hends
  have hsign : readSign ((if below then '-' else '+') :: (digits ++ rest)) =
      (decide below, digits ++ rest) := by
    by_cases hbelow : below
    · rw [if_pos hbelow, decide_eq_true hbelow]
      rfl
    · rw [if_neg hbelow, decide_eq_false hbelow]
      rfl
  unfold readExponent
  dsimp only
  rw [if_pos (.inl rfl), hsign]
  dsimp only
  rw [hrun.1, hrun.2, if_neg hne]
  simp only [decide_eq_true_eq]

end Scan

section Formats

variable {negative : Bool} {d : Decimal} {rest : Text} {x : Finite}

theorem isDigit_zeros {n : Nat} {c : Char} (h : c ∈ List.replicate n '0') : c.isDigit = true := by
  obtain rfl := List.eq_of_mem_replicate h
  rfl

/-- What `plainText` denotes. -/
theorem plainText_value (d : Decimal) :
    (value (d.plainText.1 ++ d.plainText.2) : ℚ) * 10 ^ (0 - d.plainText.2.length : Int) = d.value := by
  have hdigits := value_ofNat d.digits
  have hzero : value ['0'] = 0 := rfl
  have hpoint : d.point = (ofNat d.digits).length + d.exponent := rfl
  unfold Decimal.plainText Decimal.value
  dsimp only
  split_ifs with hsmall hinside
  · rw [value_append, value_append, value_zeros, hzero, hdigits, Nat.zero_mul, Nat.zero_mul,
      Nat.zero_add, Nat.zero_add, List.length_append, List.length_replicate]
    congr 2
    push_cast
    omega
  · rw [List.take_append_drop, hdigits, List.length_drop]
    congr 2
    omega
  · have hexponent : (d.exponent.toNat : Int) = d.exponent := Int.toNat_of_nonneg (by omega)
    rw [value_append, value_append, value_zeros, hzero, hdigits, List.length_replicate,
      List.length_singleton, Nat.add_zero, Nat.add_zero, pow_one]
    push_cast
    rw [mul_assoc, mul_assoc, ← zpow_natCast, hexponent]
    norm_num

theorem plainText_isDigit (d : Decimal) :
    (∀ c ∈ d.plainText.1, c.isDigit = true) ∧ ∀ c ∈ d.plainText.2, c.isDigit = true := by
  have hdigits : ∀ c ∈ ofNat d.digits, c.isDigit = true := fun c hc => ofNat_isDigit hc
  have hzero : ∀ c ∈ ['0'], c.isDigit = true := by
    intro c hc
    obtain rfl := List.mem_singleton.mp hc
    rfl
  have hboth {a b : Text} (ha : ∀ c ∈ a, c.isDigit = true) (hb : ∀ c ∈ b, c.isDigit = true) :
      ∀ c ∈ a ++ b, c.isDigit = true :=
    fun c hc => (List.mem_append.mp hc).elim (ha c) (hb c)
  unfold Decimal.plainText
  dsimp only
  split_ifs with hsmall hinside
  · exact ⟨hzero, hboth (fun c => isDigit_zeros) hdigits⟩
  · exact ⟨fun c hc => hdigits c (List.mem_of_mem_take hc),
      fun c hc => hdigits c (List.mem_of_mem_drop hc)⟩
  · exact ⟨hboth hdigits fun c => isDigit_zeros, hzero⟩

theorem plainText_ne_nil (d : Decimal) : d.plainText.1 ≠ [] := by
  have hlength := List.length_pos_of_ne_nil (isWord_ofNat d.digits).ne_nil
  unfold Decimal.plainText
  dsimp only
  split_ifs with hsmall hinside
  · exact List.cons_ne_nil _ _
  · apply List.ne_nil_of_length_pos
    rw [List.length_take]
    omega
  · exact List.append_ne_nil_of_left_ne_nil (isWord_ofNat d.digits).ne_nil _

/-- A decimal without an exponent is read back. -/
theorem scanFloat_plainText (hround : round negative d.value = .finite x)
    (hrest : ∀ c ∈ rest.head?, c = ' ') :
    scanFloat (signText negative ++ (d.plainText.1 ++ '.' :: d.plainText.2) ++ rest) =
      some (.finite x, rest) := by
  obtain ⟨hwhole, hfraction⟩ := plainText_isDigit d
  have hends : ∀ c ∈ rest.head?, c.isDigit = false := by
    intro c hc
    rw [hrest c hc]
    rfl
  have hpoint : ∀ c ∈ ('.' :: (d.plainText.2 ++ rest)).head?, c.isDigit = false := by
    rintro c ⟨⟩
    rfl
  rw [List.append_assoc, List.append_assoc, List.cons_append]
  apply scanFloat_parts hwhole (plainText_ne_nil d) hpoint (readFraction_point hfraction hends)
    (readExponent_none hrest)
  rw [plainText_value d]
  exact hround

theorem exponentText_eq (d : Decimal) :
    ∃ digits, d.exponentText = 'e' :: (if d.point - 1 < 0 then '-' else '+') :: digits ∧
      (∀ c ∈ digits, c.isDigit = true) ∧ digits ≠ [] ∧ value digits = (d.point - 1).natAbs := by
  unfold Decimal.exponentText
  dsimp only
  generalize (d.point - 1).natAbs = exponent
  have hdigits : ∀ c ∈ ofNat exponent, c.isDigit = true := fun c hc => ofNat_isDigit hc
  refine ⟨_, rfl, ?_⟩
  split_ifs with hshort
  · refine ⟨?_, List.cons_ne_nil _ _, ?_⟩
    · intro c hc
      rcases List.mem_cons.mp hc with rfl | hc
      · rfl
      · exact hdigits c hc
    · have happend := value_append ['0'] (ofNat exponent)
      rw [value_ofNat] at happend
      exact happend.trans (by rw [show value ['0'] = 0 from rfl, Nat.zero_mul, Nat.zero_add])
  · exact ⟨hdigits, (isWord_ofNat exponent).ne_nil, value_ofNat exponent⟩

/-- A decimal with an exponent is read back. -/
theorem scanFloat_exponentText (hround : round negative d.value = .finite x)
    (hrest : ∀ c ∈ rest.head?, c = ' ') :
    scanFloat (signText negative ++ (d.significandText ++ d.exponentText) ++ rest) =
      some (.finite x, rest) := by
  obtain ⟨digits, hexponent, hdigits, hne, hvalue⟩ := exponentText_eq d
  have hlength := List.length_pos_of_ne_nil (isWord_ofNat d.digits).ne_nil
  have hall : ∀ c ∈ ofNat d.digits, c.isDigit = true := fun c hc => ofNat_isDigit hc
  have hfirst : (ofNat d.digits).take 1 ≠ [] := by
    apply List.ne_nil_of_length_pos
    rw [List.length_take]
    omega
  have hread := readExponent_digits hdigits hne hrest (d.point - 1 < 0)
  have hsigned : (if d.point - 1 < 0 then -(value digits : Int) else value digits) =
      d.point - 1 := by
    rw [hvalue]
    split_ifs <;> omega
  rw [hsigned] at hread
  have hexponentEnds : ∀ c ∈ (d.exponentText ++ rest).head?, c.isDigit = false := by
    rw [hexponent]
    rintro c ⟨⟩
    rfl
  have hfraction : readFraction
      ((if (ofNat d.digits).length = 1 then [] else '.' :: (ofNat d.digits).drop 1) ++
        (d.exponentText ++ rest)) = ((ofNat d.digits).drop 1, d.exponentText ++ rest) := by
    split_ifs with hone
    · rw [List.drop_eq_nil_of_le hone.le, hexponent]
      rfl
    · exact readFraction_point (fun c hc => hall c (List.mem_of_mem_drop hc)) hexponentEnds
  have hafter : ∀ c ∈ ((if (ofNat d.digits).length = 1 then [] else
      '.' :: (ofNat d.digits).drop 1) ++ (d.exponentText ++ rest)).head?, c.isDigit = false := by
    split_ifs with hone
    · exact hexponentEnds
    · rintro c ⟨⟩
      rfl
  have hvalues : (value ((ofNat d.digits).take 1 ++ (ofNat d.digits).drop 1) : ℚ) *
      10 ^ (d.point - 1 - ((ofNat d.digits).drop 1).length) = d.value := by
    rw [List.take_append_drop, value_ofNat, List.length_drop]
    unfold Decimal.value Decimal.point
    congr 2
    omega
  have hscan := scanFloat_parts (fun c hc => hall c (List.mem_of_mem_take hc)) hfirst hafter hfraction
    (by rw [hexponent]; exact hread) (hvalues ▸ hround)
  unfold Decimal.significandText
  simp only [List.append_assoc]
  exact hscan

end Formats

section Shortest

variable {x : Finite} {d : Decimal} {magnitude : ℚ} {exponent : Int} {rest : Text} {words : List Text}

theorem magnitude_pos (hx : x.significand ≠ 0) : 0 < x.magnitude := by
  have hpos : (0 : ℚ) < x.significand := by exact_mod_cast Nat.pos_of_ne_zero hx
  exact mul_pos hpos (zpow_pos (by norm_num) _)

/-- A candidate is next to the magnitude. -/
theorem candidates_near (hmagnitude : 0 ≤ magnitude)
    (h : d ∈ Decimal.candidates magnitude exponent) :
    d.exponent = exponent ∧ ⌊magnitude / 10 ^ exponent⌋ ≤ d.digits ∧
      (d.digits : Int) ≤ ⌊magnitude / 10 ^ exponent⌋ + 1 := by
  have hfloor : 0 ≤ ⌊magnitude / 10 ^ exponent⌋ :=
    Int.floor_nonneg.mpr (div_nonneg hmagnitude (zpow_nonneg (by norm_num) _))
  have hnear := roundEven_mem (magnitude / 10 ^ exponent)
  unfold Decimal.candidates at h
  simp only [List.map_cons, List.map_nil, List.mem_cons, List.not_mem_nil, or_false] at h
  rcases h with rfl | rfl | rfl
  · refine ⟨rfl, ?_, ?_⟩ <;> dsimp only <;> omega
  · refine ⟨rfl, ?_, ?_⟩ <;> dsimp only <;> omega
  · refine ⟨rfl, ?_, ?_⟩ <;> dsimp only <;> omega

theorem ten_log (h : 0 < magnitude) :
    10 ^ Int.log 10 magnitude ≤ magnitude ∧ magnitude < 10 ^ (Int.log 10 magnitude + 1) := by
  constructor
  · exact_mod_cast Int.zpow_log_le_self (b := 10) (by decide) h
  · exact_mod_cast Int.lt_zpow_succ_log_self (b := 10) (by decide) magnitude

/-- Seventeen digits are enough. -/
theorem round_seventeen (hx : x.significand ≠ 0) :
    ∃ d ∈ Decimal.candidates x.magnitude (Int.log 10 x.magnitude + 1 - (17 : Nat)),
      round x.negative d.value = .finite x := by
  have hpos := magnitude_pos hx
  have hlow := (ten_log hpos).1
  generalize Int.log 10 x.magnitude = log at hlow ⊢
  have hunit : (0 : ℚ) < 10 ^ (log + 1 - (17 : Nat)) := zpow_pos (by norm_num) _
  have hscale : (10 : ℚ) ^ log = 10 ^ 16 * 10 ^ (log + 1 - (17 : Nat)) := by
    rw [← zpow_natCast, ← zpow_add₀ (by norm_num)]
    congr 1
    omega
  rw [hscale] at hlow
  have hnear := abs_roundEven_sub_le (x.magnitude / 10 ^ (log + 1 - (17 : Nat)))
  have hnonneg : 0 ≤ roundEven (x.magnitude / 10 ^ (log + 1 - (17 : Nat))) := by
    apply le_roundEven
    rw [Int.cast_zero]
    exact (div_pos hpos hunit).le
  refine ⟨_, List.mem_cons_self, ?_⟩
  apply round_near x.negative (Nat.pos_of_ne_zero hx)
  unfold Decimal.value
  dsimp only
  rw [← Int.cast_natCast, Int.toNat_of_nonneg hnonneg]
  generalize (10 : ℚ) ^ (log + 1 - (17 : Nat)) = unit at hunit hlow hnear ⊢
  generalize roundEven (x.magnitude / unit) = digits at hnear ⊢
  have hsplit : (digits : ℚ) * unit - x.magnitude = (digits - x.magnitude / unit) * unit := by
    field_simp
  calc |(digits : ℚ) * unit - x.magnitude| = |(digits - x.magnitude / unit)| * unit := by
        rw [hsplit, abs_mul, abs_of_pos hunit]
    _ ≤ 1 / 2 * unit := mul_le_mul_of_nonneg_right hnear hunit.le
    _ < x.magnitude / 2 ^ 54 := by linarith

/-- A decimal that is near the magnitude has its order, and not too many digits. -/
theorem candidates_bounds (hpos : 0 < magnitude) {n : Nat} (hn : n ≤ 17)
    (h : d ∈ Decimal.candidates magnitude (Int.log 10 magnitude + 1 - n)) (hd : 0 < d.digits) :
    10 ^ Int.log 10 magnitude ≤ d.value ∧ d.value ≤ 10 ^ (Int.log 10 magnitude + 1) ∧
      d.digits < 10 ^ 18 := by
  obtain ⟨hexponent, hlow, hhigh⟩ := candidates_near hpos.le h
  obtain ⟨hlog, hlog'⟩ := ten_log hpos
  generalize Int.log 10 magnitude = log at hexponent hlow hhigh hlog hlog' ⊢
  have hunit : (0 : ℚ) < 10 ^ (log + 1 - n) := zpow_pos (by norm_num) _
  have htop : (10 : ℚ) ^ (log + 1) = 10 ^ n * 10 ^ (log + 1 - n) := by
    rw [← zpow_natCast, ← zpow_add₀ (by norm_num)]
    congr 1
    omega
  have hfloor : ⌊magnitude / 10 ^ (log + 1 - n)⌋ < 10 ^ n := by
    apply Int.floor_lt.mpr
    rw [div_lt_iff₀ hunit]
    push_cast
    rwa [← htop]
  have hle : d.digits ≤ 10 ^ n := by
    have : (d.digits : Int) ≤ 10 ^ n := by omega
    exact_mod_cast this
  unfold Decimal.value
  rw [hexponent, htop]
  refine ⟨?_, ?_, ?_⟩
  · cases n with
    | zero =>
        have hone : (1 : ℚ) ≤ d.digits := by exact_mod_cast hd
        calc (10 : ℚ) ^ log ≤ 10 ^ (log + 1 - (0 : Nat)) :=
              zpow_le_zpow_right₀ (by norm_num) (by omega)
          _ ≤ d.digits * 10 ^ (log + 1 - (0 : Nat)) := le_mul_of_one_le_left hunit.le hone
    | succ n =>
        have hscale : (10 : ℚ) ^ log = 10 ^ n * 10 ^ (log + 1 - (n + 1 : Nat)) := by
          rw [← zpow_natCast, ← zpow_add₀ (by norm_num)]
          congr 1
          omega
        have hdigits : (10 ^ n : Int) ≤ ⌊magnitude / 10 ^ (log + 1 - (n + 1 : Nat))⌋ := by
          apply Int.le_floor.mpr
          rw [le_div_iff₀ hunit]
          push_cast at hscale ⊢
          rwa [← hscale]
        have hle : (10 : ℚ) ^ n ≤ d.digits := by exact_mod_cast hdigits.trans hlow
        rw [hscale]
        exact mul_le_mul_of_nonneg_right hle hunit.le
  · exact mul_le_mul_of_nonneg_right (by exact_mod_cast hle) hunit.le
  · calc d.digits ≤ 10 ^ n := hle
      _ ≤ 10 ^ 17 := Nat.pow_le_pow_right (by decide) hn
      _ < 10 ^ 18 := by norm_num

/-- What `shortest` finds. -/
structure Prints (x : Finite) (d : Decimal) : Prop where
  readsBack : round x.negative d.value = .finite x
  digits_pos : 0 < d.digits
  digits_lt : d.digits < 10 ^ 18
  log_le : Int.log 10 x.magnitude + 1 ≤ d.point
  le_log : d.point ≤ Int.log 10 x.magnitude + 2

theorem value_mem (hd : 0 < d.digits) :
    10 ^ (d.point - 1) ≤ d.value ∧ d.value < 10 ^ d.point := by
  obtain ⟨hlow, hhigh⟩ := ofNat_pow hd
  have hlength := List.length_pos_of_ne_nil (isWord_ofNat d.digits).ne_nil
  have hunit : (0 : ℚ) < 10 ^ d.exponent := zpow_pos (by norm_num) _
  have hfirst : (10 : ℚ) ^ (d.point - 1) = 10 ^ ((ofNat d.digits).length - 1) * 10 ^ d.exponent := by
    rw [← zpow_natCast, ← zpow_add₀ (by norm_num)]
    unfold Decimal.point
    congr 1
    omega
  have hpast : (10 : ℚ) ^ d.point = 10 ^ (ofNat d.digits).length * 10 ^ d.exponent := by
    rw [← zpow_natCast, ← zpow_add₀ (by norm_num)]
    rfl
  unfold Decimal.value
  rw [hfirst, hpast]
  constructor
  · exact mul_le_mul_of_nonneg_right (by exact_mod_cast hlow) hunit.le
  · exact mul_lt_mul_of_pos_right (by exact_mod_cast hhigh) hunit

theorem shortest_prints (hx : x.significand ≠ 0) : ∃ d, shortest x = some d ∧ Prints x d := by
  have hpos := magnitude_pos hx
  have hfound : (shortest x).isSome := by
    obtain ⟨d, hd, hround⟩ := round_seventeen hx
    apply List.find?_isSome.mpr
    exact ⟨d, List.mem_flatMap.mpr ⟨17, List.mem_range.mpr (by decide), hd⟩, decide_eq_true hround⟩
  obtain ⟨d, hd⟩ := Option.isSome_iff_exists.mp hfound
  have hfind := hd
  unfold shortest at hfind
  dsimp only at hfind
  have hround := List.find?_some hfind
  rw [decide_eq_true_eq] at hround
  obtain ⟨n, hn, hmem⟩ := List.mem_flatMap.mp (List.mem_of_find?_eq_some hfind)
  have hdigits : 0 < d.digits := by
    apply Nat.pos_of_ne_zero
    intro hzero
    have hvalue : d.value = 0 := by
      unfold Decimal.value
      rw [hzero, Nat.cast_zero, zero_mul]
    obtain ⟨z, hz, -, hmagnitude⟩ := round_zero x.negative
    rw [hvalue, hz] at hround
    cases hround
    exact hpos.ne' hmagnitude
  obtain ⟨hlow, hhigh, hlt⟩ := candidates_bounds hpos (by have := List.mem_range.mp hn; omega)
    hmem hdigits
  obtain ⟨hfirst, hpast⟩ := value_mem hdigits
  refine ⟨d, hd, hround, hdigits, hlt, ?_, ?_⟩
  · have hlt := (zpow_lt_zpow_iff_right₀ (by norm_num : (1 : ℚ) < 10)).mp (hlow.trans_lt hpast)
    omega
  · have hle := (zpow_le_zpow_iff_right₀ (by norm_num : (1 : ℚ) < 10)).mp (hfirst.trans hhigh)
    omega

end Shortest

section Description

variable {x : Finite} {d : Decimal} {rest : Text} {words : List Text}

/-- The order of a number has three digits. -/
theorem log_mem (hx : x.significand ≠ 0) :
    -358 ≤ Int.log 10 x.magnitude ∧ Int.log 10 x.magnitude < 342 := by
  have hpos := magnitude_pos hx
  have hunit : (0 : ℚ) < 2 ^ x.exponent := zpow_pos (by norm_num) _
  have hone : (1 : ℚ) ≤ x.significand := by exact_mod_cast Nat.pos_of_ne_zero hx
  have hpow (n : Nat) : (2 : ℚ) ^ ((3 * n : Nat) : Int) ≤ 10 ^ (n : Int) := by
    rw [zpow_natCast, zpow_natCast, pow_mul]
    exact pow_le_pow_left₀ (by norm_num) (by norm_num) n
  have hinverse (n : Nat) : (10 : ℚ) ^ (-(n : Int)) ≤ 2 ^ (-((3 * n : Nat) : Int)) := by
    rw [zpow_neg, zpow_neg]
    exact inv_anti₀ (zpow_pos (by norm_num) _) (hpow n)
  constructor
  · have hlow : (10 : ℚ) ^ (-((358 : Nat) : Int)) ≤ x.magnitude := by
      calc (10 : ℚ) ^ (-((358 : Nat) : Int)) ≤ 2 ^ (-((3 * 358 : Nat) : Int)) := hinverse 358
        _ ≤ 2 ^ x.exponent := zpow_le_zpow_right₀ (by norm_num) (by have := x.exponent_ge; omega)
        _ ≤ x.magnitude := le_mul_of_one_le_left hunit.le hone
    exact (Int.zpow_le_iff_le_log (b := 10) (by decide) hpos).mp (by exact_mod_cast hlow)
  · have hhigh : x.magnitude < (10 : ℚ) ^ ((342 : Nat) : Int) := by
      calc x.magnitude < 2 ^ (53 + x.exponent) := x.magnitude_lt
        _ ≤ 2 ^ ((3 * 342 : Nat) : Int) :=
            zpow_le_zpow_right₀ (by norm_num) (by have := x.exponent_le; omega)
        _ ≤ 10 ^ ((342 : Nat) : Int) := hpow 342
    exact (Int.lt_zpow_iff_log_lt (b := 10) (by decide) hpos).mp (by exact_mod_cast hhigh)

theorem log_le_of_le (hx : x.significand ≠ 0) (h : x.magnitude ≤ 2 ^ 53) :
    Int.log 10 x.magnitude ≤ 15 := by
  apply Int.lt_add_one_iff.mp
  apply (Int.lt_zpow_iff_log_lt (b := 10) (by decide) (magnitude_pos hx)).mp
  calc x.magnitude ≤ 2 ^ 53 := h
    _ < ((10 : Nat) : ℚ) ^ (15 + 1 : Int) := by norm_num

theorem plainText_length (hd : d.digits < 10 ^ 18) (hlow : -3 ≤ d.point) (hhigh : d.point ≤ 17) :
    d.plainText.1.length + d.plainText.2.length ≤ 22 := by
  have hlength := ofNat_length (by decide) hd
  have hpoint : d.point = (ofNat d.digits).length + d.exponent := rfl
  unfold Decimal.plainText
  dsimp only
  split_ifs with hsmall hinside
  · simp only [List.length_append, List.length_singleton, List.length_replicate]
    omega
  · simp only [List.length_take, List.length_drop]
    omega
  · simp only [List.length_append, List.length_singleton, List.length_replicate]
    omega

theorem exponentText_length (hlow : -357 ≤ d.point) (hhigh : d.point ≤ 343) :
    d.exponentText.length ≤ 5 := by
  have habs : (d.point - 1).natAbs < 10 ^ 3 := by omega
  have hlength := ofNat_length (by decide) habs
  unfold Decimal.exponentText
  dsimp only
  split_ifs with hbelow hshort hshort
  all_goals
    simp only [List.length_cons]
  · have := ofNat_length (k := 1) (by decide) hshort
    omega
  · omega
  · have := ofNat_length (k := 1) (by decide) hshort
    omega
  · omega

theorem significandText_length (hd : d.digits < 10 ^ 18) : d.significandText.length ≤ 19 := by
  have hlength := ofNat_length (by decide) hd
  unfold Decimal.significandText
  dsimp only
  rw [List.length_append, List.length_take]
  split_ifs with hone
  · rw [List.length_nil]
    omega
  · rw [List.length_cons, List.length_drop]
    omega

theorem decimalText_length (hx : x.significand ≠ 0) (hd : Prints x d) :
    (decimalText x d).length ≤ 24 := by
  obtain ⟨hlog, hlog'⟩ := log_mem hx
  have hlow := hd.log_le
  have hhigh := hd.le_log
  unfold decimalText
  split_ifs with hformat
  · have hfirst := significandText_length hd.digits_lt
    have hexponent := @exponentText_length d (by omega) (by omega)
    rw [List.length_append]
    omega
  · rw [not_or, not_lt, not_lt] at hformat
    have horder := log_le_of_le hx hformat.2
    have hplain := plainText_length hd.digits_lt hformat.1 (by omega)
    rw [List.length_append, List.length_cons]
    omega

theorem description_length (x : Finite) : (description (.finite x)).length ≤ 25 := by
  have hsign : (signText x.negative).length ≤ 1 := by
    unfold signText
    split_ifs
    · exact le_rfl
    · exact Nat.zero_le 1
  unfold description
  dsimp only
  rw [List.length_append]
  split_ifs with hx
  · have hzero : "0.0".toList.length = 3 := rfl
    omega
  · obtain ⟨d, hd, hprints⟩ := shortest_prints hx
    have hlength := decimalText_length hx hprints
    rw [hd]
    exact Nat.add_le_add hsign hlength

theorem scanFloat_zero (hx : x.significand = 0) (hrest : ∀ c ∈ rest.head?, c = ' ') :
    scanFloat (signText x.negative ++ "0.0".toList ++ rest) = some (.finite x, rest) := by
  have hzero : ∀ c ∈ ['0'], c.isDigit = true := by
    intro c hc
    obtain rfl := List.mem_singleton.mp hc
    rfl
  have hends : ∀ c ∈ rest.head?, c.isDigit = false := by
    intro c hc
    rw [hrest c hc]
    rfl
  have hpoint : ∀ c ∈ ('.' :: (['0'] ++ rest)).head?, c.isDigit = false := by
    rintro c ⟨⟩
    rfl
  have hmagnitude : x.magnitude = 0 := by
    unfold Finite.magnitude
    rw [hx, Nat.cast_zero, zero_mul]
  have hround : round x.negative ((value (['0'] ++ ['0']) : ℚ) * 10 ^ (0 - (['0'].length : Int))) =
      .finite x := by
    have hvalue : value (['0'] ++ ['0']) = 0 := rfl
    rw [hvalue, Nat.cast_zero, zero_mul, ← hmagnitude]
    exact round_magnitude x x.negative
  have htext : "0.0".toList = ['0'] ++ '.' :: ['0'] := rfl
  rw [htext, List.append_assoc, List.append_assoc, List.cons_append]
  exact scanFloat_parts hzero (List.cons_ne_nil _ _) hpoint (readFraction_point hzero hends)
    (readExponent_none hrest) hround

/-- A printed number is read back. -/
theorem scanFloat_description (hrest : ∀ c ∈ rest.head?, c = ' ') :
    scanFloat (description (.finite x) ++ rest) = some (.finite x, rest) := by
  unfold description
  dsimp only
  split_ifs with hx
  · exact scanFloat_zero hx hrest
  · obtain ⟨d, hd, hprints⟩ := shortest_prints hx
    rw [hd]
    dsimp only [Option.elim_some]
    unfold decimalText
    split_ifs with hformat
    · exact scanFloat_exponentText hprints.readsBack hrest
    · exact scanFloat_plainText hprints.readsBack hrest

/-- The characters of a printed number. -/
def isNumeric (c : Char) : Bool := c.isDigit || c = '-' || c = '+' || c = '.' || c = 'e'

theorem all_decimalText (x : Finite) (d : Decimal) : (decimalText x d).all isNumeric = true := by
  have hdigits {digits : Text} (h : ∀ c ∈ digits, c.isDigit = true) : digits.all isNumeric = true :=
    List.all_eq_true.mpr fun c hc => by simp [isNumeric, h c hc]
  have hnumber (n : Nat) : ∀ c ∈ ofNat n, c.isDigit = true := fun c hc => ofNat_isDigit hc
  unfold decimalText
  split_ifs with hformat
  · obtain ⟨digits, hexponent, hall, -, -⟩ := exponentText_eq d
    have hsign : isNumeric (if d.point - 1 < 0 then '-' else '+') = true := by
      split_ifs <;> rfl
    have hsignificand : d.significandText.all isNumeric = true := by
      unfold Decimal.significandText
      dsimp only
      rw [List.all_append, hdigits fun c hc => hnumber _ c (List.mem_of_mem_take hc)]
      split_ifs with hone
      · rfl
      · rw [List.all_cons, hdigits fun c hc => hnumber _ c (List.mem_of_mem_drop hc)]
        rfl
    rw [List.all_append, hsignificand, hexponent, List.all_cons, List.all_cons, hsign, hdigits hall]
    rfl
  · obtain ⟨hwhole, hfraction⟩ := plainText_isDigit d
    rw [List.all_append, List.all_cons, hdigits hwhole, hdigits hfraction]
    rfl

theorem all_description (x : Finite) : (description (.finite x)).all isNumeric = true := by
  have hsign : (signText x.negative).all isNumeric = true := by
    unfold signText
    split_ifs <;> rfl
  unfold description
  dsimp only
  rw [List.all_append, hsign, Bool.true_and]
  split_ifs with hx
  · rfl
  · obtain ⟨d, hd, -⟩ := shortest_prints hx
    rw [hd]
    exact all_decimalText x d

theorem isGraphic_description (x : Finite) : IsGraphic (description (.finite x)) where
  ne_nil := by
    intro hnil
    have hscan := @scanFloat_description x [] nofun
    rw [hnil] at hscan
    cases hscan
  visible := by
    intro c hc
    have hnumeric := List.all_eq_true.mp (all_description x) c hc
    simp only [isNumeric, Bool.or_eq_true, decide_eq_true_eq] at hnumeric
    rcases hnumeric with (((hdigit | rfl) | rfl) | rfl) | rfl
    · exact visible_of_isAlnum (by simp [isAlnum, Char.isAlphanum, hdigit])
    all_goals decide

/-- A printed number is extracted. -/
theorem readFloat_spaced (x : Finite) (words : List Text) :
    readFloat (spaced (description (.finite x) :: words)) = some (.finite x, spaced words) := by
  unfold readFloat
  rw [skipSpace_spaced (isGraphic_description x).isWord]
  apply scanFloat_description
  cases words with
  | nil => exact nofun
  | cons word words =>
      rintro c ⟨⟩
      rfl

end Description

end SyncAudio.FloatText

import Mathlib.Data.Int.Log
import Mathlib.Data.Rat.Floor
import Mathlib.Algebra.Order.Ring.Abs
import Mathlib.Algebra.Order.Field.Basic
import Mathlib.Tactic.Linarith
import Mathlib.Tactic.FieldSimp
import Mathlib.Tactic.NormNum
import Mathlib.Tactic.Positivity
import Mathlib.Tactic.Ring
import SyncAudio.Lib.Checked

/-!
# Binary64 numbers

IEEE 754 double precision: finite numbers with 53-bit significands, infinities
and NaN. Every operation is the exact rational result rounded once, to nearest
with ties to even.

## Implementation notes

A finite number keeps its sign apart from its significand, so the two zeros
differ. `round` takes the sign and a magnitude; it decides the bounds of the
format by the fields of `Finite`, and a magnitude that does not fit is an infinity.
-/

namespace SyncAudio

/-- The number `±significand * 2 ^ exponent` in its canonical form. -/
structure Finite where
  negative : Bool
  significand : Nat
  exponent : Int
  significand_lt : significand < 2 ^ 53
  exponent_ge : -1074 ≤ exponent
  exponent_le : exponent ≤ 971
  normal : 2 ^ 52 ≤ significand ∨ exponent = -1074
  deriving DecidableEq, Repr

inductive Binary64 where
  | finite (x : Finite)
  | infinite (negative : Bool)
  | nan
  deriving DecidableEq, Repr

namespace Finite

def magnitude (x : Finite) : ℚ := x.significand * 2 ^ x.exponent

def value (x : Finite) : ℚ := if x.negative then -x.magnitude else x.magnitude

theorem magnitude_nonneg (y : Finite) : 0 ≤ y.magnitude := by
  unfold magnitude
  exact mul_nonneg (Nat.cast_nonneg _) (zpow_nonneg (by norm_num) _)

theorem magnitude_lt (y : Finite) : y.magnitude < 2 ^ (53 + y.exponent) := by
  have hlt : (y.significand : ℚ) < 2 ^ (53 : Int) := by exact_mod_cast y.significand_lt
  unfold magnitude
  rw [zpow_add₀ (by norm_num)]
  exact mul_lt_mul_of_pos_right hlt (zpow_pos (by norm_num) _)

theorem abs_value (x : Finite) : |x.value| = x.magnitude := by
  unfold value
  split_ifs
  · rw [abs_neg, abs_of_nonneg x.magnitude_nonneg]
  · exact abs_of_nonneg x.magnitude_nonneg

end Finite

namespace Binary64

/-- The nearest integer, and the even one of two. -/
def roundEven (x : ℚ) : Int :=
  let floor := ⌊x⌋
  if x - floor < 1 / 2 ∨ x - floor = 1 / 2 ∧ floor % 2 = 0 then floor else floor + 1

/-- The exponent of the last place of a magnitude. -/
def ulpExponent (x : ℚ) : Int := max (-1074) (Int.log 2 x - 52)

/-- Significand and exponent of the number nearest to a magnitude. A significand
that rounds up to 54 bits moves to the next exponent. -/
def roundMagnitude (x : ℚ) : Nat × Int :=
  if x = 0 then (0, -1074)
  else
    let exponent := ulpExponent x
    let significand := (roundEven (x / 2 ^ exponent)).toNat
    if significand = 2 ^ 53 then (2 ^ 52, exponent + 1) else (significand, exponent)

def ofParts (negative : Bool) (significand : Nat) (exponent : Int) : Binary64 :=
  if h : significand < 2 ^ 53 ∧ -1074 ≤ exponent ∧ exponent ≤ 971 ∧
      (2 ^ 52 ≤ significand ∨ exponent = -1074) then
    .finite ⟨negative, significand, exponent, h.1, h.2.1, h.2.2.1, h.2.2.2⟩
  else .infinite negative

def round (negative : Bool) (magnitude : ℚ) : Binary64 :=
  let parts := roundMagnitude magnitude
  ofParts negative parts.1 parts.2

def ofRat (x : ℚ) : Binary64 := round (x < 0) |x|

def ofInt (n : Int) : Binary64 := ofRat n

/-- Positive zero. -/
def zero : Binary64 := ofParts false 0 (-1074)

def isFinite : Binary64 → Bool
  | finite _ => true
  | _ => false

def add : Binary64 → Binary64 → Binary64
  | finite x, finite y =>
      if x.value + y.value = 0 then round (x.negative && y.negative) 0
      else ofRat (x.value + y.value)
  | infinite a, infinite b => if a = b then infinite a else nan
  | infinite a, finite _ => infinite a
  | finite _, infinite b => infinite b
  | nan, _ => nan
  | _, nan => nan

def neg : Binary64 → Binary64
  | finite x => finite { x with negative := !x.negative }
  | infinite a => infinite (!a)
  | nan => nan

def sub (x y : Binary64) : Binary64 := add x y.neg

def mul : Binary64 → Binary64 → Binary64
  | finite x, finite y => round (x.negative != y.negative) (x.magnitude * y.magnitude)
  | infinite a, infinite b => infinite (a != b)
  | infinite a, finite y => if y.magnitude = 0 then nan else infinite (a != y.negative)
  | finite x, infinite b => if x.magnitude = 0 then nan else infinite (x.negative != b)
  | nan, _ => nan
  | _, nan => nan

def div : Binary64 → Binary64 → Binary64
  | finite x, finite y =>
      if y.magnitude = 0 then
        if x.magnitude = 0 then nan else infinite (x.negative != y.negative)
      else round (x.negative != y.negative) (x.magnitude / y.magnitude)
  | infinite _, infinite _ => nan
  | infinite a, finite y => infinite (a != y.negative)
  | finite x, infinite b => round (x.negative != b) 0
  | nan, _ => nan
  | _, nan => nan

/-- The comparison `x < y`, false on NaN. -/
def lt : Binary64 → Binary64 → Bool
  | finite x, finite y => x.value < y.value
  | infinite a, infinite b => a && !b
  | infinite a, finite _ => a
  | finite _, infinite b => !b
  | nan, _ => false
  | _, nan => false

/-- The comparison `x ≤ y`, false on NaN. -/
def le : Binary64 → Binary64 → Bool
  | finite x, finite y => x.value ≤ y.value
  | infinite a, infinite b => a || !b
  | infinite a, finite _ => a
  | finite _, infinite b => !b
  | nan, _ => false
  | _, nan => false

/-- Conversion to an unsigned integer, toward zero. -/
def truncate : Binary64 → Nat
  | finite x => ⌊x.value⌋.toNat
  | _ => 0

/-- Conversion to a signed 64-bit count, toward zero, if it is in the range. -/
def toSigned : Binary64 → Option Int
  | finite x => Checked.signed (if x.negative then -⌊x.magnitude⌋ else ⌊x.magnitude⌋)
  | _ => none

/-- The exact value of a finite number. -/
def toRat : Binary64 → ℚ
  | finite x => x.value
  | _ => 0

section Rounding

theorem roundEven_eq {x : ℚ} {n : Int} (h : |x - n| < 1 / 2) : roundEven x = n := by
  obtain ⟨hlow, hhigh⟩ := abs_lt.mp h
  unfold roundEven
  dsimp only
  by_cases hle : (n : ℚ) ≤ x
  · have hfloor : ⌊x⌋ = n := Int.floor_eq_iff.mpr ⟨hle, by linarith⟩
    rw [hfloor, if_pos (.inl hhigh)]
  · have hfloor : ⌊x⌋ = n - 1 := by
      rw [Int.floor_eq_iff]
      push_cast
      exact ⟨by linarith, by linarith⟩
    rw [hfloor, if_neg, Int.sub_add_cancel]
    push_cast
    rintro (hlt | ⟨heq, -⟩) <;> linarith

theorem ulpExponent_eq {x : ℚ} {e : Int} (he : -1074 ≤ e) (hx : 0 < x)
    (hlow : 2 ^ (52 + e) ≤ x ∨ e = -1074) (hhigh : x < 2 ^ (53 + e)) : ulpExponent x = e := by
  have hlog : Int.log 2 x < 53 + e :=
    (Int.lt_zpow_iff_log_lt (by decide) hx).mp (by exact_mod_cast hhigh)
  unfold ulpExponent
  rcases hlow with hlow | rfl
  · have : 52 + e ≤ Int.log 2 x :=
      (Int.zpow_le_iff_le_log (by decide) hx).mp (by exact_mod_cast hlow)
    omega
  · omega

/-- A magnitude closer to a number than half the distance to its neighbours is
rounded to it. Below a power of two the neighbour is nearer, so the bound is
relative to the number and not to its last place. -/
theorem roundMagnitude_near {x : ℚ} {m : Nat} {e : Int} (hpos : 0 < m) (hm : m < 2 ^ 53)
    (he : -1074 ≤ e) (hnormal : 2 ^ 52 ≤ m ∨ e = -1074)
    (hx : |x - m * 2 ^ e| < m * 2 ^ e / 2 ^ 54) : roundMagnitude x = (m, e) := by
  have hunit : (0 : ℚ) < 2 ^ e := zpow_pos (by norm_num) e
  have hmq : (0 : ℚ) < m := by exact_mod_cast hpos
  have hmlt : (m : ℚ) ≤ 2 ^ 53 - 1 := by
    have : (m : ℚ) + 1 ≤ 2 ^ 53 := by exact_mod_cast hm
    linarith
  have hscaled : |x / 2 ^ e - m| < m / 2 ^ 54 := by
    rw [show x / 2 ^ e - m = (x - m * 2 ^ e) / 2 ^ e by field_simp, abs_div, abs_of_pos hunit,
      div_lt_iff₀ hunit]
    calc |x - m * 2 ^ e| < m * 2 ^ e / 2 ^ 54 := hx
      _ = m / 2 ^ 54 * 2 ^ e := by ring
  obtain ⟨hlow, hhigh⟩ := abs_lt.mp hscaled
  have hxpos : 0 < x := by
    have : 0 < x / 2 ^ e := by linarith
    exact (div_pos_iff_of_pos_right hunit).mp this
  have hpow (k : Int) : (2 : ℚ) ^ (k + e) = 2 ^ k * 2 ^ e := zpow_add₀ (by norm_num) k e
  have hxlt : x < 2 ^ (53 + e) := by
    rw [hpow, ← div_lt_iff₀ hunit]
    linarith
  unfold roundMagnitude
  rw [if_neg hxpos.ne']
  by_cases hnear : 2 ^ (52 + e) ≤ x ∨ e = -1074
  · have hround : roundEven (x / 2 ^ e) = (m : Int) := roundEven_eq (by
      push_cast
      exact hscaled.trans (by linarith))
    rw [ulpExponent_eq he hxpos hnear hxlt]
    dsimp only
    rw [hround, Int.toNat_natCast, if_neg hm.ne]
  · rw [not_or, not_le, hpow, ← div_lt_iff₀ hunit] at hnear
    obtain ⟨hbelow, hne⟩ := hnear
    have hm52 : m = 2 ^ 52 := by
      have hge : 2 ^ 52 ≤ m := hnormal.resolve_right hne
      have hlt : (m : ℚ) < 2 ^ 52 + 1 := by
        linarith
      have : m < 2 ^ 52 + 1 := by exact_mod_cast hlt
      omega
    subst hm52
    have hhalf : (2 : ℚ) ^ e = 2 ^ (e - 1) * 2 := by
      rw [← zpow_add_one₀ (by norm_num), Int.sub_add_cancel]
    have hulp : ulpExponent x = e - 1 := by
      refine ulpExponent_eq (by omega) hxpos (.inl ?_) ?_
      · rw [show 52 + (e - 1) = 51 + e by omega, hpow, ← le_div_iff₀ hunit]
        linarith
      · rw [show 53 + (e - 1) = 52 + e by omega, hpow, ← div_lt_iff₀ hunit]
        exact hbelow
    have hround : roundEven (x / 2 ^ (e - 1)) = (2 ^ 53 : Int) := roundEven_eq (by
      have hdouble : x / 2 ^ (e - 1) = 2 * (x / 2 ^ e) := by
        rw [hhalf]
        field_simp
      rw [hdouble, abs_lt]
      push_cast at *
      constructor <;> linarith)
    rw [hulp]
    dsimp only
    rw [hround, show ((2 : Int) ^ 53).toNat = 2 ^ 53 by decide, if_pos rfl, Int.sub_add_cancel]

theorem ofParts_finite (x : Finite) (negative : Bool) :
    ofParts negative x.significand x.exponent = .finite { x with negative := negative } :=
  dif_pos ⟨x.significand_lt, x.exponent_ge, x.exponent_le, x.normal⟩

/-- A magnitude closer to a finite number than half the distance to its
neighbours is rounded to it. -/
theorem round_near {x : ℚ} {y : Finite} (negative : Bool) (hpos : 0 < y.significand)
    (hx : |x - y.magnitude| < y.magnitude / 2 ^ 54) :
    round negative x = .finite { y with negative := negative } := by
  unfold round
  rw [roundMagnitude_near hpos y.significand_lt y.exponent_ge y.normal hx]
  exact ofParts_finite y negative

/-- A representable magnitude is not rounded. -/
theorem round_magnitude (x : Finite) (negative : Bool) :
    round negative x.magnitude = .finite { x with negative := negative } := by
  rcases Nat.eq_zero_or_pos x.significand with hzero | hpos
  · have hexponent : x.exponent = -1074 := by
      rcases x.normal with hnormal | hexponent
      · omega
      · exact hexponent
    have hmagnitude : x.magnitude = 0 := by simp [Finite.magnitude, hzero]
    have hparts : roundMagnitude 0 = (x.significand, x.exponent) := by
      rw [hzero, hexponent]
      rfl
    unfold round
    rw [hmagnitude, hparts]
    exact ofParts_finite x negative
  · refine round_near negative hpos ?_
    have hmagnitude : 0 < x.magnitude := by
      have : (0 : ℚ) < x.significand := by exact_mod_cast hpos
      exact mul_pos this (zpow_pos (by norm_num) _)
    rw [sub_self, abs_zero]
    positivity

/-- The representation of a natural number that fits the significand. -/
theorem exists_finite_of_lt {n : Nat} (hn : n < 2 ^ 53) :
    ∃ x : Finite, x.negative = false ∧ x.magnitude = n := by
  rcases Nat.eq_zero_or_pos n with rfl | hpos
  · exact ⟨⟨false, 0, -1074, by decide, by decide, by decide, .inr rfl⟩, rfl,
      by simp [Finite.magnitude]⟩
  · have hlog : Nat.log2 n ≤ 52 := by
      have := (Nat.log2_lt (by omega)).mpr hn
      omega
    have hlow := Nat.log2_self_le (n := n) (by omega)
    have hhigh := Nat.lt_log2_self (n := n)
    have hsplit : 2 ^ Nat.log2 n * 2 ^ (52 - Nat.log2 n) = 2 ^ 52 := by
      rw [← Nat.pow_add]
      congr 1
      omega
    have hdouble : 2 ^ (Nat.log2 n + 1) * 2 ^ (52 - Nat.log2 n) = 2 ^ 53 := by
      rw [← Nat.pow_add]
      congr 1
      omega
    refine ⟨⟨false, n * 2 ^ (52 - Nat.log2 n), -((52 - Nat.log2 n : Nat) : Int), ?_, by omega,
      by omega, .inl ?_⟩, rfl, ?_⟩
    · rw [← hdouble]
      exact Nat.mul_lt_mul_of_pos_right hhigh (Nat.two_pow_pos _)
    · rw [← hsplit]
      exact Nat.mul_le_mul_right _ hlow
    · simp only [Finite.magnitude]
      push_cast
      rw [mul_assoc, zpow_neg, zpow_natCast, mul_inv_cancel₀ (by positivity), mul_one]

theorem ofInt_of_lt {n : Nat} (hn : n < 2 ^ 53) :
    ∃ x : Finite, ofInt n = .finite x ∧ x.negative = false ∧ x.value = n := by
  obtain ⟨x, hsign, hmagnitude⟩ := exists_finite_of_lt hn
  refine ⟨{ x with negative := false }, ?_, rfl, ?_⟩
  · have habs : |((n : Int) : ℚ)| = x.magnitude := by
      rw [hmagnitude, Int.cast_natCast, abs_of_nonneg (Nat.cast_nonneg n)]
    have hneg : ¬ ((n : Int) : ℚ) < 0 := by
      rw [Int.cast_natCast]
      exact not_lt.mpr (Nat.cast_nonneg n)
    unfold ofInt ofRat
    rw [habs, decide_eq_false hneg]
    exact round_magnitude x false
  · exact hmagnitude

theorem truncate_le_of_lt {x : Binary64} {n : Nat} (hn : n < 2 ^ 53)
    (h : x.lt (ofInt n) = true) : x.truncate ≤ n := by
  obtain ⟨y, hy, -, hvalue⟩ := ofInt_of_lt hn
  rw [hy] at h
  cases x with
  | finite x =>
      have hlt : x.value < n := by
        rw [← hvalue]
        exact of_decide_eq_true h
      have hfloor : ⌊x.value⌋ ≤ n := by
        rw [Int.floor_le_iff]
        push_cast
        linarith
      exact Int.toNat_le.mpr hfloor
  | infinite negative => exact Nat.zero_le n
  | nan => exact Nat.zero_le n

end Rounding

section Monotone

variable {x : ℚ} {n : Int} {negative : Bool} {y z : Finite}

theorem roundEven_mem (x : ℚ) : roundEven x = ⌊x⌋ ∨ roundEven x = ⌊x⌋ + 1 := by
  unfold roundEven
  dsimp only
  split_ifs with hdown
  · exact .inl rfl
  · exact .inr rfl

theorem abs_roundEven_sub_le (x : ℚ) : |(roundEven x : ℚ) - x| ≤ 1 / 2 := by
  have hle := Int.floor_le x
  have hlt := Int.lt_floor_add_one x
  unfold roundEven
  dsimp only
  split_ifs with hdown
  · apply abs_le.mpr
    rcases hdown with hbelow | ⟨hhalf, -⟩ <;> constructor <;> linarith
  · have hhalf : 1 / 2 ≤ x - ⌊x⌋ := not_lt.mp fun hbelow => hdown (.inl hbelow)
    apply abs_le.mpr
    push_cast
    constructor <;> linarith

theorem le_roundEven (h : (n : ℚ) ≤ x) : n ≤ roundEven x := by
  have hfloor : n ≤ ⌊x⌋ := Int.le_floor.mpr h
  rcases roundEven_mem x with hx | hx <;> omega

theorem roundEven_le (h : x ≤ n) : roundEven x ≤ n := by
  rcases h.lt_or_eq with hlt | rfl
  · have hfloor : ⌊x⌋ < n := Int.floor_lt.mpr hlt
    rcases roundEven_mem x with hx | hx <;> omega
  · exact (roundEven_eq (by rw [sub_self, abs_zero]; norm_num)).le

theorem lt_ulpExponent (hx : 0 < x) : x < 2 ^ (53 + ulpExponent x) := by
  have hlog : Int.log 2 x < 53 + ulpExponent x := by
    unfold ulpExponent
    omega
  exact_mod_cast (Int.lt_zpow_iff_log_lt (by decide) hx).mpr hlog

theorem ulpExponent_le (hx : 0 < x) : 2 ^ (52 + ulpExponent x) ≤ x ∨ ulpExponent x = -1074 := by
  by_cases hsmall : Int.log 2 x - 52 ≤ -1074
  · exact .inr (max_eq_left hsmall)
  · have hlog : 52 + ulpExponent x ≤ Int.log 2 x := by
      unfold ulpExponent
      omega
    exact .inl (by exact_mod_cast (Int.zpow_le_iff_le_log (by decide) hx).mpr hlog)

/-- The rounded magnitude, before it is brought to its canonical form. -/
theorem roundMagnitude_value (hx : 0 < x) :
    ((roundMagnitude x).1 : ℚ) * 2 ^ (roundMagnitude x).2 =
      roundEven (x / 2 ^ ulpExponent x) * 2 ^ ulpExponent x := by
  have hunit : (0 : ℚ) < 2 ^ ulpExponent x := zpow_pos (by norm_num) _
  have hnonneg : 0 ≤ roundEven (x / 2 ^ ulpExponent x) := by
    apply le_roundEven
    rw [Int.cast_zero]
    positivity
  have hcast : (((roundEven (x / 2 ^ ulpExponent x)).toNat : Nat) : ℚ) =
      roundEven (x / 2 ^ ulpExponent x) := by
    rw [← Int.cast_natCast, Int.toNat_of_nonneg hnonneg]
  unfold roundMagnitude
  rw [if_neg hx.ne']
  dsimp only
  split_ifs with hcarry
  · rw [← hcast, hcarry, zpow_add_one₀ (by norm_num)]
    push_cast
    ring
  · rw [hcast]

/-- The parts are canonical, up to the largest exponent. -/
theorem roundMagnitude_canonical (hx : 0 < x) :
    (roundMagnitude x).1 < 2 ^ 53 ∧ -1074 ≤ (roundMagnitude x).2 ∧
      (2 ^ 52 ≤ (roundMagnitude x).1 ∨ (roundMagnitude x).2 = -1074) := by
  have hunit : (0 : ℚ) < 2 ^ ulpExponent x := zpow_pos (by norm_num) _
  have hmin : -1074 ≤ ulpExponent x := le_max_left _ _
  have hhigh : roundEven (x / 2 ^ ulpExponent x) ≤ 2 ^ 53 := by
    apply roundEven_le
    rw [div_le_iff₀ hunit]
    have hlt := lt_ulpExponent hx
    rw [zpow_add₀ (by norm_num)] at hlt
    exact_mod_cast hlt.le
  have hlow : 2 ^ 52 ≤ roundEven (x / 2 ^ ulpExponent x) ∨ ulpExponent x = -1074 := by
    apply (ulpExponent_le hx).imp_left
    intro hle
    apply le_roundEven
    rw [le_div_iff₀ hunit]
    rw [zpow_add₀ (by norm_num)] at hle
    exact_mod_cast hle
  unfold roundMagnitude
  rw [if_neg hx.ne']
  dsimp only
  split_ifs with hcarry
  · exact ⟨by norm_num, by dsimp only; omega, .inl le_rfl⟩
  · exact ⟨by dsimp only; omega, hmin, hlow.imp_left fun hle => by dsimp only; omega⟩

theorem ofParts_eq {significand : Nat} {exponent : Int}
    (h : ofParts negative significand exponent = .finite z) :
    z.negative = negative ∧ z.magnitude = significand * 2 ^ exponent := by
  unfold ofParts at h
  split_ifs at h
  cases h
  exact ⟨rfl, rfl⟩

/-- A multiple of the last place above a magnitude is above the rounded one. -/
theorem ulpExponent_le_of_le (hx : 0 < x) (h : x ≤ y.magnitude) : ulpExponent x ≤ y.exponent := by
  by_contra hlt
  rcases ulpExponent_le hx with hlow | hmin
  · have hpow : (2 : ℚ) ^ (53 + y.exponent) ≤ 2 ^ (52 + ulpExponent x) :=
      zpow_le_zpow_right₀ (by norm_num) (by omega)
    have hlarge := y.magnitude_lt
    linarith
  · exact hlt (hmin ▸ y.exponent_ge)

/-- A number in the last place of a smaller magnitude. -/
theorem magnitude_scaled {e : Int} (h : e ≤ y.exponent) :
    ∃ k : Nat, y.magnitude = (k : Int) * 2 ^ e := by
  obtain ⟨d, hd⟩ := Int.le.dest h
  refine ⟨y.significand * 2 ^ d, ?_⟩
  unfold Finite.magnitude
  rw [← hd, zpow_add₀ (by norm_num), zpow_natCast]
  push_cast
  ring

theorem exists_zero : ∃ z, zero = .finite z ∧ z.value = 0 := by
  have hparts := ofParts_finite ⟨false, 0, -1074, by decide, by decide, by decide, .inr rfl⟩ false
  exact ⟨_, hparts, by simp [Finite.value, Finite.magnitude]⟩

theorem round_zero (negative : Bool) :
    ∃ z, round negative 0 = .finite z ∧ z.negative = negative ∧ z.magnitude = 0 := by
  have hzero : (⟨false, 0, -1074, by decide, by decide, by decide, .inr rfl⟩ : Finite).magnitude =
      0 := by simp [Finite.magnitude]
  rw [← hzero, round_magnitude]
  exact ⟨_, rfl, rfl, rfl⟩

/-- Rounding does not exceed a number that the magnitude does not exceed. -/
theorem round_le (negative : Bool) (hx : 0 ≤ x) (h : x ≤ y.magnitude) :
    ∃ z, round negative x = .finite z ∧ z.negative = negative ∧ z.magnitude ≤ y.magnitude := by
  rcases hx.eq_or_lt with rfl | hpos
  · obtain ⟨z, hz, hsign, hzero⟩ := round_zero negative
    exact ⟨z, hz, hsign, hzero.trans_le y.magnitude_nonneg⟩
  · have hunit : (0 : ℚ) < 2 ^ ulpExponent x := zpow_pos (by norm_num) _
    have hexponent := ulpExponent_le_of_le hpos h
    obtain ⟨k, hk⟩ := magnitude_scaled hexponent
    have hrounded : roundEven (x / 2 ^ ulpExponent x) ≤ k := by
      apply roundEven_le
      rw [div_le_iff₀ hunit, ← hk]
      exact h
    have hvalue : ((roundMagnitude x).1 : ℚ) * 2 ^ (roundMagnitude x).2 ≤ y.magnitude := by
      rw [roundMagnitude_value hpos, hk]
      exact mul_le_mul_of_nonneg_right (by exact_mod_cast hrounded) hunit.le
    obtain ⟨hlt, hmin, hnormal⟩ := roundMagnitude_canonical hpos
    have hmax : (roundMagnitude x).2 ≤ 971 := by
      by_contra hover
      have hfull : 2 ^ 52 ≤ (roundMagnitude x).1 := hnormal.resolve_right (by omega)
      have hlarge : (2 : ℚ) ^ (53 + y.exponent) ≤
          (roundMagnitude x).1 * 2 ^ (roundMagnitude x).2 := by
        calc (2 : ℚ) ^ (53 + y.exponent) ≤ 2 ^ (52 + (roundMagnitude x).2) :=
              zpow_le_zpow_right₀ (by norm_num) (by have := y.exponent_le; omega)
          _ = 2 ^ (52 : Int) * 2 ^ (roundMagnitude x).2 := zpow_add₀ (by norm_num) _ _
          _ ≤ _ := mul_le_mul_of_nonneg_right (by exact_mod_cast hfull)
              (zpow_nonneg (by norm_num) _)
      have hbound := y.magnitude_lt
      linarith
    exact ⟨⟨negative, _, _, hlt, hmin, hmax, hnormal⟩, dif_pos ⟨hlt, hmin, hmax, hnormal⟩, rfl,
      hvalue⟩

/-- Rounding does not fall below a number that the magnitude reaches. -/
theorem le_round (h : y.magnitude ≤ x) (hz : round negative x = .finite z) :
    y.magnitude ≤ z.magnitude := by
  rcases y.magnitude_nonneg.eq_or_lt with hzero | hy
  · rw [← hzero]
    exact z.magnitude_nonneg
  · have hpos : 0 < x := hy.trans_le h
    have hunit : (0 : ℚ) < 2 ^ ulpExponent x := zpow_pos (by norm_num) _
    rw [(ofParts_eq hz).2, roundMagnitude_value hpos]
    by_cases hexponent : ulpExponent x ≤ y.exponent
    · obtain ⟨k, hk⟩ := magnitude_scaled hexponent
      have hrounded : (k : Int) ≤ roundEven (x / 2 ^ ulpExponent x) := by
        apply le_roundEven
        rw [le_div_iff₀ hunit, ← hk]
        exact h
      rw [hk]
      exact mul_le_mul_of_nonneg_right (by exact_mod_cast hrounded) hunit.le
    · have hne : ulpExponent x ≠ -1074 := by
        have := y.exponent_ge
        omega
      have hlow := (ulpExponent_le hpos).resolve_right hne
      have hrounded : (2 ^ 52 : Int) ≤ roundEven (x / 2 ^ ulpExponent x) := by
        apply le_roundEven
        rw [le_div_iff₀ hunit]
        rw [zpow_add₀ (by norm_num)] at hlow
        exact_mod_cast hlow
      calc y.magnitude ≤ 2 ^ (53 + y.exponent) := y.magnitude_lt.le
        _ ≤ 2 ^ (52 + ulpExponent x) := zpow_le_zpow_right₀ (by norm_num) (by omega)
        _ = 2 ^ (52 : Int) * 2 ^ ulpExponent x := zpow_add₀ (by norm_num) _ _
        _ ≤ _ := mul_le_mul_of_nonneg_right (by exact_mod_cast hrounded) hunit.le

/-- Between a number with a full significand and the next one there is no other. -/
theorem magnitude_next (hfull : 2 ^ 52 ≤ y.significand) (h : y.magnitude < z.magnitude) :
    ((y.significand + 1 : Nat) : ℚ) * 2 ^ y.exponent ≤ z.magnitude := by
  have hunit : (0 : ℚ) < 2 ^ y.exponent := zpow_pos (by norm_num) _
  have hexponent : y.exponent ≤ z.exponent := by
    by_contra hlt
    have hfull : (2 : ℚ) ^ (52 : Int) ≤ y.significand := by exact_mod_cast hfull
    have hle : z.magnitude ≤ y.magnitude := by
      calc z.magnitude ≤ 2 ^ (53 + z.exponent) := z.magnitude_lt.le
        _ ≤ 2 ^ (52 + y.exponent) := zpow_le_zpow_right₀ (by norm_num) (by omega)
        _ = 2 ^ (52 : Int) * 2 ^ y.exponent := zpow_add₀ (by norm_num) _ _
        _ ≤ y.magnitude := mul_le_mul_of_nonneg_right hfull hunit.le
    exact absurd h (not_lt.mpr hle)
  obtain ⟨k, hk⟩ := magnitude_scaled hexponent
  rw [hk] at h ⊢
  have hlt : y.significand < k := by
    have hlt := lt_of_mul_lt_mul_right h hunit.le
    exact_mod_cast hlt
  exact mul_le_mul_of_nonneg_right (by exact_mod_cast hlt) hunit.le

end Monotone

section Order

variable {p q : ℚ} {negative other : Bool} {x y z : Finite}

theorem roundEven_mono (h : p ≤ q) : roundEven p ≤ roundEven q := by
  have hfloor := Int.floor_le_floor h
  rcases hfloor.lt_or_eq with hlt | heq
  · rcases roundEven_mem p with hp | hp <;> rcases roundEven_mem q with hq | hq <;> omega
  · unfold roundEven
    dsimp only
    rw [← heq]
    split_ifs with hp hq hq
    · exact le_rfl
    · omega
    · -- `q` rounds down, so does `p`
      exfalso
      rcases hq with hbelow | ⟨hhalf, heven⟩
      · exact hp (.inl (by linarith))
      · rcases (show p - ⌊p⌋ ≤ 1 / 2 by linarith).lt_or_eq with hless | hequal
        · exact hp (.inl hless)
        · exact hp (.inr ⟨hequal, heven⟩)
    · exact le_rfl

/-- Rounding keeps the order of magnitudes. -/
theorem round_mono (hp : 0 ≤ p) (h : p ≤ q) (hy : round negative p = .finite y)
    (hz : round other q = .finite z) : y.magnitude ≤ z.magnitude := by
  rcases hp.eq_or_lt with rfl | hp
  · obtain ⟨w, hw, -, hzero⟩ := round_zero negative
    cases hw.symm.trans hy
    exact hzero.trans_le z.magnitude_nonneg
  · have hq : 0 < q := hp.trans_le h
    have hunit (x : ℚ) : (0 : ℚ) < 2 ^ ulpExponent x := zpow_pos (by norm_num) _
    have hle : ulpExponent p ≤ ulpExponent q :=
      max_le_max le_rfl (sub_le_sub_right (Int.log_mono_right hp h) 52)
    rw [(ofParts_eq hy).2, (ofParts_eq hz).2, roundMagnitude_value hp, roundMagnitude_value hq]
    rcases hle.lt_or_eq with hlt | heq
    · have hlow := (ulpExponent_le hq).resolve_right fun hmin => by
        have hmin' : -1074 ≤ ulpExponent p := le_max_left _ _
        omega
      have hhigh : roundEven (p / 2 ^ ulpExponent p) ≤ 2 ^ 53 := by
        apply roundEven_le
        rw [div_le_iff₀ (hunit p)]
        have hbelow := lt_ulpExponent hp
        rw [zpow_add₀ (by norm_num)] at hbelow
        exact_mod_cast hbelow.le
      have hrounded : (2 ^ 52 : Int) ≤ roundEven (q / 2 ^ ulpExponent q) := by
        apply le_roundEven
        rw [le_div_iff₀ (hunit q)]
        rw [zpow_add₀ (by norm_num)] at hlow
        exact_mod_cast hlow
      calc (roundEven (p / 2 ^ ulpExponent p) : ℚ) * 2 ^ ulpExponent p
          ≤ 2 ^ (53 : Int) * 2 ^ ulpExponent p :=
            mul_le_mul_of_nonneg_right (by exact_mod_cast hhigh) (hunit p).le
        _ = 2 ^ (53 + ulpExponent p) := (zpow_add₀ (by norm_num) _ _).symm
        _ ≤ 2 ^ (52 + ulpExponent q) := zpow_le_zpow_right₀ (by norm_num) (by omega)
        _ = 2 ^ (52 : Int) * 2 ^ ulpExponent q := zpow_add₀ (by norm_num) _ _
        _ ≤ _ := mul_le_mul_of_nonneg_right (by exact_mod_cast hrounded) (hunit q).le
    · rw [heq]
      have hscaled : p / 2 ^ ulpExponent q ≤ q / 2 ^ ulpExponent q :=
        div_le_div_of_nonneg_right h (hunit q).le
      exact mul_le_mul_of_nonneg_right (by exact_mod_cast roundEven_mono hscaled) (hunit q).le

/-- Rounding keeps the order. -/
theorem ofRat_mono (h : p ≤ q) (hy : ofRat p = .finite y) (hz : ofRat q = .finite z) :
    y.value ≤ z.value := by
  have hsign {x : ℚ} {w : Finite} (hw : ofRat x = .finite w) :
      w.value = if x < 0 then -w.magnitude else w.magnitude := by
    rw [Finite.value, (ofParts_eq hw).1]
    simp only [decide_eq_true_eq]
  rw [hsign hy, hsign hz]
  split_ifs with hp hq hq
  · apply neg_le_neg
    refine round_mono (abs_nonneg q) ?_ hz hy
    rw [abs_of_neg hp, abs_of_neg hq]
    exact neg_le_neg h
  · exact (neg_nonpos.mpr y.magnitude_nonneg).trans z.magnitude_nonneg
  · exact absurd (h.trans_lt hq) hp
  · refine round_mono (abs_nonneg p) ?_ hy hz
    rw [abs_of_nonneg (not_lt.mp hp), abs_of_nonneg (not_lt.mp hq)]
    exact h

/-- A sum has the value of the rounded sum of the values. -/
theorem add_value (h : add (.finite x) (.finite y) = .finite z) :
    ∃ w, ofRat (x.value + y.value) = .finite w ∧ w.value = z.value := by
  unfold add at h
  dsimp only at h
  split_ifs at h with hzero
  · obtain ⟨w, hw, hsign, hmagnitude⟩ := round_zero (x.negative && y.negative)
    cases hw.symm.trans h
    obtain ⟨v, hv, hpositive, hnone⟩ := round_zero false
    refine ⟨v, ?_, ?_⟩
    · rw [hzero, ofRat]
      simpa using hv
    · simp [Finite.value, hmagnitude, hnone]
  · exact ⟨z, h, rfl⟩

theorem value_neg (y : Finite) :
    ({ y with negative := !y.negative } : Finite).value = -y.value := by
  unfold Finite.value Finite.magnitude
  cases y.negative with
  | false => rfl
  | true => exact (neg_neg _).symm

/-- To subtract more leaves less. -/
theorem sub_anti {u v : Finite} (h : y.value ≤ z.value)
    (hu : sub (.finite x) (.finite y) = .finite u) (hv : sub (.finite x) (.finite z) = .finite v) :
    v.value ≤ u.value := by
  obtain ⟨u', hu', hsame⟩ := add_value hu
  obtain ⟨v', hv', hequal⟩ := add_value hv
  rw [value_neg] at hu' hv'
  rw [← hsame, ← hequal]
  exact ofRat_mono (by linarith) hv' hu'

theorem le_of_value_le {w : Binary64} (h : x.value ≤ y.value) (hle : le (.finite y) w = true) :
    le (.finite x) w = true := by
  cases w with
  | finite w => exact decide_eq_true (h.trans (of_decide_eq_true hle))
  | infinite sign => exact hle
  | nan => exact hle

/-- What lies between two finite numbers is finite. -/
theorem exists_finite_between {w : Binary64} (hlow : le (.finite x) w = true)
    (hhigh : le w (.finite y) = true) :
    ∃ z, w = .finite z ∧ x.value ≤ z.value ∧ z.value ≤ y.value := by
  cases w with
  | finite w => exact ⟨w, rfl, of_decide_eq_true hlow, of_decide_eq_true hhigh⟩
  | infinite negative =>
      cases negative with
      | false => cases hhigh
      | true => cases hlow
  | nan => cases hlow

end Order

section Bounds

variable {x y bound : Finite}

theorem exists_two_pow {k : Nat} (hk : k ≤ 1023) : ∃ bound : Finite, bound.magnitude = 2 ^ k := by
  refine ⟨⟨false, 2 ^ 52, (k : Int) - 52, by norm_num, by omega, by omega, .inl le_rfl⟩, ?_⟩
  have hsplit : (2 : ℚ) ^ k = 2 ^ (52 : Int) * 2 ^ ((k : Int) - 52) := by
    rw [← zpow_add₀ (by norm_num), ← zpow_natCast]
    congr 1
    omega
  unfold Finite.magnitude
  rw [hsplit]
  norm_num

theorem ofRat_bounded {q : ℚ} (h : |q| ≤ bound.magnitude) :
    ∃ z, ofRat q = .finite z ∧ |z.value| ≤ bound.magnitude := by
  obtain ⟨z, hz, -, hle⟩ := round_le (q < 0) (abs_nonneg q) h
  exact ⟨z, hz, z.abs_value.trans_le hle⟩

theorem add_bounded (h : |x.value| + |y.value| ≤ bound.magnitude) :
    ∃ z, add (.finite x) (.finite y) = .finite z ∧ |z.value| ≤ bound.magnitude := by
  unfold add
  dsimp only
  split_ifs with hzero
  · obtain ⟨z, hz, -, hle⟩ := round_le (x.negative && y.negative) le_rfl bound.magnitude_nonneg
    exact ⟨z, hz, z.abs_value.trans_le hle⟩
  · exact ofRat_bounded ((abs_add_le _ _).trans h)

theorem sub_bounded (h : |x.value| + |y.value| ≤ bound.magnitude) :
    ∃ z, sub (.finite x) (.finite y) = .finite z ∧ |z.value| ≤ bound.magnitude := by
  apply add_bounded
  rw [Finite.abs_value { y with negative := !y.negative }]
  rw [y.abs_value] at h
  exact h

theorem mul_bounded (h : |x.value| * |y.value| ≤ bound.magnitude) :
    ∃ z, mul (.finite x) (.finite y) = .finite z ∧ |z.value| ≤ bound.magnitude := by
  rw [x.abs_value, y.abs_value] at h
  obtain ⟨z, hz, -, hle⟩ := round_le (x.negative != y.negative)
    (mul_nonneg x.magnitude_nonneg y.magnitude_nonneg) h
  exact ⟨z, hz, z.abs_value.trans_le hle⟩

theorem quotient_bounded (hy : y.magnitude ≠ 0)
    (h : x.magnitude / y.magnitude ≤ bound.magnitude) :
    ∃ z, div (.finite x) (.finite y) = .finite z ∧ z.negative = (x.negative != y.negative) ∧
      z.magnitude ≤ bound.magnitude := by
  obtain ⟨z, hz, hsign, hbound⟩ := round_le (x.negative != y.negative)
    (div_nonneg x.magnitude_nonneg y.magnitude_nonneg) h
  refine ⟨z, ?_, hsign, hbound⟩
  unfold div
  dsimp only
  rw [if_neg hy, hz]

/-- A quotient by a number of at least one does not leave the format. -/
theorem div_bounded (hy : 1 ≤ y.magnitude) :
    ∃ z, div (.finite x) (.finite y) = .finite z ∧ z.magnitude ≤ x.magnitude := by
  obtain ⟨z, hz, -, hle⟩ := quotient_bounded (by linarith) (div_le_self x.magnitude_nonneg hy)
  exact ⟨z, hz, hle⟩

/-- A sum of two numbers that are not negative is not negative. -/
theorem add_nonneg_bounded (hx : 0 ≤ x.value) (hy : 0 ≤ y.value)
    (h : x.value + y.value ≤ bound.magnitude) :
    ∃ z, add (.finite x) (.finite y) = .finite z ∧ 0 ≤ z.value ∧ z.value ≤ bound.magnitude := by
  have hsum : 0 ≤ x.value + y.value := add_nonneg hx hy
  unfold add
  dsimp only
  split_ifs with hzero
  · obtain ⟨z, hz, -, hmagnitude⟩ := round_zero (x.negative && y.negative)
    have hvalue : z.value = 0 := abs_eq_zero.mp (z.abs_value.trans hmagnitude)
    exact ⟨z, hz, hvalue.ge, hvalue.trans_le bound.magnitude_nonneg⟩
  · obtain ⟨z, hz, hsign, hle⟩ := round_le (decide (x.value + y.value < 0)) (abs_nonneg _)
      ((abs_of_nonneg hsum).trans_le h)
    have hvalue : z.value = z.magnitude := by
      unfold Finite.value
      rw [hsign, decide_eq_false (not_lt.mpr hsum), if_neg Bool.false_ne_true]
    exact ⟨z, hz, hvalue ▸ z.magnitude_nonneg, hvalue ▸ hle⟩

theorem toSigned_bounded {n : Int} (h : |x.value| ≤ n) (hn : n < 2 ^ 63) :
    ∃ count, toSigned (.finite x) = some count ∧ -n ≤ count ∧ count ≤ n := by
  rw [x.abs_value] at h
  have hlow : 0 ≤ ⌊x.magnitude⌋ := Int.floor_nonneg.mpr x.magnitude_nonneg
  have hhigh : ⌊x.magnitude⌋ ≤ n := Int.floor_le_iff.mpr (by linarith)
  refine ⟨_, Checked.signed_of_mem ?_, ?_⟩
  · unfold Checked.Signed
    split_ifs <;> omega
  · split_ifs <;> omega

end Bounds

section Within

variable {x y : Binary64} {k : Nat}

/-- A finite number of at most `2 ^ k`. -/
def Within (x : Binary64) (k : Nat) : Prop := ∃ z, x = .finite z ∧ |z.value| ≤ 2 ^ k

theorem Within.mono (h : Within x k) {l : Nat} (hkl : k ≤ l) : Within x l := by
  obtain ⟨z, rfl, hz⟩ := h
  exact ⟨z, rfl, hz.trans (pow_le_pow_right₀ (by norm_num) hkl)⟩

theorem within_ofInt {n : Nat} (hk : k ≤ 1023) (hn : n ≤ 2 ^ k) : Within (ofInt n) k := by
  obtain ⟨bound, hbound⟩ := exists_two_pow hk
  have hle : |((n : Int) : ℚ)| ≤ bound.magnitude := by
    rw [hbound, Int.cast_natCast, abs_of_nonneg (Nat.cast_nonneg n)]
    exact_mod_cast hn
  obtain ⟨z, hz, hvalue⟩ := ofRat_bounded hle
  exact ⟨z, hz, hbound ▸ hvalue⟩

theorem Within.add (hx : Within x k) (hy : Within y k) (hk : k + 1 ≤ 1023) :
    Within (x.add y) (k + 1) := by
  obtain ⟨x, rfl, hx⟩ := hx
  obtain ⟨y, rfl, hy⟩ := hy
  obtain ⟨bound, hbound⟩ := exists_two_pow hk
  have hsum : |x.value| + |y.value| ≤ bound.magnitude := by
    rw [hbound, pow_succ]
    linarith
  obtain ⟨z, hz, hvalue⟩ := add_bounded hsum
  exact ⟨z, hz, hbound ▸ hvalue⟩

theorem Within.neg (hx : Within x k) : Within x.neg k := by
  obtain ⟨x, rfl, hx⟩ := hx
  refine ⟨{ x with negative := !x.negative }, rfl, ?_⟩
  rw [Finite.abs_value]
  rw [Finite.abs_value] at hx
  exact hx

theorem Within.sub (hx : Within x k) (hy : Within y k) (hk : k + 1 ≤ 1023) :
    Within (x.sub y) (k + 1) :=
  hx.add hy.neg hk

/-- Halving is division by two. -/
theorem Within.half (hx : Within x (k + 1)) (hk : k ≤ 1023) : Within (x.div (ofInt 2)) k := by
  obtain ⟨x, rfl, hx⟩ := hx
  obtain ⟨bound, hbound⟩ := exists_two_pow hk
  obtain ⟨two, htwo, hsign, hvalue⟩ := @ofInt_of_lt 2 (by norm_num)
  have hmagnitude : two.magnitude = 2 := by
    unfold Finite.value at hvalue
    rw [hsign, if_neg Bool.false_ne_true] at hvalue
    exact_mod_cast hvalue
  have hle : x.magnitude / two.magnitude ≤ bound.magnitude := by
    rw [hbound, hmagnitude, div_le_iff₀ (by norm_num), ← pow_succ, ← x.abs_value]
    exact hx
  obtain ⟨z, hz, -, hbounded⟩ := quotient_bounded (by rw [hmagnitude]; norm_num) hle
  refine ⟨z, ?_, z.abs_value.trans_le (hbound ▸ hbounded)⟩
  rw [← hz, ← htwo]
  rfl

end Within

section Exact

variable {x y : Finite} {n : Nat}

/-- Sums of natural numbers of 53 bits are exact. -/
theorem add_exact (hn : n < 2 ^ 53) (h : x.value + y.value = n) :
    ∃ z, add (.finite x) (.finite y) = .finite z ∧ z.value = n := by
  unfold add
  dsimp only
  split_ifs with hzero
  · obtain ⟨z, hz, -, hmagnitude⟩ := round_zero (x.negative && y.negative)
    refine ⟨z, hz, ?_⟩
    rw [← h, hzero]
    exact abs_eq_zero.mp (z.abs_value.trans hmagnitude)
  · obtain ⟨z, hz, -, hvalue⟩ := ofInt_of_lt hn
    refine ⟨z, ?_, hvalue⟩
    rw [h]
    exact hz

theorem sub_exact (hn : n < 2 ^ 53) (h : x.value - y.value = n) :
    ∃ z, sub (.finite x) (.finite y) = .finite z ∧ z.value = n := by
  apply add_exact hn
  rw [value_neg, ← sub_eq_add_neg, h]

theorem div_exact (hn : n < 2 ^ 53) (hy : y.magnitude ≠ 0)
    (h : x.magnitude = n * y.magnitude) :
    ∃ z, div (.finite x) (.finite y) = .finite z ∧ z.magnitude = n := by
  obtain ⟨w, -, hw⟩ := exists_finite_of_lt hn
  have hquotient : x.magnitude / y.magnitude = w.magnitude := by
    rw [h, hw, mul_div_cancel_right₀ _ hy]
  refine ⟨{ w with negative := x.negative != y.negative }, ?_, hw⟩
  unfold div
  dsimp only
  rw [if_neg hy, hquotient, round_magnitude w (x.negative != y.negative)]

end Exact
end Binary64

end SyncAudio

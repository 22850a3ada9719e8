import SyncAudio.Lib.Numeral
import SyncAudio.Lib.ShortestDecimal

/-!
# Numbers with six decimals

What `std::to_string` prints for a finite number is a numeral of its own. It stands for
the number rounded to millionths, and its width follows from the size of the number.
-/

namespace SyncAudio.FloatText

open Text Binary64

/-- The magnitude in millionths. -/
def millionths (magnitude : ℚ) : Nat := (roundEven (magnitude * 10 ^ 6)).toNat

section Decimals

variable {n : Nat} {magnitude : ℚ} {x : Finite}

/-- The digits behind the leading one. -/
theorem decimals_spec (h : n < 10 ^ 6) :
    (ofNat (10 ^ 6 + n)).tail.length = 6 ∧ value (ofNat (10 ^ 6 + n)).tail = n ∧
      ∀ c ∈ (ofNat (10 ^ 6 + n)).tail, c.isDigit = true := by
  have hdigit : ∀ c ∈ ofNat (10 ^ 6 + n), c.isDigit = true := fun _ hc => ofNat_isDigit hc
  have hvalue := value_ofNat (10 ^ 6 + n)
  obtain ⟨hlow, hhigh⟩ := @ofNat_pow (10 ^ 6 + n) (by omega)
  have hlength : (ofNat (10 ^ 6 + n)).length = 7 := by
    have hmost : (ofNat (10 ^ 6 + n)).length ≤ 7 := ofNat_length (by decide) (by omega)
    by_contra hne
    have hshort : 10 ^ (ofNat (10 ^ 6 + n)).length ≤ 10 ^ 6 :=
      Nat.pow_le_pow_right (by decide) (by omega)
    omega
  generalize ofNat (10 ^ 6 + n) = digits at hdigit hvalue hlength ⊢
  cases digits with
  | nil => cases hlength
  | cons c digits =>
      have hrest : digits.length = 6 := Nat.succ.inj hlength
      have hdigits : ∀ d ∈ digits, d.isDigit = true := fun d hd =>
        hdigit d (List.mem_cons_of_mem _ hd)
      have hlt := value_lt hdigits
      have hsplit := value_append [c] digits
      rw [List.singleton_append, hvalue, hrest] at hsplit
      rw [hrest] at hlt
      rw [List.tail_cons]
      exact ⟨hrest, by omega, hdigits⟩

theorem fixedSix_eq (magnitude : ℚ) :
    fixedSix magnitude = ofNat (millionths magnitude / 10 ^ 6) ++
      '.' :: (ofNat (10 ^ 6 + millionths magnitude % 10 ^ 6)).tail := rfl

theorem millionths_le {bound : Nat} (h : magnitude ≤ bound) :
    millionths magnitude ≤ bound * 10 ^ 6 := by
  have hscaled : magnitude * 10 ^ 6 ≤ ((bound * 10 ^ 6 : Nat) : Int) := by
    push_cast
    exact mul_le_mul_of_nonneg_right h (by positivity)
  have hround := roundEven_le hscaled
  unfold millionths
  omega

/-- Half a millionth at most is lost. -/
theorem abs_millionths_sub_le (h : 0 ≤ magnitude) :
    |(millionths magnitude : ℚ) / 10 ^ 6 - magnitude| ≤ 1 / 2 / 10 ^ 6 := by
  have hnonneg : 0 ≤ roundEven (magnitude * 10 ^ 6) :=
    le_roundEven (by exact_mod_cast mul_nonneg h (by positivity))
  have hcast : (millionths magnitude : ℚ) = roundEven (magnitude * 10 ^ 6) := by
    unfold millionths
    exact_mod_cast Int.toNat_of_nonneg hnonneg
  have hround := abs_roundEven_sub_le (magnitude * 10 ^ 6)
  have hsplit : (millionths magnitude : ℚ) / 10 ^ 6 - magnitude =
      (roundEven (magnitude * 10 ^ 6) - magnitude * 10 ^ 6) / 10 ^ 6 := by
    rw [hcast]
    field_simp
  rw [hsplit, abs_div, abs_of_pos (by positivity : (0 : ℚ) < 10 ^ 6)]
  exact div_le_div_of_nonneg_right hround (by positivity)

/-- A number below ten million has seven digits and six decimals at most. -/
theorem fixedSix_shape (h : magnitude ≤ 1000000) :
    IsGraphic (fixedSix magnitude) ∧ (fixedSix magnitude).length ≤ 14 := by
  have hbound : millionths magnitude ≤ 1000000 * 10 ^ 6 := millionths_le (by exact_mod_cast h)
  obtain ⟨hlength, -, hdigits⟩ := decimals_spec (Nat.mod_lt (millionths magnitude) (by decide))
  have hwhole : (ofNat (millionths magnitude / 10 ^ 6)).length ≤ 7 :=
    ofNat_length (by decide) (by omega)
  rw [fixedSix_eq]
  refine ⟨⟨List.append_ne_nil_of_left_ne_nil (isGraphic_ofNat _).ne_nil _, ?_⟩, ?_⟩
  · intro c hc
    obtain hdigit | hrest := List.mem_append.mp hc
    · exact (isGraphic_ofNat _).visible c hdigit
    · obtain rfl | hdigit := List.mem_cons.mp hrest
      · decide
      · exact visible_of_isAlnum (by simp [isAlnum, Char.isAlphanum, hdigits c hdigit])
  · rw [List.length_append, List.length_cons, hlength]
    omega

theorem toStringFixed_shape (h : x.magnitude ≤ 1000000) :
    IsGraphic (toStringFixed (.finite x)) ∧ (toStringFixed (.finite x)).length ≤ 15 := by
  obtain ⟨hgraphic, hlength⟩ := fixedSix_shape h
  unfold toStringFixed
  dsimp only
  split_ifs
  · refine ⟨⟨List.cons_ne_nil _ _, ?_⟩, Nat.succ_le_succ hlength⟩
    intro c hc
    obtain rfl | hrest := List.mem_cons.mp hc
    · decide
    · exact hgraphic.visible c hrest
  · exact ⟨hgraphic, hlength.trans (by decide)⟩

/-- The printed text is a plain numeral for the number of millionths. -/
theorem toStringFixed_numeral (x : Finite) :
    ∃ n : Numeral, toStringFixed (.finite x) = n.text ∧ n.sign.negative = x.negative ∧
      n.exponent = none ∧ n.magnitude = (millionths x.magnitude : ℚ) / 10 ^ 6 := by
  obtain ⟨hlength, hvalue, hdigits⟩ :=
    decimals_spec (Nat.mod_lt (millionths x.magnitude) (by decide))
  have hwhole : ofNat (millionths x.magnitude / 10 ^ 6) ≠ [] := (isGraphic_ofNat _).ne_nil
  refine ⟨{
    sign := if x.negative then .minus else .unsigned
    whole := ofNat (millionths x.magnitude / 10 ^ 6)
    fraction := some (ofNat (10 ^ 6 + millionths x.magnitude % 10 ^ 6)).tail
    exponent := none
    whole_isDigit := fun _ hc => ofNat_isDigit hc
    fraction_isDigit := hdigits
    digits_ne := List.append_ne_nil_of_left_ne_nil hwhole _ }, ?_, ?_, rfl, ?_⟩
  · unfold toStringFixed Numeral.text
    dsimp only
    rw [fixedSix_eq]
    cases x.negative <;> simp [Numeral.fractionText, Numeral.exponentText, Sign.text]
  · dsimp only
    cases x.negative <;> rfl
  · unfold Numeral.magnitude
    dsimp only [Option.getD, Option.elim]
    have hjoin : value (ofNat (millionths x.magnitude / 10 ^ 6) ++
        (ofNat (10 ^ 6 + millionths x.magnitude % 10 ^ 6)).tail) = millionths x.magnitude := by
      rw [value_append, hlength, hvalue, value_ofNat]
      omega
    rw [hjoin, hlength, zero_sub, zpow_neg, div_eq_mul_inv]
    rfl

end Decimals

end SyncAudio.FloatText

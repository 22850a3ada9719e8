import Mathlib.Tactic.Ring
import Mathlib.Data.List.Basic
import Mathlib.Tactic.Common

/-!
# Big-endian words

A word is split into its high and low half and joined again. Wider words are
split twice, as a byte-wise writer does it. Another writer shifts each byte out of
the word, and its reader gathers them; the bytes are the same.
-/

namespace SyncAudio.BigEndian

def join16 (high low : UInt8) : UInt16 := (high.toUInt16 <<< 8) ||| low.toUInt16

def join32 (high low : UInt16) : UInt32 := (high.toUInt32 <<< 16) ||| low.toUInt32

def join64 (high low : UInt32) : UInt64 := (high.toUInt64 <<< 32) ||| low.toUInt64

/-- The two bytes of a 16-bit word. -/
def bytes16 (value : UInt16) : List UInt8 := [(value >>> 8).toUInt8, value.toUInt8]

/-- The four bytes of a 32-bit word. -/
def bytes32 (value : UInt32) : List UInt8 :=
  bytes16 (value >>> 16).toUInt16 ++ bytes16 value.toUInt16

/-- The eight bytes of a 64-bit word. -/
def bytes64 (value : UInt64) : List UInt8 :=
  bytes32 (value >>> 32).toUInt32 ++ bytes32 value.toUInt32

@[simp] theorem bytes16_length (value : UInt16) : (bytes16 value).length = 2 := rfl

@[simp] theorem bytes32_length (value : UInt32) : (bytes32 value).length = 4 := rfl

@[simp] theorem bytes64_length (value : UInt64) : (bytes64 value).length = 8 := rfl

/-- A number below `2 ^ (2 * k)` is its high half above its low half. -/
theorem shift_or_mod {n k : Nat} (h : n < 2 ^ (2 * k)) :
    (n >>> k % 2 ^ k) <<< k % 2 ^ (2 * k) ||| n % 2 ^ k = n := by
  have hpow : 2 ^ (2 * k) = 2 ^ k * 2 ^ k := by rw [Nat.two_mul, Nat.pow_add]
  have hhigh : n / 2 ^ k < 2 ^ k := Nat.div_lt_of_lt_mul (hpow ▸ h)
  have hdiv := Nat.div_add_mod n (2 ^ k)
  have hle : 2 ^ k * (n / 2 ^ k) < 2 ^ (2 * k) := by omega
  rw [Nat.shiftRight_eq_div_pow, Nat.mod_eq_of_lt hhigh, Nat.shiftLeft_eq, Nat.mul_comm,
    Nat.mod_eq_of_lt hle, ← Nat.two_pow_add_eq_or_of_lt (Nat.mod_lt _ (Nat.two_pow_pos k)), hdiv]

@[simp] theorem join16_split (value : UInt16) :
    join16 (value >>> 8).toUInt8 value.toUInt8 = value := by
  apply UInt16.toNat_inj.mp
  simp only [join16, UInt16.toNat_or, UInt16.toNat_shiftLeft, UInt8.toNat_toUInt16,
    UInt16.toNat_toUInt8, UInt16.toNat_shiftRight]
  exact shift_or_mod (k := 8) value.toNat_lt

@[simp] theorem join32_split (value : UInt32) :
    join32 (value >>> 16).toUInt16 value.toUInt16 = value := by
  apply UInt32.toNat_inj.mp
  simp only [join32, UInt32.toNat_or, UInt32.toNat_shiftLeft, UInt16.toNat_toUInt32,
    UInt32.toNat_toUInt16, UInt32.toNat_shiftRight]
  exact shift_or_mod (k := 16) value.toNat_lt

@[simp] theorem join64_split (value : UInt64) :
    join64 (value >>> 32).toUInt32 value.toUInt32 = value := by
  apply UInt64.toNat_inj.mp
  simp only [join64, UInt64.toNat_or, UInt64.toNat_shiftLeft, UInt32.toNat_toUInt64,
    UInt64.toNat_toUInt32, UInt64.toNat_shiftRight]
  exact shift_or_mod (k := 32) value.toNat_lt

/-- The bytes of a word, from the most significant one on. -/
theorem bytes32_eq_map (value : UInt32) :
    bytes32 value = (List.range 4).map fun i => (value >>> UInt32.ofNat (24 - 8 * i)).toUInt8 := by
  have hlt := value.toNat_lt
  simp only [bytes32, bytes16, List.range, List.range.loop, List.map_cons, List.map_nil,
    List.cons_append, List.nil_append, List.cons.injEq, and_true]
  refine ⟨?_, ?_, ?_, ?_⟩
  all_goals
    apply UInt8.toNat_inj.mp
    simp [Nat.shiftRight_eq_div_pow]
    try omega

/-- The bytes of a word, from the most significant one on. -/
theorem bytes64_eq_map (value : UInt64) :
    bytes64 value = (List.range 8).map fun i => (value >>> UInt64.ofNat (56 - 8 * i)).toUInt8 := by
  have hlt := value.toNat_lt
  simp only [bytes64, bytes32, bytes16, List.range, List.range.loop, List.map_cons, List.map_nil,
    List.cons_append, List.nil_append, List.cons.injEq, and_true]
  refine ⟨?_, ?_, ?_, ?_, ?_, ?_, ?_, ?_⟩
  all_goals
    apply UInt8.toNat_inj.mp
    simp [Nat.shiftRight_eq_div_pow]
    try omega

/-- A number is its low byte below the rest. -/
theorem shift_or_byte (n : Nat) : (n >>> 8) <<< 8 ||| n % 2 ^ 8 = n := by
  rw [Nat.shiftRight_eq_div_pow, Nat.shiftLeft_eq, Nat.mul_comm,
    ← Nat.two_pow_add_eq_or_of_lt (Nat.mod_lt _ (Nat.two_pow_pos 8)), Nat.div_add_mod]

/-- The byte at a position below the ones in front of it, in a word of so many bits. -/
theorem accumulate {value bits : Nat} (hvalue : value < 2 ^ bits) (k : Nat) :
    (value >>> (k + 8)) <<< 8 % 2 ^ bits ||| value >>> k % 2 ^ 8 = value >>> k := by
  have hbyte := shift_or_byte (value >>> k)
  rw [← Nat.shiftRight_add] at hbyte
  have hlow : value >>> (k + 8) <<< 8 ≤ value >>> k := by
    rw [← hbyte]
    exact Nat.left_le_or
  have hfit : value >>> (k + 8) <<< 8 < 2 ^ bits :=
    hlow.trans_lt ((Nat.shiftRight_le _ _).trans_lt hvalue)
  rw [Nat.mod_eq_of_lt hfit, hbyte]

theorem accumulate64 (value : UInt64) {k : Nat} (hk : k + 8 < 64) :
    (value >>> UInt64.ofNat (k + 8)) <<< 8 ||| (value >>> UInt64.ofNat k).toUInt8.toUInt64 =
      value >>> UInt64.ofNat k := by
  have hshift (n : Nat) (hn : n < 64) : n % 2 ^ 64 % 64 = n := by omega
  apply UInt64.toNat_inj.mp
  simp only [UInt64.toNat_or, UInt64.toNat_shiftLeft, UInt64.toNat_shiftRight,
    UInt64.toNat_ofNat', UInt8.toNat_toUInt64, UInt64.toNat_toUInt8]
  rw [hshift k (by omega), hshift (k + 8) hk]
  exact accumulate value.toNat_lt k

theorem accumulate32 (value : UInt32) {k : Nat} (hk : k + 8 < 32) :
    (value >>> UInt32.ofNat (k + 8)) <<< 8 ||| (value >>> UInt32.ofNat k).toUInt8.toUInt32 =
      value >>> UInt32.ofNat k := by
  have hshift (n : Nat) (hn : n < 32) : n % 2 ^ 32 % 32 = n := by omega
  apply UInt32.toNat_inj.mp
  simp only [UInt32.toNat_or, UInt32.toNat_shiftLeft, UInt32.toNat_shiftRight,
    UInt32.toNat_ofNat', UInt8.toNat_toUInt32, UInt32.toNat_toUInt8]
  rw [hshift k (by omega), hshift (k + 8) hk]
  exact accumulate value.toNat_lt k

/-- Bytes are gathered from the most significant one on. -/
def gather64 (bytes : List UInt8) : UInt64 :=
  bytes.foldl (fun value byte => (value <<< 8) ||| byte.toUInt64) 0

def gather32 (bytes : List UInt8) : UInt32 :=
  bytes.foldl (fun value byte => (value <<< 8) ||| byte.toUInt32) 0

/-- The first bytes of a word hold its high bits. -/
theorem gather64_take (value : UInt64) {n : Nat} (hn : n < 8) :
    gather64 ((bytes64 value).take (n + 1)) = value >>> UInt64.ofNat (56 - 8 * n) := by
  induction n with
  | zero =>
      have hlt := value.toNat_lt
      apply UInt64.toNat_inj.mp
      rw [bytes64_eq_map]
      simp [gather64, List.range, List.range.loop, Nat.shiftRight_eq_div_pow]
      omega
  | succ n ih =>
      have hbyte : (bytes64 value)[n + 1]? =
          some (value >>> UInt64.ofNat (56 - 8 * (n + 1))).toUInt8 := by
        rw [bytes64_eq_map, List.getElem?_map, List.getElem?_range hn]
        rfl
      have hprevious := ih (by omega)
      unfold gather64 at hprevious ⊢
      rw [List.take_add_one, hbyte, Option.toList_some, List.foldl_append, hprevious]
      have hshift : 56 - 8 * n = 56 - 8 * (n + 1) + 8 := by omega
      rw [hshift]
      exact accumulate64 value (by omega)

/-- The first bytes of a word hold its high bits. -/
theorem gather32_take (value : UInt32) {n : Nat} (hn : n < 4) :
    gather32 ((bytes32 value).take (n + 1)) = value >>> UInt32.ofNat (24 - 8 * n) := by
  induction n with
  | zero =>
      have hlt := value.toNat_lt
      apply UInt32.toNat_inj.mp
      rw [bytes32_eq_map]
      simp [gather32, List.range, List.range.loop, Nat.shiftRight_eq_div_pow]
      omega
  | succ n ih =>
      have hbyte : (bytes32 value)[n + 1]? =
          some (value >>> UInt32.ofNat (24 - 8 * (n + 1))).toUInt8 := by
        rw [bytes32_eq_map, List.getElem?_map, List.getElem?_range hn]
        rfl
      have hprevious := ih (by omega)
      unfold gather32 at hprevious ⊢
      rw [List.take_add_one, hbyte, Option.toList_some, List.foldl_append, hprevious]
      have hshift : 24 - 8 * n = 24 - 8 * (n + 1) + 8 := by omega
      rw [hshift]
      exact accumulate32 value (by omega)

theorem gather32_bytes32 (value : UInt32) : gather32 (bytes32 value) = value := by
  have htake := @gather32_take value 3 (by decide)
  rw [List.take_of_length_le (by simp)] at htake
  simpa using htake

theorem gather64_bytes64 (value : UInt64) : gather64 (bytes64 value) = value := by
  have htake := @gather64_take value 7 (by decide)
  rw [List.take_of_length_le (by simp)] at htake
  simpa using htake

end SyncAudio.BigEndian

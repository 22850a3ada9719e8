import Mathlib.Data.Int.Notation
import Mathlib.Data.Nat.Notation
import Mathlib.Tactic.Common
import Mathlib.Tactic.SplitIfs
import SyncAudio.Lib.Word

/-!
# Arithmetic that must stay in range

The operations of 64-bit counters and of signed 64-bit counts, as partial
functions. An operation whose exact result leaves its type has no value.
-/

namespace SyncAudio.Checked

/-- The values of a signed 64-bit count. -/
def Signed (n : Int) : Prop := -2 ^ 63 ≤ n ∧ n < 2 ^ 63

instance (n : Int) : Decidable (Signed n) := inferInstanceAs (Decidable (_ ∧ _))

/-- A counter, if it has 64 bits. -/
def unsigned (n : Nat) : Option Nat := if n < 2 ^ 64 then some n else none

/-- A signed count, if it has 64 bits. -/
def signed (n : Int) : Option Int := if Signed n then some n else none

def add64 (a b : Nat) : Option Nat := unsigned (a + b)

def sub64 (a b : Nat) : Option Nat := if b ≤ a then unsigned (a - b) else none

/-- A difference that is not negative. -/
def minus (a b : Nat) : Option Nat := if b ≤ a then some (a - b) else none

def mul64 (a b : Nat) : Option Nat := unsigned (a * b)

/-- A counter as a signed count. -/
def toSigned (n : Nat) : Option Int := signed n

def addSigned (a b : Int) : Option Int := signed (a + b)

def subSigned (a b : Int) : Option Int := signed (a - b)

variable {a b : Nat} {n : Int}

/-- An operation that has a value hands it on. -/
theorem some_bind {α β : Type} (a : α) (f : α → Option β) : (some a >>= f) = f a :=
  rfl

/-- A computation that returns has returned in its first part. -/
theorem except_bind_ok {ε α β : Type} {x : Except ε α} {f : α → Except ε β} {b : β}
    (h : (x >>= f) = .ok b) : ∃ a, x = .ok a ∧ f a = .ok b := by
  cases x with
  | error message => cases h
  | ok a => exact ⟨a, rfl, h⟩

@[simp] theorem unsigned_of_lt (h : a < 2 ^ 64) : unsigned a = some a :=
  if_pos h

@[simp] theorem signed_of_mem (h : Signed n) : signed n = some n :=
  if_pos h

theorem add64_of_lt (h : a + b < 2 ^ 64) : add64 a b = some (a + b) :=
  if_pos h

theorem mul64_of_lt (h : a * b < 2 ^ 64) : mul64 a b = some (a * b) :=
  if_pos h

theorem sub64_of_le (hab : b ≤ a) (ha : a < 2 ^ 64) : sub64 a b = some (a - b) := by
  unfold sub64
  rw [if_pos hab]
  exact unsigned_of_lt (by omega)

theorem minus_of_le (h : b ≤ a) : minus a b = some (a - b) :=
  if_pos h

theorem toSigned_of_lt (h : a < 2 ^ 63) : toSigned a = some (a : Int) := by
  apply signed_of_mem
  constructor <;> omega

/-- Only a count of 63 bits has a sign to spare. -/
theorem toSigned_isSome_iff : (toSigned a).isSome = true ↔ a < 2 ^ 63 := by
  constructor
  · intro h
    unfold toSigned signed at h
    split_ifs at h with hsigned
    · have hhigh := hsigned.2
      omega
    · cases h
  · intro h
    rw [toSigned_of_lt h]
    rfl

theorem addSigned_of_mem {b : Int} (hlow : -2 ^ 63 ≤ n + b) (hhigh : n + b < 2 ^ 63) :
    addSigned n b = some (n + b) :=
  if_pos ⟨hlow, hhigh⟩

theorem subSigned_of_mem {b : Int} (hlow : -2 ^ 63 ≤ n - b) (hhigh : n - b < 2 ^ 63) :
    subSigned n b = some (n - b) :=
  if_pos ⟨hlow, hhigh⟩

/-- A value that a counter takes on is exact. -/
theorem signed_eq {m : Int} (h : signed n = some m) : m = n :=
  (Option.some.inj (Option.ite_none_right_eq_some.mp h).2).symm

theorem addSigned_eq {b m : Int} (h : addSigned n b = some m) : m = n + b :=
  signed_eq h

theorem subSigned_eq {b m : Int} (h : subSigned n b = some m) : m = n - b :=
  signed_eq h

end SyncAudio.Checked

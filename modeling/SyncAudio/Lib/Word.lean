import Mathlib.Tactic.Ring
import Mathlib.Data.Nat.Notation
import Mathlib.Tactic.Common

/-!
# Wrapping arithmetic on 64-bit counters

Counters are natural numbers below `2 ^ 64`; sums and differences wrap.
-/

namespace SyncAudio.Word

/-- The sum of two 64-bit counters. -/
def add64 (a b : Nat) : Nat := (a + b) % 2 ^ 64

/-- The difference of two 64-bit counters. -/
def sub64 (a b : Nat) : Nat := (a + (2 ^ 64 - b)) % 2 ^ 64

/-- The product of two 64-bit counters. -/
def mul64 (a b : Nat) : Nat := a * b % 2 ^ 64

theorem add64_of_lt {a b : Nat} (h : a + b < 2 ^ 64) : add64 a b = a + b :=
  Nat.mod_eq_of_lt h

theorem sub64_of_le {a b : Nat} (hab : b ≤ a) (ha : a < 2 ^ 64) : sub64 a b = a - b := by
  unfold sub64
  omega

theorem mul64_of_lt {a b : Nat} (h : a * b < 2 ^ 64) : mul64 a b = a * b :=
  Nat.mod_eq_of_lt h

end SyncAudio.Word

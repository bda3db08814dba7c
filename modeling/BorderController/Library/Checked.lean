import Mathlib.Data.UInt

/-
  Arithmetic of 64-bit words that panics where it overflows or
  divides by zero.

  Key definitions include:
    * `Checked.add`, `Checked.mul`, `Checked.div`

  Key theorems include:
    * `Checked.add_of_lt`, `Checked.add_of_not_lt`
    * `Checked.le_add`
-/

------------------------------------------------------------
-- Checked Operations
------------------------------------------------------------

namespace Checked

def add (a b : UInt64) : Option UInt64 :=
  if a.toNat + b.toNat < 2 ^ 64 then some (a + b) else none

def mul (a b : UInt64) : Option UInt64 :=
  if a.toNat * b.toNat < 2 ^ 64 then some (a * b) else none

def div (a b : UInt64) : Option UInt64 :=
  if b = 0 then none else some (a / b)

variable {a b : UInt64}

theorem add_of_lt
    (hFits : a.toNat + b.toNat < 2 ^ 64) :
    add a b = some (a + b) :=
  if_pos hFits

theorem add_of_not_lt
    (hWraps : ¬ a.toNat + b.toNat < 2 ^ 64) :
    add a b = none :=
  if_neg hWraps

theorem mul_of_lt
    (hFits : a.toNat * b.toNat < 2 ^ 64) :
    mul a b = some (a * b) :=
  if_pos hFits

theorem mul_of_not_lt
    (hWraps : ¬ a.toNat * b.toNat < 2 ^ 64) :
    mul a b = none :=
  if_neg hWraps

theorem div_of_ne_zero
    (hNonzero : b ≠ 0) :
    div a b = some (a / b) :=
  if_neg hNonzero

/- A sum that fits is no less than what was added to. -/
theorem le_add
    (hFits : a.toNat + b.toNat < 2 ^ 64) :
    a ≤ a + b := by
  rw [UInt64.le_iff_toNat_le, UInt64.toNat_add,
    Nat.mod_eq_of_lt hFits]
  exact Nat.le_add_right _ _

theorem toNat_mul
    (hFits : a.toNat * b.toNat < 2 ^ 64) :
    (a * b).toNat = a.toNat * b.toNat := by
  rw [UInt64.toNat_mul, Nat.mod_eq_of_lt hFits]

end Checked

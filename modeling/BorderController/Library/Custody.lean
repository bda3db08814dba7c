import Mathlib.Algebra.BigOperators.Group.Finset.Basic
import Mathlib.Algebra.Order.BigOperators.Group.Finset
import Mathlib.Algebra.Order.Group.Nat

/-
  Custody of money under many keys from one balance.

  Key definitions include:
    * `Custody.Books`
    * `Custody.Backed`

  Key theorems include:
    * `Custody.Backed.receive`
    * `Custody.Backed.pay`
    * `Custody.Backed.donate`
-/

------------------------------------------------------------
-- Books
------------------------------------------------------------

namespace Custody

/- What was received and paid under each key, and what is left. -/
structure Books (κ : Type) where
  received : κ → Nat
  paid : κ → Nat
  balance : Nat

namespace Books

variable {κ : Type}
variable [DecidableEq κ]

def receive
    (k : κ)
    (amount : Nat)
    (books : Books κ) :
    Books κ :=
  { books with
    received :=
      Function.update books.received k
        (books.received k + amount)
    balance := books.balance + amount }

def pay
    (k : κ)
    (amount : Nat)
    (books : Books κ) :
    Books κ :=
  { books with
    paid :=
      Function.update books.paid k (books.paid k + amount)
    balance := books.balance - amount }

/- Money that comes in under no key. -/
def donate
    (amount : Nat)
    (books : Books κ) :
    Books κ :=
  { books with balance := books.balance + amount }

end Books

end Custody

------------------------------------------------------------
-- Backed Obligations
------------------------------------------------------------

namespace Custody

/-
  What is owed under each key is what came in and has not gone
  out, and the balance covers the keys of any finite set.
-/
structure Backed
    {κ : Type}
    (owed : κ → Nat)
    (books : Books κ) :
    Prop where
  conserved :
    ∀ k, books.received k = books.paid k + owed k
  solvent :
    ∀ keys : Finset κ,
      ∑ k ∈ keys, owed k ≤ books.balance

namespace Backed

variable {κ : Type}
variable [DecidableEq κ]
variable {owed owed' : κ → Nat}
variable {books : Books κ}
variable {k : κ}
variable {amount : Nat}

/- The obligations of a set, one key of it singled out. -/
private theorem sum_insert_erase
    (owed : κ → Nat)
    (k : κ)
    (keys : Finset κ) :
    ∑ j ∈ insert k keys, owed j =
      owed k + ∑ j ∈ keys.erase k, owed j := by
  rw [← Finset.insert_erase (Finset.mem_insert_self k keys),
    Finset.sum_insert (Finset.notMem_erase k _),
    Finset.erase_insert_eq_erase]

private theorem sum_erase_congr
    (hOther : ∀ j, j ≠ k → owed' j = owed j)
    (keys : Finset κ) :
    ∑ j ∈ keys.erase k, owed' j =
      ∑ j ∈ keys.erase k, owed j :=
  Finset.sum_congr rfl fun j hMem =>
    hOther j (Finset.ne_of_mem_erase hMem)

/- The new obligations of a set, bounded by the old ones. -/
private theorem sum_le_of_others
    (hOther : ∀ j, j ≠ k → owed' j = owed j)
    (keys : Finset κ) :
    ∑ j ∈ keys, owed' j ≤
      owed' k + ∑ j ∈ keys.erase k, owed j := by
  rw [← sum_erase_congr hOther, ← sum_insert_erase]
  exact Finset.sum_le_sum_of_subset
    (Finset.subset_insert k keys)

omit [DecidableEq κ] in
/- Every single obligation is covered. -/
theorem owed_le_balance
    (hBacked : Backed owed books)
    (k : κ) :
    owed k ≤ books.balance := by
  simpa using hBacked.solvent {k}

/- Money received is owed under its key. -/
theorem receive
    (hBacked : Backed owed books)
    (hKey : owed' k = owed k + amount)
    (hOther : ∀ j, j ≠ k → owed' j = owed j) :
    Backed owed' (books.receive k amount) where
  conserved j := by
    by_cases hSame : j = k
    · subst hSame
      have hBefore := hBacked.conserved j
      simp only [Books.receive, Function.update_self]
      omega
    · simp only [Books.receive, ne_eq, hSame,
        not_false_eq_true, Function.update_of_ne]
      rw [hOther j hSame]
      exact hBacked.conserved j
  solvent keys := by
    have hBefore := hBacked.solvent (insert k keys)
    rw [sum_insert_erase] at hBefore
    have hAfter := sum_le_of_others hOther keys
    simp only [Books.receive]
    omega

/- What is no longer owed can be paid from the balance. -/
theorem pay
    (hBacked : Backed owed books)
    (hKey : owed k = owed' k + amount)
    (hOther : ∀ j, j ≠ k → owed' j = owed j) :
    amount ≤ books.balance ∧
      Backed owed' (books.pay k amount) := by
  have hCovered := hBacked.owed_le_balance k
  refine ⟨by omega, ?_, ?_⟩
  · intro j
    by_cases hSame : j = k
    · subst hSame
      have hBefore := hBacked.conserved j
      simp only [Books.pay, Function.update_self]
      omega
    · simp only [Books.pay, ne_eq, hSame,
        not_false_eq_true, Function.update_of_ne]
      rw [hOther j hSame]
      exact hBacked.conserved j
  · intro keys
    have hBefore := hBacked.solvent (insert k keys)
    rw [sum_insert_erase] at hBefore
    have hAfter := sum_le_of_others hOther keys
    simp only [Books.pay]
    omega

omit [DecidableEq κ] in
/- A donation endangers nothing. -/
theorem donate
    (hBacked : Backed owed books)
    (amount : Nat) :
    Backed owed (books.donate amount) where
  conserved := hBacked.conserved
  solvent keys :=
    (hBacked.solvent keys).trans (Nat.le_add_right _ _)

end Backed

end Custody

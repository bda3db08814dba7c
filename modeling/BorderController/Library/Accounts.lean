import BorderController.Library.Transition
import Mathlib.Algebra.BigOperators.Group.List.Basic

/-
  Accounts: what a list of entries adds up to, and what a run
  takes in and pays out.

  Key definitions include:
    * `Accounts.total`

  Key theorems include:
    * `Accounts.total_set`
    * `Accounts.total_add`
    * `TransitionSystem.Path.balance`
-/

------------------------------------------------------------
-- Totals
------------------------------------------------------------

namespace Accounts

variable {α M : Type}
variable [AddCommMonoid M]

/- The sum of what `value` says of each entry. -/
def total (value : α → M) (entries : List α) : M :=
  (entries.map value).sum

@[simp] theorem total_nil (value : α → M) :
    total value [] = 0 := rfl

@[simp] theorem total_cons
    (value : α → M)
    (a : α)
    (entries : List α) :
    total value (a :: entries) =
      value a + total value entries := by
  simp [total]

@[simp] theorem total_append
    (value : α → M)
    (entries entries' : List α) :
    total value (entries ++ entries') =
      total value entries + total value entries' := by
  simp [total]

/- Rewriting one entry exchanges its value for the new one. -/
theorem total_set
    {i : Nat}
    {a b : α}
    {entries : List α}
    (value : α → M)
    (hGet : entries[i]? = some a) :
    total value (entries.set i b) + value a =
      total value entries + value b := by
  induction entries generalizing i with
  | nil => simp at hGet
  | cons head entries ih =>
      cases i with
      | zero =>
          have hHead : head = a := by simpa using hGet
          simp only [List.set_cons_zero, total_cons, hHead]
          rw [add_assoc, add_comm (value b),
            add_comm (total value entries)]
      | succ i =>
          have hTail : entries[i]? = some a := by
            simpa using hGet
          simp only [List.set_cons_succ, total_cons]
          rw [add_assoc, ih hTail, add_assoc]

/- Two values of the entries are added up together. -/
theorem total_add
    (value value' : α → M)
    (entries : List α) :
    total (fun a => value a + value' a) entries =
      total value entries + total value' entries := by
  induction entries with
  | nil => simp
  | cons a entries ih =>
      simp only [total_cons, ih]
      exact add_add_add_comm _ _ _ _

end Accounts

------------------------------------------------------------
-- The Balance of a Path
------------------------------------------------------------

namespace TransitionSystem

namespace Path

open Accounts (total)

variable {σ ε M : Type}
variable [AddCommMonoid M]
variable {S : TransitionSystem σ ε}

/-
  If every step turns what is held and what comes in into what
  is held and what goes out, then so does every path.
-/
theorem balance
    {s t : σ}
    {es : List (Transition σ ε)}
    (held : σ → M)
    (income outlay : Transition σ ε → M)
    (hStep :
      ∀ {t l u},
        S.Step t l u →
        held t + income ⟨t, l, u⟩ =
          held u + outlay ⟨t, l, u⟩)
    (hPath : S.Path s es t) :
    held s + total income es = held t + total outlay es := by
  induction hPath with
  | nil s => rfl
  | @cons s t u l es hFirst _ ih =>
      calc
        held s + total income (⟨s, l, t⟩ :: es)
          = held s + income ⟨s, l, t⟩ + total income es := by
            rw [Accounts.total_cons, add_assoc]
        _ = held t + outlay ⟨s, l, t⟩ + total income es := by
            rw [hStep hFirst]
        _ = held t + total income es + outlay ⟨s, l, t⟩ := by
            rw [add_right_comm]
        _ = held u + total outlay es + outlay ⟨s, l, t⟩ := by
            rw [ih]
        _ = held u + total outlay (⟨s, l, t⟩ :: es) := by
            rw [Accounts.total_cons, add_assoc,
              add_comm (total outlay es)]

end Path

end TransitionSystem

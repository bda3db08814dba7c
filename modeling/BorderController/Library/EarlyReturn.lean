/-
  Validators that return at the first check that fails.

  Key definitions include:
    * `EarlyReturn.refuseIf`
    * `EarlyReturn.ifSome`

  Key theorems include:
    * `EarlyReturn.bind_eq_ok_iff`
-/

------------------------------------------------------------
-- Checks
------------------------------------------------------------

namespace EarlyReturn

variable {α ε : Type}

/- `if condition { return Err(error) }`. -/
def refuseIf
    (condition : Prop)
    [Decidable condition]
    (error : ε) :
    Except ε Unit :=
  if condition then .error error else .ok ()

/- `if let Some(a) = value { check(a)? }`. -/
def ifSome
    (value : Option α)
    (check : α → Except ε Unit) :
    Except ε Unit :=
  match value with
  | some a => check a
  | none => .ok ()

variable {condition : Prop}
variable [Decidable condition]
variable {error : ε}

@[simp] theorem refuseIf_eq_ok_iff :
    refuseIf condition error = .ok () ↔ ¬ condition := by
  unfold refuseIf
  by_cases hCondition : condition <;> simp [hCondition]

@[simp] theorem ifSome_eq_ok_iff
    {value : Option α}
    {check : α → Except ε Unit} :
    ifSome value check = .ok () ↔
      ∀ a, value = some a → check a = .ok () := by
  cases value <;> simp [ifSome]

/- A sequence of checks passes if each of them does. -/
@[simp] theorem bind_eq_ok_iff
    {first : Except ε Unit}
    {rest : Unit → Except ε Unit} :
    (first >>= rest) = .ok () ↔
      first = .ok () ∧ rest () = .ok () := by
  cases first with
  | error e => simp [bind, Except.bind]
  | ok u => simp [bind, Except.bind]

end EarlyReturn

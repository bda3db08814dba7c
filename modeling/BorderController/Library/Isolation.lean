import Mathlib.Data.List.Basic

/-
  Machines of which an observer sees only a part.

  A machine answers one operation after another and may get
  stuck.  An observer sees some of the operations, with their
  answers, and a view of the state.  It is isolated when the
  view is a machine of its own that the other operations leave
  alone.

  Key definitions include:
    * `Isolation.Machine`
    * `Isolation.Machine.run`
    * `Isolation.Isolated`

  Key theorems include:
    * `Isolation.Isolated.run`
    * `Isolation.Isolated.noninterference`
-/

------------------------------------------------------------
-- Machines
------------------------------------------------------------

namespace Isolation

variable {σ τ ω ρ : Type}

/- One operation: its answer and the next state, or stuck. -/
structure Machine (σ ω ρ : Type) where
  step : ω → σ → Option (ρ × σ)

/-
  The operations that were answered, up to the first one that
  gets stuck, and the state they lead to.
-/
def Machine.run
    (M : Machine σ ω ρ) :
    List ω → σ → List (ω × ρ) × σ
  | [], s => ([], s)
  | op :: ops, s =>
      match M.step op s with
      | none => ([], s)
      | some (answer, t) =>
          ((op, answer) :: (M.run ops t).1, (M.run ops t).2)

namespace Machine

variable {M : Machine σ ω ρ}
variable {op : ω}
variable {ops : List ω}
variable {s t : σ}
variable {answer : ρ}

theorem run_cons_of_some
    (hStep : M.step op s = some (answer, t)) :
    M.run (op :: ops) s =
      ((op, answer) :: (M.run ops t).1, (M.run ops t).2) := by
  rw [run, hStep]

theorem run_cons_of_none
    (hStuck : M.step op s = none) :
    M.run (op :: ops) s = ([], s) := by
  rw [run, hStuck]

end Machine

end Isolation

------------------------------------------------------------
-- Isolation
------------------------------------------------------------

namespace Isolation

variable {σ τ ω ρ : Type}

/-
  While `I` holds, the visible operations are those of the
  machine `N` on the view, and the others are answered without
  a change of the view.
-/
structure Isolated
    (M : Machine σ ω ρ)
    (N : Machine τ ω ρ)
    (view : σ → τ)
    (visible : ω → Bool)
    (I : σ → Prop) :
    Prop where
  seen :
    ∀ {op s},
      I s →
      visible op = true →
      N.step op (view s) =
        (M.step op s).map fun p => (p.1, view p.2)
  unseen :
    ∀ {op s},
      I s →
      visible op = false →
      ∃ answer t,
        M.step op s = some (answer, t) ∧ view t = view s
  keeps :
    ∀ {op s answer t},
      I s → M.step op s = some (answer, t) → I t

namespace Isolated

variable {M : Machine σ ω ρ}
variable {N : Machine τ ω ρ}
variable {view : σ → τ}
variable {visible : ω → Bool}
variable {I : σ → Prop}

/-
  What an observer sees of a run is the run of the machine on
  its view, of the operations that it sees.
-/
theorem run
    (hIsolated : Isolated M N view visible I)
    (ops : List ω)
    {s : σ}
    (hStart : I s) :
    N.run (ops.filter visible) (view s) =
      ((M.run ops s).1.filter (fun p => visible p.1),
        view (M.run ops s).2) := by
  induction ops generalizing s with
  | nil => rfl
  | cons op ops ih =>
      cases hVisible : visible op with
      | false =>
          rcases hIsolated.unseen hStart hVisible with
            ⟨answer, t, hStep, hView⟩
          have hRest := ih (hIsolated.keeps hStart hStep)
          rw [Machine.run_cons_of_some hStep]
          simpa [hVisible, hView] using hRest
      | true =>
          have hSeen := hIsolated.seen hStart hVisible
          rw [List.filter_cons_of_pos hVisible]
          cases hStep : M.step op s with
          | none =>
              rw [hStep] at hSeen
              rw [Machine.run_cons_of_none hStep,
                Machine.run_cons_of_none hSeen]
              rfl
          | some p =>
              have hRest := ih (hIsolated.keeps hStart hStep)
              rw [hStep] at hSeen
              rw [Machine.run_cons_of_some hStep,
                Machine.run_cons_of_some hSeen, hRest]
              simp [hVisible]

/-
  Two runs that an observer cannot tell apart from the outset
  give it the same answers and the same view.
-/
theorem noninterference
    (hIsolated : Isolated M N view visible I)
    {ops ops' : List ω}
    {s s' : σ}
    (hStart : I s)
    (hStart' : I s')
    (hView : view s = view s')
    (hOps : ops.filter visible = ops'.filter visible) :
    (M.run ops s).1.filter (fun p => visible p.1) =
        (M.run ops' s').1.filter (fun p => visible p.1) ∧
      view (M.run ops s).2 = view (M.run ops' s').2 := by
  have hRun := hIsolated.run ops hStart
  have hRun' := hIsolated.run ops' hStart'
  rw [hView, hOps, hRun'] at hRun
  exact ⟨(congrArg Prod.fst hRun).symm,
    (congrArg Prod.snd hRun).symm⟩

end Isolated

end Isolation

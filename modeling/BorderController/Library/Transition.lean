import Mathlib.Data.List.Induction
import Mathlib.Data.List.Count

/-
  Labelled transition systems and their recorded runs.

  A path keeps every transition it takes, with the states
  before and after it, so that a statement about the history
  of a run is a statement about a list.

  Key definitions include:
    * `Transition`
    * `TransitionSystem`
    * `TransitionSystem.Path`

  Key theorems include:
    * `TransitionSystem.Path.invariant`
    * `TransitionSystem.Path.historyInvariant`
    * `TransitionSystem.Path.stable`
    * `TransitionSystem.Path.never`
    * `TransitionSystem.Path.countP_le_one`
-/

------------------------------------------------------------
-- Transitions and Paths
------------------------------------------------------------

/- One recorded step: the state before, its label, the state after. -/
structure Transition (σ ε : Type) where
  source : σ
  label : ε
  target : σ

/- A labelled transition system over states `σ` and labels `ε`. -/
structure TransitionSystem (σ ε : Type) where
  Step : σ → ε → σ → Prop

namespace TransitionSystem

variable {σ ε : Type}

/- `M.Path s es t`: the transitions `es` lead from `s` to `t`. -/
inductive Path (M : TransitionSystem σ ε) :
    σ → List (Transition σ ε) → σ → Prop
  | nil (s : σ) : Path M s [] s
  | cons {s t u : σ} {l : ε} {es : List (Transition σ ε)} :
      M.Step s l t →
      Path M t es u →
      Path M s (⟨s, l, t⟩ :: es) u

end TransitionSystem

------------------------------------------------------------
-- Composition
------------------------------------------------------------

namespace TransitionSystem

namespace Path

variable {σ ε : Type}
variable {M : TransitionSystem σ ε}

/- A single step is a path. -/
theorem single
    {s t : σ}
    {l : ε}
    (hStep : M.Step s l t) :
    M.Path s [⟨s, l, t⟩] t :=
  .cons hStep (.nil t)

theorem append
    {s t u : σ}
    {es fs : List (Transition σ ε)}
    (hFirst : M.Path s es t)
    (hSecond : M.Path t fs u) :
    M.Path s (es ++ fs) u := by
  induction hFirst with
  | nil s => exact hSecond
  | cons hStep _ ih => exact .cons hStep (ih hSecond)

/- A path extended by one more step. -/
theorem snoc
    {s t u : σ}
    {l : ε}
    {es : List (Transition σ ε)}
    (hPath : M.Path s es t)
    (hStep : M.Step t l u) :
    M.Path s (es ++ [⟨t, l, u⟩]) u :=
  hPath.append (single hStep)

/- A path over a concatenation passes through a middle state. -/
theorem exists_of_append
    {s u : σ}
    {es fs : List (Transition σ ε)}
    (hPath : M.Path s (es ++ fs) u) :
    ∃ t, M.Path s es t ∧ M.Path t fs u := by
  induction es generalizing s with
  | nil => exact ⟨s, .nil s, hPath⟩
  | cons e es ih =>
      cases hPath with
      | cons hStep hRest =>
          rcases ih hRest with ⟨t, hLeft, hRight⟩
          exact ⟨t, .cons hStep hLeft, hRight⟩

/- A path around one of its transitions. -/
theorem split
    {s u : σ}
    {e : Transition σ ε}
    {before after : List (Transition σ ε)}
    (hPath : M.Path s (before ++ e :: after) u) :
    M.Path s before e.source ∧
      M.Step e.source e.label e.target ∧
      M.Path e.target after u := by
  rcases hPath.exists_of_append with
    ⟨t, hLeft, hRight⟩
  cases hRight with
  | cons hStep hRest => exact ⟨hLeft, hStep, hRest⟩

/- A path that takes a step ends where its last step ends. -/
theorem last
    {s t : σ}
    {es : List (Transition σ ε)}
    (hPath : M.Path s es t) :
    es = [] ∧ s = t ∨
      ∃ before e, es = before ++ [e] ∧ e.target = t := by
  rcases List.eq_nil_or_concat es with
    hNil | ⟨before, e, hEs⟩
  · subst hNil
    cases hPath
    exact Or.inl ⟨rfl, rfl⟩
  · rw [List.concat_eq_append] at hEs
    subst hEs
    have hRest := hPath.split.2.2
    cases hRest
    exact Or.inr ⟨before, e, rfl, rfl⟩

/- Every recorded transition splits the path around itself. -/
theorem exists_of_mem
    {s u : σ}
    {e : Transition σ ε}
    {es : List (Transition σ ε)}
    (hPath : M.Path s es u)
    (hMem : e ∈ es) :
    ∃ before after,
      es = before ++ e :: after ∧
        M.Path s before e.source ∧
        M.Step e.source e.label e.target ∧
        M.Path e.target after u := by
  rcases List.append_of_mem hMem with
    ⟨before, after, hSplit⟩
  subst hSplit
  exact ⟨before, after, rfl, hPath.split⟩

end Path

end TransitionSystem

------------------------------------------------------------
-- Invariants
------------------------------------------------------------

namespace TransitionSystem

namespace Path

variable {σ ε : Type}
variable {M : TransitionSystem σ ε}

/-
  A property of the history and the current state holds
  along every path once each step extends it.
-/
theorem historyInvariant
    {s t : σ}
    {es : List (Transition σ ε)}
    (I : List (Transition σ ε) → σ → Prop)
    (hStart : I [] s)
    (hStep :
      ∀ {es t l u},
        M.Path s es t →
        I es t →
        M.Step t l u →
        I (es ++ [⟨t, l, u⟩]) u)
    (hPath : M.Path s es t) :
    I es t := by
  induction es using List.reverseRecOn generalizing t with
  | nil =>
      cases hPath
      exact hStart
  | append_singleton es e ih =>
      rcases hPath.exists_of_append with
        ⟨u, hLeft, hRight⟩
      cases hRight with
      | cons hLast hNil =>
          cases hNil
          exact hStep hLeft (ih hLeft) hLast

/- A property that every step keeps holds along every path. -/
theorem invariant
    {s t : σ}
    {es : List (Transition σ ε)}
    (I : σ → Prop)
    (hStart : I s)
    (hStep : ∀ {t l u}, I t → M.Step t l u → I u)
    (hPath : M.Path s es t) :
    I t := by
  induction hPath with
  | nil s => exact hStart
  | cons hFirst _ ih => exact ih (hStep hStart hFirst)

/-
  A property kept by the steps that satisfy `C` holds along
  every path whose steps all satisfy `C`.
-/
theorem stable
    {s t : σ}
    {es : List (Transition σ ε)}
    (C : Transition σ ε → Prop)
    (P : σ → Prop)
    (hStep :
      ∀ {t l u}, C ⟨t, l, u⟩ → P t → M.Step t l u → P u)
    (hPath : M.Path s es t)
    (hSteps : ∀ e ∈ es, C e)
    (hStart : P s) :
    P t := by
  induction hPath with
  | nil s => exact hStart
  | cons hFirst _ ih =>
      exact ih
        (fun e hMem => hSteps e (List.mem_cons_of_mem _ hMem))
        (hStep (hSteps _ List.mem_cons_self) hStart hFirst)

/-
  Once a stable property holds, no later transition is one
  that the property excludes.
-/
theorem never
    {s t : σ}
    {es : List (Transition σ ε)}
    (P : σ → Prop)
    (Bad : Transition σ ε → Prop)
    (hKeep : ∀ {t l u}, P t → M.Step t l u → P u)
    (hExclude :
      ∀ {t l u}, P t → M.Step t l u → ¬ Bad ⟨t, l, u⟩)
    (hPath : M.Path s es t)
    (hStart : P s) :
    ∀ e ∈ es, ¬ Bad e := by
  intro e hMem
  rcases hPath.exists_of_mem hMem with
    ⟨before, after, _, hLeft, hStep, _⟩
  exact hExclude (hLeft.invariant P hStart hKeep) hStep

/-
  A kind of transition that establishes a stable property
  excluding that kind occurs at most once.
-/
theorem countP_le_one
    {s t : σ}
    {es : List (Transition σ ε)}
    (Once : Transition σ ε → Bool)
    (P : σ → Prop)
    (hEstablish :
      ∀ {t l u}, M.Step t l u → Once ⟨t, l, u⟩ → P u)
    (hKeep : ∀ {t l u}, P t → M.Step t l u → P u)
    (hExclude :
      ∀ {t l u}, P t → M.Step t l u → ¬ Once ⟨t, l, u⟩)
    (hPath : M.Path s es t) :
    es.countP Once ≤ 1 := by
  induction hPath with
  | nil s => simp
  | @cons s t u l es hStep hRest ih =>
      by_cases hOnce : Once ⟨s, l, t⟩
      · have hNone : es.countP Once = 0 := by
          rw [List.countP_eq_zero]
          exact hRest.never P (fun e => Once e = true)
            hKeep hExclude (hEstablish hStep hOnce)
        simp [hOnce, hNone]
      · simpa [hOnce] using ih

end Path

end TransitionSystem

import BorderController.Library.Reentrancy

/-
  Contracts on a chain, block after block, and the runs of them
  whose calls all meet a condition.

  Key definitions include:
    * `Reentrancy.Proc.beside`
    * `Reentrancy.Contract.restrict`
    * `Reentrancy.Ledger`
    * `Reentrancy.Ledger.Reachable`
    * `Reentrancy.Ledger.Observable`
    * `Reentrancy.Ledger.Kept`

  Key theorems include:
    * `Reentrancy.Ledger.Kept.observable`
    * `Reentrancy.Ledger.Kept.restrict`
    * `Reentrancy.Ledger.Observable.of_restrict`
-/

------------------------------------------------------------
-- Beside Another Contract
------------------------------------------------------------

namespace Reentrancy

variable {σ θ π ε ρ : Type}

/-
  A call of one contract beside the state of another, which
  only callbacks can change.
-/
def Proc.beside :
    Proc σ π ε ρ → θ → Proc (σ × θ) π ε ρ
  | .revert reason, _ => .revert reason
  | .finish s result, other => .finish (s, other) result
  | .transfer s payment resume, other =>
      .transfer (s, other) payment
        fun t => (resume t.1).beside t.2

end Reentrancy

------------------------------------------------------------
-- Restricted Calls
------------------------------------------------------------

namespace Reentrancy

variable {σ κ π ε ρ : Type}

open Classical in
/-
  The contract with every call refused that does not meet the
  condition in the state it finds.
-/
noncomputable def Contract.restrict
    (C : Contract σ κ π ε ρ)
    (allowed : κ → σ → Prop)
    (reason : ε) :
    Contract σ κ π ε ρ where
  entry k s :=
    if allowed k s then C.entry k s else .revert reason
  pay := C.pay
  drift := C.drift

variable {C : Contract σ κ π ε ρ}
variable {allowed : κ → σ → Prop}
variable {reason : ε}
variable {p : Proc σ π ε ρ}
variable {s t : σ}

theorem Contract.restrict_entry
    {k : κ}
    (hAllowed : allowed k s) :
    (C.restrict allowed reason).entry k s = C.entry k s :=
  if_pos hAllowed

theorem Contract.restrict_entry_refused
    {k : κ}
    (hRefused : ¬ allowed k s) :
    (C.restrict allowed reason).entry k s =
      .revert reason :=
  if_neg hRefused

/- Payments of the restricted contract are booked as before. -/
theorem Proc.Keeps.restrict
    {I : σ → Prop}
    (hKeeps : p.Keeps C I) :
    p.Keeps (C.restrict allowed reason) I := by
  induction p with
  | revert reason => trivial
  | finish s result => exact hKeeps
  | transfer s payment resume ih =>
      refine ⟨hKeeps.1, ?_⟩
      intro resumed hResumed
      exact ih resumed (hKeeps.2 resumed hResumed)

theorem Proc.settle_restrict
    {accepts : π → Bool} :
    p.settle (C.restrict allowed reason) accepts =
      p.settle C accepts := by
  induction p with
  | revert reason => rfl
  | finish s result => rfl
  | transfer s payment resume ih =>
      have hPay :
          (C.restrict allowed reason).pay payment s =
            C.pay payment s :=
        rfl
      unfold Proc.settle
      simp only [hPay, ih]

/- A call that ran was not refused. -/
theorem Runs.entry_of_restrict
    {k : κ}
    (hRuns : Runs C ((C.restrict allowed reason).entry k s) t) :
    Runs C (C.entry k s) t := by
  by_cases hAllowed : allowed k s
  · rw [Contract.restrict_entry hAllowed] at hRuns
    exact hRuns
  · rw [Contract.restrict_entry_refused hAllowed] at hRuns
    cases hRuns

theorem Sees.entry_of_restrict
    {k : κ}
    (hSees : Sees C ((C.restrict allowed reason).entry k s) t) :
    Sees C (C.entry k s) t := by
  by_cases hAllowed : allowed k s
  · rw [Contract.restrict_entry hAllowed] at hSees
    exact hSees
  · rw [Contract.restrict_entry_refused hAllowed] at hSees
    cases hSees

/- The runs of the restricted contract are runs. -/
theorem Runs.of_restrict
    (hRuns : Runs (C.restrict allowed reason) p t) :
    Runs C p t := by
  refine @Runs.rec σ κ π ε ρ (C.restrict allowed reason)
    (fun p t _ => Runs C p t)
    (fun s t _ => Interlude C s t)
    ?_ ?_ ?_ ?_ ?_ p t hRuns
  · intro s result
    exact .finish s result
  · intro s paid resumed t payment resume hPay _ _ hBetween
      hRest
    exact .transfer hPay hBetween hRest
  · intro s
    exact .quiet s
  · intro s t u hStep _ hRest
    exact .drift hStep hRest
  · intro s t u k _ _ hCall hRest
    exact .call k hCall.entry_of_restrict hRest

theorem Interlude.of_restrict
    (hBetween : Interlude (C.restrict allowed reason) s t) :
    Interlude C s t := by
  refine @Interlude.rec σ κ π ε ρ (C.restrict allowed reason)
    (fun _ _ _ => True)
    (fun s t _ => Interlude C s t)
    ?_ ?_ ?_ ?_ ?_ s t hBetween
  · intros
    trivial
  · intros
    trivial
  · intro s
    exact .quiet s
  · intro s t u hStep _ hRest
    exact .drift hStep hRest
  · intro s t u k hCall _ _ hRest
    exact .call k hCall.of_restrict.entry_of_restrict hRest

theorem Sees.of_restrict
    (hSees : Sees (C.restrict allowed reason) p t) :
    Sees C p t := by
  induction hSees with
  | here hPay hBetween =>
      exact .here hPay hBetween.of_restrict
  | nested k hPay hBetween _ ih =>
      exact .nested k hPay hBetween.of_restrict
        ih.entry_of_restrict
  | later hPay hBetween _ ih =>
      exact .later hPay hBetween.of_restrict ih

end Reentrancy

------------------------------------------------------------
-- Block After Block
------------------------------------------------------------

namespace Reentrancy

/-
  A contract, how its state looks after deployment, and how the
  state tells the block time.
-/
structure Ledger (σ κ π ε ρ : Type) extends
    Contract σ κ π ε ρ where
  deployed : σ → Prop
  time : σ → Nat
  later : Nat → σ → σ

namespace Ledger

variable {σ κ π ε ρ : Type}

/- Calls from anybody lead to the state, in blocks in order. -/
inductive Reachable (L : Ledger σ κ π ε ρ) : σ → Prop
  | deployed {s : σ} :
      L.deployed s →
      Reachable L s
  | call {s t : σ} (k : κ) (timestamp : Nat) :
      Reachable L s →
      L.time s ≤ timestamp →
      Runs L.toContract (L.entry k (L.later timestamp s)) t →
      Reachable L t
  | drift {s t : σ} :
      Reachable L s →
      L.drift s t →
      Reachable L t

/-
  A state that anybody can find: between calls, or as the
  recipient of a payment in the middle of one.
-/
def Observable (L : Ledger σ κ π ε ρ) (t : σ) : Prop :=
  L.Reachable t ∨
    ∃ s k timestamp,
      L.Reachable s ∧
        L.time s ≤ timestamp ∧
          Sees L.toContract (L.entry k (L.later timestamp s)) t

/-
  A property that holds after deployment and that every call
  keeps, whatever the recipients do.
-/
structure Kept
    (L : Ledger σ κ π ε ρ)
    (I : σ → Prop) :
    Prop where
  deployed : ∀ s, L.deployed s → I s
  later : ∀ timestamp s, I s → I (L.later timestamp s)
  drift : ∀ s t, L.drift s t → I s → I t
  entry : ∀ k s, I s → (L.entry k s).Keeps L.toContract I

variable {L : Ledger σ κ π ε ρ}
variable {I : σ → Prop}
variable {s t : σ}

theorem Kept.reachable
    (hKept : L.Kept I)
    (hReach : L.Reachable t) :
    I t := by
  induction hReach with
  | deployed hDeployed => exact hKept.deployed _ hDeployed
  | call k timestamp _ _ hRuns ih =>
      apply hRuns.keeps hKept.entry hKept.drift
      apply hKept.entry
      exact hKept.later timestamp _ ih
  | drift _ hDrift ih => exact hKept.drift _ _ hDrift ih

theorem Kept.observable
    (hKept : L.Kept I)
    (hObservable : L.Observable t) :
    I t := by
  rcases hObservable with
    hReach | ⟨s, k, timestamp, hReach, _, hSees⟩
  · exact hKept.reachable hReach
  · apply hSees.keeps hKept.entry hKept.drift
    apply hKept.entry
    apply hKept.later
    exact hKept.reachable hReach

/- The runs in which every call meets the condition. -/
noncomputable def restrict
    (L : Ledger σ κ π ε ρ)
    (allowed : κ → σ → Prop)
    (reason : ε) :
    Ledger σ κ π ε ρ :=
  { L with
    toContract := L.toContract.restrict allowed reason }

variable {allowed : κ → σ → Prop}
variable {reason : ε}

/- Only the calls that meet the condition have to keep it. -/
theorem Kept.restrict
    (hDeployed : ∀ s, L.deployed s → I s)
    (hLater :
      ∀ timestamp s, I s → I (L.later timestamp s))
    (hDrift : ∀ s t, L.drift s t → I s → I t)
    (hEntry :
      ∀ k s,
        allowed k s →
        I s →
        (L.entry k s).Keeps L.toContract I) :
    (L.restrict allowed reason).Kept I where
  deployed := hDeployed
  later := hLater
  drift := hDrift
  entry := by
    intro k s hState
    by_cases hAllowed : allowed k s
    · have hSame :
          (L.restrict allowed reason).entry k s =
            L.entry k s :=
        Contract.restrict_entry hAllowed
      rw [hSame]
      exact (hEntry k s hAllowed hState).restrict
    · have hRefused :
          (L.restrict allowed reason).entry k s =
            .revert reason :=
        Contract.restrict_entry_refused hAllowed
      rw [hRefused]
      trivial

/- A call that meets the condition, to quiet recipients. -/
theorem Reachable.settle
    {accepts : π → Bool}
    {k : κ}
    {timestamp : Nat}
    {result : ρ}
    (hReach : (L.restrict allowed reason).Reachable s)
    (hLater : L.time s ≤ timestamp)
    (hAllowed : allowed k (L.later timestamp s))
    (hSettle :
      (L.entry k (L.later timestamp s)).settle L.toContract
          accepts =
        some (t, result)) :
    (L.restrict allowed reason).Reachable t := by
  apply Reachable.call k timestamp hReach hLater
  have hSame :
      (L.restrict allowed reason).entry k
          (L.later timestamp s) =
        L.entry k (L.later timestamp s) :=
    Contract.restrict_entry hAllowed
  show Runs _
    ((L.restrict allowed reason).entry k
      (L.later timestamp s)) t
  rw [hSame]
  rw [← Proc.settle_restrict] at hSettle
  exact runs_of_settle hSettle

theorem Reachable.of_restrict
    (hReach : (L.restrict allowed reason).Reachable t) :
    L.Reachable t := by
  induction hReach with
  | deployed hDeployed => exact .deployed hDeployed
  | call k timestamp _ hLater hRuns ih =>
      have hCall := hRuns.of_restrict.entry_of_restrict
      exact .call k timestamp ih hLater hCall
  | drift _ hDrift ih => exact .drift ih hDrift

theorem Observable.of_restrict
    (hObservable : (L.restrict allowed reason).Observable t) :
    L.Observable t := by
  rcases hObservable with
    hReach | ⟨s, k, timestamp, hReach, hLater, hSees⟩
  · exact .inl hReach.of_restrict
  · have hFull := Sees.of_restrict hSees
    exact .inr
      ⟨s, k, timestamp, hReach.of_restrict, hLater,
        hFull.entry_of_restrict⟩

end Ledger

end Reentrancy

/-
  Contracts that pay and may be called back while they pay.

  A call is a procedure that reverts, finishes, or pays and
  resumes.  Between a payment and its resumption any calls may
  be made, to any depth.

  Key definitions include:
    * `Reentrancy.Proc`
    * `Reentrancy.Contract`
    * `Reentrancy.Runs`, `Reentrancy.Interlude`
    * `Reentrancy.Proc.Keeps`
    * `Reentrancy.Proc.Discharges`
    * `Reentrancy.Sees`
    * `Reentrancy.Proc.settle`

  Key theorems include:
    * `Reentrancy.Proc.Keeps.and`
    * `Reentrancy.Runs.keeps`, `Reentrancy.Sees.keeps`
    * `Reentrancy.Runs.discharges`
    * `Reentrancy.runs_of_settle`
-/

------------------------------------------------------------
-- Procedures
------------------------------------------------------------

namespace Reentrancy

/-
  A call in progress, over states `σ`, payments `π`, revert
  reasons `ε` and return values `ρ`.
-/
inductive Proc (σ π ε ρ : Type) where
  | revert (reason : ε)
  | finish (s : σ) (result : ρ)
  | transfer
      (s : σ) (payment : π) (resume : σ → Proc σ π ε ρ)

/-
  A contract answers the calls `κ`.  A payment is booked by
  `pay` or fails, and `drift` is what others can do to the
  state without a call.
-/
structure Contract (σ κ π ε ρ : Type) where
  entry : κ → σ → Proc σ π ε ρ
  pay : π → σ → Option σ
  drift : σ → σ → Prop

end Reentrancy

------------------------------------------------------------
-- Runs With Callbacks
------------------------------------------------------------

namespace Reentrancy

variable {σ κ π ε ρ : Type}

mutual

/- The procedure runs to its end and leaves the state `t`. -/
inductive Runs (C : Contract σ κ π ε ρ) :
    Proc σ π ε ρ → σ → Prop
  | finish (s : σ) (result : ρ) :
      Runs C (.finish s result) s
  | transfer
      {s paid resumed t : σ} {payment : π}
      {resume : σ → Proc σ π ε ρ} :
      C.pay payment s = some paid →
      Interlude C paid resumed →
      Runs C (resume resumed) t →
      Runs C (.transfer s payment resume) t

/-
  What the recipient of a payment can do.  Calls that revert
  leave no trace and are left out.
-/
inductive Interlude (C : Contract σ κ π ε ρ) :
    σ → σ → Prop
  | quiet (s : σ) : Interlude C s s
  | drift {s t u : σ} :
      C.drift s t →
      Interlude C t u →
      Interlude C s u
  | call {s t u : σ} (k : κ) :
      Runs C (C.entry k s) t →
      Interlude C t u →
      Interlude C s u

end

end Reentrancy

------------------------------------------------------------
-- The Rule of Invariants
------------------------------------------------------------

namespace Reentrancy

variable {σ κ π ε ρ : Type}
variable {C : Contract σ κ π ε ρ}
variable {I : σ → Prop}

/-
  The procedure re-establishes `I` before every payment takes
  effect and at its end, if callbacks keep `I`.
-/
def Proc.Keeps
    (C : Contract σ κ π ε ρ)
    (I : σ → Prop) :
    Proc σ π ε ρ → Prop
  | .revert _ => True
  | .finish s _ => I s
  | .transfer s payment resume =>
      (∀ paid, C.pay payment s = some paid → I paid) ∧
        ∀ resumed, I resumed → (resume resumed).Keeps C I

/- Two properties that are kept are kept together. -/
theorem Proc.Keeps.and
    {J : σ → Prop}
    {p : Proc σ π ε ρ}
    (hFirst : p.Keeps C I)
    (hSecond : p.Keeps C J) :
    p.Keeps C fun s => I s ∧ J s := by
  induction p with
  | revert reason => trivial
  | finish s result => exact ⟨hFirst, hSecond⟩
  | transfer s payment resume ih =>
      refine ⟨?_, ?_⟩
      · intro paid hPay
        exact ⟨hFirst.1 paid hPay, hSecond.1 paid hPay⟩
      · intro resumed hResumed
        exact ih resumed (hFirst.2 resumed hResumed.1)
          (hSecond.2 resumed hResumed.2)

/-
  If every call keeps `I` in this sense, then it holds after
  every run, whatever the recipients of payments do.
-/
theorem Runs.keeps
    (hEntry : ∀ k s, I s → (C.entry k s).Keeps C I)
    (hDrift : ∀ s t, C.drift s t → I s → I t)
    {p : Proc σ π ε ρ}
    {t : σ}
    (hRuns : Runs C p t)
    (hKeeps : p.Keeps C I) :
    I t := by
  -- The second motive is the invariant across an interlude.
  refine @Runs.rec σ κ π ε ρ C
    (fun p t _ => p.Keeps C I → I t)
    (fun s t _ => I s → I t)
    ?_ ?_ ?_ ?_ ?_ p t hRuns hKeeps
  · intro s result hFinish
    exact hFinish
  · intro s paid resumed t payment resume hPay _ _ ihBetween
      ihRest hTransfer
    have hPaid := hTransfer.1 paid hPay
    exact ihRest (hTransfer.2 resumed (ihBetween hPaid))
  · intro s hState
    exact hState
  · intro s t u hStep _ ih hState
    exact ih (hDrift s t hStep hState)
  · intro s t u k _ _ ihCall ihRest hState
    exact ihRest (ihCall (hEntry k s hState))

end Reentrancy

------------------------------------------------------------
-- The Rule of Obligations
------------------------------------------------------------

namespace Reentrancy

variable {σ κ π ε ρ ι : Type}
variable {C : Contract σ κ π ε ρ}
variable {I : ι → σ → Prop}

/-
  The procedure works under the obligation `o`.  It may take on
  another one before a payment, if callbacks keep that, and has
  to be back under `o` at its end.
-/
def Proc.Discharges
    (C : Contract σ κ π ε ρ)
    (I : ι → σ → Prop)
    (o : ι) :
    Proc σ π ε ρ → Prop
  | .revert _ => True
  | .finish s _ => I o s
  | .transfer s payment resume =>
      ∃ o',
        (∀ paid, C.pay payment s = some paid → I o' paid) ∧
          ∀ resumed,
            I o' resumed →
            (resume resumed).Discharges C I o

/-
  If every call works under every obligation, then it leaves
  the obligation it was called under, whatever the recipients
  of payments do.
-/
theorem Runs.discharges
    (hEntry :
      ∀ o k s, I o s → (C.entry k s).Discharges C I o)
    (hDrift : ∀ o s t, C.drift s t → I o s → I o t)
    {p : Proc σ π ε ρ}
    {t : σ}
    (hRuns : Runs C p t)
    (o : ι)
    (hDischarges : p.Discharges C I o) :
    I o t := by
  -- Calls of an interlude work under the payer's obligation.
  refine @Runs.rec σ κ π ε ρ C
    (fun p t _ => ∀ o, p.Discharges C I o → I o t)
    (fun s t _ => ∀ o, I o s → I o t)
    ?_ ?_ ?_ ?_ ?_ p t hRuns o hDischarges
  · intro s result o hFinish
    exact hFinish
  · rintro s paid resumed t payment resume hPay _ _ ihBetween
      ihRest o ⟨o', hPaid, hResume⟩
    apply ihRest o
    apply hResume resumed
    exact ihBetween o' (hPaid paid hPay)
  · intro s o hState
    exact hState
  · intro s t u hStep _ ih o hState
    exact ih o (hDrift o s t hStep hState)
  · intro s t u k _ _ ihCall ihRest o hState
    exact ihRest o (ihCall o (hEntry o k s hState))

end Reentrancy

------------------------------------------------------------
-- What Recipients See
------------------------------------------------------------

namespace Reentrancy

variable {σ κ π ε ρ : Type}

/-
  A recipient of some payment of the procedure, or of a call
  made meanwhile, finds the contract in the state `t`.
-/
inductive Sees (C : Contract σ κ π ε ρ) :
    Proc σ π ε ρ → σ → Prop
  | here
      {s paid t : σ} {payment : π}
      {resume : σ → Proc σ π ε ρ} :
      C.pay payment s = some paid →
      Interlude C paid t →
      Sees C (.transfer s payment resume) t
  | nested
      {s paid u t : σ} {payment : π}
      {resume : σ → Proc σ π ε ρ} (k : κ) :
      C.pay payment s = some paid →
      Interlude C paid u →
      Sees C (C.entry k u) t →
      Sees C (.transfer s payment resume) t
  | later
      {s paid resumed t : σ} {payment : π}
      {resume : σ → Proc σ π ε ρ} :
      C.pay payment s = some paid →
      Interlude C paid resumed →
      Sees C (resume resumed) t →
      Sees C (.transfer s payment resume) t

variable {C : Contract σ κ π ε ρ}
variable {I : σ → Prop}

/- Whatever a recipient does, the property is kept. -/
theorem Interlude.keeps
    (hEntry : ∀ k s, I s → (C.entry k s).Keeps C I)
    (hDrift : ∀ s t, C.drift s t → I s → I t)
    {s t : σ}
    (hBetween : Interlude C s t)
    (hState : I s) :
    I t := by
  refine @Interlude.rec σ κ π ε ρ C
    (fun _ _ _ => True)
    (fun s t _ => I s → I t)
    ?_ ?_ ?_ ?_ ?_ s t hBetween hState
  · intros
    trivial
  · intros
    trivial
  · intro s hState
    exact hState
  · intro s t u hStep _ ih hState
    exact ih (hDrift s t hStep hState)
  · intro s t u k hRuns _ _ ih hState
    exact ih (hRuns.keeps hEntry hDrift (hEntry k s hState))

/- A property that is kept holds whenever it can be seen. -/
theorem Sees.keeps
    (hEntry : ∀ k s, I s → (C.entry k s).Keeps C I)
    (hDrift : ∀ s t, C.drift s t → I s → I t)
    {p : Proc σ π ε ρ}
    {t : σ}
    (hSees : Sees C p t)
    (hKeeps : p.Keeps C I) :
    I t := by
  induction hSees with
  | here hPay hBetween =>
      exact hBetween.keeps hEntry hDrift (hKeeps.1 _ hPay)
  | nested k hPay hBetween _ ih =>
      apply ih
      apply hEntry
      exact hBetween.keeps hEntry hDrift (hKeeps.1 _ hPay)
  | later hPay hBetween _ ih =>
      apply ih
      apply hKeeps.2
      exact hBetween.keeps hEntry hDrift (hKeeps.1 _ hPay)

end Reentrancy

------------------------------------------------------------
-- Quiet Recipients
------------------------------------------------------------

namespace Reentrancy

variable {σ κ π ε ρ : Type}

/-
  Run a procedure whose recipients call nobody back and accept
  the payments that `accepts` says.
-/
def Proc.settle
    (C : Contract σ κ π ε ρ)
    (accepts : π → Bool) :
    Proc σ π ε ρ → Option (σ × ρ)
  | .revert _ => none
  | .finish s result => some (s, result)
  | .transfer s payment resume =>
      if accepts payment then
        match C.pay payment s with
        | none => none
        | some paid => (resume paid).settle C accepts
      else
        none

variable {C : Contract σ κ π ε ρ}
variable {accepts : π → Bool}

theorem Proc.settle_unless
    {P : Prop}
    [Decidable P]
    {reason : ε}
    {body : Proc σ π ε ρ} :
    ((if P then .revert reason else body).settle C
        accepts).isSome ↔
      ¬ P ∧ (body.settle C accepts).isSome := by
  by_cases hRefused : P
  · rw [if_pos hRefused]
    exact ⟨nofun, fun h => absurd hRefused h.1⟩
  · rw [if_neg hRefused]
    exact (and_iff_right hRefused).symm

theorem Proc.settle_transfer
    {s : σ}
    {payment : π}
    {resume : σ → Proc σ π ε ρ} :
    ((Proc.transfer s payment resume).settle C
        accepts).isSome ↔
      accepts payment ∧
        ∃ paid,
          C.pay payment s = some paid ∧
            ((resume paid).settle C accepts).isSome := by
  rw [Proc.settle]
  cases hAccepts : accepts payment with
  | false => simp
  | true =>
      cases hPay : C.pay payment s with
      | none => simp
      | some paid => simp

theorem runs_of_settle
    {p : Proc σ π ε ρ}
    {t : σ}
    {result : ρ}
    (hSettle : p.settle C accepts = some (t, result)) :
    Runs C p t := by
  induction p with
  | revert reason => contradiction
  | finish s r =>
      cases hSettle
      exact .finish t result
  | transfer s payment resume ih =>
      unfold Proc.settle at hSettle
      cases hAccepts : accepts payment with
      | false =>
          rw [hAccepts] at hSettle
          contradiction
      | true =>
          cases hPay : C.pay payment s with
          | none =>
              rw [hAccepts, hPay] at hSettle
              contradiction
          | some paid =>
              rw [hAccepts, hPay] at hSettle
              exact .transfer hPay (.quiet paid)
                (ih paid hSettle)

end Reentrancy

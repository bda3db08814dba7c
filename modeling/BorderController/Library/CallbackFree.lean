import BorderController.Library.Reentrancy

/-
  Contracts to which callbacks make no difference.

  A serial run makes calls one after another, and no recipient
  of a payment calls back.  If a call does all that matters
  before it pays, the calls made meanwhile might as well come
  after it.

  Key definitions include:
    * `Reentrancy.Serial`
    * `Reentrancy.Proc.Leads`
    * `Reentrancy.PaysLast`

  Key theorems include:
    * `Reentrancy.Runs.serial`
    * `Reentrancy.Sees.serial`
-/

------------------------------------------------------------
-- Serial Runs
------------------------------------------------------------

namespace Reentrancy

variable {σ κ π ε ρ : Type}

/- The procedure ends in `t`; every payment is just accepted. -/
def Proc.Settles
    (C : Contract σ κ π ε ρ)
    (p : Proc σ π ε ρ)
    (t : σ) :
    Prop :=
  ∃ result, p.settle C (fun _ => true) = some (t, result)

/- Calls one after another, with what others do in between. -/
inductive Serial (C : Contract σ κ π ε ρ) : σ → σ → Prop
  | done (s : σ) : Serial C s s
  | drift {s t u : σ} :
      C.drift s t →
      Serial C t u →
      Serial C s u
  | call {s t u : σ} (k : κ) :
      (C.entry k s).Settles C t →
      Serial C t u →
      Serial C s u

variable {C : Contract σ κ π ε ρ}

theorem Serial.trans
    {s t u : σ}
    (hFirst : Serial C s t)
    (hSecond : Serial C t u) :
    Serial C s u := by
  induction hFirst with
  | done s => exact hSecond
  | drift hDrift _ ih => exact .drift hDrift (ih hSecond)
  | call k hCall _ ih => exact .call k hCall (ih hSecond)

end Reentrancy

------------------------------------------------------------
-- Procedures That Pay Last
------------------------------------------------------------

namespace Reentrancy

variable {σ κ π ε ρ ι : Type}

/-
  `R o s t` says that `t` is as far as `s` will be when what is
  owed in `o` has been done.  The second procedure leads if it
  settles with all done that the first one does before its last
  payment or leaves owed across it.
-/
def Proc.Leads
    (C : Contract σ κ π ε ρ)
    (R : ι → σ → σ → Prop)
    (o : ι) :
    Proc σ π ε ρ → Proc σ π ε ρ → Prop
  | .revert _, _ => True
  | .finish s _, q => ∃ t, q.Settles C t ∧ R o s t
  | .transfer s payment resume, q =>
      ∀ paid,
        C.pay payment s = some paid →
        ∃ o' t,
          q.Settles C t ∧
            R o' paid t ∧
              ∀ resumed u,
                Interlude C paid resumed →
                R o' resumed u →
                ∃ after result,
                  resume resumed = .finish after result ∧
                    R o after u

variable {C : Contract σ κ π ε ρ}
variable {R : ι → σ → σ → Prop}
variable {o : ι}

/- Every call leads itself, and so does what others can do. -/
structure PaysLast
    (C : Contract σ κ π ε ρ)
    (R : ι → σ → σ → Prop) :
    Prop where
  entry :
    ∀ o k s t,
      R o s t → (C.entry k s).Leads C R o (C.entry k t)
  drift :
    ∀ o s s' t,
      C.drift s s' →
      R o s t →
      ∃ t', C.drift t t' ∧ R o s' t'

theorem Proc.Leads.unless
    {P : Prop}
    [Decidable P]
    {reason : ε}
    {p q : Proc σ π ε ρ}
    (hLeads : ¬ P → p.Leads C R o q) :
    (if P then .revert reason else p : Proc σ π ε ρ).Leads C R
      o (if P then .revert reason else q) := by
  by_cases hRefused : P
  · rw [if_pos hRefused]
    trivial
  · rw [if_neg hRefused, if_neg hRefused]
    exact hLeads hRefused

end Reentrancy

------------------------------------------------------------
-- Callbacks Put After the Call
------------------------------------------------------------

namespace Reentrancy

variable {σ κ π ε ρ ι : Type}
variable {C : Contract σ κ π ε ρ}
variable {R : ι → σ → σ → Prop}

/-
  A run with callbacks is followed by a serial one, in which
  the call comes first.
-/
theorem Runs.serial
    (hLast : PaysLast C R)
    {p q : Proc σ π ε ρ}
    {s : σ}
    {o : ι}
    (hRuns : Runs C p s)
    (hLeads : p.Leads C R o q) :
    ∃ t u, q.Settles C t ∧ Serial C t u ∧ R o s u := by
  -- The second motive follows an interlude.
  refine @Runs.rec σ κ π ε ρ C
    (fun p s _ =>
      ∀ o q,
        p.Leads C R o q →
        ∃ t u, q.Settles C t ∧ Serial C t u ∧ R o s u)
    (fun s s' _ =>
      ∀ o t, R o s t → ∃ t', Serial C t t' ∧ R o s' t')
    ?_ ?_ ?_ ?_ ?_ p s hRuns o q hLeads
  · rintro s result o q ⟨t, hSettles, hState⟩
    exact ⟨t, t, hSettles, .done t, hState⟩
  · intro s paid resumed s' payment resume hPay hBetween hRest
      ihBetween _ o q hTransfer
    rcases hTransfer paid hPay with
      ⟨o', t, hSettles, hPaid, hResume⟩
    rcases ihBetween o' t hPaid with ⟨u, hSerial, hResumed⟩
    rcases hResume resumed u hBetween hResumed with
      ⟨after, result, hFinish, hAfter⟩
    rw [hFinish] at hRest
    cases hRest
    exact ⟨t, u, hSettles, hSerial, hAfter⟩
  · intro s o t hState
    exact ⟨t, .done t, hState⟩
  · intro s s' s'' hStep _ ih o t hState
    rcases hLast.drift o s s' t hStep hState with
      ⟨t', hStep', hState'⟩
    rcases ih o t' hState' with ⟨u, hSerial, hEnd⟩
    exact ⟨u, .drift hStep' hSerial, hEnd⟩
  · intro s s' s'' k _ _ ihCall ihRest o t hState
    rcases ihCall o _ (hLast.entry o k s t hState) with
      ⟨t', u, hSettles, hSerial, hState'⟩
    rcases ihRest o u hState' with ⟨v, hSerial', hEnd⟩
    exact ⟨v, .call k hSettles (hSerial.trans hSerial'), hEnd⟩

theorem Interlude.serial
    (hLast : PaysLast C R)
    {s s' t : σ}
    {o : ι}
    (hBetween : Interlude C s s')
    (hState : R o s t) :
    ∃ t', Serial C t t' ∧ R o s' t' := by
  refine @Interlude.rec σ κ π ε ρ C
    (fun _ _ _ => True)
    (fun s s' _ =>
      ∀ o t, R o s t → ∃ t', Serial C t t' ∧ R o s' t')
    ?_ ?_ ?_ ?_ ?_ s s' hBetween o t hState
  · intros
    trivial
  · intros
    trivial
  · intro s o t hState
    exact ⟨t, .done t, hState⟩
  · intro s s' s'' hStep _ ih o t hState
    rcases hLast.drift o s s' t hStep hState with
      ⟨t', hStep', hState'⟩
    rcases ih o t' hState' with ⟨u, hSerial, hEnd⟩
    exact ⟨u, .drift hStep' hSerial, hEnd⟩
  · intro s s' s'' k hRuns _ _ ih o t hState
    rcases hRuns.serial hLast (hLast.entry o k s t hState)
      with ⟨t', u, hSettles, hSerial, hState'⟩
    rcases ih o u hState' with ⟨v, hSerial', hEnd⟩
    exact ⟨v, .call k hSettles (hSerial.trans hSerial'), hEnd⟩

/-
  What a recipient sees in the middle of a run is, but for what
  is still owed, what a serial run leaves behind.
-/
theorem Sees.serial
    (hLast : PaysLast C R)
    {p q : Proc σ π ε ρ}
    {s : σ}
    {o : ι}
    (hSees : Sees C p s)
    (hLeads : p.Leads C R o q) :
    ∃ o' t u, q.Settles C t ∧ Serial C t u ∧ R o' s u := by
  induction hSees generalizing o q with
  | here hPay hBetween =>
      rcases hLeads _ hPay with ⟨o', t, hSettles, hPaid, _⟩
      rcases hBetween.serial hLast hPaid with
        ⟨u, hSerial, hState⟩
      exact ⟨o', t, u, hSettles, hSerial, hState⟩
  | nested k hPay hBetween _ ih =>
      rcases hLeads _ hPay with ⟨o', t, hSettles, hPaid, _⟩
      rcases hBetween.serial hLast hPaid with
        ⟨u, hSerial, hState⟩
      rcases ih (hLast.entry o' k _ u hState) with
        ⟨o'', v, w, hCall, hSerial', hSeen⟩
      exact ⟨o'', t, w, hSettles,
        hSerial.trans (.call k hCall hSerial'), hSeen⟩
  | later hPay hBetween hSees _ =>
      rcases hLeads _ hPay with
        ⟨o', t, _, hPaid, hResume⟩
      rcases hBetween.serial hLast hPaid with
        ⟨u, _, hState⟩
      rcases hResume _ u hBetween hState with
        ⟨after, result, hFinish, _⟩
      -- Nothing is paid after the last payment.
      rw [hFinish] at hSees
      cases hSees

end Reentrancy

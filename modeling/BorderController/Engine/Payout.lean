import BorderController.Engine.Commits

/-
  Every record is paid out at most once, by the amount its
  buyer committed, and is never touched afterwards.

  Key definitions include:
    * `Op.isPayout`
    * `PaysOut`

  Key theorems include:
    * `payout_effect`
    * `paid_out_once`
-/

------------------------------------------------------------
-- Payouts
------------------------------------------------------------

namespace BorderController

namespace Engine

/- The four calls that release the amount of an order. -/
def Op.isPayout : Op → Bool
  | .sellerClaim _ _ => true
  | .sellerRefund _ _ => true
  | .buyerWithdraw _ _ => true
  | .timedRelease _ => true
  | _ => false

/- The call addresses the record at position `i`. -/
def Addresses
    (i : Nat)
    (tr : Transition CoreProverEngine Call) :
    Bool :=
  match tr.label.op.orderId? with
  | none => false
  | some orderId =>
      match tr.source.lookup orderId with
      | none => false
      | some (j, _) => i = j

/- A payout call that addresses record `i` returned `Ok`. -/
def PaysOut
    (i : Nat)
    (tr : Transition CoreProverEngine Call) :
    Bool :=
  tr.label.op.isPayout && tr.label.result.isOk &&
    Addresses i tr

variable [Chrono]
variable {engine engine' : CoreProverEngine}
variable {call : Call}
variable {i : Nat}

omit [Chrono] in
theorem addresses_iff
    {orderId : OrderId}
    {tr : Transition CoreProverEngine Call}
    (hOrder : tr.label.op.orderId? = some orderId) :
    Addresses i tr = true ↔
      ∃ escrow, tr.source.lookup orderId = some (i, escrow) := by
  unfold Addresses
  rw [hOrder]
  cases hLookup : tr.source.lookup orderId with
  | none => simp [hLookup]
  | some p =>
      rcases p with ⟨j, escrow⟩
      simp only [hLookup, decide_eq_true_eq,
        Option.some.injEq, Prod.mk.injEq]
      constructor
      · intro hSame
        exact ⟨escrow, hSame.symm, rfl⟩
      · rintro ⟨_, hSame, _⟩
        exact hSame.symm

omit [Chrono] in
/- The addressed record after it has been rewritten. -/
theorem getElem?_setEscrow
    {orderId : OrderId}
    {escrow escrow' : Escrow}
    (hLookup : engine.lookup orderId = some (i, escrow)) :
    (engine.escrows.set i escrow')[i]? = some escrow' := by
  have hGet := CoreProverEngine.getElem?_of_lookup hLookup
  have hBound := (List.getElem?_eq_some_iff.mp hGet).1
  simp [hBound]

/-
  A payout takes a record that is not settled to one that is,
  and returns its amount.
-/
theorem payout_effect
    (hStep : system.Step engine call engine')
    (hPays : PaysOut i ⟨engine, call, engine'⟩ = true) :
    ∃ escrow escrow' : Escrow,
      engine.escrows[i]? = some escrow ∧
        escrow.state.isTerminal = false ∧
        engine'.escrows[i]? = some escrow' ∧
        escrow'.state.isTerminal = true ∧
        call.result = .ok (.amount escrow.amount) := by
  rcases call with ⟨op, result⟩
  simp only [PaysOut, Bool.and_eq_true] at hPays
  rcases hPays with ⟨⟨hPayout, hOk⟩, hAddresses⟩
  cases step_effect hStep with
  | refused message => simp [Except.isOk, Except.toBool] at hOk
  | @settled _ settlement j idx amount escrow escrow' receipt
      hSettle hLookup hBlock hReceipt =>
      rcases (addresses_iff
          (Op.orderId?_of_settlement hSettle)).mp
          hAddresses with
        ⟨_, hHere⟩
      rw [hLookup] at hHere
      cases hHere
      rcases Settlement.block_ok hSettle hBlock with
        ⟨hClaimable, hAmount, txid, hEq⟩
      refine ⟨escrow, escrow',
        CoreProverEngine.getElem?_of_lookup hLookup, ?_,
        getElem?_setEscrow hLookup, ?_, by rw [hAmount]⟩
      · cases hState : escrow.state <;>
          simp [hState, EscrowState.isClaimable,
            EscrowState.isTerminal] at hClaimable ⊢
      · rw [hEq, Escrow.settle_state]
        cases settlement.refunded <;> rfl
  | @withdrawn orderId txid j amount escrow escrow' hLookup
      hBlock =>
      rcases (addresses_iff rfl).mp hAddresses with
        ⟨_, hHere⟩
      rw [hLookup] at hHere
      cases hHere
      rcases Escrow.buyerWithdraw_ok_iff.mp hBlock with
        ⟨hOpen, hAmount, hEq⟩
      refine ⟨escrow, escrow',
        CoreProverEngine.getElem?_of_lookup hLookup, ?_,
        getElem?_setEscrow hLookup, ?_, by rw [hAmount]⟩
      · rcases hOpen with hState | ⟨hState, _⟩ <;>
        · rw [hState]
          rfl
      · rw [hEq]
        rfl
  | unreceipted hSettle =>
      simp [Except.isOk, Except.toBool] at hOk
  | _ => simp [Op.isPayout] at hPayout

end Engine

end BorderController

------------------------------------------------------------
-- Settled Records
------------------------------------------------------------

namespace BorderController

namespace Engine

/- The record at position `i` has been settled. -/
def CoreProverEngine.SettledAt
    (i : Nat)
    (engine : CoreProverEngine) :
    Prop :=
  ∃ escrow : Escrow,
    engine.escrows[i]? = some escrow ∧
      escrow.state.isTerminal = true

variable [Chrono]
variable {es : List (Transition CoreProverEngine Call)}
variable {engine engine' : CoreProverEngine}
variable {call : Call}
variable {i : Nat}
variable {escrow : Escrow}

/- A call leaves a settled record as it is. -/
theorem step_settled
    (hTerminal : escrow.state.isTerminal = true)
    (hGet : engine.escrows[i]? = some escrow)
    (hStep : system.Step engine call engine') :
    engine'.escrows[i]? = some escrow := by
  rcases step_record hStep hGet with
    ⟨escrow', hGet', rfl | ⟨_, _, _, hChange⟩⟩
  · exact hGet'
  · rw [hChange.eq_of_isTerminal hTerminal] at hGet'
    exact hGet'

theorem path_settled
    (hTerminal : escrow.state.isTerminal = true)
    (hGet : engine.escrows[i]? = some escrow)
    (hPath : system.Path engine es engine') :
    engine'.escrows[i]? = some escrow :=
  hPath.invariant
    (fun engine => engine.escrows[i]? = some escrow) hGet
    (step_settled hTerminal)

theorem step_settledAt
    (hSettled : engine.SettledAt i)
    (hStep : system.Step engine call engine') :
    engine'.SettledAt i := by
  rcases hSettled with ⟨escrow, hGet, hTerminal⟩
  exact ⟨escrow, step_settled hTerminal hGet hStep, hTerminal⟩

theorem not_paysOut_of_settledAt
    (hSettled : engine.SettledAt i)
    (hStep : system.Step engine call engine') :
    ¬ PaysOut i ⟨engine, call, engine'⟩ = true := by
  intro hPays
  rcases hSettled with ⟨escrow, hGet, hTerminal⟩
  rcases payout_effect hStep hPays with
    ⟨before, _, hBefore, hOpen, _⟩
  rw [hGet] at hBefore
  cases hBefore
  rw [hTerminal] at hOpen
  contradiction

/- At most one payout of a record succeeds. -/
theorem IsRun.countP_paysOut_le_one
    (hRun : IsRun es engine)
    (i : Nat) :
    es.countP (PaysOut i) ≤ 1 := by
  rcases hRun with ⟨chainId, interval, genesis, hPath⟩
  refine hPath.countP_le_one (PaysOut i)
    (CoreProverEngine.SettledAt i) ?_ step_settledAt
    not_paysOut_of_settledAt
  intro t l u hStep hPays
  rcases payout_effect hStep hPays with
    ⟨_, escrow', _, _, hGet', hTerminal', _⟩
  exact ⟨escrow', hGet', hTerminal'⟩

/- A payout returns what the record's buyer committed. -/
theorem IsRun.paysOut_amount
    {tr : Transition CoreProverEngine Call}
    (hRun : IsRun es engine)
    (hMem : tr ∈ es)
    (hPays : PaysOut i tr = true) :
    ∃ orderId amount,
      (commits es)[i]? = some (orderId, amount) ∧
        tr.label.result = .ok (.amount amount) := by
  rcases List.append_of_mem hMem with ⟨before, after, hEs⟩
  subst hEs
  rcases hRun.split with ⟨hBefore, hStep, _⟩
  rcases payout_effect hStep hPays with
    ⟨escrow, _, hGet, _, _, _, hResult⟩
  refine ⟨escrow.orderId, escrow.amount, ?_, hResult⟩
  have hCommit :
      (commits before)[i]? =
        some (escrow.orderId, escrow.amount) := by
    rw [hBefore.commits_eq, List.getElem?_map, hGet]
    rfl
  have hSplit :
      commits (before ++ tr :: after) =
        commits before ++ commits (tr :: after) := by
    simp [commits]
  have hBound := (List.getElem?_eq_some_iff.mp hCommit).1
  rw [hSplit, List.getElem?_append_left hBound]
  exact hCommit

/-
  At most one payout call on a record succeeds in a run, it
  returns the amount committed for the record, and a settled
  record never changes.
-/
theorem paid_out_once
    (hRun : IsRun es engine)
    (hGet : engine.escrows[i]? = some escrow) :
    es.countP (PaysOut i) ≤ 1 ∧
      (∃ orderId amount,
        (commits es)[i]? = some (orderId, amount) ∧
          ∀ tr ∈ es,
            PaysOut i tr = true →
            tr.label.result = .ok (.amount amount)) ∧
      (escrow.state.isTerminal = true →
        ∀ later engine',
          system.Path engine later engine' →
          engine'.escrows[i]? = some escrow) := by
  have hCommit :
      (commits es)[i]? =
        some (escrow.orderId, escrow.amount) := by
    rw [hRun.commits_eq, List.getElem?_map, hGet]
    rfl
  refine ⟨hRun.countP_paysOut_le_one i,
    ⟨escrow.orderId, escrow.amount, hCommit, ?_⟩, ?_⟩
  · intro tr hMem hPays
    rcases hRun.paysOut_amount hMem hPays with
      ⟨orderId, amount, hCommit', hResult⟩
    rw [hCommit] at hCommit'
    cases hCommit'
    exact hResult
  · intro hTerminal later engine' hPath
    exact path_settled hTerminal hGet hPath

end Engine

end BorderController

------------------------------------------------------------
-- A Second Payout That Fails
------------------------------------------------------------

namespace BorderController

namespace Engine

local instance payoutChrono : Chrono := utcChrono

/- Deliver, claim, then try a refund and a timed release. -/
def secondPayoutOps : List Op :=
  deliveryOps 3600 ++
    [ .sellerClaim (orderIdOf 1) "0x4",
      .sellerRefund (orderIdOf 1) "0x5",
      .advanceTime 3600,
      .timedRelease (orderIdOf 1) ]

/- The claim is the only payout, and it pays 25. -/
theorem paid_out_once_claimed :
    (play secondPayoutOps (.new 1 12 0)).1.countP
        (PaysOut 0) ≤ 1 ∧
      ∃ orderId amount,
        (commits (play secondPayoutOps (.new 1 12 0)).1)[0]? =
            some (orderId, amount) ∧
          ∀ tr ∈ (play secondPayoutOps (.new 1 12 0)).1,
            PaysOut 0 tr = true →
            tr.label.result = .ok (.amount amount) := by
  have hOnce :=
    paid_out_once (i := 0)
      (play_isRun secondPayoutOps 1 12 0) rfl
  exact ⟨hOnce.1, hOnce.2.1⟩

end Engine

end BorderController

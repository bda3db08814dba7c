import BorderController.Engine.Effect

/-
  Re-locking of the buyer's withdrawal by a fulfilment.

  An on-time fulfilment locks withdrawal for good.  A late one
  leaves the order in `FulfillmentExpired`, the state of an
  order whose withdrawal is open.

  Key definitions include:
    * `FulfilledOnTime`
    * `Relocked`

  Key theorems include:
    * `relocked_iff_fulfilledOnTime`
-/

------------------------------------------------------------
-- Fulfilments on Time
------------------------------------------------------------

namespace BorderController

namespace Engine

/-
  The addressed record is not past its fulfilment deadline when
  the call is made.
-/
def FulfilledOnTime
    [Chrono]
    (orderId : OrderId)
    (tr : Transition CoreProverEngine Call) :
    Prop :=
  ∀ i escrow,
    tr.source.lookup orderId = some (i, escrow) →
    escrow.isLate tr.source.now = false

/- No withdrawal of the order follows a fulfilment of it. -/
def Relocked
    (orderId : OrderId)
    (es : List (Transition CoreProverEngine Call)) :
    Prop :=
  ∀ before tr after,
    es = before ++ tr :: after →
    Fulfils orderId tr →
    ∀ tr' ∈ after, ¬ Withdraws orderId tr'

end Engine

end BorderController

------------------------------------------------------------
-- Locked Orders
------------------------------------------------------------

namespace BorderController

namespace Engine

/- The states an order never leaves towards a withdrawal. -/
def EscrowState.isLocked : EscrowState → Bool
  | .sellerFulfilled => true
  | .sellerClaimed => true
  | .sellerRefunded => true
  | _ => false

/- The order addresses a record in a locked state. -/
def CoreProverEngine.Locked
    (orderId : OrderId)
    (engine : CoreProverEngine) :
    Prop :=
  ∃ i escrow,
    engine.lookup orderId = some (i, escrow) ∧
      escrow.state.isLocked = true

variable [Chrono]
variable {engine engine' : CoreProverEngine}
variable {call : Call}
variable {orderId : OrderId}
variable {escrow escrow' : Escrow}

theorem Escrow.Change.isLocked
    {op : Op}
    (hChange : Escrow.Change engine op escrow escrow')
    (hLocked : escrow.state.isLocked = true) :
    escrow'.state.isLocked = true := by
  cases hChange with
  | accept hBlock =>
      rw [(Escrow.sellerAccept_ok_iff.mp hBlock).1]
        at hLocked
      contradiction
  | fulfill hBlock =>
      have hCan := (Escrow.sellerFulfill_ok_iff.mp hBlock).1
      cases hState : escrow.state <;>
        simp [hState, EscrowState.canFulfill,
          EscrowState.isLocked] at hCan hLocked
  | @settle _ settlement _ _ _ hSettle hBlock =>
      rcases Settlement.block_ok hSettle hBlock with
        ⟨_, _, txid, hEq⟩
      rw [hEq, Escrow.settle_state]
      cases settlement.refunded <;> rfl
  | withdraw hBlock =>
      rcases (Escrow.buyerWithdraw_ok_iff.mp hBlock).1 with
        hState | ⟨hState, _⟩ <;>
      · rw [hState] at hLocked
        contradiction
  | refresh =>
      rw [Escrow.updateState_eq, if_neg]
      · exact hLocked
      · rintro ⟨hState, _⟩
        rw [hState] at hLocked
        contradiction

/- A locked order stays locked. -/
theorem step_locked
    (hLocked : engine.Locked orderId)
    (hStep : system.Step engine call engine') :
    engine'.Locked orderId := by
  rcases hLocked with ⟨i, escrow, hLookup, hState⟩
  rcases step_lookup hStep hLookup with
    ⟨escrow', hLookup', rfl | ⟨_, hChange⟩⟩
  · exact ⟨i, escrow', hLookup', hState⟩
  · exact ⟨i, escrow', hLookup', hChange.isLocked hState⟩

/- Withdrawal of a locked order is refused. -/
theorem not_withdraws_of_locked
    (hLocked : engine.Locked orderId)
    (hStep : system.Step engine call engine') :
    ¬ Withdraws orderId ⟨engine, call, engine'⟩ := by
  rcases hLocked with ⟨i, escrow, hLookup, hState⟩
  rintro ⟨txid, reply, hLabel⟩
  simp only at hLabel
  subst hLabel
  cases step_effect hStep with
  | withdrawn hLookup' hBlock =>
      rw [hLookup] at hLookup'
      cases hLookup'
      rcases (Escrow.buyerWithdraw_ok_iff.mp hBlock).1 with
        hOpen | ⟨hOpen, _⟩ <;>
      · rw [hOpen] at hState
        contradiction
  | settled hSettle => simp [Op.settlement] at hSettle

end Engine

end BorderController

------------------------------------------------------------
-- What a Fulfilment Leaves
------------------------------------------------------------

namespace BorderController

namespace Engine

variable [Chrono]
variable {engine engine' : CoreProverEngine}
variable {orderId : OrderId}
variable {txid : String}

/- A fulfilment leaves `SellerFulfilled` if on time. -/
theorem step_fulfilled
    (hStep :
      system.Step engine
        ⟨.sellerFulfill orderId txid, .ok .done⟩ engine') :
    ∃ i escrow escrow',
      engine.lookup orderId = some (i, escrow) ∧
        engine'.lookup orderId = some (i, escrow') ∧
        escrow'.state =
          if escrow.isLate engine.now then
            .fulfillmentExpired
          else
            .sellerFulfilled := by
  cases step_effect hStep with
  | @fulfilled _ _ i late escrow escrow' hLookup hBlock =>
      have hSpec := Escrow.sellerFulfill_ok_iff.mp hBlock
      refine ⟨i, escrow, escrow', hLookup, ?_, ?_⟩
      · exact CoreProverEngine.lookup_setEscrow_self hLookup
          (by rw [hSpec.2.2.2])
      · rw [hSpec.2.2.2]

/- An on-time fulfilment locks the order. -/
theorem locked_of_onTime
    (hStep :
      system.Step engine
        ⟨.sellerFulfill orderId txid, .ok .done⟩ engine')
    (hOnTime :
      FulfilledOnTime orderId
        ⟨engine, ⟨.sellerFulfill orderId txid, .ok .done⟩,
          engine'⟩) :
    engine'.Locked orderId := by
  rcases step_fulfilled hStep with
    ⟨i, escrow, escrow', hLookup, hLookup', hState⟩
  refine ⟨i, escrow', hLookup', ?_⟩
  rw [hState, hOnTime i escrow hLookup]
  rfl

/- An order left in `FulfillmentExpired` can be withdrawn. -/
theorem exists_withdraws_of_expired
    {i : Nat}
    {escrow : Escrow}
    (hLookup : engine.lookup orderId = some (i, escrow))
    (hState : escrow.state = .fulfillmentExpired) :
    ∃ call engine',
      system.Step engine call engine' ∧
        Withdraws orderId ⟨engine, call, engine'⟩ := by
  have hBlock :
      escrow.buyerWithdraw engine.now none =
        .ok (escrow.amount, _) :=
    Escrow.buyerWithdraw_ok_iff.mpr
      ⟨Or.inl hState, rfl, rfl⟩
  have hExec := exec_buyerWithdraw orderId engine none
  rw [borrow_of_ok hLookup hBlock] at hExec
  exact ⟨⟨_, _⟩, _, hExec, none, _, rfl⟩

end Engine

end BorderController

------------------------------------------------------------
-- Re-Locking
------------------------------------------------------------

namespace BorderController

namespace Engine

variable [Chrono]
variable {es : List (Transition CoreProverEngine Call)}
variable {engine engine' : CoreProverEngine}
variable {orderId : OrderId}

/-
  Whatever follows, no withdrawal succeeds after a fulfilment,
  exactly when the fulfilment was on time.
-/
private theorem never_withdraws_iff
    {call : Call}
    (hStep : system.Step engine call engine')
    (hFulfils : Fulfils orderId ⟨engine, call, engine'⟩) :
    (∀ after engine'',
        system.Path engine' after engine'' →
        ∀ tr ∈ after, ¬ Withdraws orderId tr) ↔
      FulfilledOnTime orderId ⟨engine, call, engine'⟩ := by
  rcases hFulfils with ⟨txid, hLabel⟩
  simp only at hLabel
  subst hLabel
  constructor
  · intro hNever i escrow hLookup
    by_contra hLate
    rcases step_fulfilled hStep with
      ⟨j, before, escrow', hBefore, hLookup', hState⟩
    simp only at hLookup
    rw [hBefore] at hLookup
    cases hLookup
    simp only [Bool.not_eq_false] at hLate
    rw [if_pos hLate] at hState
    rcases exists_withdraws_of_expired hLookup' hState with
      ⟨call, engine'', hNext, hWithdraws⟩
    exact hNever _ _ (.single hNext) _
      List.mem_cons_self hWithdraws
  · intro hOnTime after engine'' hPath
    exact hPath.never
      (CoreProverEngine.Locked orderId) (Withdraws orderId)
      step_locked not_withdraws_of_locked
      (locked_of_onTime hStep hOnTime)

/-
  A run whose fulfilments of an order are all on time re-locks
  it, and each fulfilment of a run excludes every later
  withdrawal exactly when it is on time.
-/
theorem relocked_iff_fulfilledOnTime
    (hRun : IsRun es engine)
    (orderId : OrderId) :
    ((∀ tr ∈ es,
        Fulfils orderId tr → FulfilledOnTime orderId tr) →
      Relocked orderId es) ∧
    ∀ before tr after,
      es = before ++ tr :: after →
      Fulfils orderId tr →
      ((∀ later engine',
          IsRun (before ++ tr :: later) engine' →
          ∀ tr' ∈ later, ¬ Withdraws orderId tr') ↔
        FulfilledOnTime orderId tr) := by
  have hSplit :
      ∀ before tr after,
        es = before ++ tr :: after →
        Fulfils orderId tr →
        ((∀ later engine',
            IsRun (before ++ tr :: later) engine' →
            ∀ tr' ∈ later, ¬ Withdraws orderId tr') ↔
          FulfilledOnTime orderId tr) := by
    intro before tr after hEs hFulfils
    subst hEs
    rcases hRun.split with ⟨hBefore, hStep, _⟩
    rw [← never_withdraws_iff hStep hFulfils]
    constructor
    · intro hNever later engine' hPath
      exact hNever later engine'
        (hBefore.append (.cons hStep hPath))
    · intro hNever later engine' hLater
      exact hNever later engine' hLater.split.2.2
  refine ⟨?_, hSplit⟩
  intro hOnTime before tr after hEs hFulfils
  have hHere : tr ∈ es := by
    rw [hEs]
    exact List.mem_append_right _ List.mem_cons_self
  subst hEs
  exact (hSplit before tr after rfl hFulfils).mpr
    (hOnTime tr hHere hFulfils) after engine hRun

end Engine

end BorderController

------------------------------------------------------------
-- A Late Delivery That Is Withdrawn
------------------------------------------------------------

namespace BorderController

namespace Engine

local instance relockChrono : Chrono := utcChrono

/- The buyer withdraws what was delivered a second late. -/
theorem late_fulfilment_not_relocked :
    ∃ es engine,
      IsRun es engine ∧ ¬ Relocked (orderIdOf 1) es := by
  refine ⟨_, _,
    play_isRun
      (deliveryOps 3601 ++
        [.buyerWithdraw (orderIdOf 1) none])
      1 12 0, ?_⟩
  intro hRelocked
  exact hRelocked
    (play ((deliveryOps 3601).take 3) (.new 1 12 0)).1
    _ _ rfl ⟨"0x3", rfl⟩ _ List.mem_cons_self
    ⟨none, _, rfl⟩

/- The buyer tries to withdraw what was delivered in time. -/
def promptOps : List Op :=
  deliveryOps 3600 ++ [.buyerWithdraw (orderIdOf 1) none]

/- Delivered within the hour, the order is re-locked, and the
   withdrawal is refused. -/
theorem relocked_prompt :
    Relocked (orderIdOf 1)
        (play promptOps (.new 1 12 0)).1 ∧
      (play promptOps (.new 1 12 0)).1.map
          (fun tr => tr.label.result.isOk) =
        [true, true, true, true, false] := by
  have hTimes :
      ∀ tr ∈ (play promptOps (.new 1 12 0)).1,
        (tr.source.lookup (orderIdOf 1)).all
            (fun p => !p.2.isLate tr.source.now) =
          true := by
    decide +kernel
  have hRun := play_isRun promptOps 1 12 0
  constructor
  · apply (relocked_iff_fulfilledOnTime hRun (orderIdOf 1)).1
    intro tr hMem _ i escrow hLookup
    simpa [hLookup] using hTimes tr hMem
  · decide +kernel

end Engine

end BorderController

import BorderController.Engine.Effect

/-
  The transitions of the engine against the table of the model
  checker that tests it.

  The table has no transition into `FulfillmentExpired` and
  none from it to itself, and the engine makes both.

  Key definitions include:
    * `ModelChecker.validateTransition`
    * `RefinesTable`
    * `Expires`

  Key theorems include:
    * `step_refinesTable_iff`
    * `refinesTable_iff`
-/

------------------------------------------------------------
-- The Table
------------------------------------------------------------

namespace BorderController

namespace Engine

/- The last case allows a settled order to stay as it is. -/
def ModelChecker.validateTransition :
    EscrowState → EscrowState → Except String Unit
  | .buyerCommitted, .sellerAccepted => .ok ()
  | .sellerAccepted, .sellerFulfilled => .ok ()
  | .sellerFulfilled, .sellerClaimed => .ok ()
  | .sellerFulfilled, .sellerRefunded => .ok ()
  | .fulfillmentExpired, .sellerClaimed => .ok ()
  | .fulfillmentExpired, .sellerRefunded => .ok ()
  | _, .buyerWithdrawn => .ok ()
  | source, target =>
      if source = target ∧ source.isTerminal = true then
        .ok ()
      else
        .error
          ("invalid transition: " ++ source.debug ++ " -> " ++
            target.debug)

/- The calls that the table is about even if nothing changes. -/
def Op.isMove : Op → Bool
  | .sellerFulfill .. => true
  | .sellerClaim .. => true
  | .sellerRefund .. => true
  | .buyerWithdraw .. => true
  | .timedRelease _ => true
  | _ => false

/- If the call returns `Ok`, the table has its transition. -/
def RefinesTable
    (tr : Transition CoreProverEngine Call) :
    Prop :=
  ∀ orderId reply source target,
    tr.label.op.orderId? = some orderId →
    tr.label.result = .ok reply →
    tr.source.getState orderId = .ok source →
    tr.target.getState orderId = .ok target →
    source ≠ target ∨ tr.label.op.isMove = true →
    ModelChecker.validateTransition source target = .ok ()

variable [Chrono]

/-
  The call lets an accepted order expire, or fulfils one that
  has expired.
-/
def Expires
    (engine : CoreProverEngine)
    (op : Op) :
    Prop :=
  ∃ orderId i escrow,
    engine.lookup orderId = some (i, escrow) ∧
      (op = .updateState orderId ∧
          escrow.state = .sellerAccepted ∧
          escrow.isLate engine.now = true ∨
        ∃ txid,
          op = .sellerFulfill orderId txid ∧
            RustString.isBlank txid = false ∧
            (escrow.state = .sellerAccepted ∧
                escrow.isLate engine.now = true ∨
              escrow.state = .fulfillmentExpired))

end Engine

end BorderController

------------------------------------------------------------
-- States Along a Step
------------------------------------------------------------

namespace BorderController

namespace Engine

variable {engine engine' : CoreProverEngine}
variable {orderId : OrderId}
variable {i : Nat}
variable {escrow : Escrow}

theorem CoreProverEngine.getState_of_lookup
    (hLookup : engine.lookup orderId = some (i, escrow)) :
    engine.getState orderId = .ok escrow.state := by
  unfold CoreProverEngine.getState
  rw [CoreProverEngine.getEscrow_eq, hLookup]
  rfl

/- A state that is shown is the state of a record found. -/
theorem CoreProverEngine.exists_lookup_of_getState
    {state : EscrowState}
    (hState : engine.getState orderId = .ok state) :
    ∃ i escrow,
      engine.lookup orderId = some (i, escrow) ∧
        escrow.state = state := by
  unfold CoreProverEngine.getState at hState
  rw [CoreProverEngine.getEscrow_eq] at hState
  cases hLookup : engine.lookup orderId with
  | none =>
      rw [hLookup] at hState
      contradiction
  | some p =>
      rw [hLookup] at hState
      cases hState
      exact ⟨p.1, p.2, rfl, rfl⟩

variable [Chrono]
variable {op : Op}
variable {reply : Reply}

/- A call that returns `Ok` has changed the record found. -/
theorem Effect.change_of_ok
    (hEffect : Effect engine op (.ok reply) engine')
    (hOrder : op.orderId? = some orderId)
    (hLookup : engine.lookup orderId = some (i, escrow)) :
    ∃ escrow',
      engine'.lookup orderId = some (i, escrow') ∧
        Escrow.Change engine op escrow escrow' := by
  have hWrite :
      ∀ {escrow'},
        Escrow.Change engine op escrow escrow' →
        (engine.setEscrow i escrow').lookup orderId =
          some (i, escrow') := by
    intro escrow' hChange
    exact CoreProverEngine.lookup_setEscrow_self hLookup
      hChange.identity.1
  cases hEffect with
  | committed hTxid => contradiction
  | advanced hAdvance => contradiction
  | accepted hFound hBlock =>
      cases hOrder
      rw [hLookup] at hFound
      cases hFound
      exact ⟨_, hWrite (.accept hBlock), .accept hBlock⟩
  | fulfilled hFound hBlock =>
      cases hOrder
      rw [hLookup] at hFound
      cases hFound
      exact ⟨_, hWrite (.fulfill hBlock), .fulfill hBlock⟩
  | settled hSettle hFound hBlock hReceipt =>
      rw [Op.orderId?_of_settlement hSettle] at hOrder
      cases hOrder
      rw [hLookup] at hFound
      cases hFound
      exact ⟨_, hWrite (.settle hSettle hBlock),
        .settle hSettle hBlock⟩
  | withdrawn hFound hBlock =>
      cases hOrder
      rw [hLookup] at hFound
      cases hFound
      exact ⟨_, hWrite (.withdraw hBlock), .withdraw hBlock⟩
  | refreshed hFound =>
      cases hOrder
      rw [hLookup] at hFound
      cases hFound
      exact ⟨_, hWrite .refresh, .refresh⟩

end Engine

end BorderController

------------------------------------------------------------
-- Changes in the Table
------------------------------------------------------------

namespace BorderController

namespace Engine

theorem ModelChecker.validateTransition_buyerWithdrawn
    (state : EscrowState) :
    validateTransition state .buyerWithdrawn = .ok () := by
  cases state <;> rfl

/- Either way of settling is in the table. -/
theorem ModelChecker.validateTransition_settled
    {state : EscrowState}
    (refunded : Bool)
    (hClaimable : state.isClaimable = true) :
    validateTransition state
        (if refunded then .sellerRefunded
          else .sellerClaimed) =
      .ok () := by
  cases refunded <;> cases state <;>
    first
      | rfl
      | contradiction

variable [Chrono]
variable {engine engine' : CoreProverEngine}
variable {op : Op}
variable {escrow escrow' : Escrow}

/- Changes are in the table, but for those of expired orders. -/
theorem Escrow.Change.validateTransition
    {orderId : OrderId}
    {i : Nat}
    (hChange : Escrow.Change engine op escrow escrow')
    (hOrder : op.orderId? = some orderId)
    (hLookup : engine.lookup orderId = some (i, escrow))
    (hNot : ¬ Expires engine op)
    (hMove :
      escrow.state ≠ escrow'.state ∨ op.isMove = true) :
    ModelChecker.validateTransition escrow.state
        escrow'.state =
      .ok () := by
  cases hChange with
  | accept hBlock =>
      rcases Escrow.sellerAccept_ok_iff.mp hBlock with
        ⟨hState, _, _, hEq⟩
      rw [hEq, hState]
      rfl
  | @fulfill _ txid _ _ _ hBlock =>
      cases hOrder
      rcases Escrow.sellerFulfill_ok_iff.mp hBlock with
        ⟨hCan, hTxid, _, hEq⟩
      have hOpen :
          ¬ (escrow.state = .sellerAccepted ∧
                escrow.isLate engine.now = true ∨
              escrow.state = .fulfillmentExpired) := by
        intro hExpired
        exact hNot
          ⟨orderId, i, escrow, hLookup,
            Or.inr ⟨txid, rfl, hTxid, hExpired⟩⟩
      have hState : escrow.state = .sellerAccepted := by
        cases hState : escrow.state with
        | sellerAccepted => rfl
        | fulfillmentExpired =>
            exact absurd (Or.inr hState) hOpen
        | _ => simp [hState, EscrowState.canFulfill] at hCan
      have hLate : ¬ escrow.isLate engine.now = true :=
        fun hLate => hOpen (Or.inl ⟨hState, hLate⟩)
      rw [hEq, hState]
      simp only [hLate]
      rfl
  | settle hSettle hBlock =>
      rcases Settlement.block_ok hSettle hBlock with
        ⟨hClaimable, _, txid, hEq⟩
      rw [hEq, Escrow.settle_state]
      exact ModelChecker.validateTransition_settled _
        hClaimable
  | withdraw hBlock =>
      rw [(Escrow.buyerWithdraw_ok_iff.mp hBlock).2.2]
      exact ModelChecker.validateTransition_buyerWithdrawn _
  | refresh =>
      cases hOrder
      rw [Escrow.updateState_eq, if_neg] at hMove
      · simp [Op.isMove] at hMove
      · rintro ⟨hState, hLate⟩
        exact hNot
          ⟨orderId, i, escrow, hLookup,
            Or.inl ⟨rfl, hState, hLate⟩⟩

omit [Chrono] in
/- What the table says of a call that returns `Ok`. -/
theorem RefinesTable.validateTransition
    {call : Call}
    {reply : Reply}
    {orderId : OrderId}
    {i : Nat}
    (hRefines : RefinesTable ⟨engine, call, engine'⟩)
    (hOrder : call.op.orderId? = some orderId)
    (hOk : call.result = .ok reply)
    (hLookup : engine.lookup orderId = some (i, escrow))
    (hLookup' : engine'.lookup orderId = some (i, escrow'))
    (hMove :
      escrow.state ≠ escrow'.state ∨
        call.op.isMove = true) :
    ModelChecker.validateTransition escrow.state
        escrow'.state =
      .ok () :=
  hRefines orderId reply escrow.state escrow'.state hOrder hOk
    (CoreProverEngine.getState_of_lookup hLookup)
    (CoreProverEngine.getState_of_lookup hLookup') hMove

/- An order that expires makes a transition of no table. -/
theorem exec_expires
    {result : Except String Reply}
    (hExpires : Expires engine op)
    (hExec : exec op engine = some (result, engine')) :
    ¬ RefinesTable ⟨engine, ⟨op, result⟩, engine'⟩ := by
  intro hRefines
  rcases hExpires with
    ⟨orderId, i, escrow, hLookup,
      ⟨hOp, hState, hLate⟩ | ⟨txid, hOp, hTxid, hState⟩⟩
  · subst hOp
    have hAfter := escrow.updateState_eq engine.now
    rw [if_pos ⟨hState, hLate⟩] at hAfter
    rw [exec_updateState, borrow_of_ok hLookup rfl, hAfter,
      Option.some.injEq, Prod.mk.injEq] at hExec
    rcases hExec with ⟨hResult, hEngine⟩
    subst hResult hEngine
    have hListed :=
      hRefines.validateTransition rfl rfl hLookup
        (CoreProverEngine.lookup_setEscrow_self hLookup rfl)
        (Or.inl (by simp [hState]))
    rw [hState] at hListed
    contradiction
  · subst hOp
    have hCan : escrow.state.canFulfill = true := by
      rcases hState with ⟨hState, _⟩ | hState <;>
      · rw [hState]
        rfl
    have hBlock :
        escrow.sellerFulfill engine.now txid = .ok (_, _) :=
      Escrow.sellerFulfill_ok_iff.mpr
        ⟨hCan, hTxid, rfl, rfl⟩
    rw [exec_sellerFulfill, borrow_of_ok hLookup hBlock,
      Option.some.injEq, Prod.mk.injEq] at hExec
    rcases hExec with ⟨hResult, hEngine⟩
    subst hResult hEngine
    have hListed :=
      hRefines.validateTransition rfl rfl hLookup
        (CoreProverEngine.lookup_setEscrow_self hLookup rfl)
        (Or.inr rfl)
    rcases hState with ⟨hState, hLate⟩ | hState
    · simp only [hState, hLate] at hListed
      contradiction
    · rw [hState] at hListed
      cases hLate : escrow.isLate engine.now <;>
      · simp only [hLate] at hListed
        contradiction

theorem step_refinesTable_iff
    {call : Call}
    (hStep : system.Step engine call engine') :
    RefinesTable ⟨engine, call, engine'⟩ ↔
      ¬ Expires engine call.op := by
  constructor
  · intro hRefines hExpires
    exact exec_expires hExpires hStep hRefines
  · intro hNot orderId reply source target hOrder hOk
      hSource hTarget hMove
    rcases CoreProverEngine.exists_lookup_of_getState hSource
      with ⟨i, escrow, hLookup, hBefore⟩
    have hEffect := step_effect hStep
    simp only at hOk hOrder hTarget hMove
    rw [hOk] at hEffect
    rcases hEffect.change_of_ok hOrder hLookup with
      ⟨escrow', hLookup', hChange⟩
    rw [CoreProverEngine.getState_of_lookup hLookup']
      at hTarget
    cases hTarget
    subst hBefore
    exact hChange.validateTransition hOrder hLookup hNot hMove

/-
  All transitions of a run are in the table, exactly when no
  call lets an order expire or fulfils an expired one.
-/
theorem refinesTable_iff
    {es : List (Transition CoreProverEngine Call)}
    (hRun : IsRun es engine) :
    (∀ tr ∈ es, RefinesTable tr) ↔
      ∀ tr ∈ es, ¬ Expires tr.source tr.label.op := by
  refine forall₂_congr ?_
  intro tr hMem
  rcases List.append_of_mem hMem with ⟨before, after, hEs⟩
  subst hEs
  exact step_refinesTable_iff hRun.split.2.1

end Engine

end BorderController

------------------------------------------------------------
-- An Order That Expires
------------------------------------------------------------

namespace BorderController

namespace Engine

local instance tableChrono : Chrono := utcChrono

/- `update_state` past the deadline is not in the table. -/
theorem overdue_not_refinesTable :
    ∃ es engine,
      IsRun es engine ∧ ¬ ∀ tr ∈ es, RefinesTable tr := by
  refine ⟨_, _, play_isRun overdueOps 1 12 0, ?_⟩
  intro hRefines
  have hListed :=
    hRefines _ (List.getLast_mem (List.cons_ne_nil _ _))
      (orderIdOf 1) .done .sellerAccepted .fulfillmentExpired
      rfl rfl rfl rfl (Or.inl (by decide))
  contradiction

/- A delivery on time keeps to the table. -/
theorem prompt_refinesTable :
    ∃ es engine,
      IsRun es engine ∧
        es.length = 5 ∧ ∀ tr ∈ es, RefinesTable tr := by
  have hRun :=
    play_isRun
      (deliveryOps 3600 ++
        [.sellerClaim (orderIdOf 1) "0x4"])
      1 12 0
  refine ⟨_, _, hRun, rfl, (refinesTable_iff hRun).mpr ?_⟩
  have hStates :
      ∀ tr ∈ (play
          (deliveryOps 3600 ++
            [.sellerClaim (orderIdOf 1) "0x4"])
          (.new 1 12 0)).1,
        ∀ escrow ∈ tr.source.escrows,
          escrow.state ≠ .fulfillmentExpired ∧
            escrow.isLate tr.source.now = false := by
    decide +kernel
  rintro tr hMem ⟨orderId, i, escrow, hLookup, hExpires⟩
  have hThere := CoreProverEngine.mem_of_lookup hLookup
  rcases hStates tr hMem escrow hThere with ⟨hState, hLate⟩
  rw [hLate] at hExpires
  simp [hState] at hExpires

end Engine

end BorderController

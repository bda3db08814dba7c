import BorderController.Engine.Delivery

/-
  `update_state` as a refresh before another call.

  `seller_fulfill` looks at the fulfilment deadline itself; the
  withdrawal and the settling calls look at the label only, so
  they see an overdue order as overdue only if somebody
  refreshed it.

  Key definitions include:
    * `Escrow.relabel`
    * `RefreshAgrees`
    * `ReadsStaleLabel`

  Key theorems include:
    * `refreshAgrees_iff`
-/

------------------------------------------------------------
-- Agreement With a Refreshed Call
------------------------------------------------------------

namespace BorderController

namespace Engine

/- The record with the label of an overdue order. -/
def Escrow.expire (escrow : Escrow) : Escrow :=
  { escrow with state := .fulfillmentExpired }

/- Forget whether an overdue order is labelled as such. -/
def Escrow.relabel (escrow : Escrow) : Escrow :=
  if escrow.state = .sellerAccepted then
    escrow.expire
  else
    escrow

variable [Chrono]

/-
  The call does the same to the order with and without a
  refresh just before it: the same reply and the same record,
  or a failure and the same record up to its label.
-/
def RefreshAgrees
    (orderId : OrderId)
    (engine : CoreProverEngine)
    (op : Op) :
    Prop :=
  ∀ result engine' refreshed mid result' fresh,
    exec op engine = some (result, engine') →
    exec (.updateState orderId) engine =
      some (refreshed, mid) →
    exec op mid = some (result', fresh) →
    match result, result' with
    | .ok reply, .ok reply' =>
        reply = reply' ∧
          engine'.getEscrow orderId = fresh.getEscrow orderId
    | .error _, .error _ =>
        (engine'.getEscrow orderId).map Escrow.relabel =
          (fresh.getEscrow orderId).map Escrow.relabel
    | _, _ => False

/-
  The order is overdue, not labelled as such, and the call is
  one that would succeed on the label.
-/
def ReadsStaleLabel
    (orderId : OrderId)
    (engine : CoreProverEngine)
    (op : Op) :
    Prop :=
  ∃ i escrow,
    engine.lookup orderId = some (i, escrow) ∧
      escrow.state = .sellerAccepted ∧
      escrow.isLate engine.now = true ∧
      ((∃ txid, op = .buyerWithdraw orderId txid) ∨
        op.MaySettle engine escrow)

end Engine

end BorderController

------------------------------------------------------------
-- Refreshing an Order
------------------------------------------------------------

namespace BorderController

namespace Engine

variable [Chrono]
variable {engine engine' mid fresh : CoreProverEngine}
variable {op : Op}
variable {orderId : OrderId}
variable {i : Nat}
variable {escrow escrow' : Escrow}

omit [Chrono] in
theorem CoreProverEngine.getEscrow_of_lookup
    (hLookup : engine.lookup orderId = some (i, escrow)) :
    engine.getEscrow orderId = .ok escrow := by
  rw [CoreProverEngine.getEscrow_eq, hLookup]

omit [Chrono] in
/- Writing back what was read changes nothing. -/
theorem CoreProverEngine.setEscrow_self
    (hLookup : engine.lookup orderId = some (i, escrow)) :
    engine.setEscrow i escrow = engine := by
  have hGet := CoreProverEngine.getElem?_of_lookup hLookup
  rcases List.getElem?_eq_some_iff.mp hGet with
    ⟨hBound, hHere⟩
  unfold CoreProverEngine.setEscrow
  rw [← hHere, List.set_getElem_self]

omit [Chrono] in
/- The second of two writes to a record wins. -/
theorem CoreProverEngine.setEscrow_setEscrow :
    (engine.setEscrow i escrow).setEscrow i escrow' =
      engine.setEscrow i escrow' := by
  unfold CoreProverEngine.setEscrow
  simp

omit [Chrono] in
theorem CoreProverEngine.lookup_expire
    (hLookup : engine.lookup orderId = some (i, escrow)) :
    (engine.setEscrow i escrow.expire).lookup orderId =
      some (i, escrow.expire) :=
  CoreProverEngine.lookup_setEscrow_self hLookup rfl

/- A refresh rewrites the addressed record. -/
theorem exec_updateState_of_lookup
    (hLookup : engine.lookup orderId = some (i, escrow)) :
    exec (.updateState orderId) engine =
      some
        (.ok .done,
          engine.setEscrow i
            (escrow.updateState engine.now)) := by
  rw [exec_updateState, borrow_of_ok hLookup rfl]

omit [Chrono] in
/- An overdue record, relabelled. -/
theorem Escrow.updateState_of_overdue
    {now : TimeTruth}
    (hState : escrow.state = .sellerAccepted)
    (hLate : escrow.isLate now = true) :
    escrow.updateState now = escrow.expire := by
  rw [Escrow.updateState_eq, if_pos ⟨hState, hLate⟩]
  rfl

/- Two failures that change nothing agree up to the label. -/
theorem refreshAgrees_of_refused
    {message message' : String}
    (hLookup : engine.lookup orderId = some (i, escrow))
    (hState : escrow.state = .sellerAccepted)
    (hLate : escrow.isLate engine.now = true)
    (hExec :
      exec op engine = some (.error message, engine))
    (hFresh :
      exec op (engine.setEscrow i escrow.expire) =
        some
          (.error message',
            engine.setEscrow i escrow.expire)) :
    RefreshAgrees orderId engine op := by
  intro result engine' refreshed mid result' fresh hPlain
    hRefresh hAgain
  rw [exec_updateState_of_lookup hLookup,
    Escrow.updateState_of_overdue hState hLate] at hRefresh
  cases hRefresh
  rw [hExec] at hPlain
  cases hPlain
  rw [hFresh] at hAgain
  cases hAgain
  have hAfter := CoreProverEngine.lookup_expire hLookup
  rw [CoreProverEngine.getEscrow_of_lookup hLookup,
    CoreProverEngine.getEscrow_of_lookup hAfter]
  simp [Except.map, Escrow.relabel, hState, Escrow.expire]

/- Two successes that leave the same engine agree. -/
theorem refreshAgrees_of_same
    {outcome : Except String Reply × CoreProverEngine}
    (hLookup : engine.lookup orderId = some (i, escrow))
    (hExec : exec op engine = some outcome)
    (hFresh :
      exec op
          (engine.setEscrow i
            (escrow.updateState engine.now)) =
        some outcome) :
    RefreshAgrees orderId engine op := by
  intro result engine' refreshed mid result' fresh hPlain
    hRefresh hAgain
  rw [exec_updateState_of_lookup hLookup] at hRefresh
  cases hRefresh
  rw [hExec] at hPlain
  rw [hFresh] at hAgain
  cases hPlain
  cases hAgain
  cases result with
  | ok reply => exact ⟨rfl, rfl⟩
  | error message => rfl

end Engine

end BorderController

------------------------------------------------------------
-- Calls on an Overdue Order
------------------------------------------------------------

namespace BorderController

namespace Engine

variable [Chrono]
variable {engine : CoreProverEngine}
variable {op : Op}
variable {orderId : OrderId}
variable {i : Nat}
variable {escrow : Escrow}

/- A settling call whose block fails changes nothing. -/
theorem exec_settlement_refused
    {settlement : Settlement}
    (hSettle : op.settlement engine = some settlement)
    (hLookup :
      engine.lookup settlement.orderId = some (i, escrow))
    (hRefused :
      ¬ (escrow.state.isClaimable = true ∧
        op.MaySettle engine escrow)) :
    ∃ message,
      exec op engine = some (.error message, engine) := by
  rw [← Settlement.exists_block_ok_iff hSettle] at hRefused
  cases hBlock : settlement.block escrow with
  | ok p => exact absurd ⟨p.1, p.2, hBlock⟩ hRefused
  | error message =>
      refine ⟨message, ?_⟩
      rw [exec_settlement hSettle,
        borrow_of_error hLookup hBlock]

/- A settling call that fails on both labels agrees. -/
theorem refreshAgrees_of_settlement
    {settlement : Settlement}
    (hLookup : engine.lookup orderId = some (i, escrow))
    (hState : escrow.state = .sellerAccepted)
    (hLate : escrow.isLate engine.now = true)
    (hSettle : op.settlement engine = some settlement)
    (hOrder : op.orderId? = some orderId)
    (hMay : ¬ op.MaySettle engine escrow) :
    RefreshAgrees orderId engine op := by
  have hId : settlement.orderId = orderId := by
    rw [Op.orderId?_of_settlement hSettle] at hOrder
    exact Option.some.inj hOrder
  subst hId
  have hAfter := CoreProverEngine.lookup_expire hLookup
  rcases exec_settlement_refused hSettle hLookup
      (fun hBoth => hMay hBoth.2) with
    ⟨message, hExec⟩
  have hSettle' :
      op.settlement (engine.setEscrow i escrow.expire) =
        some settlement := by
    rw [← hSettle]
    cases op <;> rfl
  have hMay' :
      ¬ op.MaySettle (engine.setEscrow i escrow.expire)
        escrow.expire := by
    cases op <;> exact hMay
  rcases exec_settlement_refused hSettle' hAfter
      (fun hBoth => hMay' hBoth.2) with
    ⟨message', hFresh⟩
  exact refreshAgrees_of_refused hLookup hState hLate hExec
    hFresh

/- Acceptance fails on both labels of an overdue order. -/
theorem refreshAgrees_sellerAccept
    (hLookup : engine.lookup orderId = some (i, escrow))
    (hState : escrow.state = .sellerAccepted)
    (hLate : escrow.isLate engine.now = true)
    (txid : String) :
    RefreshAgrees orderId engine
      (.sellerAccept orderId txid) := by
  have hAfter := CoreProverEngine.lookup_expire hLookup
  have hRefuses :
      ∀ (now : TimeTruth) (chainId : UInt64)
        (escrow : Escrow),
        escrow.state ≠ .buyerCommitted →
        escrow.sellerAccept now chainId txid =
          .error
            "seller_accept only valid from BuyerCommitted" := by
    intro now chainId escrow hOther
    unfold Escrow.sellerAccept
    rw [if_pos hOther]
  have hExec := exec_sellerAccept orderId engine txid
  rw [borrow_of_error hLookup
    (hRefuses _ _ escrow (by simp [hState]))] at hExec
  have hFresh :=
    exec_sellerAccept orderId
      (engine.setEscrow i escrow.expire) txid
  rw [borrow_of_error hAfter
    (hRefuses _ _ _ (by simp [Escrow.expire]))] at hFresh
  exact refreshAgrees_of_refused hLookup hState hLate hExec
    hFresh

/- Fulfilment looks at the deadline and not at the label. -/
theorem refreshAgrees_sellerFulfill
    (hLookup : engine.lookup orderId = some (i, escrow))
    (hState : escrow.state = .sellerAccepted)
    (hLate : escrow.isLate engine.now = true)
    (txid : String) :
    RefreshAgrees orderId engine
      (.sellerFulfill orderId txid) := by
  have hAfter := CoreProverEngine.lookup_expire hLookup
  have hBlock :
      escrow.expire.sellerFulfill engine.now txid =
        escrow.sellerFulfill engine.now txid := by
    unfold Escrow.sellerFulfill
    rw [hState]
    rfl
  cases hOutcome : escrow.sellerFulfill engine.now txid with
  | error message =>
      have hExec := exec_sellerFulfill orderId engine txid
      rw [borrow_of_error hLookup hOutcome] at hExec
      have hFresh :=
        exec_sellerFulfill orderId
          (engine.setEscrow i escrow.expire) txid
      rw [CoreProverEngine.setEscrow_now,
        borrow_of_error hAfter (hBlock.trans hOutcome)]
        at hFresh
      exact refreshAgrees_of_refused hLookup hState hLate
        hExec hFresh
  | ok p =>
      apply refreshAgrees_of_same hLookup
        (exec_sellerFulfill orderId engine txid)
      rw [Escrow.updateState_of_overdue hState hLate,
        exec_sellerFulfill, CoreProverEngine.setEscrow_now,
        borrow_of_ok hAfter (hBlock.trans hOutcome),
        borrow_of_ok hLookup hOutcome,
        CoreProverEngine.setEscrow_setEscrow,
        CoreProverEngine.setEscrow_receipts]

/- Refreshing twice is refreshing once. -/
theorem refreshAgrees_updateState
    (hLookup : engine.lookup orderId = some (i, escrow))
    (hState : escrow.state = .sellerAccepted)
    (hLate : escrow.isLate engine.now = true) :
    RefreshAgrees orderId engine (.updateState orderId) := by
  have hAfter := CoreProverEngine.lookup_expire hLookup
  have hTwice :
      escrow.expire.updateState engine.now = escrow.expire := by
    rw [Escrow.updateState_eq, if_neg]
    simp [Escrow.expire]
  apply refreshAgrees_of_same hLookup
    (exec_updateState_of_lookup hLookup)
  rw [Escrow.updateState_of_overdue hState hLate,
    exec_updateState_of_lookup hAfter,
    CoreProverEngine.setEscrow_now, hTwice,
    CoreProverEngine.setEscrow_setEscrow]

end Engine

end BorderController

------------------------------------------------------------
-- When a Refresh Makes No Difference
------------------------------------------------------------

namespace BorderController

namespace Engine

variable [Chrono]
variable {engine : CoreProverEngine}
variable {op : Op}
variable {orderId : OrderId}
variable {i : Nat}
variable {escrow : Escrow}

/- A call on an unknown order fails and changes nothing. -/
theorem exec_not_found
    (hOrder : op.orderId? = some orderId)
    (hLookup : engine.lookup orderId = none) :
    exec op engine =
      some (.error "Escrow not found", engine) := by
  cases op with
  | buyerCommit => simp [Op.orderId?] at hOrder
  | advanceTime => simp [Op.orderId?] at hOrder
  | sellerAccept id txid =>
      cases hOrder
      rw [exec_sellerAccept, borrow_of_none hLookup]
  | sellerFulfill id txid =>
      cases hOrder
      rw [exec_sellerFulfill, borrow_of_none hLookup]
  | buyerWithdraw id txid =>
      cases hOrder
      rw [exec_buyerWithdraw, borrow_of_none hLookup]
  | updateState id =>
      cases hOrder
      rw [exec_updateState, borrow_of_none hLookup]
  | sellerClaim id txid =>
      cases hOrder
      rw [exec_settlement rfl, borrow_of_none hLookup]
  | sellerRefund id txid =>
      cases hOrder
      rw [exec_settlement rfl, borrow_of_none hLookup]
  | timedRelease id =>
      cases hOrder
      rw [exec_settlement rfl, borrow_of_none hLookup]

/- Without an overdue accepted order a refresh does nothing. -/
private theorem refreshAgrees_of_not_overdue
    (hFresh :
      ∀ i escrow,
        engine.lookup orderId = some (i, escrow) →
        ¬ (escrow.state = .sellerAccepted ∧
          escrow.isLate engine.now = true)) :
    RefreshAgrees orderId engine op := by
  intro result engine' refreshed mid result' fresh hPlain
    hRefresh hAgain
  have hMid : mid = engine := by
    cases hLookup : engine.lookup orderId with
    | none =>
        rw [exec_not_found rfl hLookup] at hRefresh
        cases hRefresh
        rfl
    | some p =>
        rw [exec_updateState_of_lookup hLookup,
          Escrow.updateState_eq,
          if_neg (hFresh p.1 p.2 hLookup),
          CoreProverEngine.setEscrow_self hLookup] at hRefresh
        cases hRefresh
        rfl
  subst hMid
  rw [hPlain] at hAgain
  cases hAgain
  cases result with
  | ok reply => exact ⟨rfl, rfl⟩
  | error message => rfl

/- On an overdue accepted order, call by call. -/
private theorem refreshAgrees_of_overdue
    (hOrder : op.orderId? = some orderId)
    (hLookup : engine.lookup orderId = some (i, escrow))
    (hState : escrow.state = .sellerAccepted)
    (hLate : escrow.isLate engine.now = true)
    (hWithdraw : ¬ ∃ txid, op = .buyerWithdraw orderId txid)
    (hMay : ¬ op.MaySettle engine escrow) :
    RefreshAgrees orderId engine op := by
  cases op with
  | buyerCommit => simp [Op.orderId?] at hOrder
  | advanceTime => simp [Op.orderId?] at hOrder
  | sellerAccept id txid =>
      cases hOrder
      exact refreshAgrees_sellerAccept hLookup hState hLate
        txid
  | sellerFulfill id txid =>
      cases hOrder
      exact refreshAgrees_sellerFulfill hLookup hState hLate
        txid
  | buyerWithdraw id txid =>
      cases hOrder
      exact absurd ⟨txid, rfl⟩ hWithdraw
  | updateState id =>
      cases hOrder
      exact refreshAgrees_updateState hLookup hState hLate
  | sellerClaim id txid =>
      exact refreshAgrees_of_settlement hLookup hState hLate
        rfl hOrder hMay
  | sellerRefund id txid =>
      exact refreshAgrees_of_settlement hLookup hState hLate
        rfl hOrder hMay
  | timedRelease id =>
      exact refreshAgrees_of_settlement hLookup hState hLate
        rfl hOrder hMay

end Engine

end BorderController

------------------------------------------------------------
-- When a Refresh Makes a Difference
------------------------------------------------------------

namespace BorderController

namespace Engine

variable [Chrono]
variable {engine : CoreProverEngine}
variable {op : Op}
variable {orderId : OrderId}
variable {i : Nat}
variable {escrow : Escrow}

/- The withdrawal fails on the stale label only. -/
private theorem not_refreshAgrees_withdraw
    (hLookup : engine.lookup orderId = some (i, escrow))
    (hState : escrow.state = .sellerAccepted)
    (hLate : escrow.isLate engine.now = true)
    (txid : Option String) :
    ¬ RefreshAgrees orderId engine
      (.buyerWithdraw orderId txid) := by
  intro hAgrees
  have hRefuse :
      escrow.buyerWithdraw engine.now txid =
        .error "buyer_withdraw not allowed" := by
    unfold Escrow.buyerWithdraw
    rw [if_pos (by simp [hState])]
  have hPlain := exec_buyerWithdraw orderId engine txid
  rw [borrow_of_error hLookup hRefuse] at hPlain
  have hRefresh := exec_updateState_of_lookup hLookup
  rw [Escrow.updateState_of_overdue hState hLate] at hRefresh
  have hAfter := CoreProverEngine.lookup_expire hLookup
  have hBlock :
      escrow.expire.buyerWithdraw engine.now txid =
        .ok (escrow.amount, _) :=
    Escrow.buyerWithdraw_ok_iff.mpr
      ⟨Or.inl rfl, rfl, rfl⟩
  have hFresh :=
    exec_buyerWithdraw orderId
      (engine.setEscrow i escrow.expire) txid
  rw [CoreProverEngine.setEscrow_now,
    borrow_of_ok hAfter hBlock] at hFresh
  exact hAgrees _ _ _ _ _ _ hPlain hRefresh hFresh

/- The settling calls spoil the record on the fresh label. -/
private theorem not_refreshAgrees_settlement
    (hSound : engine.Sound)
    (hOrder : op.orderId? = some orderId)
    (hLookup : engine.lookup orderId = some (i, escrow))
    (hState : escrow.state = .sellerAccepted)
    (hLate : escrow.isLate engine.now = true)
    (hMay : op.MaySettle engine escrow) :
    ¬ RefreshAgrees orderId engine op := by
  intro hAgrees
  rcases hMay.exists_settlement with ⟨settlement, hSettle⟩
  have hId : settlement.orderId = orderId := by
    rw [Op.orderId?_of_settlement hSettle] at hOrder
    exact Option.some.inj hOrder
  subst hId
  rcases exec_settlement_refused hSettle hLookup
      (by simp [hState, EscrowState.isClaimable]) with
    ⟨message, hPlain⟩
  have hRefresh := exec_updateState_of_lookup hLookup
  rw [Escrow.updateState_of_overdue hState hLate] at hRefresh
  have hAfter := CoreProverEngine.lookup_expire hLookup
  have hMid : (engine.setEscrow i escrow.expire).Sound :=
    step_sound hSound
      (show system.Step engine
        ⟨.updateState settlement.orderId, .ok .done⟩ _ from
          hRefresh)
  have hGet := CoreProverEngine.getElem?_of_lookup hLookup
  have hMono : escrow.fulfillmentMono = none :=
    (hSound.records hGet).unfulfilled (Or.inr hState)
  have hUndelivered :
      SettlesUndelivered (engine.setEscrow i escrow.expire)
        op := by
    refine ⟨settlement.orderId, i, escrow.expire, hOrder,
      hAfter, rfl, hMono, ?_⟩
    cases op <;> exact hMay
  cases hFresh :
      exec op (engine.setEscrow i escrow.expire) with
  | none =>
      have hSettle' :
          op.settlement (engine.setEscrow i escrow.expire) =
            some settlement := by
        rw [← hSettle]
        cases op <;> rfl
      rw [exec_settlement hSettle'] at hFresh
      contradiction
  | some outcome =>
      rcases exec_settlesUndelivered hMid hUndelivered
          hFresh with
        ⟨id, j, _, escrow', hOrder', hResult, _, _, hLookup',
          _, hPaid⟩
      have hId : id = settlement.orderId := by
        rw [hOrder] at hOrder'
        exact (Option.some.inj hOrder').symm
      subst hId
      have hSame := hAgrees _ _ _ _ _ _ hPlain hRefresh hFresh
      rw [hResult] at hSame
      simp only at hSame
      rw [CoreProverEngine.getEscrow_of_lookup hLookup,
        CoreProverEngine.getEscrow_of_lookup hLookup']
        at hSame
      simp only [Except.map, Except.ok.injEq] at hSame
      have hStates := congrArg Escrow.state hSame
      cases hState' : escrow'.state <;>
        simp [Escrow.relabel, Escrow.expire, hState, hState',
          EscrowState.isPaid] at hStates hPaid

/-
  In a reachable engine, a refresh before a call on an order
  makes no difference exactly when the call does not read the
  stale label of an overdue order.
-/
theorem refreshAgrees_iff
    (hReach : Reachable engine)
    (hOrder : op.orderId? = some orderId) :
    RefreshAgrees orderId engine op ↔
      ¬ ReadsStaleLabel orderId engine op := by
  constructor
  · rintro hAgrees
      ⟨i, escrow, hLookup, hState, hLate,
        ⟨txid, hOp⟩ | hMay⟩
    · subst hOp
      exact not_refreshAgrees_withdraw hLookup hState hLate
        txid hAgrees
    · exact not_refreshAgrees_settlement hReach.sound hOrder
        hLookup hState hLate hMay hAgrees
  · intro hFresh
    by_cases hOverdue :
        ∃ i escrow,
          engine.lookup orderId = some (i, escrow) ∧
            escrow.state = .sellerAccepted ∧
            escrow.isLate engine.now = true
    · rcases hOverdue with
        ⟨i, escrow, hLookup, hState, hLate⟩
      apply refreshAgrees_of_overdue hOrder hLookup hState
        hLate
      · intro hWithdraw
        exact hFresh ⟨i, escrow, hLookup, hState, hLate,
          Or.inl hWithdraw⟩
      · intro hMay
        exact hFresh ⟨i, escrow, hLookup, hState, hLate,
          Or.inr hMay⟩
    · apply refreshAgrees_of_not_overdue
      rintro i escrow hLookup ⟨hState, hLate⟩
      exact hOverdue ⟨i, escrow, hLookup, hState, hLate⟩

end Engine

end BorderController

------------------------------------------------------------
-- An Overdue Order Nobody Refreshed
------------------------------------------------------------

namespace BorderController

namespace Engine

local instance refreshChrono : Chrono := utcChrono

/- Withdrawal depends on whether somebody refreshed first. -/
theorem buyerWithdraw_not_refreshAgrees :
    ∃ engine,
      Reachable engine ∧
        ¬ RefreshAgrees (orderIdOf 1) engine
          (.buyerWithdraw (orderIdOf 1) none) := by
  refine ⟨_,
    ⟨_, play_isRun (overdueOps.take 3) 1 12 0⟩, ?_⟩
  intro hAgrees
  exact hAgrees _ _ _ _ _ _ rfl rfl rfl

/- Fulfilment of the same order does not. -/
theorem sellerFulfill_refreshAgrees :
    RefreshAgrees (orderIdOf 1)
      (play (overdueOps.take 3) (.new 1 12 0)).2
      (.sellerFulfill (orderIdOf 1) "0x3") := by
  apply (refreshAgrees_iff
    ⟨_, play_isRun (overdueOps.take 3) 1 12 0⟩ rfl).mpr
  rintro ⟨_, _, _, _, _, ⟨_, hOp⟩ | hMay⟩
  · contradiction
  · exact hMay

end Engine

end BorderController

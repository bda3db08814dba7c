import BorderController.Engine.Invariants

/-
  Settlement of orders that were never delivered.

  The settling calls look at the label of an order only, and
  `FulfillmentExpired` is the label of an overdue order and of
  a late delivery alike.  A settling call that takes the first
  for the second rewrites the record and then fails on the
  missing receipt.

  Key definitions include:
    * `SettlesUndelivered`
    * `PaidOnDelivery`

  Key theorems include:
    * `error_unchanged_iff`
    * `paidOnDelivery_iff`
-/

------------------------------------------------------------
-- Undelivered Settlements
------------------------------------------------------------

namespace BorderController

namespace Engine

/- The seller's side of a settled order. -/
def EscrowState.isPaid : EscrowState → Bool
  | .sellerClaimed => true
  | .sellerRefunded => true
  | _ => false

variable [Chrono]

/- What a settling call checks besides the label of the order. -/
def Op.MaySettle
    (engine : CoreProverEngine)
    (escrow : Escrow) :
    Op → Prop
  | .sellerClaim _ txid => RustString.isBlank txid = false
  | .sellerRefund _ txid => RustString.isBlank txid = false
  | .timedRelease _ =>
      escrow.profile.allowsTimedRelease = true ∧
        escrow.profile.timing.claimWindowSecs ≤
          escrow.elapsed engine.now
  | _ => False

/-
  The call settles an order that is labelled overdue and has
  no fulfilment on record.
-/
def SettlesUndelivered
    (engine : CoreProverEngine)
    (op : Op) :
    Prop :=
  ∃ orderId i escrow,
    op.orderId? = some orderId ∧
      engine.lookup orderId = some (i, escrow) ∧
      escrow.state = .fulfillmentExpired ∧
      escrow.fulfillmentMono = none ∧
      op.MaySettle engine escrow

variable {engine engine' : CoreProverEngine}
variable {op : Op}
variable {settlement : Settlement}
variable {escrow : Escrow}

/- A settlement block succeeds on its label and its checks. -/
theorem Settlement.exists_block_ok_iff
    (hSettle : op.settlement engine = some settlement) :
    (∃ amount escrow',
        settlement.block escrow = .ok (amount, escrow')) ↔
      escrow.state.isClaimable = true ∧
        op.MaySettle engine escrow := by
  cases op with
  | sellerClaim orderId txid =>
      cases hSettle
      simp [Escrow.sellerClaim_ok_iff, Op.MaySettle]
  | sellerRefund orderId txid =>
      cases hSettle
      simp [Escrow.sellerRefund_ok_iff, Op.MaySettle]
  | timedRelease orderId =>
      cases hSettle
      simp only [Escrow.timedRelease_ok_iff, Op.MaySettle,
        exists_and_left, exists_eq, and_true]
      tauto
  | _ => simp [Op.settlement] at hSettle

theorem Op.MaySettle.exists_settlement
    (hMay : op.MaySettle engine escrow) :
    ∃ settlement, op.settlement engine = some settlement := by
  cases op with
  | sellerClaim orderId txid => exact ⟨_, rfl⟩
  | sellerRefund orderId txid => exact ⟨_, rfl⟩
  | timedRelease orderId => exact ⟨_, rfl⟩
  | _ => exact hMay.elim

/- Settling a record without a fulfilment is undelivered. -/
theorem settlesUndelivered_of_block
    {i : Nat}
    {amount : UInt64}
    {escrow' : Escrow}
    (hSound : escrow.Sound)
    (hSettle : op.settlement engine = some settlement)
    (hLookup :
      engine.lookup settlement.orderId = some (i, escrow))
    (hBlock :
      settlement.block escrow = .ok (amount, escrow'))
    (hMono : escrow.fulfillmentMono = none) :
    SettlesUndelivered engine op := by
  rcases (Settlement.exists_block_ok_iff hSettle).mp
      ⟨amount, escrow', hBlock⟩ with
    ⟨hClaimable, hMay⟩
  refine ⟨settlement.orderId, i, escrow,
    Op.orderId?_of_settlement hSettle, hLookup, ?_, hMono,
    hMay⟩
  cases hState : escrow.state with
  | fulfillmentExpired => rfl
  | sellerFulfilled =>
      have hSome := hSound.fulfilled hState
      rw [hMono] at hSome
      contradiction
  | _ => simp [hState, EscrowState.isClaimable] at hClaimable

end Engine

end BorderController

------------------------------------------------------------
-- What an Undelivered Settlement Does
------------------------------------------------------------

namespace BorderController

namespace Engine

variable [Chrono]
variable {engine engine' : CoreProverEngine}
variable {op : Op}
variable {result : Except String Reply}

/- The record is marked as paid, and the call fails. -/
theorem exec_settlesUndelivered
    (hSound : engine.Sound)
    (hUndelivered : SettlesUndelivered engine op)
    (hExec : exec op engine = some (result, engine')) :
    ∃ orderId i escrow escrow',
      op.orderId? = some orderId ∧
        result = .error "receipt stub not found" ∧
        engine.lookup orderId = some (i, escrow) ∧
        escrow.state = .fulfillmentExpired ∧
        engine'.lookup orderId = some (i, escrow') ∧
        escrow'.fulfillmentMono = none ∧
        escrow'.state.isPaid = true := by
  rcases hUndelivered with
    ⟨orderId, i, escrow, hOrder, hLookup, hState, hMono,
      hMay⟩
  rcases hMay.exists_settlement with ⟨settlement, hSettle⟩
  have hId : settlement.orderId = orderId := by
    rw [Op.orderId?_of_settlement hSettle] at hOrder
    exact Option.some.inj hOrder
  subst hId
  rcases (Settlement.exists_block_ok_iff hSettle).mpr
      ⟨by rw [hState]; rfl, hMay⟩ with
    ⟨amount, escrow', hBlock⟩
  have hNone : engine.lastReceipt settlement.orderId = none := by
    rw [CoreProverEngine.lastReceipt_eq_none_iff,
      hSound.receipted_iff hLookup, hMono]
    simp
  rw [exec_settlement hSettle, borrow_of_ok hLookup hBlock,
    CoreProverEngine.settle, hNone] at hExec
  cases hExec
  rcases Settlement.block_ok hSettle hBlock with
    ⟨_, _, txid, hEq⟩
  refine ⟨settlement.orderId, i, escrow, escrow', hOrder, rfl,
    hLookup, hState, ?_, ?_, ?_⟩
  · exact CoreProverEngine.lookup_setEscrow_self hLookup
      (by simp [hEq])
  · rw [hEq, ← hMono]
    cases settlement.refunded <;> rfl
  · rw [hEq, Escrow.settle_state]
    cases settlement.refunded <;> rfl

end Engine

end BorderController

------------------------------------------------------------
-- Atomicity of Failed Calls
------------------------------------------------------------

namespace BorderController

namespace Engine

variable [Chrono]
variable {engine engine' : CoreProverEngine}
variable {op : Op}
variable {result : Except String Reply}

/-
  A call of a reachable engine that returns an error leaves
  the engine as it was, exactly when it does not settle an
  undelivered order.
-/
theorem error_unchanged_iff
    (hReach : Reachable engine)
    (hExec : exec op engine = some (result, engine')) :
    ((∃ message, result = .error message) →
        engine' = engine) ↔
      ¬ SettlesUndelivered engine op := by
  have hSound := hReach.sound
  constructor
  · intro hUnchanged hUndelivered
    rcases exec_settlesUndelivered hSound hUndelivered
        hExec with
      ⟨_, _, escrow, escrow', _, hResult, hLookup, hState,
        hLookup', _, hPaid⟩
    rw [hUnchanged ⟨_, hResult⟩, hLookup] at hLookup'
    cases hLookup'
    rw [hState] at hPaid
    contradiction
  · rintro hDelivered ⟨message, hResult⟩
    subst hResult
    cases exec_effect hExec with
    | refused message => rfl
    | @unreceipted _ settlement i amount escrow escrow'
        hSettle hLookup hBlock hReceipt =>
        refine absurd ?_ hDelivered
        rw [CoreProverEngine.lastReceipt_eq_none_iff,
          hSound.receipted_iff hLookup,
          Option.not_isSome_iff_eq_none] at hReceipt
        have hGet :=
          CoreProverEngine.getElem?_of_lookup hLookup
        exact settlesUndelivered_of_block
          (hSound.records hGet) hSettle hLookup hBlock
          hReceipt

end Engine

end BorderController

------------------------------------------------------------
-- Payment on Delivery
------------------------------------------------------------

namespace BorderController

namespace Engine

/-
  After the calls `es`, every order in `SellerClaimed` or
  `SellerRefunded` was fulfilled, with its fulfilment and its
  receipt on record.
-/
def PaidOnDelivery
    (es : List (Transition CoreProverEngine Call))
    (engine : CoreProverEngine) :
    Prop :=
  ∀ (i : Nat) (escrow : Escrow),
    engine.escrows[i]? = some escrow →
    escrow.state.isPaid = true →
    (∃ tr ∈ es, Fulfils escrow.orderId tr) ∧
      escrow.fulfillmentMono.isSome ∧
      escrow.sellerFulfillTxid.isSome ∧
      engine.Receipted escrow.orderId

variable [Chrono]
variable {es : List (Transition CoreProverEngine Call)}
variable {engine engine' : CoreProverEngine}
variable {call : Call}

/- A fulfilment that fails leaves the engine as it was. -/
theorem fulfils_or_unchanged
    {orderId : OrderId}
    {txid : String}
    (hStep : system.Step engine call engine')
    (hOp : call.op = .sellerFulfill orderId txid) :
    Fulfils orderId ⟨engine, call, engine'⟩ ∨
      engine' = engine := by
  rcases call with ⟨op, result⟩
  simp only at hOp
  subst hOp
  cases step_effect hStep with
  | refused message => exact Or.inr rfl
  | fulfilled hLookup hBlock => exact Or.inl ⟨txid, rfl⟩
  | settled hSettle => simp [Op.settlement] at hSettle
  | unreceipted hSettle => simp [Op.settlement] at hSettle

/- A fulfilment on record is a fulfilment in the run. -/
theorem IsRun.fulfils_of_fulfillmentMono
    (hRun : IsRun es engine) :
    ∀ (i : Nat) (escrow : Escrow),
      engine.escrows[i]? = some escrow →
      escrow.fulfillmentMono.isSome →
      ∃ tr ∈ es, Fulfils escrow.orderId tr := by
  refine hRun.historyInvariant
    (fun es engine =>
      ∀ (i : Nat) (escrow : Escrow),
        engine.escrows[i]? = some escrow →
        escrow.fulfillmentMono.isSome →
        ∃ tr ∈ es, Fulfils escrow.orderId tr) ?_ ?_
  · intro chainId interval genesis i escrow hGet
    simp [CoreProverEngine.new] at hGet
  · intro es engine call engine' _ hHistory hStep i escrow'
      hGet' hMono'
    rcases step_record_source hStep hGet' with
      ⟨escrow, hGet, hCase⟩ |
        ⟨_, _, _, _, _, _, _, _, _, hNew⟩
    · have hOld :
          escrow.fulfillmentMono.isSome →
            ∃ tr ∈ es ++ [⟨engine, call, engine'⟩],
              Fulfils escrow.orderId tr := by
        intro hMono
        rcases hHistory i escrow hGet hMono with
          ⟨tr, hMem, hFulfils⟩
        exact ⟨tr, List.mem_append_left _ hMem, hFulfils⟩
      rcases hCase with
        rfl | ⟨orderId, hOrder, hLookup, hChange⟩
      · exact hOld hMono'
      · rw [hChange.identity.1]
        rcases hChange.fulfillmentMono with
          ⟨hSame, _⟩ | ⟨orderId', txid, hOp, _, _⟩
        · rw [hSame] at hMono'
          exact hOld hMono'
        · have hId : orderId' = orderId := by
            rw [hOp] at hOrder
            exact Option.some.inj hOrder
          rcases fulfils_or_unchanged hStep hOp with
            hFulfils | hSame
          · rw [CoreProverEngine.orderId_of_lookup hLookup,
              ← hId]
            exact ⟨_,
              List.mem_append_right _ List.mem_cons_self,
              hFulfils⟩
          · subst hSame
            rw [hGet] at hGet'
            cases hGet'
            exact hOld hMono'
    · rw [hNew] at hMono'
      contradiction

/- The records of paid orders have a fulfilment. -/
def CoreProverEngine.PaidFulfilled
    (engine : CoreProverEngine) :
    Prop :=
  ∀ (i : Nat) (escrow : Escrow),
    engine.escrows[i]? = some escrow →
    escrow.state.isPaid = true →
    escrow.fulfillmentMono.isSome

/- Only a settlement makes a record paid. -/
theorem Escrow.Change.settlement_of_isPaid
    {op : Op}
    {escrow escrow' : Escrow}
    (hChange : Escrow.Change engine op escrow escrow')
    (hPaid : escrow'.state.isPaid = true) :
    escrow' = escrow ∨
      ∃ settlement amount,
        op.settlement engine = some settlement ∧
          settlement.block escrow = .ok (amount, escrow') := by
  cases hChange with
  | accept hBlock =>
      rw [(Escrow.sellerAccept_ok_iff.mp hBlock).2.2.2]
        at hPaid
      contradiction
  | fulfill hBlock =>
      rw [(Escrow.sellerFulfill_ok_iff.mp hBlock).2.2.2]
        at hPaid
      cases hLate : escrow.isLate engine.now <;>
        simp [hLate, EscrowState.isPaid] at hPaid
  | settle hSettle hBlock =>
      exact Or.inr ⟨_, _, hSettle, hBlock⟩
  | withdraw hBlock =>
      rw [(Escrow.buyerWithdraw_ok_iff.mp hBlock).2.2]
        at hPaid
      contradiction
  | refresh =>
      rcases escrow.updateState_cases engine.now with
        hSame | ⟨_, _, hExpired⟩
      · exact Or.inl hSame
      · rw [hExpired] at hPaid
        contradiction

/- A call that delivers what it settles keeps this. -/
theorem step_paidFulfilled
    (hSound : engine.Sound)
    (hPaidFulfilled : engine.PaidFulfilled)
    (hDelivered : ¬ SettlesUndelivered engine call.op)
    (hStep : system.Step engine call engine') :
    engine'.PaidFulfilled := by
  intro i escrow' hGet' hPaid
  rcases step_record_source hStep hGet' with
    ⟨escrow, hGet, hCase⟩ |
      ⟨_, _, _, _, _, _, _, _, _, hNew⟩
  · rcases hCase with
      rfl | ⟨orderId, hOrder, hLookup, hChange⟩
    · exact hPaidFulfilled i escrow' hGet hPaid
    · rcases hChange.settlement_of_isPaid hPaid with
        rfl | ⟨settlement, amount, hSettle, hBlock⟩
      · exact hPaidFulfilled i escrow' hGet hPaid
      · have hId : settlement.orderId = orderId := by
          rw [Op.orderId?_of_settlement hSettle] at hOrder
          exact Option.some.inj hOrder
        rw [← hId] at hLookup
        rw [Option.isSome_iff_ne_none]
        intro hMono'
        rcases Settlement.block_ok hSettle hBlock with
          ⟨_, _, txid, hEq⟩
        have hMono : escrow.fulfillmentMono = none := by
          rw [← hMono', hEq]
          cases settlement.refunded <;> rfl
        exact hDelivered
          (settlesUndelivered_of_block
            (hSound.records hGet) hSettle hLookup hBlock
            hMono)
  · rw [hNew] at hPaid
    contradiction

/- A run without undelivered settlements pays on delivery. -/
theorem IsRun.paidFulfilled
    (hRun : IsRun es engine)
    (hDelivered :
      ∀ tr ∈ es, ¬ SettlesUndelivered tr.source tr.label.op) :
    engine.PaidFulfilled := by
  rcases hRun with ⟨chainId, interval, genesis, hPath⟩
  have hBoth :
      engine.Sound ∧ engine.PaidFulfilled := by
    refine hPath.stable
      (fun tr => ¬ SettlesUndelivered tr.source tr.label.op)
      (fun engine => engine.Sound ∧ engine.PaidFulfilled)
      ?_ hDelivered ?_
    · rintro t l u hCall ⟨hSound, hPaid⟩ hStep
      exact ⟨step_sound hSound hStep,
        step_paidFulfilled hSound hPaid hCall hStep⟩
    · refine ⟨CoreProverEngine.new_sound _ _ _, ?_⟩
      intro i escrow hGet
      simp [CoreProverEngine.new] at hGet
  exact hBoth.2

/-
  Every state of a run has paid on delivery only, exactly when
  no call of the run settles an undelivered order.
-/
theorem paidOnDelivery_iff
    (hRun : IsRun es engine) :
    (∀ before after engine',
        es = before ++ after →
        IsRun before engine' →
        PaidOnDelivery before engine') ↔
      ∀ tr ∈ es, ¬ SettlesUndelivered tr.source tr.label.op := by
  constructor
  · intro hAlways tr hMem hUndelivered
    rcases List.append_of_mem hMem with
      ⟨before, after, hEs⟩
    subst hEs
    rcases hRun.split with ⟨hBefore, hStep, _⟩
    have hSound : tr.source.Sound := Reachable.sound ⟨_, hBefore⟩
    rcases exec_settlesUndelivered hSound hUndelivered
        hStep with
      ⟨_, i, _, escrow', _, _, _, _, hLookup', hMono', hPaid⟩
    have hPays :=
      hAlways (before ++ [tr]) after tr.target (by simp)
        (hBefore.snoc hStep) i escrow'
        (CoreProverEngine.getElem?_of_lookup hLookup') hPaid
    rw [hMono'] at hPays
    exact absurd hPays.2.1 (by simp)
  · intro hDelivered before after engine' hEs hBefore i
      escrow hGet hPaid
    have hMono : escrow.fulfillmentMono.isSome := by
      refine hBefore.paidFulfilled ?_ i escrow hGet hPaid
      intro tr hMem
      exact hDelivered tr (by
        rw [hEs]
        exact List.mem_append_left _ hMem)
    have hSound : engine'.Sound := Reachable.sound ⟨_, hBefore⟩
    refine ⟨hBefore.fulfils_of_fulfillmentMono i escrow hGet
      hMono, hMono, ?_, hSound.receipted hGet hMono⟩
    rw [(hSound.records hGet).txid]
    exact hMono

end Engine

end BorderController

------------------------------------------------------------
-- An Overdue Order That Is Claimed
------------------------------------------------------------

namespace BorderController

namespace Engine

local instance deliveryChrono : Chrono := utcChrono

/- A claim of an overdue order fails and marks it as claimed. -/
theorem error_not_unchanged :
    ∃ engine op message engine',
      Reachable engine ∧
        exec op engine = some (.error message, engine') ∧
        engine' ≠ engine := by
  refine ⟨(play overdueOps (.new 1 12 0)).2,
    .sellerClaim (orderIdOf 1) "0x3", _, _,
    ⟨_, play_isRun overdueOps 1 12 0⟩, rfl, ?_⟩
  intro hSame
  have hState :=
    congrArg (fun engine => engine.getState (orderIdOf 1))
      hSame
  contradiction

/- A claim without a transaction id changes nothing. -/
theorem error_unchanged_blank :
    ∃ message engine',
      exec (.sellerClaim (orderIdOf 1) " ")
          (play overdueOps (.new 1 12 0)).2 =
        some (.error message, engine') ∧
      engine' = (play overdueOps (.new 1 12 0)).2 := by
  have hRefused :
      ∃ message engine',
        exec (.sellerClaim (orderIdOf 1) " ")
            (play overdueOps (.new 1 12 0)).2 =
          some (.error message, engine') :=
    ⟨_, _, rfl⟩
  rcases hRefused with ⟨message, engine', hExec⟩
  refine ⟨message, engine', hExec, ?_⟩
  refine (error_unchanged_iff
    ⟨_, play_isRun overdueOps 1 12 0⟩ hExec).mpr ?_
      ⟨message, rfl⟩
  rintro ⟨_, _, _, _, _, _, _, hMay⟩
  have hBlank : RustString.isBlank " " = true := by decide
  rw [Op.MaySettle, hBlank] at hMay
  contradiction

/- The run of the failed claim ends with a paid order. -/
theorem overdue_claim_not_paidOnDelivery :
    ∃ es engine,
      IsRun es engine ∧ ¬ PaidOnDelivery es engine := by
  refine ⟨_, _,
    play_isRun
      (overdueOps ++ [.sellerClaim (orderIdOf 1) "0x3"])
      1 12 0, ?_⟩
  intro hPaid
  have hMono := (hPaid 0 _ rfl rfl).2.1
  contradiction

/- A claim after delivery is paid on delivery. -/
theorem paidOnDelivery_delivered :
    PaidOnDelivery
      (play
        (deliveryOps 3600 ++
          [.sellerClaim (orderIdOf 1) "0x4"])
        (.new 1 12 0)).1
      (play
        (deliveryOps 3600 ++
          [.sellerClaim (orderIdOf 1) "0x4"])
        (.new 1 12 0)).2 := by
  have hRun :=
    play_isRun
      (deliveryOps 3600 ++
        [.sellerClaim (orderIdOf 1) "0x4"])
      1 12 0
  have hStates :
      ∀ tr ∈ (play
          (deliveryOps 3600 ++
            [.sellerClaim (orderIdOf 1) "0x4"])
          (.new 1 12 0)).1,
        ∀ escrow ∈ tr.source.escrows,
          escrow.state ≠ .fulfillmentExpired := by
    decide +kernel
  refine (paidOnDelivery_iff hRun).mpr ?_ _ [] _
    (List.append_nil _).symm hRun
  rintro tr hMem ⟨_, i, escrow, _, hLookup, hState, _, _⟩
  have hThere := CoreProverEngine.mem_of_lookup hLookup
  exact hStates tr hMem escrow hThere hState

end Engine

end BorderController

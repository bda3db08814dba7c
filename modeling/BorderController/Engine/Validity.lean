import BorderController.Engine.Mirror
import BorderController.Engine.Timing

/-
  Receipts of settled orders as public receipts.

  Every field that the validator of public receipts asks for
  is checked on its way through the engine, except the amount
  of a commit.

  Key definitions include:
    * `Txip.CoreProverReceipt.validate`
    * `ReceiptMetadata.ValidPublic`
    * `FinalizesValid`
    * `SettlesNothing`

  Key theorems include:
    * `OrderChange.vouched`
    * `step_finalizesValid_iff`
    * `finalizesValid_iff`
-/

------------------------------------------------------------
-- The Public Receipt
------------------------------------------------------------

namespace BorderController

namespace Txip

/- The fields of a public receipt that `validate` reads. -/
structure CoreProverReceipt where
  sessionId : String
  /- A `u128`. -/
  orderAmount : Nat
  buyerCommitTxid : String
  sellerAcceptTxid : String
  sellerFulfillTxid : String
  sellerClaimTxid : Option String
  sellerRefundTxid : Option String

def CoreProverReceipt.validate
    (receipt : CoreProverReceipt) :
    Except String Unit :=
  if receipt.sessionId = "" then
    .error "session_id is required"
  else if receipt.orderAmount = 0 then
    .error "order_amount must be > 0"
  else if receipt.buyerCommitTxid = "" then
    .error "buyer_commit_txid is required"
  else if receipt.sellerAcceptTxid = "" then
    .error "seller_accept_txid is required"
  else if receipt.sellerFulfillTxid = "" then
    .error "seller_fulfill_txid is required"
  else
    match receipt.sellerClaimTxid, receipt.sellerRefundTxid with
    | some _, none => .ok ()
    | none, some _ => .ok ()
    | some _, some _ =>
        .error
          ("Cannot set BOTH seller_claim_txid AND " ++
            "seller_refund_txid")
    | none, none =>
        .error
          ("Must set EITHER seller_claim_txid OR " ++
            "seller_refund_txid")

/- A receipt is valid if every field it needs is there. -/
theorem CoreProverReceipt.validate_ok_iff
    {receipt : CoreProverReceipt} :
    receipt.validate = .ok () ↔
      receipt.sessionId ≠ "" ∧
        0 < receipt.orderAmount ∧
        receipt.buyerCommitTxid ≠ "" ∧
        receipt.sellerAcceptTxid ≠ "" ∧
        receipt.sellerFulfillTxid ≠ "" ∧
        receipt.sellerClaimTxid.isSome ≠
          receipt.sellerRefundTxid.isSome := by
  unfold validate
  rw [Nat.pos_iff_ne_zero]
  cases receipt.sellerClaimTxid <;>
    cases receipt.sellerRefundTxid <;>
    split_ifs <;> simp_all

end Txip

namespace Engine

/- The receipt, shown under a name for its session. -/
def ReceiptMetadata.toPublicReceipt
    (sessionId : String)
    (receipt : ReceiptMetadata) :
    Txip.CoreProverReceipt :=
  { sessionId
    orderAmount := receipt.orderAmount
    buyerCommitTxid := receipt.buyerCommitTxid
    sellerAcceptTxid := receipt.sellerAcceptTxid
    sellerFulfillTxid := receipt.sellerFulfillTxid
    sellerClaimTxid := receipt.sellerClaimTxid
    sellerRefundTxid := receipt.sellerRefundTxid }

/- Valid under any name that a session may have. -/
def ReceiptMetadata.ValidPublic
    (receipt : ReceiptMetadata) :
    Prop :=
  ∀ sessionId,
    sessionId ≠ "" →
    (receipt.toPublicReceipt sessionId).validate = .ok ()

theorem ReceiptMetadata.validPublic_iff
    {receipt : ReceiptMetadata} :
    receipt.ValidPublic ↔
      0 < receipt.orderAmount ∧
        receipt.buyerCommitTxid ≠ "" ∧
        receipt.sellerAcceptTxid ≠ "" ∧
        receipt.sellerFulfillTxid ≠ "" ∧
        receipt.sellerClaimTxid.isSome ≠
          receipt.sellerRefundTxid.isSome := by
  unfold ReceiptMetadata.ValidPublic
  simp only [Txip.CoreProverReceipt.validate_ok_iff,
    ReceiptMetadata.toPublicReceipt]
  constructor
  · intro hValid
    exact (hValid "session" (by decide)).2
  · intro hFields sessionId hSession
    exact ⟨hSession, hFields⟩

end Engine

end BorderController

------------------------------------------------------------
-- Settlements
------------------------------------------------------------

namespace BorderController

namespace Engine

variable [Chrono]

/- If the call settles an order, its receipt becomes valid. -/
def FinalizesValid
    (tr : Transition CoreProverEngine Call) :
    Prop :=
  ∀ settlement reply,
    tr.label.op.settlement tr.source = some settlement →
    tr.label.result = .ok reply →
    ∃ idx stub receipt,
      tr.source.lastReceipt settlement.orderId =
          some (idx, stub) ∧
        tr.target.receipts[idx]? = some receipt ∧
        receipt.ValidPublic

/- The call settles a receipted order over nothing. -/
def SettlesNothing
    (engine : CoreProverEngine)
    (op : Op) :
    Prop :=
  ∃ orderId i escrow,
    op.orderId? = some orderId ∧
      engine.lookup orderId = some (i, escrow) ∧
      escrow.state.isClaimable = true ∧
      op.MaySettle engine escrow ∧
      engine.Receipted orderId ∧
      escrow.amount = 0

/- A receipt that names the transactions of its order. -/
structure Escrow.VouchesFor
    (escrow : Escrow)
    (receipt : ReceiptMetadata) :
    Prop where
  amount : receipt.orderAmount = escrow.amount.toNat
  commit : receipt.buyerCommitTxid = escrow.buyerCommitTxid
  accept : receipt.sellerAcceptTxid ≠ ""
  fulfill : receipt.sellerFulfillTxid ≠ ""

/-
  An accepted order names its acceptance, and its receipts name
  the transactions behind them.
-/
structure Escrow.Vouched
    (escrow : Escrow)
    (receipts : List ReceiptMetadata) :
    Prop where
  accepted :
    escrow.state.canFulfill = true →
      ∃ txid,
        escrow.sellerAcceptTxid = some txid ∧ txid ≠ ""
  receipts :
    ∀ receipt ∈ receipts, escrow.VouchesFor receipt

end Engine

end BorderController

------------------------------------------------------------
-- What a Receipt Stands On
------------------------------------------------------------

namespace BorderController

namespace Engine

variable [Chrono]
variable {engine engine' : CoreProverEngine}
variable {op : Op}
variable {call : Call}
variable {orderId : OrderId}
variable {i : Nat}
variable {escrow escrow' : Escrow}
variable {receipts receipts' : List ReceiptMetadata}

omit [Chrono] in
theorem ne_empty_of_not_isBlank
    {txid : String}
    (hTxid : RustString.isBlank txid = false) :
    txid ≠ "" := by
  rintro rfl
  contradiction

omit [Chrono] in
/- Receipts stand as long as amount and commit do. -/
theorem Escrow.VouchesFor.congr
    {receipt : ReceiptMetadata}
    (hVouches : escrow.VouchesFor receipt)
    (hAmount : escrow'.amount = escrow.amount)
    (hCommit :
      escrow'.buyerCommitTxid = escrow.buyerCommitTxid) :
    escrow'.VouchesFor receipt where
  amount := by rw [hAmount, hVouches.amount]
  commit := by rw [hCommit, hVouches.commit]
  accept := hVouches.accept
  fulfill := hVouches.fulfill

omit [Chrono] in
/- Settlement writes no field that a receipt stands on. -/
theorem Escrow.VouchesFor.finalize
    {now : TimeTruth}
    {settled : Escrow}
    {refunded : Bool}
    {receipt : ReceiptMetadata}
    (hVouches : escrow.VouchesFor receipt) :
    escrow.VouchesFor
      (receipt.finalize now settled refunded) := by
  cases refunded <;>
    exact
      { amount := hVouches.amount
        commit := hVouches.commit
        accept := hVouches.accept
        fulfill := hVouches.fulfill }

omit [Chrono] in
theorem Escrow.settle_amount
    (now : TimeTruth)
    (height : UInt64)
    (refunded : Bool)
    (txid : String)
    (escrow : Escrow) :
    (escrow.settle now height refunded txid).amount =
        escrow.amount ∧
      (escrow.settle now height refunded
          txid).buyerCommitTxid =
        escrow.buyerCommitTxid := by
  cases refunded <;> exact ⟨rfl, rfl⟩

/- No change touches the transaction of the commit. -/
theorem Escrow.Change.buyerCommitTxid
    (hChange : Escrow.Change engine op escrow escrow') :
    escrow'.buyerCommitTxid = escrow.buyerCommitTxid := by
  cases hChange with
  | accept hBlock =>
      rw [(Escrow.sellerAccept_ok_iff.mp hBlock).2.2.2]
  | fulfill hBlock =>
      rw [(Escrow.sellerFulfill_ok_iff.mp hBlock).2.2.2]
  | settle hSettle hBlock =>
      rcases Settlement.block_ok hSettle hBlock with
        ⟨_, _, txid, hEq⟩
      rw [hEq]
      exact (Escrow.settle_amount _ _ _ _ _).2
  | withdraw hBlock =>
      rw [(Escrow.buyerWithdraw_ok_iff.mp hBlock).2.2]
  | refresh =>
      rw [Escrow.updateState_eq]
      split <;> rfl

omit [Chrono] in
/- A settled order cannot be delivered any more. -/
private theorem not_canFulfill_of_settle
    {now : TimeTruth}
    {height : UInt64}
    {refunded : Bool}
    {txid : String} :
    ¬ (escrow.settle now height refunded
      txid).state.canFulfill = true := by
  rw [Escrow.settle_state]
  cases refunded <;> simp [EscrowState.canFulfill]

/- A call keeps an order and its receipts vouched for. -/
theorem OrderChange.vouched
    (hChange :
      OrderChange engine orderId op
        escrow receipts escrow' receipts')
    (hVouched : escrow.Vouched receipts) :
    escrow'.Vouched receipts' := by
  cases hChange with
  | kept => exact hVouched
  | accepted hBlock =>
      rcases Escrow.sellerAccept_ok_iff.mp hBlock with
        ⟨_, hTxid, _, hEq⟩
      rw [hEq]
      exact
        { accepted := fun _ =>
            ⟨_, rfl, ne_empty_of_not_isBlank hTxid⟩
          receipts := fun receipt hMem =>
            (hVouched.receipts receipt hMem).congr rfl rfl }
  | @fulfilled txid late _ _ _ hBlock =>
      rcases Escrow.sellerFulfill_ok_iff.mp hBlock with
        ⟨hCan, hTxid, _, hEq⟩
      rcases hVouched.accepted hCan with
        ⟨accepted, hAccepted, hNamed⟩
      rw [hEq]
      refine
        { accepted := fun _ => ⟨accepted, hAccepted, hNamed⟩
          receipts := ?_ }
      intro receipt hMem
      rcases List.mem_append.mp hMem with hOld | hNew
      · exact (hVouched.receipts receipt hOld).congr rfl rfl
      · rw [List.mem_singleton.mp hNew]
        exact
          { amount := rfl
            commit := rfl
            accept := by
              simpa [Escrow.receiptStub, hAccepted]
                using hNamed
            fulfill := ne_empty_of_not_isBlank hTxid }
  | @settled _ settlement _ _ _ front receipt hSettle _ hBlock =>
      rcases Settlement.block_ok hSettle hBlock with
        ⟨_, _, txid, hEq⟩
      have hSame :=
        Escrow.settle_amount engine.now
          engine.currentBlockHeight settlement.refunded txid
          escrow
      rw [← hEq] at hSame
      refine { accepted := ?_, receipts := ?_ }
      · intro hCan
        rw [hEq] at hCan
        exact absurd hCan not_canFulfill_of_settle
      · intro shown hMem
        rcases List.mem_append.mp hMem with hFront | hLast
        · exact
            (hVouched.receipts shown
              (List.mem_append_left _ hFront)).congr
              hSame.1 hSame.2
        · rw [List.mem_singleton.mp hLast]
          exact
            ((hVouched.receipts receipt (by simp)).congr
              hSame.1 hSame.2).finalize
  | @unreceipted _ settlement _ _ _ hSettle _ hBlock =>
      rcases Settlement.block_ok hSettle hBlock with
        ⟨_, _, txid, hEq⟩
      refine { accepted := ?_, receipts := by simp }
      intro hCan
      rw [hEq] at hCan
      exact absurd hCan not_canFulfill_of_settle
  | withdrawn hBlock =>
      rw [(Escrow.buyerWithdraw_ok_iff.mp hBlock).2.2]
      exact
        { accepted := by simp [EscrowState.canFulfill]
          receipts := fun receipt hMem =>
            (hVouched.receipts receipt hMem).congr rfl rfl }
  | refreshed =>
      rcases escrow.updateState_cases engine.now with
        hSame | ⟨hState, _, hExpired⟩
      · rw [hSame]
        exact hVouched
      · rw [hExpired]
        exact
          { accepted := fun _ =>
              hVouched.accepted (by rw [hState]; rfl)
            receipts := fun receipt hMem =>
              (hVouched.receipts receipt hMem).congr rfl rfl }

/- Every order and its receipts are vouched for in any run. -/
theorem Reachable.vouched
    (hReach : Reachable engine) :
    engine.Orders Escrow.Vouched := by
  have hBoth :
      engine.Sound ∧ engine.Orders Escrow.Vouched := by
    refine hReach.invariant
      (fun engine =>
        engine.Sound ∧ engine.Orders Escrow.Vouched) ?_ ?_
    · intro chainId interval genesis
      refine ⟨CoreProverEngine.new_sound _ _ _, ?_⟩
      intro orderId i escrow hLookup
      contradiction
    · rintro engine call engine' ⟨hSound, hOrders⟩ hStep
      refine ⟨step_sound hSound hStep, ?_⟩
      apply step_orders hSound hStep hOrders
      · intro _ _ _ _ _ _ _ _
        exact
          { accepted := by
              simp [Escrow.new, EscrowState.canFulfill]
            receipts := by simp }
      · intro orderId i escrow escrow' _ hChange hBefore
        exact hChange.vouched hBefore
  exact hBoth.2

/- Every record names the transaction of its commit. -/
theorem Reachable.committed
    (hReach : Reachable engine)
    (hGet : engine.escrows[i]? = some escrow) :
    escrow.buyerCommitTxid ≠ "" := by
  refine Reachable.records
    (P := fun escrow => escrow.buyerCommitTxid ≠ "")
    ?_ ?_ hReach hGet
  · intro engine call engine' hStep buyer seller amount
      profile chain txid reply hOp hOk
    exact ne_empty_of_not_isBlank
      (isBlank_of_commit hStep hOp hOk)
  · intro engine op escrow escrow' hChange hBefore
    rw [hChange.buyerCommitTxid]
    exact hBefore

end Engine

end BorderController

------------------------------------------------------------
-- Receipts of a Settlement
------------------------------------------------------------

namespace BorderController

namespace Engine

variable [Chrono]
variable {engine engine' : CoreProverEngine}
variable {call : Call}
variable {settlement : Settlement}
variable {reply : Reply}

/- A settlement that returns `Ok` finalizes the last receipt. -/
theorem step_finalizes
    (hStep : system.Step engine call engine')
    (hSettle : call.op.settlement engine = some settlement)
    (hOk : call.result = .ok reply) :
    ∃ i idx amount escrow escrow' stub,
      engine.lookup settlement.orderId = some (i, escrow) ∧
        settlement.block escrow = .ok (amount, escrow') ∧
        engine.lastReceipt settlement.orderId =
          some (idx, stub) ∧
        engine'.receipts[idx]? =
          some
            (stub.finalize engine.now escrow'
              settlement.refunded) := by
  have hExec : exec call.op engine = some (call.result, engine') :=
    hStep
  rw [exec_settlement hSettle, Option.some.injEq] at hExec
  cases hLookup : engine.lookup settlement.orderId with
  | none =>
      rw [borrow_of_none hLookup, Prod.mk.injEq, hOk] at hExec
      cases hExec.1
  | some p =>
      cases hBlock : settlement.block p.2 with
      | error message =>
          rw [borrow_of_error hLookup hBlock, Prod.mk.injEq,
            hOk] at hExec
          cases hExec.1
      | ok q =>
          rw [borrow_of_ok hLookup hBlock,
            CoreProverEngine.settle] at hExec
          cases hReceipt :
              engine.lastReceipt settlement.orderId with
          | none =>
              rw [hReceipt, Prod.mk.injEq, hOk] at hExec
              cases hExec.1
          | some r =>
              rw [hReceipt, Prod.mk.injEq] at hExec
              have hThere :=
                CoreProverEngine.getElem?_of_lastReceipt
                  hReceipt
              refine ⟨p.1, r.1, q.1, p.2, q.2, r.2, rfl, hBlock,
                rfl, ?_⟩
              rw [← hExec.2]
              exact List.getElem?_set_self
                (List.getElem?_eq_some_iff.mp hThere).1

omit [Chrono] in
/- A settlement leaves a claim or a refund, and not both. -/
theorem ReceiptMetadata.Unsettled.one_of_settle
    {now : TimeTruth}
    {height : UInt64}
    {refunded : Bool}
    {txid : String}
    {escrow : Escrow}
    {stub : ReceiptMetadata}
    (hStub : stub.Unsettled) :
    (stub.finalize now
        (escrow.settle now height refunded txid)
        refunded).sellerClaimTxid.isSome ≠
      (stub.finalize now
        (escrow.settle now height refunded txid)
        refunded).sellerRefundTxid.isSome := by
  cases refunded with
  | false =>
      simp [ReceiptMetadata.finalize, Escrow.settle,
        hStub.refund]
  | true =>
      simp [ReceiptMetadata.finalize, Escrow.settle,
        hStub.claim]

/-
  The receipt a settlement finalizes is valid exactly if the
  order is over a positive amount.
-/
theorem validPublic_finalize_iff
    {i idx : Nat}
    {amount : UInt64}
    {escrow escrow' : Escrow}
    {stub : ReceiptMetadata}
    (hReach : Reachable engine)
    (hSettle : call.op.settlement engine = some settlement)
    (hLookup :
      engine.lookup settlement.orderId = some (i, escrow))
    (hBlock :
      settlement.block escrow = .ok (amount, escrow'))
    (hReceipt :
      engine.lastReceipt settlement.orderId =
        some (idx, stub)) :
    (stub.finalize engine.now escrow'
        settlement.refunded).ValidPublic ↔
      escrow.amount ≠ 0 := by
  have hMem :
      stub ∈ engine.receiptsOf settlement.orderId := by
    have hKey :=
      CoreProverEngine.sessionId_of_lastReceipt hReceipt
    exact List.mem_filter.mpr
      ⟨CoreProverEngine.mem_of_lastReceipt hReceipt,
        by simpa using hKey⟩
  rcases Settlement.block_ok hSettle hBlock with
    ⟨hClaimable, _, txid, hEq⟩
  have hStub :=
    (hReach.untouched _ _ _ hLookup).receipts
      (EscrowState.isTerminal_of_isClaimable hClaimable)
      stub hMem
  have hFinal :
      escrow.VouchesFor
        (stub.finalize engine.now escrow'
          settlement.refunded) :=
    ((hReach.vouched _ _ _ hLookup).receipts stub
      hMem).finalize
  have hCommit :=
    hReach.committed
      (CoreProverEngine.getElem?_of_lookup hLookup)
  rw [ReceiptMetadata.validPublic_iff, hFinal.amount,
    hFinal.commit, Nat.pos_iff_ne_zero, Ne,
    ← UInt64.toNat_zero, UInt64.toNat_inj]
  constructor
  · exact fun hValid => hValid.1
  · intro hAmount
    refine ⟨hAmount, hCommit, hFinal.accept, hFinal.fulfill, ?_⟩
    rw [hEq]
    exact hStub.one_of_settle

/-
  A call of a reachable engine finalizes a valid receipt, if it
  settles an order, exactly when it settles none over nothing.
-/
theorem step_finalizesValid_iff
    (hReach : Reachable engine)
    (hStep : system.Step engine call engine') :
    FinalizesValid ⟨engine, call, engine'⟩ ↔
      ¬ SettlesNothing engine call.op := by
  constructor
  · rintro hValid
      ⟨orderId, i, escrow, hOrder, hLookup, hClaimable, hMay,
        hReceipted, hZero⟩
    rcases hMay.exists_settlement with ⟨settlement, hSettle⟩
    rw [Op.orderId?_of_settlement hSettle,
      Option.some.injEq] at hOrder
    subst hOrder
    rcases (Settlement.exists_block_ok_iff hSettle).mpr
        ⟨hClaimable, hMay⟩ with
      ⟨amount, escrow', hBlock⟩
    rcases exec_settlement_of_receipted hSettle hLookup hBlock
        hReceipted with
      ⟨after, _, _, hExec, _⟩
    have hCall :
        some (call.result, engine') =
          some (.ok (.amount amount), after) := by
      rw [← hExec]
      exact hStep.symm
    have hOk : call.result = .ok (.amount amount) :=
      congrArg Prod.fst (Option.some.inj hCall)
    rcases step_finalizes hStep hSettle hOk with
      ⟨j, idx, _, found, final, stub, hFound, hFinal,
        hLast, hThere⟩
    rw [hLookup] at hFound
    cases hFound
    rcases hValid settlement _ hSettle hOk with
      ⟨idx', stub', receipt, hLast', hThere', hPublic⟩
    simp only at hLast' hThere'
    rw [hLast] at hLast'
    cases hLast'
    rw [hThere] at hThere'
    cases hThere'
    exact (validPublic_finalize_iff hReach hSettle hLookup
      hFinal hLast).mp hPublic hZero
  · intro hRight settlement reply hSettle hOk
    rcases step_finalizes hStep hSettle hOk with
      ⟨i, idx, amount, escrow, escrow', stub, hLookup, hBlock,
        hLast, hThere⟩
    refine ⟨idx, stub, _, hLast, hThere, ?_⟩
    apply (validPublic_finalize_iff hReach hSettle hLookup
      hBlock hLast).mpr
    intro hZero
    rcases (Settlement.exists_block_ok_iff hSettle).mp
        ⟨amount, escrow', hBlock⟩ with
      ⟨hClaimable, hMay⟩
    have hReceipted : engine.Receipted settlement.orderId := by
      by_contra hNone
      rw [CoreProverEngine.lastReceipt_eq_none_iff.mpr hNone]
        at hLast
      contradiction
    exact hRight
      ⟨settlement.orderId, i, escrow,
        Op.orderId?_of_settlement hSettle, hLookup, hClaimable,
        hMay, hReceipted, hZero⟩

/-
  All receipts that a run finalizes are valid public receipts
  exactly if the run settles no receipted order over nothing.
-/
theorem finalizesValid_iff
    {es : List (Transition CoreProverEngine Call)}
    (hRun : IsRun es engine) :
    (∀ tr ∈ es, FinalizesValid tr) ↔
      ∀ tr ∈ es, ¬ SettlesNothing tr.source tr.label.op := by
  apply forall₂_congr
  intro tr hMem
  rcases List.append_of_mem hMem with ⟨before, after, hEs⟩
  subst hEs
  rcases hRun.split with ⟨hBefore, hStep, _⟩
  exact step_finalizesValid_iff ⟨before, hBefore⟩ hStep

end Engine

end BorderController

------------------------------------------------------------
-- A Sale for Nothing
------------------------------------------------------------

namespace BorderController

namespace Engine

local instance validityChrono : Chrono := utcChrono

/- Commit to an amount, deliver at once, and claim it. -/
def claimOps (amount : UInt64) : List Op :=
  [ .buyerCommit "buyer" "seller" amount .pizzaDelivery 1
      "0x1",
    .sellerAccept (orderIdOf 1) "0x2",
    .sellerFulfill (orderIdOf 1) "0x3",
    .sellerClaim (orderIdOf 1) "0x4" ]

/- An order over nothing is settled with an invalid receipt. -/
theorem nothing_not_finalizesValid :
    ∃ es engine,
      IsRun es engine ∧
        ¬ ∀ tr ∈ es, FinalizesValid tr := by
  refine ⟨_, _, play_isRun (claimOps 0) 1 12 0, ?_⟩
  intro hValid
  have hNothing :
      ∀ tr ∈ (play (claimOps 0) (.new 1 12 0)).1,
        ∀ receipt ∈ tr.target.receipts,
          receipt.orderAmount = 0 := by
    decide +kernel
  have hLast :=
    List.getLast_mem
      (List.cons_ne_nil _ _ :
        (play (claimOps 0) (.new 1 12 0)).1 ≠ [])
  rcases hValid _ hLast _ (.amount 0) rfl rfl with
    ⟨idx, stub, receipt, _, hThere, hPublic⟩
  have hAmount :=
    (ReceiptMetadata.validPublic_iff.mp hPublic).1
  rw [hNothing _ hLast receipt (List.mem_of_getElem? hThere)]
    at hAmount
  contradiction

/- One over 25 is settled with a valid one. -/
theorem claim_finalizesValid :
    ∃ es engine,
      IsRun es engine ∧
        es.length = 4 ∧ ∀ tr ∈ es, FinalizesValid tr := by
  have hRun := play_isRun (claimOps 25) 1 12 0
  refine ⟨_, _, hRun, rfl, (finalizesValid_iff hRun).mpr ?_⟩
  have hAmounts :
      ∀ tr ∈ (play (claimOps 25) (.new 1 12 0)).1,
        ∀ escrow ∈ tr.source.escrows,
          escrow.amount ≠ 0 := by
    decide +kernel
  rintro tr hMem ⟨_, i, escrow, _, hLookup, _, _, _, hZero⟩
  have hThere := CoreProverEngine.mem_of_lookup hLookup
  exact hAmounts tr hMem escrow hThere hZero

end Engine

end BorderController

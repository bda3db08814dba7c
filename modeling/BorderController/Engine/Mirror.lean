import BorderController.Engine.Delivery
import BorderController.Engine.Receipts

/-
  Agreement of receipts with the settlement of their orders.

  Settlement by the seller finalizes the last receipt of an
  order, withdrawal by the buyer finalizes none, and a reader
  is shown the first.

  Key definitions include:
    * `Escrow.MirroredBy`
    * `CoreProverEngine.Mirrors`
    * `SettlesAmiss`

  Key theorems include:
    * `OrderChange.untouched`
    * `OrderChange.shownBy`
    * `mirrors_iff`
-/

------------------------------------------------------------
-- Receipts of Settled and Unsettled Orders
------------------------------------------------------------

namespace BorderController

namespace Engine

/- Nothing has been written into the receipt since its issue. -/
structure ReceiptMetadata.Unsettled
    (receipt : ReceiptMetadata) :
    Prop where
  claim : receipt.sellerClaimTxid = none
  refund : receipt.sellerRefundTxid = none
  withdrawal : receipt.buyerWithdrawTxid = none
  mono : receipt.settlementMono = 0

/- The receipt carries the settlement of its escrow. -/
structure Escrow.MirroredBy
    (escrow : Escrow)
    (receipt : ReceiptMetadata) :
    Prop where
  claimed :
    escrow.state = .sellerClaimed →
      receipt.sellerClaimTxid = escrow.sellerClaimTxid ∧
        receipt.sellerRefundTxid = none ∧
        some receipt.sellerBlockHeight =
          escrow.sellerBlockHeight
  refunded :
    escrow.state = .sellerRefunded →
      receipt.sellerRefundTxid = escrow.sellerRefundTxid ∧
        receipt.sellerClaimTxid = none ∧
        some receipt.sellerBlockHeight =
          escrow.sellerBlockHeight
  withdrawn :
    escrow.state = .buyerWithdrawn →
      receipt.sellerClaimTxid = none ∧
        receipt.sellerRefundTxid = none ∧
        receipt.buyerWithdrawTxid = escrow.buyerWithdrawTxid
  mono :
    escrow.state.isTerminal = true →
      some receipt.settlementMono = escrow.settlementMono
  unsettled :
    escrow.state.isTerminal = false →
      receipt.sellerClaimTxid = none ∧
        receipt.sellerRefundTxid = none ∧
        receipt.buyerWithdrawTxid = none

/- What `get_receipt` shows agrees with `get_escrow`. -/
def CoreProverEngine.Mirrors
    (engine : CoreProverEngine) :
    Prop :=
  ∀ (orderId : OrderId) (receipt : ReceiptMetadata),
    engine.getReceipt orderId = some receipt →
    ∃ escrow,
      engine.getEscrow orderId = .ok escrow ∧
        escrow.MirroredBy receipt

variable [Chrono]

/-
  The call settles an order that has several receipts, or is a
  withdrawal of an order that has one.  A withdrawal without a
  transaction id at time 0 would write what a receipt starts
  with.
-/
def SettlesAmiss
    (engine : CoreProverEngine)
    (op : Op) :
    Prop :=
  ∃ orderId i escrow,
    op.orderId? = some orderId ∧
      engine.lookup orderId = some (i, escrow) ∧
      (escrow.state.isClaimable = true ∧
          op.MaySettle engine escrow ∧
          1 < (engine.receiptsOf orderId).length ∨
        ∃ txid,
          op = .buyerWithdraw orderId txid ∧
            escrow.state = .fulfillmentExpired ∧
            engine.Receipted orderId ∧
            (txid.isSome ∨ engine.currentMono ≠ 0))

/-
  Nothing has been written into the record or the receipts of
  an order that is not settled.
-/
structure Escrow.Untouched
    (escrow : Escrow)
    (receipts : List ReceiptMetadata) :
    Prop where
  record :
    escrow.state.isTerminal = false →
      escrow.sellerClaimTxid = none ∧
        escrow.sellerRefundTxid = none ∧
        escrow.buyerWithdrawTxid = none
  receipts :
    escrow.state.isTerminal = false →
      ∀ receipt ∈ receipts, receipt.Unsettled

/- The first receipt of an order shows its settlement. -/
def Escrow.ShownBy
    (escrow : Escrow)
    (receipts : List ReceiptMetadata) :
    Prop :=
  ∀ receipt,
    receipts.head? = some receipt →
    escrow.MirroredBy receipt

end Engine

end BorderController

------------------------------------------------------------
-- What Keeps the Books
------------------------------------------------------------

namespace BorderController

namespace Engine

variable [Chrono]
variable {engine engine' : CoreProverEngine}
variable {op : Op}
variable {orderId : OrderId}
variable {escrow escrow' : Escrow}
variable {receipts receipts' : List ReceiptMetadata}

omit [Chrono] in
/- The one receipt of an order shows its settlement. -/
theorem ReceiptMetadata.Unsettled.mirrors_settle
    {now : TimeTruth}
    {height : UInt64}
    {refunded : Bool}
    {txid : String}
    {receipt : ReceiptMetadata}
    (hReceipt : receipt.Unsettled) :
    (escrow.settle now height refunded txid).MirroredBy
      (receipt.finalize now
        (escrow.settle now height refunded txid) refunded) := by
  cases refunded with
  | false =>
      exact
        { claimed := fun _ => ⟨rfl, hReceipt.refund, rfl⟩
          refunded := by simp [Escrow.settle]
          withdrawn := by simp [Escrow.settle]
          mono := fun _ => rfl
          unsettled := by
            simp [Escrow.settle, EscrowState.isTerminal] }
  | true =>
      exact
        { claimed := by simp [Escrow.settle]
          refunded := fun _ => ⟨rfl, hReceipt.claim, rfl⟩
          withdrawn := by simp [Escrow.settle]
          mono := fun _ => rfl
          unsettled := by
            simp [Escrow.settle, EscrowState.isTerminal] }

omit [Chrono] in
theorem Escrow.settle_isTerminal
    (now : TimeTruth)
    (height : UInt64)
    (refunded : Bool)
    (txid : String)
    (escrow : Escrow) :
    (escrow.settle now height refunded txid).state.isTerminal =
      true := by
  rw [Escrow.settle_state]
  cases refunded <;> rfl

omit [Chrono] in
/- An order that is not settled is shown as it is. -/
theorem Escrow.Untouched.shownBy
    (hUntouched : escrow.Untouched receipts)
    (hOpen : escrow.state.isTerminal = false) :
    escrow.ShownBy receipts := by
  intro receipt hHead
  have hReceipt :=
    hUntouched.receipts hOpen receipt
      (List.mem_of_head? hHead)
  exact
    { claimed := by
        intro hState
        simp [hState, EscrowState.isTerminal] at hOpen
      refunded := by
        intro hState
        simp [hState, EscrowState.isTerminal] at hOpen
      withdrawn := by
        intro hState
        simp [hState, EscrowState.isTerminal] at hOpen
      mono := by simp [hOpen]
      unsettled := fun _ =>
        ⟨hReceipt.claim, hReceipt.refund,
          hReceipt.withdrawal⟩ }

/- Only settlement writes into an order's settlement fields. -/
theorem OrderChange.untouched
    (hChange :
      OrderChange engine orderId op
        escrow receipts escrow' receipts')
    (hUntouched : escrow.Untouched receipts) :
    escrow'.Untouched receipts' := by
  cases hChange with
  | kept => exact hUntouched
  | accepted hBlock =>
      rcases Escrow.sellerAccept_ok_iff.mp hBlock with
        ⟨hState, _, _, hEq⟩
      have hOpen : escrow.state.isTerminal = false := by
        rw [hState]
        rfl
      rw [hEq]
      exact
        { record := fun _ => hUntouched.record hOpen
          receipts := fun _ => hUntouched.receipts hOpen }
  | fulfilled hBlock =>
      rcases Escrow.sellerFulfill_ok_iff.mp hBlock with
        ⟨hCan, _, _, hEq⟩
      have hOpen :=
        EscrowState.isTerminal_of_canFulfill hCan
      refine { record := ?_, receipts := ?_ }
      · intro _
        rw [hEq]
        exact hUntouched.record hOpen
      · intro _ receipt hMem
        rcases List.mem_append.mp hMem with hOld | hNew
        · exact hUntouched.receipts hOpen receipt hOld
        · rw [List.mem_singleton.mp hNew]
          exact ⟨rfl, rfl, rfl, rfl⟩
  | settled hSettle hOrder hBlock =>
      rcases Settlement.block_ok hSettle hBlock with
        ⟨_, _, txid, hEq⟩
      have hTerminal : escrow'.state.isTerminal = true := by
        rw [hEq]
        exact Escrow.settle_isTerminal _ _ _ _ _
      exact
        { record := by simp [hTerminal]
          receipts := by simp [hTerminal] }
  | unreceipted hSettle hOrder hBlock =>
      rcases Settlement.block_ok hSettle hBlock with
        ⟨_, _, txid, hEq⟩
      have hTerminal : escrow'.state.isTerminal = true := by
        rw [hEq]
        exact Escrow.settle_isTerminal _ _ _ _ _
      exact
        { record := by simp [hTerminal]
          receipts := by simp }
  | withdrawn hBlock =>
      rw [(Escrow.buyerWithdraw_ok_iff.mp hBlock).2.2]
      exact
        { record := by simp [EscrowState.isTerminal]
          receipts := by simp [EscrowState.isTerminal] }
  | refreshed =>
      rcases escrow.updateState_cases engine.now with
        hSame | ⟨hState, _, hExpired⟩
      · rw [hSame]
        exact hUntouched
      · have hOpen : escrow.state.isTerminal = false := by
          rw [hState]
          rfl
        rw [hExpired]
        exact
          { record := fun _ => hUntouched.record hOpen
            receipts := fun _ => hUntouched.receipts hOpen }

/-
  A change that settles an order with at most one receipt, and
  withdraws none that has one, keeps the order shown.
-/
theorem OrderChange.shownBy
    (hChange :
      OrderChange engine orderId op
        escrow receipts escrow' receipts')
    (hUntouched : escrow.Untouched receipts)
    (hShown : escrow.ShownBy receipts)
    (hFresh :
      escrow.state = .buyerCommitted → receipts = [])
    (hSettles :
      op.orderId? = some orderId →
      escrow.state.isClaimable = true →
      op.MaySettle engine escrow →
      receipts.length ≤ 1)
    (hWithdraws :
      ∀ txid,
        op = .buyerWithdraw orderId txid →
        escrow.state = .fulfillmentExpired →
        receipts ≠ [] →
        txid = none ∧ engine.currentMono = 0) :
    escrow'.ShownBy receipts' := by
  have hUntouched' := hChange.untouched hUntouched
  cases hChange with
  | kept => exact hShown
  | accepted hBlock =>
      apply hUntouched'.shownBy
      rw [(Escrow.sellerAccept_ok_iff.mp hBlock).2.2.2]
      rfl
  | fulfilled hBlock =>
      apply hUntouched'.shownBy
      rw [(Escrow.sellerFulfill_ok_iff.mp hBlock).2.2.2]
      cases hLate : escrow.isLate engine.now <;>
        simp [EscrowState.isTerminal]
  | @settled _ settlement amount _ _ front receipt hSettle
      hOrder hBlock =>
      rcases (Settlement.exists_block_ok_iff hSettle).mp
          ⟨_, _, hBlock⟩ with
        ⟨hClaimable, hMay⟩
      rcases Settlement.block_ok hSettle hBlock with
        ⟨_, _, txid, hEq⟩
      have hOpen :=
        EscrowState.isTerminal_of_isClaimable hClaimable
      have hAddressed : op.orderId? = some orderId := by
        rw [← hOrder]
        exact Op.orderId?_of_settlement hSettle
      have hAlone : front = [] := by
        simpa using hSettles hAddressed hClaimable hMay
      have hReceipt : receipt.Unsettled :=
        hUntouched.receipts hOpen receipt (by simp)
      intro shown hHead
      rw [hAlone] at hHead
      simp only [List.nil_append, List.head?_cons,
        Option.some.injEq] at hHead
      rw [← hHead, hEq]
      exact hReceipt.mirrors_settle
  | unreceipted hSettle hOrder hBlock =>
      intro shown hHead
      contradiction
  | @withdrawn txid amount _ _ _ hBlock =>
      rcases Escrow.buyerWithdraw_ok_iff.mp hBlock with
        ⟨hState, _, hEq⟩
      intro shown hHead
      have hSome : receipts ≠ [] := by
        intro hNil
        rw [hNil] at hHead
        contradiction
      rcases hState with hExpired | ⟨hCommitted, _⟩
      · rcases hWithdraws txid rfl hExpired hSome with
          ⟨hTxid, hMono⟩
        have hOpen : escrow.state.isTerminal = false := by
          rw [hExpired]
          rfl
        have hReceipt :=
          hUntouched.receipts hOpen shown
            (List.mem_of_head? hHead)
        have hRecord := (hUntouched.record hOpen).2.2
        rw [hEq]
        exact
          { claimed := by simp
            refunded := by simp
            withdrawn := fun _ =>
              ⟨hReceipt.claim, hReceipt.refund, by
                simp [hReceipt.withdrawal, hTxid, hRecord]⟩
            mono := fun _ => by
              rw [hReceipt.mono, ← hMono]
              rfl
            unsettled := by simp [EscrowState.isTerminal] }
      · exact absurd (hFresh hCommitted) hSome
  | refreshed =>
      rcases escrow.updateState_cases engine.now with
        hSame | ⟨_, _, hExpired⟩
      · rw [hSame]
        exact hShown
      · rw [hExpired] at hUntouched' ⊢
        exact hUntouched'.shownBy rfl

end Engine

end BorderController

------------------------------------------------------------
-- Orders of a Run
------------------------------------------------------------

namespace BorderController

namespace Engine

variable [Chrono]
variable {engine engine' : CoreProverEngine}
variable {call : Call}
variable {orderId : OrderId}

/- Every order of the engine satisfies `P`. -/
def CoreProverEngine.Orders
    (P : Escrow → List ReceiptMetadata → Prop)
    (engine : CoreProverEngine) :
    Prop :=
  ∀ (orderId : OrderId) (i : Nat) (escrow : Escrow),
    engine.lookup orderId = some (i, escrow) →
    P escrow (engine.receiptsOf orderId)

omit [Chrono] in
/- An order just committed has no receipt. -/
private theorem receiptsOf_new
    {buyer seller : String}
    {amount : UInt64}
    {profile : PaymentProfile}
    {chain : UInt64}
    {txid : String}
    {mono : UInt64}
    {i : Nat}
    (hSound : engine.Sound)
    (hLookup :
      engine.lookup orderId =
        some (i, .new orderId buyer seller amount profile
          chain txid mono)) :
    engine.receiptsOf orderId = [] := by
  rw [CoreProverEngine.receiptsOf_eq_nil_iff,
    hSound.receipted_iff hLookup]
  simp [Escrow.new]

/-
  A property of single orders is kept by a call once it holds
  of every new order and every change of an order keeps it.
-/
theorem step_orders
    {P : Escrow → List ReceiptMetadata → Prop}
    (hSound : engine.Sound)
    (hStep : system.Step engine call engine')
    (hOrders : engine.Orders P)
    (hNew :
      ∀ orderId buyer seller amount profile chain txid mono,
        P (.new orderId buyer seller amount profile chain txid
          mono) [])
    (hKeep :
      ∀ orderId i escrow escrow',
        engine.lookup orderId = some (i, escrow) →
        OrderChange engine orderId call.op
          escrow (engine.receiptsOf orderId)
          escrow' (engine'.receiptsOf orderId) →
        P escrow (engine.receiptsOf orderId) →
        P escrow' (engine'.receiptsOf orderId)) :
    engine'.Orders P := by
  intro orderId i escrow' hLookup'
  rcases step_lookup_source hStep hLookup' with
    ⟨escrow, hLookup⟩ |
      ⟨buyer, seller, amount, profile, chain, txid, hEq⟩
  · rcases step_order hStep hLookup with
      ⟨after, hAfter, hChange⟩
    rw [hLookup'] at hAfter
    cases hAfter
    exact hKeep orderId i escrow escrow' hLookup hChange
      (hOrders orderId i escrow hLookup)
  · subst hEq
    rw [receiptsOf_new (step_sound hSound hStep) hLookup']
    exact hNew _ _ _ _ _ _ _ _

/- Orders that are not settled are untouched in every run. -/
theorem Reachable.untouched
    (hReach : Reachable engine) :
    engine.Orders Escrow.Untouched := by
  have hBoth :
      engine.Sound ∧ engine.Orders Escrow.Untouched := by
    refine hReach.invariant
      (fun engine =>
        engine.Sound ∧ engine.Orders Escrow.Untouched) ?_ ?_
    · intro chainId interval genesis
      refine ⟨CoreProverEngine.new_sound _ _ _, ?_⟩
      intro orderId i escrow hLookup
      contradiction
    · rintro engine call engine' ⟨hSound, hOrders⟩ hStep
      refine ⟨step_sound hSound hStep, ?_⟩
      apply step_orders hSound hStep hOrders
      · intro _ _ _ _ _ _ _ _
        exact
          { record := fun _ => ⟨rfl, rfl, rfl⟩
            receipts := by simp }
      · intro orderId i escrow escrow' _ hChange hBefore
        exact hChange.untouched hBefore
  exact hBoth.2

/- A call that settles nothing amiss keeps all orders shown. -/
theorem step_shown
    (hReach : Reachable engine)
    (hStep : system.Step engine call engine')
    (hShown : engine.Orders Escrow.ShownBy)
    (hRight : ¬ SettlesAmiss engine call.op) :
    engine'.Orders Escrow.ShownBy := by
  have hSound := hReach.sound
  apply step_orders hSound hStep hShown
  · intro _ _ _ _ _ _ _ _ receipt hHead
    contradiction
  · intro orderId i escrow escrow' hLookup hChange hBefore
    apply hChange.shownBy
      (hReach.untouched orderId i escrow hLookup) hBefore
    · intro hState
      have hGet := CoreProverEngine.getElem?_of_lookup hLookup
      rw [CoreProverEngine.receiptsOf_eq_nil_iff,
        hSound.receipted_iff hLookup,
        (hSound.records hGet).unfulfilled (Or.inl hState)]
      simp
    · intro hAddressed hClaimable hMay
      by_contra hMany
      exact hRight
        ⟨orderId, i, escrow, hAddressed, hLookup,
          Or.inl ⟨hClaimable, hMay, by omega⟩⟩
    · intro txid hOp hState hSome
      by_contra hWrites
      have hReceipted : engine.Receipted orderId := by
        by_contra hNone
        exact hSome
          (CoreProverEngine.receiptsOf_eq_nil_iff.mpr hNone)
      refine hRight
        ⟨orderId, i, escrow, by rw [hOp]; rfl, hLookup,
          Or.inr ⟨txid, hOp, hState, hReceipted, ?_⟩⟩
      cases txid with
      | none => exact Or.inr fun hZero => hWrites ⟨rfl, hZero⟩
      | some txid => exact Or.inl rfl

omit [Chrono] in
/- Receipts are shown to readers by their orders' records. -/
theorem mirrors_of_shown
    (hSound : engine.Sound)
    (hShown : engine.Orders Escrow.ShownBy) :
    engine.Mirrors := by
  intro orderId receipt hReceipt
  rw [CoreProverEngine.getReceipt_eq] at hReceipt
  have hReceipted : engine.Receipted orderId := by
    by_contra hNone
    rw [CoreProverEngine.receiptsOf_eq_nil_iff.mpr hNone]
      at hReceipt
    contradiction
  rcases hSound.delivered hReceipted with
    ⟨i, escrow, hLookup, _⟩
  refine ⟨escrow, ?_,
    hShown orderId i escrow hLookup receipt hReceipt⟩
  rw [CoreProverEngine.getEscrow_eq, hLookup]

/- In a run that settles nothing amiss all orders are shown. -/
theorem IsRun.shown
    {es : List (Transition CoreProverEngine Call)}
    (hRun : IsRun es engine) :
    (∀ tr ∈ es, ¬ SettlesAmiss tr.source tr.label.op) →
      engine.Orders Escrow.ShownBy := by
  refine hRun.historyInvariant
    (fun es engine =>
      (∀ tr ∈ es, ¬ SettlesAmiss tr.source tr.label.op) →
        engine.Orders Escrow.ShownBy) ?_ ?_
  · intro chainId interval genesis _ orderId i escrow hLookup
    contradiction
  · intro es engine call engine' hBefore hShown hStep hRight
    apply step_shown ⟨es, hBefore⟩ hStep
    · exact hShown fun tr hMem =>
        hRight tr (List.mem_append_left _ hMem)
    · exact hRight _
        (List.mem_append_right _ List.mem_cons_self)

end Engine

end BorderController

------------------------------------------------------------
-- What a Settlement Amiss Leaves
------------------------------------------------------------

namespace BorderController

namespace Engine

variable [Chrono]
variable {engine engine' : CoreProverEngine}
variable {call : Call}
variable {orderId : OrderId}
variable {i : Nat}
variable {escrow : Escrow}

/- The first of several receipts misses the settlement. -/
private theorem not_mirrors_of_several
    (hReach : Reachable engine)
    (hStep : system.Step engine call engine')
    (hOrder : call.op.orderId? = some orderId)
    (hLookup : engine.lookup orderId = some (i, escrow))
    (hClaimable : escrow.state.isClaimable = true)
    (hMay : call.op.MaySettle engine escrow)
    (hSeveral : 1 < (engine.receiptsOf orderId).length) :
    ¬ engine'.Mirrors := by
  rcases hMay.exists_settlement with ⟨settlement, hSettle⟩
  have hId : settlement.orderId = orderId := by
    rw [Op.orderId?_of_settlement hSettle] at hOrder
    exact Option.some.inj hOrder
  subst hId
  rcases (Settlement.exists_block_ok_iff hSettle).mpr
      ⟨hClaimable, hMay⟩ with
    ⟨amount, escrow', hBlock⟩
  have hReceipted : engine.Receipted settlement.orderId := by
    by_contra hNone
    rw [CoreProverEngine.receiptsOf_eq_nil_iff.mpr hNone]
      at hSeveral
    simp at hSeveral
  rcases exec_settlement_of_receipted hSettle hLookup hBlock
      hReceipted with
    ⟨after, front, receipt, hExec, hLookup', hBefore, hNow⟩
  have hAfter : after = engine' := by
    have hSame :
        exec call.op engine = some (call.result, engine') :=
      hStep
    rw [hExec] at hSame
    exact congrArg Prod.snd (Option.some.inj hSame)
  subst hAfter
  cases front with
  | nil =>
      rw [hBefore] at hSeveral
      simp at hSeveral
  | cons first rest =>
      intro hMirrors
      have hFirst : after.getReceipt settlement.orderId =
          some first := by
        rw [CoreProverEngine.getReceipt_eq, hNow]
        rfl
      rcases hMirrors _ _ hFirst with
        ⟨found, hFound, hMirrored⟩
      rw [CoreProverEngine.getEscrow_eq, hLookup'] at hFound
      cases hFound
      have hOpen :=
        EscrowState.isTerminal_of_isClaimable hClaimable
      have hUnsettled : first.Unsettled :=
        (hReach.untouched _ i escrow hLookup).receipts hOpen
          first (by rw [hBefore]; simp)
      rcases Settlement.block_ok hSettle hBlock with
        ⟨_, _, txid, hEq⟩
      cases hRefunded : settlement.refunded with
      | false =>
          rw [hRefunded] at hEq
          have hClaim :=
            (hMirrored.claimed (by rw [hEq]; rfl)).1
          rw [hUnsettled.claim, hEq] at hClaim
          contradiction
      | true =>
          rw [hRefunded] at hEq
          have hRefund :=
            (hMirrored.refunded (by rw [hEq]; rfl)).1
          rw [hUnsettled.refund, hEq] at hRefund
          contradiction

omit [Chrono] in
theorem exists_buyerWithdraw_ok
    {now : TimeTruth}
    (txid : Option String)
    (hState : escrow.state = .fulfillmentExpired) :
    ∃ escrow',
      escrow.buyerWithdraw now txid =
        .ok (escrow.amount, escrow') :=
  ⟨_, Escrow.buyerWithdraw_ok_iff.mpr
    ⟨Or.inl hState, rfl, rfl⟩⟩

/- The receipt of a withdrawn order misses the withdrawal. -/
private theorem not_mirrors_of_withdrawal
    {txid : Option String}
    (hReach : Reachable engine)
    (hStep : system.Step engine call engine')
    (hOp : call.op = .buyerWithdraw orderId txid)
    (hLookup : engine.lookup orderId = some (i, escrow))
    (hState : escrow.state = .fulfillmentExpired)
    (hReceipted : engine.Receipted orderId)
    (hWrites : txid.isSome ∨ engine.currentMono ≠ 0) :
    ¬ engine'.Mirrors := by
  have hExec :
      exec (.buyerWithdraw orderId txid) engine =
        some (call.result, engine') := by
    rw [← hOp]
    exact hStep
  rcases exists_buyerWithdraw_ok txid hState with
    ⟨escrow', hBlock⟩
  have hSpec := (Escrow.buyerWithdraw_ok_iff.mp hBlock).2.2
  rw [exec_buyerWithdraw, borrow_of_ok hLookup hBlock,
    Option.some.injEq, Prod.mk.injEq] at hExec
  intro hMirrors
  rw [← hExec.2] at hMirrors
  have hSome : engine.receiptsOf orderId ≠ [] := by
    intro hNil
    exact CoreProverEngine.receiptsOf_eq_nil_iff.mp hNil
      hReceipted
  rcases List.exists_cons_of_ne_nil hSome with
    ⟨first, rest, hReceipts⟩
  have hOpen : escrow.state.isTerminal = false := by
    rw [hState]
    rfl
  have hUntouched := hReach.untouched orderId i escrow hLookup
  have hUnsettled :=
    hUntouched.receipts hOpen first
      (by rw [hReceipts]; exact List.mem_cons_self)
  have hRecord := (hUntouched.record hOpen).2.2
  have hFirst :
      (engine.setEscrow i escrow').getReceipt orderId =
        some first := by
    rw [CoreProverEngine.getReceipt_eq,
      CoreProverEngine.setEscrow_receiptsOf, hReceipts]
    rfl
  rcases hMirrors orderId first hFirst with
    ⟨found, hFound, hMirrored⟩
  rw [CoreProverEngine.getEscrow_setEscrow_self hLookup
    (by rw [hSpec])] at hFound
  cases hFound
  have hMono := hMirrored.mono (by rw [hSpec]; rfl)
  have hTxid := (hMirrored.withdrawn (by rw [hSpec])).2.2
  rw [hUnsettled.mono, hSpec] at hMono
  rw [hUnsettled.withdrawal, hSpec] at hTxid
  simp only [hRecord, Option.or_none] at hTxid
  rcases hWrites with hGiven | hLater
  · rw [← hTxid] at hGiven
    contradiction
  · exact hLater (Option.some.inj hMono).symm

/-
  In every state of a run the receipts shown mirror the
  settlement of their orders, exactly when no call of the run
  settles an order amiss.
-/
theorem mirrors_iff
    {es : List (Transition CoreProverEngine Call)}
    (hRun : IsRun es engine) :
    (∀ before after engine',
        es = before ++ after →
        IsRun before engine' →
        engine'.Mirrors) ↔
      ∀ tr ∈ es, ¬ SettlesAmiss tr.source tr.label.op := by
  constructor
  · intro hAlways tr hMem hAmiss
    rcases List.append_of_mem hMem with ⟨before, after, hEs⟩
    subst hEs
    rcases hRun.split with ⟨hBefore, hStep, _⟩
    have hMirrors : tr.target.Mirrors :=
      hAlways (before ++ [tr]) after tr.target (by simp)
        (hBefore.snoc hStep)
    rcases hAmiss with
      ⟨orderId, i, escrow, hOrder, hLookup,
        ⟨hClaimable, hMay, hSeveral⟩ |
        ⟨txid, hOp, hState, hReceipted, hWrites⟩⟩
    · exact not_mirrors_of_several ⟨_, hBefore⟩ hStep hOrder
        hLookup hClaimable hMay hSeveral hMirrors
    · exact not_mirrors_of_withdrawal ⟨_, hBefore⟩ hStep hOp
        hLookup hState hReceipted hWrites hMirrors
  · intro hRight before after engine' hEs hBefore
    apply mirrors_of_shown (Reachable.sound ⟨_, hBefore⟩)
    apply hBefore.shown
    intro tr hMem
    exact hRight tr (by
      rw [hEs]
      exact List.mem_append_left _ hMem)

end Engine

end BorderController

------------------------------------------------------------
-- A Late Delivery Claimed and Withdrawn
------------------------------------------------------------

namespace BorderController

namespace Engine

local instance mirrorChrono : Chrono := utcChrono

/- The receipt of a late delivery misses its withdrawal. -/
theorem withdrawal_not_mirrored :
    ∃ engine receipt escrow,
      Reachable engine ∧
        engine.getReceipt (orderIdOf 1) = some receipt ∧
        engine.getEscrow (orderIdOf 1) = .ok escrow ∧
        escrow.buyerWithdrawTxid = some "0x4" ∧
        receipt.buyerWithdrawTxid = none ∧
        ¬ engine.Mirrors := by
  refine ⟨_, _, _,
    ⟨_, play_isRun
      (deliveryOps 3601 ++
        [.buyerWithdraw (orderIdOf 1) (some "0x4")])
      1 12 0⟩, rfl, rfl, rfl, rfl, ?_⟩
  intro hMirrors
  rcases hMirrors (orderIdOf 1) _ rfl with
    ⟨escrow, hEscrow, hMirrored⟩
  cases hEscrow
  have hTxid := (hMirrored.withdrawn rfl).2.2
  contradiction

/- A claim on time is mirrored. -/
theorem mirrors_claimed :
    (play
      (deliveryOps 3600 ++ [.sellerClaim (orderIdOf 1) "0x4"])
      (.new 1 12 0)).2.Mirrors := by
  have hRun :=
    play_isRun
      (deliveryOps 3600 ++
        [.sellerClaim (orderIdOf 1) "0x4"])
      1 12 0
  have hShort :
      ∀ tr ∈ (play
          (deliveryOps 3600 ++
            [.sellerClaim (orderIdOf 1) "0x4"])
          (.new 1 12 0)).1,
        tr.source.receipts.length ≤ 1 ∧
          ∀ escrow ∈ tr.source.escrows,
            escrow.state ≠ .fulfillmentExpired := by
    decide +kernel
  refine (mirrors_iff hRun).mpr ?_ _ [] _
    (List.append_nil _).symm hRun
  rintro tr hMem
    ⟨orderId, i, escrow, _, hLookup,
      ⟨_, _, hSeveral⟩ | ⟨_, _, hState, _⟩⟩
  · have hLength :
        (tr.source.receiptsOf orderId).length ≤
          tr.source.receipts.length :=
      List.length_filter_le _ _
    have hOne := (hShort tr hMem).1
    omega
  · have hThere := CoreProverEngine.mem_of_lookup hLookup
    exact (hShort tr hMem).2 escrow hThere hState

end Engine

end BorderController

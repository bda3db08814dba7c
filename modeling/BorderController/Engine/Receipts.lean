import BorderController.Engine.Invariants

/-
  One order of the engine by itself: the record its id
  addresses together with the receipts that carry its id.

  A call changes at most one order, and the receipts of a run
  are its successful fulfilments in order.

  Key definitions include:
    * `CoreProverEngine.receiptsOf`
    * `OrderChange`
    * `fulfilments`

  Key theorems include:
    * `step_order`
    * `step_lookup_source`
    * `exec_settlement_of_receipted`
    * `IsRun.fulfilments_eq`
-/

------------------------------------------------------------
-- Receipts of an Order
------------------------------------------------------------

namespace BorderController

namespace Engine

namespace CoreProverEngine

/- The receipts of an order, in the order of their issue. -/
def receiptsOf
    (orderId : OrderId)
    (engine : CoreProverEngine) :
    List ReceiptMetadata :=
  KeyedList.withKey
    ReceiptMetadata.sessionId orderId engine.receipts

variable {orderId : OrderId}
variable {engine : CoreProverEngine}

/- `get_receipt` returns the first receipt issued. -/
theorem getReceipt_eq :
    engine.getReceipt orderId =
      (engine.receiptsOf orderId).head? :=
  KeyedList.find?_eq_head?_withKey _ _ _

theorem receiptsOf_eq_nil_iff :
    engine.receiptsOf orderId = [] ↔
      ¬ engine.Receipted orderId := by
  rw [← lastReceipt_eq_none_iff]
  exact KeyedList.withKey_eq_nil_iff

@[simp] theorem setEscrow_receiptsOf
    {i : Nat}
    {escrow : Escrow} :
    (engine.setEscrow i escrow).receiptsOf orderId =
      engine.receiptsOf orderId := rfl

/- Rewriting one order's record leaves the others alone. -/
theorem lookup_setEscrow_cases
    {orderId' : OrderId}
    {i j : Nat}
    {escrow before after : Escrow}
    (hLookup : engine.lookup orderId = some (i, escrow))
    (hWritten : engine.lookup orderId' = some (j, before))
    (hKey : after.orderId = before.orderId) :
    (orderId' = orderId ∧ before = escrow ∧
        (engine.setEscrow j after).lookup orderId =
          some (i, after)) ∨
      (orderId' ≠ orderId ∧
        (engine.setEscrow j after).lookup orderId =
          some (i, escrow)) := by
  have hGet := getElem?_of_lookup hLookup
  have hGet' := getElem?_of_lookup hWritten
  have hAfter :
      (engine.setEscrow j after).lookup orderId =
        some (if i = j then (j, after) else (i, escrow)) := by
    rw [lookup_setEscrow hGet' hKey, hLookup]
    rfl
  by_cases hOrder : orderId' = orderId
  · subst hOrder
    rw [hLookup] at hWritten
    cases hWritten
    refine Or.inl ⟨rfl, rfl, ?_⟩
    rw [hAfter, if_pos rfl]
  · refine Or.inr ⟨hOrder, ?_⟩
    rw [hAfter, if_neg]
    intro hIndex
    subst hIndex
    rw [hGet] at hGet'
    cases hGet'
    exact hOrder
      ((orderId_of_lookup hWritten).symm.trans
        (orderId_of_lookup hLookup))

end CoreProverEngine

end Engine

end BorderController

------------------------------------------------------------
-- Changes of One Order
------------------------------------------------------------

namespace BorderController

namespace Engine

variable [Chrono]

/-
  What a call makes of an order's record and receipts: nothing,
  or one of the outcomes of a call that addresses it.
-/
inductive OrderChange
    (engine : CoreProverEngine)
    (orderId : OrderId) :
    Op → Escrow → List ReceiptMetadata →
      Escrow → List ReceiptMetadata → Prop
  | kept
      {op : Op} {escrow : Escrow}
      {receipts : List ReceiptMetadata} :
      OrderChange engine orderId op
        escrow receipts escrow receipts
  | accepted
      {txid : String} {escrow escrow' : Escrow}
      {receipts : List ReceiptMetadata} :
      escrow.sellerAccept engine.now engine.chainId txid =
        .ok ((), escrow') →
      OrderChange engine orderId (.sellerAccept orderId txid)
        escrow receipts escrow' receipts
  | fulfilled
      {txid : String} {late : Bool} {escrow escrow' : Escrow}
      {receipts : List ReceiptMetadata} :
      escrow.sellerFulfill engine.now txid =
        .ok (late, escrow') →
      OrderChange engine orderId (.sellerFulfill orderId txid)
        escrow receipts escrow'
        (receipts ++ [escrow'.receiptStub engine.now late])
  | settled
      {op : Op} {settlement : Settlement} {amount : UInt64}
      {escrow escrow' : Escrow}
      {front : List ReceiptMetadata}
      {receipt : ReceiptMetadata} :
      op.settlement engine = some settlement →
      settlement.orderId = orderId →
      settlement.block escrow = .ok (amount, escrow') →
      OrderChange engine orderId op
        escrow (front ++ [receipt]) escrow'
        (front ++
          [receipt.finalize engine.now escrow'
            settlement.refunded])
  | unreceipted
      {op : Op} {settlement : Settlement} {amount : UInt64}
      {escrow escrow' : Escrow} :
      op.settlement engine = some settlement →
      settlement.orderId = orderId →
      settlement.block escrow = .ok (amount, escrow') →
      OrderChange engine orderId op escrow [] escrow' []
  | withdrawn
      {txid : Option String} {amount : UInt64}
      {escrow escrow' : Escrow}
      {receipts : List ReceiptMetadata} :
      escrow.buyerWithdraw engine.now txid =
        .ok (amount, escrow') →
      OrderChange engine orderId (.buyerWithdraw orderId txid)
        escrow receipts escrow' receipts
  | refreshed
      {escrow : Escrow} {receipts : List ReceiptMetadata} :
      OrderChange engine orderId (.updateState orderId)
        escrow receipts (escrow.updateState engine.now)
        receipts

variable {engine engine' : CoreProverEngine}
variable {orderId : OrderId}
variable {op : Op}
variable {call : Call}
variable {result : Except String Reply}

/- The stub of a fulfilment joins the receipts of its order. -/
private theorem receiptsOf_fulfilled
    {orderId' : OrderId}
    {txid : String}
    {i : Nat}
    {late : Bool}
    {escrow escrow' : Escrow}
    (orderId : OrderId)
    (hLookup : engine.lookup orderId' = some (i, escrow))
    (hBlock :
      escrow.sellerFulfill engine.now txid =
        .ok (late, escrow')) :
    KeyedList.withKey ReceiptMetadata.sessionId orderId
        (engine.receipts ++
          [escrow'.receiptStub engine.now late]) =
      engine.receiptsOf orderId ++
        (if orderId' = orderId then
          [escrow'.receiptStub engine.now late]
        else
          []) := by
  have hSame : escrow'.orderId = escrow.orderId := by
    rw [(Escrow.sellerFulfill_ok_iff.mp hBlock).2.2.2]
  have hKey : escrow'.orderId = orderId' :=
    hSame.trans (CoreProverEngine.orderId_of_lookup hLookup)
  rw [KeyedList.withKey_append_singleton]
  simp only [Escrow.receiptStub, hKey]
  rfl

/- A record is rewritten, and no receipt is. -/
private theorem order_of_setEscrow
    {orderId' : OrderId}
    {i j : Nat}
    {escrow before after : Escrow}
    (hLookup : engine.lookup orderId = some (i, escrow))
    (hWritten : engine.lookup orderId' = some (j, before))
    (hKey : after.orderId = before.orderId)
    (hChange :
      OrderChange engine orderId' op
        before (engine.receiptsOf orderId')
        after (engine.receiptsOf orderId')) :
    ∃ escrow',
      (engine.setEscrow j after).lookup orderId =
          some (i, escrow') ∧
        OrderChange engine orderId op
          escrow (engine.receiptsOf orderId) escrow'
          ((engine.setEscrow j after).receiptsOf
            orderId) := by
  rw [CoreProverEngine.setEscrow_receiptsOf]
  rcases CoreProverEngine.lookup_setEscrow_cases hLookup
      hWritten hKey with
    ⟨rfl, rfl, hAfter⟩ | ⟨_, hAfter⟩
  · exact ⟨_, hAfter, hChange⟩
  · exact ⟨escrow, hAfter, .kept⟩

/-
  A call changes an order by itself: neither its record nor its
  receipts depend on the rest of the engine.
-/
theorem Effect.order
    {i : Nat}
    {escrow : Escrow}
    (hEffect : Effect engine op result engine')
    (hLookup : engine.lookup orderId = some (i, escrow)) :
    ∃ escrow',
      engine'.lookup orderId = some (i, escrow') ∧
        OrderChange engine orderId op
          escrow (engine.receiptsOf orderId)
          escrow' (engine'.receiptsOf orderId) := by
  cases hEffect with
  | refused message => exact ⟨escrow, hLookup, .kept⟩
  | committed hTxid =>
      exact ⟨escrow,
        KeyedList.firstMatch_append_of_some _ hLookup, .kept⟩
  | accepted hWritten hBlock =>
      have hKey := congrArg Escrow.orderId
        (Escrow.sellerAccept_ok_iff.mp hBlock).2.2.2
      exact order_of_setEscrow hLookup hWritten hKey
        (.accepted hBlock)
  | fulfilled hWritten hBlock =>
      have hKey := congrArg Escrow.orderId
        (Escrow.sellerFulfill_ok_iff.mp hBlock).2.2.2
      have hReceipts :=
        receiptsOf_fulfilled orderId hWritten hBlock
      rcases CoreProverEngine.lookup_setEscrow_cases hLookup
          hWritten hKey with
        ⟨rfl, rfl, hAfter⟩ | ⟨hOther, hAfter⟩
      · rw [if_pos rfl] at hReceipts
        refine ⟨_, hAfter, ?_⟩
        unfold CoreProverEngine.receiptsOf at hReceipts ⊢
        rw [hReceipts]
        exact .fulfilled hBlock
      · rw [if_neg hOther, List.append_nil] at hReceipts
        refine ⟨escrow, hAfter, ?_⟩
        unfold CoreProverEngine.receiptsOf at hReceipts ⊢
        rw [hReceipts]
        exact .kept
  | @settled _ settlement j idx amount before after receipt
      hSettle hWritten hBlock hReceipt =>
      have hKey := Settlement.orderId_of_block hSettle hBlock
      have hFinal :=
        ReceiptMetadata.finalize_sessionId engine.now after
          settlement.refunded receipt
      have hThere :=
        CoreProverEngine.getElem?_of_lastReceipt hReceipt
      have hSession :=
        CoreProverEngine.sessionId_of_lastReceipt hReceipt
      rcases CoreProverEngine.lookup_setEscrow_cases hLookup
          hWritten hKey with
        ⟨rfl, rfl, hAfter⟩ | ⟨hOther, hAfter⟩
      · rcases KeyedList.exists_withKey_of_lastMatch hReceipt
            (hFinal.trans hSession) with
          ⟨front, hBefore, hNow⟩
        refine ⟨_, hAfter, ?_⟩
        unfold CoreProverEngine.receiptsOf
        rw [hBefore, hNow]
        exact .settled hSettle rfl hBlock
      · refine ⟨escrow, hAfter, ?_⟩
        unfold CoreProverEngine.receiptsOf
        rw [KeyedList.withKey_set_of_ne hThere hFinal
          (by rwa [hSession])]
        exact .kept
  | withdrawn hWritten hBlock =>
      have hKey := congrArg Escrow.orderId
        (Escrow.buyerWithdraw_ok_iff.mp hBlock).2.2
      exact order_of_setEscrow hLookup hWritten hKey
        (.withdrawn hBlock)
  | @refreshed orderId' j before hWritten =>
      have hChange :
          Escrow.Change engine (.updateState orderId')
            before (before.updateState engine.now) :=
        .refresh
      exact order_of_setEscrow hLookup hWritten
        hChange.identity.1 .refreshed
  | advanced hAdvance =>
      rcases advanceTime_spec hAdvance with
        ⟨hEscrows, hReceipts, _⟩
      refine ⟨escrow, ?_, ?_⟩
      · unfold CoreProverEngine.lookup
        rw [hEscrows]
        exact hLookup
      · unfold CoreProverEngine.receiptsOf
        rw [hReceipts]
        exact .kept
  | @unreceipted _ settlement j amount before after hSettle
      hWritten hBlock hReceipt =>
      have hKey := Settlement.orderId_of_block hSettle hBlock
      have hNone : engine.receiptsOf settlement.orderId = [] :=
        KeyedList.withKey_eq_nil_iff.mpr hReceipt
      apply order_of_setEscrow hLookup hWritten hKey
      rw [hNone]
      exact .unreceipted hSettle rfl hBlock

theorem step_order
    {i : Nat}
    {escrow : Escrow}
    (hStep : system.Step engine call engine')
    (hLookup : engine.lookup orderId = some (i, escrow)) :
    ∃ escrow',
      engine'.lookup orderId = some (i, escrow') ∧
        OrderChange engine orderId call.op
          escrow (engine.receiptsOf orderId)
          escrow' (engine'.receiptsOf orderId) :=
  (step_effect hStep).order hLookup

/- An order was addressed before the call, or is new. -/
theorem step_lookup_source
    {i : Nat}
    {escrow' : Escrow}
    (hStep : system.Step engine call engine')
    (hLookup' : engine'.lookup orderId = some (i, escrow')) :
    (∃ escrow, engine.lookup orderId = some (i, escrow)) ∨
      ∃ buyer seller amount profile chain txid,
        escrow' =
          .new orderId buyer seller amount profile chain txid
            engine.currentMono := by
  cases hLookup : engine.lookup orderId with
  | some p =>
      rcases step_lookup hStep hLookup with ⟨_, hAfter, _⟩
      rw [hLookup'] at hAfter
      cases hAfter
      exact Or.inl ⟨p.2, rfl⟩
  | none =>
      refine Or.inr ?_
      rcases (step_effect hStep).escrows_cases with
        hSame | ⟨buyer, seller, amount, profile, chain, txid,
          _, _, hNew⟩ | ⟨_, j, before, after, _, hWritten,
          hChange, hSet⟩
      · unfold CoreProverEngine.lookup at hLookup hLookup'
        rw [hSame, hLookup] at hLookup'
        contradiction
      · have hKey := CoreProverEngine.orderId_of_lookup hLookup'
        unfold CoreProverEngine.lookup at hLookup hLookup'
        rw [hNew] at hLookup'
        have hLast :=
          KeyedList.firstMatch_append_of_none hLookup hLookup'
        rw [hLast] at hKey
        refine ⟨buyer, seller, amount, profile, chain, txid, ?_⟩
        rw [hLast, ← hKey]
        rfl
      · have hAfter :
            (engine.setEscrow j after).lookup orderId = none := by
          rw [CoreProverEngine.lookup_setEscrow
            (CoreProverEngine.getElem?_of_lookup hWritten)
            hChange.identity.1, hLookup]
          rfl
        unfold CoreProverEngine.lookup at hAfter hLookup'
        rw [CoreProverEngine.setEscrow_escrows, ← hSet,
          hLookup'] at hAfter
        contradiction

end Engine

end BorderController

------------------------------------------------------------
-- Settlement of a Receipted Order
------------------------------------------------------------

namespace BorderController

namespace Engine

variable [Chrono]
variable {engine : CoreProverEngine}
variable {op : Op}
variable {settlement : Settlement}
variable {i : Nat}
variable {amount : UInt64}
variable {escrow escrow' : Escrow}

/-
  A settlement that passes its checks on an order with a
  receipt succeeds, and finalizes the last receipt.
-/
theorem exec_settlement_of_receipted
    (hSettle : op.settlement engine = some settlement)
    (hLookup :
      engine.lookup settlement.orderId = some (i, escrow))
    (hBlock :
      settlement.block escrow = .ok (amount, escrow'))
    (hReceipted : engine.Receipted settlement.orderId) :
    ∃ engine' front receipt,
      exec op engine =
          some (.ok (.amount amount), engine') ∧
        engine'.lookup settlement.orderId =
          some (i, escrow') ∧
        engine.receiptsOf settlement.orderId =
          front ++ [receipt] ∧
        engine'.receiptsOf settlement.orderId =
          front ++
            [receipt.finalize engine.now escrow'
              settlement.refunded] := by
  have hKey := Settlement.orderId_of_block hSettle hBlock
  cases hReceipt : engine.lastReceipt settlement.orderId with
  | none =>
      rw [CoreProverEngine.lastReceipt_eq_none_iff]
        at hReceipt
      exact absurd hReceipted hReceipt
  | some p =>
      have hFinal :=
        ReceiptMetadata.finalize_sessionId engine.now escrow'
          settlement.refunded p.2
      have hSession :=
        CoreProverEngine.sessionId_of_lastReceipt hReceipt
      rcases KeyedList.exists_withKey_of_lastMatch hReceipt
          (hFinal.trans hSession) with
        ⟨front, hBefore, hNow⟩
      refine
        ⟨{ engine.setEscrow i escrow' with
            receipts :=
              engine.receipts.set p.1
                (p.2.finalize engine.now escrow'
                  settlement.refunded) },
          front, p.2, ?_, ?_, hBefore, hNow⟩
      · rw [exec_settlement hSettle,
          borrow_of_ok hLookup hBlock,
          CoreProverEngine.settle, hReceipt]
      · exact CoreProverEngine.lookup_setEscrow_self hLookup
          hKey

end Engine

end BorderController

------------------------------------------------------------
-- Fulfilments of a Run
------------------------------------------------------------

namespace BorderController

namespace Engine

/- The order of a successful `seller_fulfill`. -/
def Call.fulfilment? : Call → Option OrderId
  | ⟨.sellerFulfill orderId _, .ok .done⟩ => some orderId
  | _ => none

/- The orders of the successful fulfilments of a run. -/
def fulfilments
    (es : List (Transition CoreProverEngine Call)) :
    List OrderId :=
  es.filterMap fun tr => tr.label.fulfilment?

theorem Call.fulfilment?_eq_some_iff
    {call : Call}
    {orderId : OrderId} :
    call.fulfilment? = some orderId ↔
      ∃ txid, call = ⟨.sellerFulfill orderId txid, .ok .done⟩ := by
  constructor
  · intro hFulfilment
    unfold Call.fulfilment? at hFulfilment
    split at hFulfilment
    · cases hFulfilment
      exact ⟨_, rfl⟩
    · contradiction
  · rintro ⟨txid, rfl⟩
    rfl

theorem mem_fulfilments_iff
    {es : List (Transition CoreProverEngine Call)}
    {orderId : OrderId} :
    orderId ∈ fulfilments es ↔
      ∃ tr ∈ es, Fulfils orderId tr := by
  simp only [fulfilments, List.mem_filterMap,
    Call.fulfilment?_eq_some_iff, Fulfils]

variable [Chrono]
variable {es : List (Transition CoreProverEngine Call)}
variable {engine engine' : CoreProverEngine}
variable {call : Call}
variable {orderId : OrderId}

/- A fulfilment finds a record and adds one receipt. -/
theorem step_fulfilment
    (hStep : system.Step engine call engine')
    (hFulfilment : call.fulfilment? = some orderId) :
    ∃ i escrow escrow' late txid,
      call = ⟨.sellerFulfill orderId txid, .ok .done⟩ ∧
        engine.lookup orderId = some (i, escrow) ∧
        escrow.sellerFulfill engine.now txid =
          .ok (late, escrow') ∧
        engine'.lookup orderId = some (i, escrow') ∧
        engine'.receipts =
          engine.receipts ++
            [escrow'.receiptStub engine.now late] := by
  rcases Call.fulfilment?_eq_some_iff.mp hFulfilment with
    ⟨txid, rfl⟩
  cases step_effect hStep with
  | @fulfilled _ _ i late escrow escrow' hLookup hBlock =>
      refine ⟨i, escrow, escrow', late, txid, rfl, hLookup,
        hBlock, ?_, rfl⟩
      exact CoreProverEngine.lookup_setEscrow_self hLookup
        (by rw [(Escrow.sellerFulfill_ok_iff.mp hBlock).2.2.2])

/- A call adds the session id of its fulfilment, if any. -/
theorem step_sessionIds
    (hStep : system.Step engine call engine') :
    engine'.receipts.map ReceiptMetadata.sessionId =
      engine.receipts.map ReceiptMetadata.sessionId ++
        call.fulfilment?.toList := by
  rcases (step_effect hStep).sessionIds with
    hSame | ⟨orderId, txid, hOp, hResult, hMore⟩
  · cases hFulfilment : call.fulfilment? with
    | none => simpa using hSame
    | some orderId =>
        rcases step_fulfilment hStep hFulfilment with
          ⟨_, _, _, _, _, _, _, _, _, hReceipts⟩
        have hLength := congrArg List.length hSame
        simp [hReceipts] at hLength
  · rcases call with ⟨op, result⟩
    simp only at hOp hResult
    subst hOp
    subst hResult
    exact hMore

/- The receipts are those of the fulfilments of the run. -/
theorem IsRun.fulfilments_eq
    (hRun : IsRun es engine) :
    engine.receipts.map ReceiptMetadata.sessionId =
      fulfilments es := by
  apply hRun.historyInvariant
    (fun es engine =>
      engine.receipts.map ReceiptMetadata.sessionId =
        fulfilments es)
  · intro chainId interval genesis
    rfl
  · intro es engine call engine' _ hReceipts hStep
    rw [step_sessionIds hStep, hReceipts]
    cases hFulfilment : call.fulfilment? <;>
      simp [fulfilments, hFulfilment]

omit [Chrono] in
/- An order is fulfilled as often as it has receipts. -/
theorem length_receiptsOf :
    (engine.receiptsOf orderId).length =
      (engine.receipts.map
        ReceiptMetadata.sessionId).count orderId := by
  unfold CoreProverEngine.receiptsOf KeyedList.withKey
  rw [List.count, List.countP_map, List.countP_eq_length_filter]
  congr 2
  funext r
  by_cases hKey : r.sessionId = orderId <;> simp [hKey]

end Engine

end BorderController

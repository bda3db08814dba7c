import BorderController.Engine.Effect

/-
  Invariants that tie escrow states, fulfilment records and
  receipts together in every reachable engine.

  Key definitions include:
    * `CoreProverEngine.Receipted`
    * `Escrow.Sound`
    * `CoreProverEngine.Sound`

  Key theorems include:
    * `Effect.sessionIds`
    * `step_sound`
    * `Reachable.sound`
    * `CoreProverEngine.Sound.receipted_iff`
-/

------------------------------------------------------------
-- Session Ids of Receipts
------------------------------------------------------------

namespace BorderController

namespace Engine

/- Some receipt of the engine names the order. -/
def CoreProverEngine.Receipted
    (orderId : OrderId)
    (engine : CoreProverEngine) :
    Prop :=
  orderId ∈ engine.receipts.map ReceiptMetadata.sessionId

theorem CoreProverEngine.lastReceipt_eq_none_iff
    {orderId : OrderId}
    {engine : CoreProverEngine} :
    engine.lastReceipt orderId = none ↔
      ¬ engine.Receipted orderId := by
  unfold CoreProverEngine.lastReceipt
    CoreProverEngine.Receipted
  rw [KeyedList.lastMatch_eq_none_iff]
  simp

variable [Chrono]
variable {engine engine' : CoreProverEngine}
variable {op : Op}
variable {call : Call}
variable {result : Except String Reply}

omit [Chrono] in
theorem ReceiptMetadata.finalize_sessionId
    (now : TimeTruth)
    (escrow : Escrow)
    (refunded : Bool)
    (receipt : ReceiptMetadata) :
    (receipt.finalize now escrow refunded).sessionId =
      receipt.sessionId := by
  cases refunded <;> rfl

/-
  Receipts are only ever added by a fulfilment, for the order
  it fulfils; settlement keeps their session ids.
-/
theorem Effect.sessionIds
    (hEffect : Effect engine op result engine') :
    engine'.receipts.map ReceiptMetadata.sessionId =
        engine.receipts.map ReceiptMetadata.sessionId ∨
      ∃ orderId txid,
        op = .sellerFulfill orderId txid ∧
          result = .ok .done ∧
          engine'.receipts.map ReceiptMetadata.sessionId =
            engine.receipts.map ReceiptMetadata.sessionId ++
              [orderId] := by
  cases hEffect with
  | refused message => exact Or.inl rfl
  | committed hTxid => exact Or.inl rfl
  | accepted hLookup hBlock => exact Or.inl rfl
  | @fulfilled orderId txid i late escrow escrow' hLookup
      hBlock =>
      refine Or.inr ⟨orderId, txid, rfl, rfl, ?_⟩
      have hChange :
          Escrow.Change engine (.sellerFulfill orderId txid)
            escrow escrow' :=
        .fulfill hBlock
      have hKey : escrow'.orderId = orderId :=
        hChange.identity.1.trans
          (CoreProverEngine.orderId_of_lookup hLookup)
      simp [Escrow.receiptStub, hKey]
  | @settled _ settlement i idx amount escrow escrow' receipt
      hSettle hLookup hBlock hReceipt =>
      refine Or.inl ?_
      have hGet :=
        CoreProverEngine.getElem?_of_lastReceipt hReceipt
      have hIdx := (List.getElem?_eq_some_iff.mp hGet).1
      have hMapped :
          idx <
            (engine.receipts.map
              ReceiptMetadata.sessionId).length := by
        simpa using hIdx
      have hHere :
          (engine.receipts.map
              ReceiptMetadata.sessionId)[idx] =
            receipt.sessionId := by
        rw [List.getElem_map,
          (List.getElem?_eq_some_iff.mp hGet).2]
      simp only [List.map_set,
        ReceiptMetadata.finalize_sessionId]
      rw [← hHere, List.set_getElem_self]
  | withdrawn hLookup hBlock => exact Or.inl rfl
  | refreshed hLookup => exact Or.inl rfl
  | advanced hAdvance =>
      exact Or.inl (by rw [(advanceTime_spec hAdvance).2.1])
  | unreceipted hSettle hLookup hBlock hReceipt =>
      exact Or.inl rfl

/- A receipt is never lost. -/
theorem step_receipted
    {orderId : OrderId}
    (hStep : system.Step engine call engine')
    (hReceipted : engine.Receipted orderId) :
    engine'.Receipted orderId := by
  unfold CoreProverEngine.Receipted at hReceipted ⊢
  rcases (step_effect hStep).sessionIds with
    hSame | ⟨_, _, _, _, hMore⟩
  · rwa [hSame]
  · rw [hMore]
    exact List.mem_append_left _ hReceipted

end Engine

end BorderController

------------------------------------------------------------
-- Fulfilment Records
------------------------------------------------------------

namespace BorderController

namespace Engine

/-
  A record in `SellerFulfilled` has been fulfilled, one that is
  committed or accepted has not, and the fulfilment time and
  the fulfilment transaction come together.
-/
structure Escrow.Sound (escrow : Escrow) : Prop where
  fulfilled :
    escrow.state = .sellerFulfilled →
      escrow.fulfillmentMono.isSome
  unfulfilled :
    escrow.state = .buyerCommitted ∨
        escrow.state = .sellerAccepted →
      escrow.fulfillmentMono = none
  txid :
    escrow.sellerFulfillTxid.isSome =
      escrow.fulfillmentMono.isSome

theorem Escrow.new_sound
    (orderId : OrderId)
    (buyer seller : String)
    (amount : UInt64)
    (profile : PaymentProfile)
    (chain : UInt64)
    (txid : String)
    (mono : UInt64) :
    (Escrow.new orderId buyer seller amount profile chain txid
      mono).Sound where
  fulfilled hState := by
    simp [Escrow.new] at hState
  unfulfilled _ := rfl
  txid := rfl

variable [Chrono]
variable {engine : CoreProverEngine}
variable {op : Op}
variable {escrow escrow' : Escrow}

/- Only a fulfilment writes the fulfilment record. -/
theorem Escrow.Change.fulfillmentMono
    (hChange : Escrow.Change engine op escrow escrow') :
    (escrow'.fulfillmentMono = escrow.fulfillmentMono ∧
        escrow'.sellerFulfillTxid =
          escrow.sellerFulfillTxid) ∨
      ∃ orderId txid,
        op = .sellerFulfill orderId txid ∧
          escrow'.fulfillmentMono.isSome ∧
          escrow'.sellerFulfillTxid.isSome := by
  cases hChange with
  | accept hBlock =>
      rw [(sellerAccept_ok_iff.mp hBlock).2.2.2]
      exact Or.inl ⟨rfl, rfl⟩
  | fulfill hBlock =>
      rw [(sellerFulfill_ok_iff.mp hBlock).2.2.2]
      exact Or.inr ⟨_, _, rfl, rfl, rfl⟩
  | @settle _ settlement _ _ _ hSettle hBlock =>
      rcases Settlement.block_ok hSettle hBlock with
        ⟨_, _, txid, hEq⟩
      rw [hEq]
      cases settlement.refunded <;> exact Or.inl ⟨rfl, rfl⟩
  | withdraw hBlock =>
      rw [(buyerWithdraw_ok_iff.mp hBlock).2.2]
      exact Or.inl ⟨rfl, rfl⟩
  | refresh =>
      rw [updateState_eq]
      split <;> exact Or.inl ⟨rfl, rfl⟩

theorem Escrow.Change.sound
    (hChange : Escrow.Change engine op escrow escrow')
    (hSound : escrow.Sound) :
    escrow'.Sound := by
  cases hChange with
  | accept hBlock =>
      have hSpec := sellerAccept_ok_iff.mp hBlock
      rw [hSpec.2.2.2]
      exact
        { fulfilled := by simp
          unfulfilled := fun _ =>
            hSound.unfulfilled (Or.inl hSpec.1)
          txid := hSound.txid }
  | fulfill hBlock =>
      rw [(sellerFulfill_ok_iff.mp hBlock).2.2.2]
      exact
        { fulfilled := by simp
          unfulfilled := by
            cases escrow.isLate engine.now <;> simp
          txid := rfl }
  | @settle _ settlement _ _ _ hSettle hBlock =>
      rcases Settlement.block_ok hSettle hBlock with
        ⟨_, _, txid, hEq⟩
      rw [hEq]
      cases settlement.refunded <;>
      exact
        { fulfilled := by simp [Escrow.settle]
          unfulfilled := by simp [Escrow.settle]
          txid := hSound.txid }
  | withdraw hBlock =>
      rw [(buyerWithdraw_ok_iff.mp hBlock).2.2]
      exact
        { fulfilled := by simp
          unfulfilled := by simp
          txid := hSound.txid }
  | refresh =>
      rw [updateState_eq]
      split
      · exact
          { fulfilled := by simp
            unfulfilled := by simp
            txid := hSound.txid }
      · exact hSound

end Engine

end BorderController

------------------------------------------------------------
-- Fulfilments and Receipts
------------------------------------------------------------

namespace BorderController

namespace Engine

/-
  Every record is sound, every fulfilled record has a receipt,
  and every receipt is that of a fulfilled record which its
  session id addresses.
-/
structure CoreProverEngine.Sound
    (engine : CoreProverEngine) :
    Prop where
  records :
    ∀ {i : Nat} {escrow : Escrow},
      engine.escrows[i]? = some escrow →
      escrow.Sound
  receipted :
    ∀ {i : Nat} {escrow : Escrow},
      engine.escrows[i]? = some escrow →
      escrow.fulfillmentMono.isSome →
      engine.Receipted escrow.orderId
  delivered :
    ∀ {orderId : OrderId}, engine.Receipted orderId →
      ∃ i escrow,
        engine.lookup orderId = some (i, escrow) ∧
          escrow.fulfillmentMono.isSome

variable [Chrono]
variable {engine engine' : CoreProverEngine}
variable {call : Call}

omit [Chrono] in
theorem CoreProverEngine.new_sound
    (chainId interval genesis : UInt64) :
    (CoreProverEngine.new chainId interval genesis).Sound
    where
  records hGet := by
    simp [CoreProverEngine.new] at hGet
  receipted hGet := by
    simp [CoreProverEngine.new] at hGet
  delivered hReceipted := by
    simp [CoreProverEngine.new, CoreProverEngine.Receipted]
      at hReceipted

/- A record that gains a fulfilment gains a receipt. -/
private theorem step_receipt_of_fulfill
    {orderId : OrderId}
    {txid : String}
    {i : Nat}
    {escrow escrow' : Escrow}
    (hStep : system.Step engine call engine')
    (hOp : call.op = .sellerFulfill orderId txid)
    (hLookup : engine.lookup orderId = some (i, escrow))
    (hChange : Escrow.Change engine call.op escrow escrow') :
    engine'.Receipted orderId := by
  have hExec :
      exec (.sellerFulfill orderId txid) engine =
        some (call.result, engine') := by
    rw [← hOp]
    exact hStep
  have hSame := hChange.identity.1
  rw [hOp] at hChange
  cases hChange with
  | @fulfill _ _ late _ _ hBlock =>
      rw [exec_sellerFulfill,
        borrow_of_ok hLookup hBlock, Option.some.injEq,
        Prod.mk.injEq] at hExec
      have hKey : escrow'.orderId = orderId :=
        hSame.trans
          (CoreProverEngine.orderId_of_lookup hLookup)
      rw [← hExec.2]
      simp [CoreProverEngine.Receipted,
        Escrow.receiptStub, hKey]
  | settle hSettle hBlock =>
      simp [Op.settlement] at hSettle

theorem step_sound
    (hSound : engine.Sound)
    (hStep : system.Step engine call engine') :
    engine'.Sound where
  records := by
    intro i escrow' hGet'
    refine step_records ?_ ?_ hStep
      (fun _ _ hGet => hSound.records hGet) i escrow' hGet'
    · intro buyer seller amount profile chain txid reply _ _
      exact Escrow.new_sound _ _ _ _ _ _ _ _
    · intro escrow escrow' hChange hBefore
      exact hChange.sound hBefore
  receipted := by
    intro i escrow' hGet' hMono'
    rcases step_record_source hStep hGet' with
      ⟨escrow, hGet, hCase⟩ |
        ⟨_, _, _, _, _, _, _, _, _, hNew⟩
    · rcases hCase with
        rfl | ⟨orderId, hOrder, hLookup, hChange⟩
      · exact step_receipted hStep
          (hSound.receipted hGet hMono')
      · rcases hChange.fulfillmentMono with
          ⟨hSame, _⟩ | ⟨orderId', txid, hOp, _, _⟩
        · rw [hChange.identity.1]
          rw [hSame] at hMono'
          exact step_receipted hStep
            (hSound.receipted hGet hMono')
        · have hId : orderId' = orderId := by
            rw [hOp] at hOrder
            exact Option.some.inj hOrder
          subst hId
          rw [hChange.identity.1,
            CoreProverEngine.orderId_of_lookup hLookup]
          exact step_receipt_of_fulfill hStep hOp hLookup
            hChange
    · rw [hNew] at hMono'
      contradiction
  delivered := by
    intro orderId hReceipted'
    have hOld :
        engine.Receipted orderId →
          ∃ i escrow,
            engine'.lookup orderId = some (i, escrow) ∧
              escrow.fulfillmentMono.isSome := by
      intro hReceipted
      rcases hSound.delivered hReceipted with
        ⟨i, escrow, hLookup, hMono⟩
      rcases step_lookup hStep hLookup with
        ⟨escrow', hLookup', hCase⟩
      refine ⟨i, escrow', hLookup', ?_⟩
      rcases hCase with rfl | ⟨_, hChange⟩
      · exact hMono
      · rcases hChange.fulfillmentMono with
          ⟨hSame, _⟩ | ⟨_, _, _, hSome, _⟩
        · rw [hSame]
          exact hMono
        · exact hSome
    rcases (step_effect hStep).sessionIds with
      hSame | ⟨orderId', txid, hOp, hResult, hMore⟩
    · apply hOld
      unfold CoreProverEngine.Receipted at hReceipted' ⊢
      rwa [← hSame]
    · unfold CoreProverEngine.Receipted at hReceipted'
      rw [hMore, List.mem_append, List.mem_singleton]
        at hReceipted'
      rcases hReceipted' with hBefore | hNow
      · exact hOld hBefore
      · subst hNow
        have hExec :
            exec (.sellerFulfill orderId txid) engine =
              some (.ok .done, engine') := by
          rw [← hOp, ← hResult]
          exact hStep
        have hEffect := exec_effect hExec
        cases hEffect with
        | @fulfilled _ _ i late escrow escrow' hLookup
            hBlock =>
            have hSpec :=
              (Escrow.sellerFulfill_ok_iff.mp hBlock).2.2.2
            refine ⟨i, escrow', ?_, by rw [hSpec]; rfl⟩
            exact CoreProverEngine.lookup_setEscrow_self
              hLookup (by rw [hSpec])

/- The invariant holds in every reachable engine. -/
theorem Reachable.sound
    (hReach : Reachable engine) :
    engine.Sound :=
  hReach.invariant CoreProverEngine.Sound
    CoreProverEngine.new_sound step_sound

omit [Chrono] in
/- An addressed order has a receipt exactly when fulfilled. -/
theorem CoreProverEngine.Sound.receipted_iff
    {orderId : OrderId}
    {i : Nat}
    {escrow : Escrow}
    (hSound : engine.Sound)
    (hLookup : engine.lookup orderId = some (i, escrow)) :
    engine.Receipted orderId ↔
      escrow.fulfillmentMono.isSome := by
  constructor
  · intro hReceipted
    rcases hSound.delivered hReceipted with
      ⟨j, found, hFound, hMono⟩
    rw [hLookup] at hFound
    cases hFound
    exact hMono
  · intro hMono
    rw [← CoreProverEngine.orderId_of_lookup hLookup]
    exact hSound.receipted
      (CoreProverEngine.getElem?_of_lookup hLookup) hMono

end Engine

end BorderController

import BorderController.Engine.Validity

/-
  The transactions that records and receipts name.

  Every operation but the withdrawal refuses a blank
  transaction id.  A withdrawal stores it, and the record never
  changes again.

  Key definitions include:
    * `Named`, `NamedIfAny`
    * `CoreProverEngine.Provenance`
    * `BlankWithdrawal`

  Key theorems include:
    * `Escrow.Change.provenance`
    * `step_provenance`
    * `provenance_iff`
-/

------------------------------------------------------------
-- Named Transactions
------------------------------------------------------------

namespace BorderController

namespace Engine

/- An id with at least one character that is not whitespace. -/
def Named (txid : String) : Prop :=
  ∃ c ∈ txid.toList, RustString.isWhitespace c = false

def NamedIfAny (field : Option String) : Prop :=
  ∀ txid, field = some txid → Named txid

structure Escrow.Provenance (escrow : Escrow) : Prop where
  commit : Named escrow.buyerCommitTxid
  accept : NamedIfAny escrow.sellerAcceptTxid
  fulfill : NamedIfAny escrow.sellerFulfillTxid
  claim : NamedIfAny escrow.sellerClaimTxid
  refund : NamedIfAny escrow.sellerRefundTxid
  withdraw : NamedIfAny escrow.buyerWithdrawTxid

/- A receipt always names an acceptance and a fulfilment. -/
structure ReceiptMetadata.Provenance
    (receipt : ReceiptMetadata) :
    Prop where
  commit : Named receipt.buyerCommitTxid
  accept : Named receipt.sellerAcceptTxid
  fulfill : Named receipt.sellerFulfillTxid
  claim : NamedIfAny receipt.sellerClaimTxid
  refund : NamedIfAny receipt.sellerRefundTxid
  withdraw : NamedIfAny receipt.buyerWithdrawTxid

structure CoreProverEngine.Provenance
    (engine : CoreProverEngine) :
    Prop where
  escrows : ∀ escrow ∈ engine.escrows, escrow.Provenance
  receipts : ∀ receipt ∈ engine.receipts, receipt.Provenance

variable {txid : String}

theorem Named.of_isBlank
    (hTxid : RustString.isBlank txid = false) :
    Named txid :=
  RustString.isBlank_eq_false_iff.mp hTxid

@[simp] theorem namedIfAny_none : NamedIfAny none := by
  intro txid hNone
  contradiction

@[simp] theorem namedIfAny_some_iff :
    NamedIfAny (some txid) ↔ Named txid := by
  simp [NamedIfAny]

/- The id of a timed release says what it is. -/
theorem named_auto_claim
    (mono : UInt64) :
    Named ("auto_claim_" ++ toString mono) := by
  refine ⟨'a', ?_, by decide⟩
  rw [String.toList_append]
  exact List.mem_append_left _ (by decide)

variable [Chrono]

/- The buyer may withdraw the order at this time. -/
def Escrow.MayWithdraw
    (now : TimeTruth)
    (escrow : Escrow) :
    Prop :=
  escrow.state = .fulfillmentExpired ∨
    escrow.state = .buyerCommitted ∧
      escrow.acceptanceDeadlineMono < now.mono

/- A withdrawal that is allowed gives a blank id. -/
def BlankWithdrawal
    (engine : CoreProverEngine)
    (op : Op) :
    Prop :=
  ∃ orderId txid i escrow,
    op = .buyerWithdraw orderId (some txid) ∧
      ¬ Named txid ∧
      engine.lookup orderId = some (i, escrow) ∧
      escrow.MayWithdraw engine.now

end Engine

end BorderController

------------------------------------------------------------
-- What a Call Keeps
------------------------------------------------------------

namespace BorderController

namespace Engine

variable [Chrono]
variable {engine engine' : CoreProverEngine}
variable {op : Op}
variable {call : Call}
variable {escrow escrow' : Escrow}

/- A settlement writes an id that it has checked or made. -/
theorem Settlement.named_of_block
    {settlement : Settlement}
    {amount : UInt64}
    (hSettle : op.settlement engine = some settlement)
    (hBlock :
      settlement.block escrow = .ok (amount, escrow')) :
    ∃ txid, Named txid ∧
      escrow' =
        escrow.settle engine.now engine.currentBlockHeight
          settlement.refunded txid := by
  cases op with
  | sellerClaim orderId txid =>
      cases hSettle
      have hSpec := Escrow.sellerClaim_ok_iff.mp hBlock
      exact ⟨txid, .of_isBlank hSpec.2.1, hSpec.2.2.2⟩
  | sellerRefund orderId txid =>
      cases hSettle
      have hSpec := Escrow.sellerRefund_ok_iff.mp hBlock
      exact ⟨txid, .of_isBlank hSpec.2.1, hSpec.2.2.2⟩
  | timedRelease orderId =>
      cases hSettle
      have hSpec := Escrow.timedRelease_ok_iff.mp hBlock
      exact ⟨_, named_auto_claim _, hSpec.2.2.2.2⟩
  | _ => simp [Op.settlement] at hSettle

omit [Chrono] in
theorem Escrow.Provenance.settle
    {now : TimeTruth}
    {height : UInt64}
    {refunded : Bool}
    {txid : String}
    (hProv : escrow.Provenance)
    (hTxid : Named txid) :
    (escrow.settle now height refunded txid).Provenance := by
  cases refunded with
  | false =>
      exact
        { hProv with claim := namedIfAny_some_iff.mpr hTxid }
  | true =>
      exact
        { hProv with refund := namedIfAny_some_iff.mpr hTxid }

/- A record keeps its names, unless the buyer withdraws it
   with a blank one. -/
theorem Escrow.Change.provenance
    (hChange : Escrow.Change engine op escrow escrow')
    (hNamed :
      ∀ orderId txid,
        op = .buyerWithdraw orderId (some txid) →
          escrow.MayWithdraw engine.now → Named txid)
    (hProv : escrow.Provenance) :
    escrow'.Provenance := by
  cases hChange with
  | accept hBlock =>
      rcases Escrow.sellerAccept_ok_iff.mp hBlock with
        ⟨_, hTxid, _, hEq⟩
      rw [hEq]
      exact
        { hProv with
          accept :=
            namedIfAny_some_iff.mpr (.of_isBlank hTxid) }
  | fulfill hBlock =>
      rcases Escrow.sellerFulfill_ok_iff.mp hBlock with
        ⟨_, hTxid, _, hEq⟩
      rw [hEq]
      exact
        { hProv with
          fulfill :=
            namedIfAny_some_iff.mpr (.of_isBlank hTxid) }
  | settle hSettle hBlock =>
      rcases Settlement.named_of_block hSettle hBlock with
        ⟨txid, hTxid, hEq⟩
      rw [hEq]
      exact hProv.settle hTxid
  | @withdraw orderId field _ _ _ hBlock =>
      rcases Escrow.buyerWithdraw_ok_iff.mp hBlock with
        ⟨hMay, _, hEq⟩
      rw [hEq]
      cases field with
      | none => exact { hProv with withdraw := hProv.withdraw }
      | some txid =>
          exact
            { hProv with
              withdraw :=
                namedIfAny_some_iff.mpr
                  (hNamed orderId txid rfl hMay) }
  | refresh =>
      rcases escrow.updateState_cases engine.now with
        hSame | ⟨_, _, hExpired⟩
      · rw [hSame]
        exact hProv
      · rw [hExpired]
        exact { hProv with commit := hProv.commit }

/- A stub copies what its record names. -/
theorem Escrow.Provenance.receiptStub
    {late : Bool}
    {accepted fulfilled : String}
    (hProv : escrow.Provenance)
    (hAccept : escrow.sellerAcceptTxid = some accepted)
    (hFulfill : escrow.sellerFulfillTxid = some fulfilled) :
    (escrow.receiptStub engine.now late).Provenance where
  commit := hProv.commit
  accept := by
    simpa [Escrow.receiptStub, hAccept]
      using hProv.accept _ hAccept
  fulfill := by
    simpa [Escrow.receiptStub, hFulfill]
      using hProv.fulfill _ hFulfill
  claim := namedIfAny_none
  refund := namedIfAny_none
  withdraw := namedIfAny_none

omit [Chrono] in
theorem ReceiptMetadata.Provenance.finalize
    {now : TimeTruth}
    {refunded : Bool}
    {receipt : ReceiptMetadata}
    (hReceipt : receipt.Provenance)
    (hProv : escrow.Provenance) :
    (receipt.finalize now escrow refunded).Provenance := by
  cases refunded with
  | false => exact { hReceipt with claim := hProv.claim }
  | true => exact { hReceipt with refund := hProv.refund }

end Engine

end BorderController

------------------------------------------------------------
-- Names Along a Run
------------------------------------------------------------

namespace BorderController

namespace Engine

variable [Chrono]
variable {engine engine' : CoreProverEngine}
variable {call : Call}
variable {es : List (Transition CoreProverEngine Call)}

theorem step_escrow_provenance
    (hStep : system.Step engine call engine')
    (hProv : engine.Provenance)
    (hNamed : ¬ BlankWithdrawal engine call.op) :
    ∀ escrow ∈ engine'.escrows, escrow.Provenance := by
  intro escrow' hMem
  rcases List.mem_iff_getElem?.mp hMem with ⟨i, hGet⟩
  rcases step_record_source hStep hGet with
    ⟨escrow, hThere, hCase⟩ |
      ⟨_, _, _, _, _, _, txid, hOp, hOk, hFresh⟩
  · have hBefore :=
      hProv.escrows escrow (List.mem_of_getElem? hThere)
    rcases hCase with hSame | ⟨orderId, hOrder, hLookup, hChange⟩
    · rw [hSame]
      exact hBefore
    · refine hChange.provenance ?_ hBefore
      intro orderId' txid hOp hMay
      by_contra hBlank
      have hSame : orderId' = orderId := by
        rw [hOp] at hOrder
        exact Option.some.inj hOrder
      rw [hSame] at hOp
      exact hNamed
        ⟨orderId, txid, i, escrow, hOp, hBlank, hLookup, hMay⟩
  · rw [hFresh]
    exact
      { commit := .of_isBlank (isBlank_of_commit hStep hOp hOk)
        accept := namedIfAny_none
        fulfill := namedIfAny_none
        claim := namedIfAny_none
        refund := namedIfAny_none
        withdraw := namedIfAny_none }

theorem Effect.receipt_provenance
    {op : Op}
    {result : Except String Reply}
    (hReach : Reachable engine)
    (hEffect : Effect engine op result engine')
    (hProv : engine.Provenance) :
    ∀ receipt ∈ engine'.receipts, receipt.Provenance := by
  intro receipt hMem
  rcases hEffect.receipt_cases hMem with
    hOld |
      ⟨orderId, txid, i, late, escrow, escrow', hOp, hLookup,
        hBlock, hStub⟩ |
      ⟨settlement, i, amount, escrow, escrow', stub, hSettle,
        hLookup, hBlock, hThere, hFinal⟩
  · exact hProv.receipts receipt hOld
  · have hBefore :=
      hProv.escrows escrow
        (CoreProverEngine.mem_of_lookup hLookup)
    have hChange :
        Escrow.Change engine (.sellerFulfill orderId txid)
          escrow escrow' :=
      .fulfill hBlock
    have hAfter := hChange.provenance (by simp) hBefore
    rcases Escrow.sellerFulfill_ok_iff.mp hBlock with
      ⟨hCan, _, _, hEq⟩
    rcases (hReach.vouched _ _ _ hLookup).accepted hCan with
      ⟨accepted, hAccepted, _⟩
    rw [hStub]
    exact hAfter.receiptStub (by rw [hEq]; exact hAccepted)
      (by rw [hEq])
  · have hBefore :=
      hProv.escrows escrow
        (CoreProverEngine.mem_of_lookup hLookup)
    have hChange :
        Escrow.Change engine op escrow escrow' :=
      .settle hSettle hBlock
    have hAfter := hChange.provenance ?_ hBefore
    · rw [hFinal]
      exact (hProv.receipts stub hThere).finalize hAfter
    · rintro _ _ rfl
      contradiction

/- Every call but a blank withdrawal keeps all names. -/
theorem step_provenance
    (hReach : Reachable engine)
    (hStep : system.Step engine call engine')
    (hProv : engine.Provenance)
    (hNamed : ¬ BlankWithdrawal engine call.op) :
    engine'.Provenance where
  escrows := step_escrow_provenance hStep hProv hNamed
  receipts :=
    (step_effect hStep).receipt_provenance hReach hProv

/- A settled record that names a blank withdrawal. -/
def Blemished (engine : CoreProverEngine) : Prop :=
  ∃ (i : Nat) (escrow : Escrow) (txid : String),
    engine.escrows[i]? = some escrow ∧
      escrow.state.isTerminal = true ∧
      escrow.buyerWithdrawTxid = some txid ∧
      ¬ Named txid

omit [Chrono] in
theorem Blemished.not_provenance
    (hBlemished : Blemished engine) :
    ¬ engine.Provenance := by
  rcases hBlemished with ⟨i, escrow, txid, hGet, _, hTxid, hBlank⟩
  intro hProv
  exact hBlank
    ((hProv.escrows escrow
      (List.mem_of_getElem? hGet)).withdraw txid hTxid)

theorem step_blemished
    (hBlemished : Blemished engine)
    (hStep : system.Step engine call engine') :
    Blemished engine' := by
  rcases hBlemished with
    ⟨i, escrow, txid, hGet, hTerminal, hTxid, hBlank⟩
  rcases step_record hStep hGet with
    ⟨escrow', hAfter, hSame | ⟨_, _, _, hChange⟩⟩
  · rw [hSame] at hAfter
    exact ⟨i, escrow, txid, hAfter, hTerminal, hTxid, hBlank⟩
  · rw [hChange.eq_of_isTerminal hTerminal] at hAfter
    exact ⟨i, escrow, txid, hAfter, hTerminal, hTxid, hBlank⟩

theorem BlankWithdrawal.blemished
    (hBad : BlankWithdrawal engine call.op)
    (hStep : system.Step engine call engine') :
    Blemished engine' := by
  rcases hBad with
    ⟨orderId, txid, i, escrow, hOp, hBlank, hLookup, hMay⟩
  have hWithdrawn :
      ∃ escrow',
        escrow.buyerWithdraw engine.now (some txid) =
            .ok (escrow.amount, escrow') ∧
          escrow'.state = .buyerWithdrawn ∧
          escrow'.buyerWithdrawTxid = some txid :=
    ⟨_, Escrow.buyerWithdraw_ok_iff.mpr ⟨hMay, rfl, rfl⟩,
      rfl, rfl⟩
  rcases hWithdrawn with ⟨escrow', hBlock, hState, hTxid⟩
  have hExec :
      exec call.op engine = some (call.result, engine') := hStep
  rw [hOp, exec_buyerWithdraw, borrow_of_ok hLookup hBlock]
    at hExec
  have hAfter : engine.setEscrow i escrow' = engine' :=
    congrArg Prod.snd (Option.some.inj hExec)
  have hThere := CoreProverEngine.getElem?_of_lookup hLookup
  refine
    ⟨i, escrow', txid, ?_, by rw [hState]; rfl, hTxid, hBlank⟩
  rw [← hAfter]
  exact List.getElem?_set_self
    (List.getElem?_eq_some_iff.mp hThere).1

omit [Chrono] in
theorem CoreProverEngine.new_provenance
    (chainId interval genesis : UInt64) :
    (new chainId interval genesis).Provenance where
  escrows := by simp [new]
  receipts := by simp [new]

/- All transactions of a run are named exactly if no order is
   withdrawn with a blank id. -/
theorem provenance_iff
    (hRun : IsRun es engine) :
    engine.Provenance ↔
      ∀ tr ∈ es, ¬ BlankWithdrawal tr.source tr.label.op := by
  constructor
  · intro hProv tr hMem hBad
    rcases List.append_of_mem hMem with ⟨before, after, hEs⟩
    subst hEs
    rcases hRun.split with ⟨_, hStep, hRest⟩
    have hEnd : Blemished engine :=
      hRest.invariant Blemished (hBad.blemished hStep)
        step_blemished
    exact hEnd.not_provenance hProv
  · refine hRun.historyInvariant
      (fun es engine =>
        (∀ tr ∈ es, ¬ BlankWithdrawal tr.source tr.label.op) →
          engine.Provenance) ?_ ?_
    · intro chainId interval genesis _
      exact CoreProverEngine.new_provenance _ _ _
    · intro es engine call engine' hBefore hProv hStep hAll
      refine step_provenance ⟨es, hBefore⟩ hStep
        (hProv ?_) ?_
      · intro tr hMem
        exact hAll tr (List.mem_append_left _ hMem)
      · exact hAll ⟨engine, call, engine'⟩ (by simp)

end Engine

end BorderController

------------------------------------------------------------
-- An Overdue Order Withdrawn
------------------------------------------------------------

namespace BorderController

namespace Engine

local instance provenanceChrono : Chrono := utcChrono

/- Withdraw an order that is overdue. -/
def withdrawOps (txid : Option String) : List Op :=
  overdueOps ++ [.buyerWithdraw (orderIdOf 1) txid]

/- A blank is stored as the transaction of the withdrawal. -/
theorem blank_not_provenance :
    ∃ es engine,
      IsRun es engine ∧ ¬ engine.Provenance := by
  refine ⟨_, _, play_isRun (withdrawOps (some " ")) 1 12 0, ?_⟩
  intro hProv
  have hStored :
      ∃ escrow ∈
          (play (withdrawOps (some " ")) (.new 1 12 0)).2.escrows,
        escrow.buyerWithdrawTxid = some " " := by
    decide +kernel
  rcases hStored with ⟨escrow, hMem, hTxid⟩
  rcases (hProv.escrows escrow hMem).withdraw " " hTxid with
    ⟨c, hChar, hBlack⟩
  have hOnly : c = ' ' := by simpa using hChar
  rw [hOnly] at hBlack
  contradiction

/- A withdrawal that names its transaction. -/
theorem withdraw_provenance :
    ∃ es engine,
      IsRun es engine ∧
        es.length = 5 ∧ engine.Provenance := by
  have hRun := play_isRun (withdrawOps (some "0x5")) 1 12 0
  refine ⟨_, _, hRun, rfl, (provenance_iff hRun).mpr ?_⟩
  have hOps :
      (play (withdrawOps (some "0x5")) (.new 1 12 0)).1.map
          (fun tr => tr.label.op) =
        withdrawOps (some "0x5") := by
    decide +kernel
  rintro tr hMem ⟨orderId, txid, i, escrow, hOp, hBlank, _⟩
  have hPlayed : tr.label.op ∈ withdrawOps (some "0x5") := by
    rw [← hOps]
    exact List.mem_map_of_mem hMem
  rw [hOp] at hPlayed
  have hWithdraw : orderId = orderIdOf 1 ∧ txid = "0x5" := by
    simpa [withdrawOps, overdueOps] using hPlayed
  apply hBlank
  rw [hWithdraw.2]
  exact .of_isBlank (by decide)

end Engine

end BorderController

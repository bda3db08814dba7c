import BorderController.Engine.Spec

/-
  All outcomes of a call, and what they mean for one escrow
  record of the engine.

  Records are never removed or reordered, so a record is its
  position in the vector.  A call changes at most one record,
  the one its order id addresses.

  Key definitions include:
    * `Op.orderId?`
    * `Escrow.Change`
    * `Effect`

  Key theorems include:
    * `Escrow.updateState_cases`
    * `step_effect`
    * `Effect.escrows_cases`, `Effect.receipt_cases`
    * `step_record`, `step_records`
    * `Reachable.records`
    * `step_lookup`
    * `Escrow.Change.eq_of_isTerminal`
-/

------------------------------------------------------------
-- Changes of One Record
------------------------------------------------------------

namespace BorderController

namespace Engine

/- The order a call addresses. -/
def Op.orderId? : Op → Option OrderId
  | .sellerAccept orderId _ => some orderId
  | .sellerFulfill orderId _ => some orderId
  | .sellerClaim orderId _ => some orderId
  | .sellerRefund orderId _ => some orderId
  | .buyerWithdraw orderId _ => some orderId
  | .timedRelease orderId => some orderId
  | .updateState orderId => some orderId
  | .buyerCommit .. => none
  | .advanceTime _ => none

namespace EscrowState

variable {state : EscrowState}

theorem isTerminal_of_canFulfill
    (hCan : state.canFulfill = true) :
    state.isTerminal = false := by
  cases state <;> simp [canFulfill, isTerminal] at hCan ⊢

theorem isTerminal_of_isClaimable
    (hClaimable : state.isClaimable = true) :
    state.isTerminal = false := by
  cases state <;> simp [isClaimable, isTerminal] at hClaimable ⊢

end EscrowState

variable [Chrono]

/- What a call can make of the record it addresses. -/
inductive Escrow.Change (engine : CoreProverEngine) :
    Op → Escrow → Escrow → Prop
  | accept
      {orderId : OrderId} {txid : String}
      {escrow escrow' : Escrow} :
      escrow.sellerAccept engine.now engine.chainId txid =
        .ok ((), escrow') →
      Change engine (.sellerAccept orderId txid)
        escrow escrow'
  | fulfill
      {orderId : OrderId} {txid : String} {late : Bool}
      {escrow escrow' : Escrow} :
      escrow.sellerFulfill engine.now txid =
        .ok (late, escrow') →
      Change engine (.sellerFulfill orderId txid)
        escrow escrow'
  | settle
      {op : Op} {settlement : Settlement} {amount : UInt64}
      {escrow escrow' : Escrow} :
      op.settlement engine = some settlement →
      settlement.block escrow = .ok (amount, escrow') →
      Change engine op escrow escrow'
  | withdraw
      {orderId : OrderId} {txid : Option String}
      {amount : UInt64} {escrow escrow' : Escrow} :
      escrow.buyerWithdraw engine.now txid =
        .ok (amount, escrow') →
      Change engine (.buyerWithdraw orderId txid)
        escrow escrow'
  | refresh {orderId : OrderId} {escrow : Escrow} :
      Change engine (.updateState orderId)
        escrow (escrow.updateState engine.now)

omit [Chrono] in
/- Refreshing relabels an accepted record that is overdue. -/
theorem Escrow.updateState_eq
    (now : TimeTruth)
    (escrow : Escrow) :
    escrow.updateState now =
      if escrow.state = .sellerAccepted ∧
          escrow.isLate now = true then
        { escrow with state := .fulfillmentExpired }
      else
        escrow := by
  unfold Escrow.updateState Escrow.isLate
  by_cases hState : escrow.state = .sellerAccepted
  · cases hDeadline : escrow.fulfillmentDeadlineMono with
    | none => simp
    | some deadline => simp [hState]
  · simp [hState]

omit [Chrono] in
/- A refresh does nothing, or it expires an overdue order. -/
theorem Escrow.updateState_cases
    (now : TimeTruth)
    (escrow : Escrow) :
    escrow.updateState now = escrow ∨
      escrow.state = .sellerAccepted ∧
        escrow.isLate now = true ∧
          escrow.updateState now =
            { escrow with state := .fulfillmentExpired } := by
  rw [Escrow.updateState_eq]
  by_cases hOverdue :
      escrow.state = .sellerAccepted ∧
        escrow.isLate now = true
  · rw [if_pos hOverdue]
    exact Or.inr ⟨hOverdue.1, hOverdue.2, rfl⟩
  · rw [if_neg hOverdue]
    exact Or.inl rfl

omit [Chrono] in
/- Settlement leaves the identity and terms of an order. -/
theorem Escrow.settle_state
    (now : TimeTruth)
    (height : UInt64)
    (refunded : Bool)
    (txid : String)
    (escrow : Escrow) :
    (escrow.settle now height refunded txid).state =
      if refunded then .sellerRefunded else .sellerClaimed := by
  cases refunded <;> rfl

namespace Escrow.Change

variable {engine : CoreProverEngine}
variable {op : Op}
variable {escrow escrow' : Escrow}

/- No change touches who an order is between or its amount. -/
theorem identity
    (hChange : Change engine op escrow escrow') :
    escrow'.orderId = escrow.orderId ∧
      escrow'.amount = escrow.amount ∧
      escrow'.profile = escrow.profile := by
  cases hChange with
  | accept hBlock =>
      rw [(sellerAccept_ok_iff.mp hBlock).2.2.2]
      exact ⟨rfl, rfl, rfl⟩
  | fulfill hBlock =>
      rw [(sellerFulfill_ok_iff.mp hBlock).2.2.2]
      exact ⟨rfl, rfl, rfl⟩
  | @settle _ settlement _ _ _ hSettle hBlock =>
      rcases Settlement.block_ok hSettle hBlock with
        ⟨_, _, txid, hEq⟩
      rw [hEq]
      cases settlement.refunded <;> exact ⟨rfl, rfl, rfl⟩
  | withdraw hBlock =>
      rw [(buyerWithdraw_ok_iff.mp hBlock).2.2]
      exact ⟨rfl, rfl, rfl⟩
  | refresh =>
      rw [updateState_eq]
      split <;> exact ⟨rfl, rfl, rfl⟩

/- A settled record never changes again. -/
theorem eq_of_isTerminal
    (hChange : Change engine op escrow escrow')
    (hTerminal : escrow.state.isTerminal = true) :
    escrow' = escrow := by
  cases hChange with
  | accept hBlock =>
      rw [(sellerAccept_ok_iff.mp hBlock).1] at hTerminal
      contradiction
  | fulfill hBlock =>
      have hCan := (sellerFulfill_ok_iff.mp hBlock).1
      rw [EscrowState.isTerminal_of_canFulfill hCan]
        at hTerminal
      contradiction
  | settle hSettle hBlock =>
      have hCan := (Settlement.block_ok hSettle hBlock).1
      rw [EscrowState.isTerminal_of_isClaimable hCan]
        at hTerminal
      contradiction
  | withdraw hBlock =>
      rcases (buyerWithdraw_ok_iff.mp hBlock).1 with
        hState | ⟨hState, _⟩ <;>
      · rw [hState] at hTerminal
        contradiction
  | refresh =>
      rw [updateState_eq, if_neg]
      rintro ⟨hState, _⟩
      rw [hState] at hTerminal
      contradiction

end Escrow.Change

end Engine

end BorderController

------------------------------------------------------------
-- Outcomes of a Call
------------------------------------------------------------

namespace BorderController

namespace Engine

variable [Chrono]

/-
  The outcomes of a call.  All refusals leave the engine as it
  was except the last one: a settlement that finds no receipt
  fails after it has rewritten the record.
-/
inductive Effect (engine : CoreProverEngine) :
    Op → Except String Reply → CoreProverEngine → Prop
  | refused {op : Op} (message : String) :
      Effect engine op (.error message) engine
  | committed
      {buyer seller : String} {amount : UInt64}
      {profile : PaymentProfile} {chain : UInt64}
      {txid : String} :
      RustString.isBlank txid = false →
      Effect engine
        (.buyerCommit buyer seller amount profile chain txid)
        (.ok (.order (orderIdOf engine.nextSessionCounter)))
        { engine with
          nextSessionCounter := engine.nextSessionCounter + 1
          escrows :=
            engine.escrows ++
              [.new (orderIdOf engine.nextSessionCounter)
                buyer seller amount profile chain txid
                engine.currentMono] }
  | accepted
      {orderId : OrderId} {txid : String} {i : Nat}
      {escrow escrow' : Escrow} :
      engine.lookup orderId = some (i, escrow) →
      escrow.sellerAccept engine.now engine.chainId txid =
        .ok ((), escrow') →
      Effect engine (.sellerAccept orderId txid) (.ok .done)
        (engine.setEscrow i escrow')
  | fulfilled
      {orderId : OrderId} {txid : String} {i : Nat}
      {late : Bool} {escrow escrow' : Escrow} :
      engine.lookup orderId = some (i, escrow) →
      escrow.sellerFulfill engine.now txid =
        .ok (late, escrow') →
      Effect engine (.sellerFulfill orderId txid) (.ok .done)
        { engine.setEscrow i escrow' with
          receipts :=
            engine.receipts ++
              [escrow'.receiptStub engine.now late] }
  | settled
      {op : Op} {settlement : Settlement} {i idx : Nat}
      {amount : UInt64} {escrow escrow' : Escrow}
      {receipt : ReceiptMetadata} :
      op.settlement engine = some settlement →
      engine.lookup settlement.orderId = some (i, escrow) →
      settlement.block escrow = .ok (amount, escrow') →
      engine.lastReceipt settlement.orderId =
        some (idx, receipt) →
      Effect engine op (.ok (.amount amount))
        { engine.setEscrow i escrow' with
          receipts :=
            engine.receipts.set idx
              (receipt.finalize engine.now escrow'
                settlement.refunded) }
  | withdrawn
      {orderId : OrderId} {txid : Option String} {i : Nat}
      {amount : UInt64} {escrow escrow' : Escrow} :
      engine.lookup orderId = some (i, escrow) →
      escrow.buyerWithdraw engine.now txid =
        .ok (amount, escrow') →
      Effect engine (.buyerWithdraw orderId txid)
        (.ok (.amount amount)) (engine.setEscrow i escrow')
  | refreshed {orderId : OrderId} {i : Nat} {escrow : Escrow} :
      engine.lookup orderId = some (i, escrow) →
      Effect engine (.updateState orderId) (.ok .done)
        (engine.setEscrow i (escrow.updateState engine.now))
  | advanced {secs : UInt64} {engine' : CoreProverEngine} :
      engine.advanceTime secs = some engine' →
      Effect engine (.advanceTime secs) (.ok .done) engine'
  | unreceipted
      {op : Op} {settlement : Settlement} {i : Nat}
      {amount : UInt64} {escrow escrow' : Escrow} :
      op.settlement engine = some settlement →
      engine.lookup settlement.orderId = some (i, escrow) →
      settlement.block escrow = .ok (amount, escrow') →
      engine.lastReceipt settlement.orderId = none →
      Effect engine op (.error "receipt stub not found")
        (engine.setEscrow i escrow')

variable {engine engine' : CoreProverEngine}
variable {op : Op}
variable {result : Except String Reply}

/-
  A call that borrows a record is refused, or has the outcome
  of a block that succeeds.
-/
private theorem effect_of_borrow
    {α : Type}
    {orderId : OrderId}
    {block : Escrow → Except String (α × Escrow)}
    {done :
      Nat → α → Escrow →
        Except String Reply × CoreProverEngine}
    (hExec :
      some (engine.borrow orderId block done) =
        some (result, engine'))
    (hDone :
      ∀ {i : Nat} {a : α} {escrow escrow' : Escrow},
        engine.lookup orderId = some (i, escrow) →
        block escrow = .ok (a, escrow') →
        done i a escrow' = (result, engine') →
        Effect engine op result engine') :
    Effect engine op result engine' := by
  have hOutcome := Option.some.inj hExec
  cases hLookup : engine.lookup orderId with
  | none =>
      rw [borrow_of_none hLookup] at hOutcome
      cases hOutcome
      exact .refused _
  | some p =>
      cases hBlock : block p.2 with
      | error message =>
          rw [borrow_of_error hLookup hBlock] at hOutcome
          cases hOutcome
          exact .refused _
      | ok q =>
          rw [borrow_of_ok hLookup hBlock] at hOutcome
          exact hDone hLookup hBlock hOutcome

private theorem effect_of_settlement
    {settlement : Settlement}
    (hSettle : op.settlement engine = some settlement)
    (hExec : exec op engine = some (result, engine')) :
    Effect engine op result engine' := by
  rw [exec_settlement hSettle] at hExec
  apply effect_of_borrow hExec
  intro i amount escrow escrow' hLookup hBlock hDone
  unfold CoreProverEngine.settle at hDone
  cases hReceipt : engine.lastReceipt settlement.orderId with
  | none =>
      rw [hReceipt] at hDone
      cases hDone
      exact .unreceipted hSettle hLookup hBlock hReceipt
  | some p =>
      rw [hReceipt] at hDone
      cases hDone
      exact .settled hSettle hLookup hBlock hReceipt

/- Every call has one of the outcomes. -/
theorem exec_effect
    (hExec : exec op engine = some (result, engine')) :
    Effect engine op result engine' := by
  cases op with
  | buyerCommit buyer seller amount profile chain txid =>
      rw [exec_buyerCommit] at hExec
      cases hTxid : RustString.isBlank txid with
      | true =>
          rw [hTxid] at hExec
          cases hExec
          exact .refused _
      | false =>
          rw [hTxid] at hExec
          cases hExec
          exact .committed hTxid
  | sellerAccept orderId txid =>
      rw [exec_sellerAccept] at hExec
      apply effect_of_borrow hExec
      intro i _ escrow escrow' hLookup hBlock hDone
      cases hDone
      exact .accepted hLookup hBlock
  | sellerFulfill orderId txid =>
      rw [exec_sellerFulfill] at hExec
      apply effect_of_borrow hExec
      intro i late escrow escrow' hLookup hBlock hDone
      cases hDone
      exact .fulfilled hLookup hBlock
  | sellerClaim orderId txid =>
      exact effect_of_settlement rfl hExec
  | sellerRefund orderId txid =>
      exact effect_of_settlement rfl hExec
  | buyerWithdraw orderId txid =>
      rw [exec_buyerWithdraw] at hExec
      apply effect_of_borrow hExec
      intro i amount escrow escrow' hLookup hBlock hDone
      cases hDone
      exact .withdrawn hLookup hBlock
  | timedRelease orderId =>
      exact effect_of_settlement rfl hExec
  | updateState orderId =>
      rw [exec_updateState] at hExec
      apply effect_of_borrow hExec
      intro i _ escrow escrow' hLookup hBlock hDone
      cases hBlock
      cases hDone
      exact .refreshed hLookup
  | advanceTime secs =>
      rcases Option.map_eq_some_iff.mp hExec with
        ⟨engine'', hAdvance, hPair⟩
      cases hPair
      exact .advanced hAdvance

end Engine

end BorderController

------------------------------------------------------------
-- Records Along a Step
------------------------------------------------------------

namespace BorderController

namespace Engine

variable [Chrono]
variable {engine engine' : CoreProverEngine}
variable {op : Op}
variable {call : Call}
variable {result : Except String Reply}

theorem step_effect
    (hStep : system.Step engine call engine') :
    Effect engine call.op call.result engine' :=
  exec_effect hStep

omit [Chrono] in
theorem advanceTime_spec
    {secs : UInt64}
    (hAdvance : engine.advanceTime secs = some engine') :
    engine'.escrows = engine.escrows ∧
      engine'.receipts = engine.receipts ∧
      engine'.nextSessionCounter =
        engine.nextSessionCounter := by
  unfold CoreProverEngine.advanceTime at hAdvance
  split at hAdvance
  · contradiction
  · cases hAdvance
    exact ⟨rfl, rfl, rfl⟩

theorem Op.orderId?_of_settlement
    {settlement : Settlement}
    (hSettle : op.settlement engine = some settlement) :
    op.orderId? = some settlement.orderId := by
  cases op with
  | sellerClaim orderId txid =>
      cases hSettle
      rfl
  | sellerRefund orderId txid =>
      cases hSettle
      rfl
  | timedRelease orderId =>
      cases hSettle
      rfl
  | _ => simp [Op.settlement] at hSettle

/- The records after a call: as before, one more, one changed. -/
theorem Effect.escrows_cases
    (hEffect : Effect engine op result engine') :
    engine'.escrows = engine.escrows ∨
      (∃ buyer seller amount profile chain txid,
        op =
            .buyerCommit buyer seller amount profile chain
              txid ∧
          result =
            .ok (.order
              (orderIdOf engine.nextSessionCounter)) ∧
          engine'.escrows =
            engine.escrows ++
              [.new (orderIdOf engine.nextSessionCounter)
                buyer seller amount profile chain txid
                engine.currentMono]) ∨
      ∃ orderId i escrow escrow',
        op.orderId? = some orderId ∧
          engine.lookup orderId = some (i, escrow) ∧
          Escrow.Change engine op escrow escrow' ∧
          engine'.escrows = engine.escrows.set i escrow' := by
  cases hEffect with
  | refused message => exact Or.inl rfl
  | committed hTxid =>
      exact Or.inr (Or.inl
        ⟨_, _, _, _, _, _, rfl, rfl, rfl⟩)
  | accepted hLookup hBlock =>
      exact Or.inr (Or.inr
        ⟨_, _, _, _, rfl, hLookup, .accept hBlock, rfl⟩)
  | fulfilled hLookup hBlock =>
      exact Or.inr (Or.inr
        ⟨_, _, _, _, rfl, hLookup, .fulfill hBlock, rfl⟩)
  | settled hSettle hLookup hBlock hReceipt =>
      exact Or.inr (Or.inr
        ⟨_, _, _, _, Op.orderId?_of_settlement hSettle,
          hLookup, .settle hSettle hBlock, rfl⟩)
  | withdrawn hLookup hBlock =>
      exact Or.inr (Or.inr
        ⟨_, _, _, _, rfl, hLookup, .withdraw hBlock, rfl⟩)
  | refreshed hLookup =>
      exact Or.inr (Or.inr
        ⟨_, _, _, _, rfl, hLookup, .refresh, rfl⟩)
  | advanced hAdvance =>
      exact Or.inl (advanceTime_spec hAdvance).1
  | unreceipted hSettle hLookup hBlock hReceipt =>
      exact Or.inr (Or.inr
        ⟨_, _, _, _, Op.orderId?_of_settlement hSettle,
          hLookup, .settle hSettle hBlock, rfl⟩)

/- A receipt after a call: as before, a new stub, or settled. -/
theorem Effect.receipt_cases
    {receipt : ReceiptMetadata}
    (hEffect : Effect engine op result engine')
    (hMem : receipt ∈ engine'.receipts) :
    receipt ∈ engine.receipts ∨
      (∃ orderId txid i late escrow escrow',
        op = .sellerFulfill orderId txid ∧
          engine.lookup orderId = some (i, escrow) ∧
          escrow.sellerFulfill engine.now txid =
            .ok (late, escrow') ∧
          receipt = escrow'.receiptStub engine.now late) ∨
      ∃ settlement i amount escrow escrow' stub,
        op.settlement engine = some settlement ∧
          engine.lookup settlement.orderId =
            some (i, escrow) ∧
          settlement.block escrow = .ok (amount, escrow') ∧
          stub ∈ engine.receipts ∧
          receipt =
            stub.finalize engine.now escrow'
              settlement.refunded := by
  cases hEffect with
  | refused message => exact Or.inl hMem
  | committed hTxid => exact Or.inl hMem
  | accepted hLookup hBlock => exact Or.inl hMem
  | fulfilled hLookup hBlock =>
      rcases List.mem_append.mp hMem with hOld | hNew
      · exact Or.inl hOld
      · exact Or.inr (Or.inl
          ⟨_, _, _, _, _, _, rfl, hLookup, hBlock,
            List.mem_singleton.mp hNew⟩)
  | settled hSettle hLookup hBlock hReceipt =>
      rcases List.mem_or_eq_of_mem_set hMem with hOld | hNew
      · exact Or.inl hOld
      · exact Or.inr (Or.inr
          ⟨_, _, _, _, _, _, hSettle, hLookup, hBlock,
            CoreProverEngine.mem_of_lastReceipt hReceipt,
            hNew⟩)
  | withdrawn hLookup hBlock => exact Or.inl hMem
  | refreshed hLookup => exact Or.inl hMem
  | advanced hAdvance =>
      rw [(advanceTime_spec hAdvance).2.1] at hMem
      exact Or.inl hMem
  | unreceipted hSettle hLookup hBlock hReceipt =>
      exact Or.inl hMem

/-
  A record stays where it is, and only a call that addresses
  it changes it.
-/
theorem step_record
    {i : Nat}
    {escrow : Escrow}
    (hStep : system.Step engine call engine')
    (hGet : engine.escrows[i]? = some escrow) :
    ∃ escrow',
      engine'.escrows[i]? = some escrow' ∧
        (escrow' = escrow ∨
          ∃ orderId,
            call.op.orderId? = some orderId ∧
              engine.lookup orderId = some (i, escrow) ∧
              Escrow.Change engine call.op escrow
                escrow') := by
  rcases (step_effect hStep).escrows_cases with
    hSame | ⟨_, _, _, _, _, _, _, _, hNew⟩ |
      ⟨orderId, j, before, after, hOrder, hLookup, hChange,
        hSet⟩
  · exact ⟨escrow, by rw [hSame, hGet], Or.inl rfl⟩
  · refine ⟨escrow, ?_, Or.inl rfl⟩
    rw [hNew, List.getElem?_append_left, hGet]
    exact (List.getElem?_eq_some_iff.mp hGet).1
  · by_cases hPos : j = i
    · subst hPos
      have hBefore : before = escrow := by
        have hThere :=
          CoreProverEngine.getElem?_of_lookup hLookup
        rw [hGet] at hThere
        exact (Option.some.inj hThere).symm
      subst hBefore
      refine ⟨after, ?_,
        Or.inr ⟨orderId, hOrder, hLookup, hChange⟩⟩
      rw [hSet, List.getElem?_set_self]
      exact (List.getElem?_eq_some_iff.mp hGet).1
    · refine ⟨escrow, ?_, Or.inl rfl⟩
      rw [hSet, List.getElem?_set_ne hPos, hGet]

/-
  A record after a call was there before, and only a call that
  addresses it changed it, or it was committed.
-/
theorem step_record_source
    {i : Nat}
    {escrow' : Escrow}
    (hStep : system.Step engine call engine')
    (hGet : engine'.escrows[i]? = some escrow') :
    (∃ escrow,
      engine.escrows[i]? = some escrow ∧
        (escrow' = escrow ∨
          ∃ orderId,
            call.op.orderId? = some orderId ∧
              engine.lookup orderId = some (i, escrow) ∧
              Escrow.Change engine call.op escrow
                escrow')) ∨
      i = engine.escrows.length ∧
        ∃ buyer seller amount profile chain txid,
          call.op =
              .buyerCommit buyer seller amount profile chain
                txid ∧
            call.result =
              .ok (.order
                (orderIdOf engine.nextSessionCounter)) ∧
            escrow' =
              .new (orderIdOf engine.nextSessionCounter)
                buyer seller amount profile chain txid
                engine.currentMono := by
  by_cases hOld : i < engine.escrows.length
  · have hBefore := List.getElem?_eq_getElem hOld
    rcases step_record hStep hBefore with
      ⟨after, hAfter, hCase⟩
    have hSame : after = escrow' := by
      rw [hGet] at hAfter
      exact (Option.some.inj hAfter).symm
    subst hSame
    exact Or.inl ⟨_, hBefore, hCase⟩
  · have hBound := (List.getElem?_eq_some_iff.mp hGet).1
    rcases (step_effect hStep).escrows_cases with
      hSame | ⟨buyer, seller, amount, profile, chain, txid,
        hOp, hResult, hNew⟩ |
        ⟨_, j, _, after, _, _, _, hSet⟩
    · rw [hSame] at hBound
      exact absurd hBound hOld
    · have hLast : i = engine.escrows.length := by
        rw [hNew, List.length_append,
          List.length_singleton] at hBound
        omega
      refine Or.inr ⟨hLast, buyer, seller, amount, profile,
        chain, txid, hOp, hResult, ?_⟩
      rw [hNew, hLast, List.getElem?_concat_length] at hGet
      exact (Option.some.inj hGet).symm
    · rw [hSet, List.length_set] at hBound
      exact absurd hBound hOld

/-
  What holds of a record that is committed, and is kept by
  every change of a record, holds of all records.
-/
theorem step_records
    {P : Escrow → Prop}
    (hNew :
      ∀ buyer seller amount profile chain txid reply,
        call.op =
            .buyerCommit buyer seller amount profile chain
              txid →
          call.result = .ok reply →
            P (.new (orderIdOf engine.nextSessionCounter) buyer
              seller amount profile chain txid
              engine.currentMono))
    (hChange :
      ∀ escrow escrow',
        Escrow.Change engine call.op escrow escrow' →
          P escrow → P escrow')
    (hStep : system.Step engine call engine')
    (hRecords :
      ∀ (i : Nat) (escrow : Escrow),
        engine.escrows[i]? = some escrow → P escrow)
    (i : Nat)
    (escrow' : Escrow)
    (hGet : engine'.escrows[i]? = some escrow') :
    P escrow' := by
  rcases step_record_source hStep hGet with
    ⟨escrow, hThere, hCase⟩ |
      ⟨_, _, _, _, _, _, _, hOp, hOk, hFresh⟩
  · have hBefore := hRecords i escrow hThere
    rcases hCase with hSame | ⟨_, _, _, hDone⟩
    · rw [hSame]
      exact hBefore
    · exact hChange escrow escrow' hDone hBefore
  · rw [hFresh]
    exact hNew _ _ _ _ _ _ _ hOp hOk

theorem Reachable.records
    {P : Escrow → Prop}
    (hNew :
      ∀ {engine call engine'},
        system.Step engine call engine' →
        ∀ buyer seller amount profile chain txid reply,
          call.op =
              .buyerCommit buyer seller amount profile chain
                txid →
            call.result = .ok reply →
              P (.new (orderIdOf engine.nextSessionCounter)
                buyer seller amount profile chain txid
                engine.currentMono))
    (hChange :
      ∀ engine op escrow escrow',
        Escrow.Change engine op escrow escrow' →
          P escrow → P escrow')
    (hReach : Reachable engine)
    {i : Nat}
    {escrow : Escrow}
    (hGet : engine.escrows[i]? = some escrow) :
    P escrow := by
  refine hReach.invariant
    (fun engine =>
      ∀ (i : Nat) (escrow : Escrow),
        engine.escrows[i]? = some escrow → P escrow)
    ?_ ?_ i escrow hGet
  · intro chainId interval genesis i escrow hNone
    simp [CoreProverEngine.new] at hNone
  · intro engine call engine' hRecords hStep
    exact step_records (hNew hStep) (hChange engine call.op)
      hStep hRecords

/- The record an order id addresses is addressed for good. -/
theorem step_lookup
    {orderId : OrderId}
    {i : Nat}
    {escrow : Escrow}
    (hStep : system.Step engine call engine')
    (hLookup : engine.lookup orderId = some (i, escrow)) :
    ∃ escrow',
      engine'.lookup orderId = some (i, escrow') ∧
        (escrow' = escrow ∨
          call.op.orderId? = some orderId ∧
            Escrow.Change engine call.op escrow escrow') := by
  rcases (step_effect hStep).escrows_cases with
    hSame | ⟨_, _, _, _, _, _, _, _, hNew⟩ |
      ⟨orderId', j, before, after, hOrder, hLookup', hChange,
        hSet⟩
  · refine ⟨escrow, ?_, Or.inl rfl⟩
    unfold CoreProverEngine.lookup
    rw [hSame]
    exact hLookup
  · refine ⟨escrow, ?_, Or.inl rfl⟩
    unfold CoreProverEngine.lookup
    rw [hNew]
    exact KeyedList.firstMatch_append_of_some _ hLookup
  · have hAfter :
        engine'.lookup orderId =
          (engine.lookup orderId).map fun p =>
            if p.1 = j then (j, after) else p := by
      unfold CoreProverEngine.lookup
      rw [hSet]
      exact KeyedList.firstMatch_set
        (CoreProverEngine.getElem?_of_lookup hLookup')
        hChange.identity.1
    rw [hLookup] at hAfter
    by_cases hPos : i = j
    · subst hPos
      have hThere :=
        CoreProverEngine.getElem?_of_lookup hLookup
      rw [CoreProverEngine.getElem?_of_lookup hLookup']
        at hThere
      have hBefore : before = escrow :=
        Option.some.inj hThere
      subst hBefore
      have hId : orderId' = orderId := by
        rw [← CoreProverEngine.orderId_of_lookup hLookup,
          CoreProverEngine.orderId_of_lookup hLookup']
      subst hId
      exact ⟨after, by simpa using hAfter,
        Or.inr ⟨hOrder, hChange⟩⟩
    · exact ⟨escrow, by simpa [hPos] using hAfter,
        Or.inl rfl⟩

end Engine

end BorderController

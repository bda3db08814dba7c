import BorderController.Engine.System

/-
  What each call does, said once.

  Every operation is reduced to a lookup, a block on the escrow
  found and, for some, a second step on the receipts.

  Key definitions include:
    * `CoreProverEngine.lookup`
    * `CoreProverEngine.setEscrow`
    * `CoreProverEngine.borrow`
    * `Op.settlement`

  Key theorems include:
    * `call_withEscrowMut_bind`
    * `exec_sellerAccept`, `exec_sellerFulfill`
    * `exec_settlement`
    * `exec_buyerWithdraw`, `exec_updateState`
-/

------------------------------------------------------------
-- Lookup and In-Place Update
------------------------------------------------------------

namespace BorderController

namespace Engine

namespace CoreProverEngine

/- The escrow an order id addresses, with its position. -/
def lookup
    (orderId : OrderId)
    (engine : CoreProverEngine) :
    Option (Nat × Escrow) :=
  KeyedList.firstMatch Escrow.orderId orderId engine.escrows

/- Write an escrow back where it was borrowed. -/
def setEscrow
    (i : Nat)
    (escrow : Escrow)
    (engine : CoreProverEngine) :
    CoreProverEngine :=
  { engine with escrows := engine.escrows.set i escrow }

/- The receipt a settlement of the order would finalize. -/
def lastReceipt
    (orderId : OrderId)
    (engine : CoreProverEngine) :
    Option (Nat × ReceiptMetadata) :=
  KeyedList.lastMatch
    ReceiptMetadata.sessionId orderId engine.receipts

variable {engine : CoreProverEngine}
variable {orderId : OrderId}
variable {i : Nat}
variable {escrow escrow' : Escrow}
variable {receipt : ReceiptMetadata}

@[simp] theorem setEscrow_escrows :
    (engine.setEscrow i escrow).escrows =
      engine.escrows.set i escrow := rfl

@[simp] theorem setEscrow_receipts :
    (engine.setEscrow i escrow).receipts =
      engine.receipts := rfl

@[simp] theorem setEscrow_now [Chrono] :
    (engine.setEscrow i escrow).now = engine.now := rfl

@[simp] theorem setEscrow_lastReceipt :
    (engine.setEscrow i escrow).lastReceipt orderId =
      engine.lastReceipt orderId := rfl

theorem lookup_iff :
    engine.lookup orderId = some (i, escrow) ↔
      engine.escrows[i]? = some escrow ∧
        escrow.orderId = orderId ∧
        ∀ j < i, ∀ e, engine.escrows[j]? = some e →
          e.orderId ≠ orderId :=
  KeyedList.firstMatch_eq_some_iff

theorem getElem?_of_lookup
    (hLookup : engine.lookup orderId = some (i, escrow)) :
    engine.escrows[i]? = some escrow :=
  (lookup_iff.mp hLookup).1

theorem orderId_of_lookup
    (hLookup : engine.lookup orderId = some (i, escrow)) :
    escrow.orderId = orderId :=
  (lookup_iff.mp hLookup).2.1

theorem mem_of_lookup
    (hLookup : engine.lookup orderId = some (i, escrow)) :
    escrow ∈ engine.escrows :=
  List.mem_of_getElem? (getElem?_of_lookup hLookup)

theorem getElem?_of_lastReceipt
    (hLast : engine.lastReceipt orderId = some (i, receipt)) :
    engine.receipts[i]? = some receipt :=
  (KeyedList.getElem?_of_lastMatch hLast).1

theorem sessionId_of_lastReceipt
    (hLast : engine.lastReceipt orderId = some (i, receipt)) :
    receipt.sessionId = orderId :=
  (KeyedList.getElem?_of_lastMatch hLast).2

theorem mem_of_lastReceipt
    (hLast : engine.lastReceipt orderId = some (i, receipt)) :
    receipt ∈ engine.receipts :=
  List.mem_of_getElem? (getElem?_of_lastReceipt hLast)

theorem getEscrow_eq
    (orderId : OrderId)
    (engine : CoreProverEngine) :
    engine.getEscrow orderId =
      match engine.lookup orderId with
      | some (_, escrow) => .ok escrow
      | none => .error "Escrow not found" := by
  unfold getEscrow lookup
  rw [KeyedList.find?_eq_firstMatch]
  cases KeyedList.firstMatch
    Escrow.orderId orderId engine.escrows <;> rfl

/- Rewriting a record keeps every lookup at its position. -/
theorem lookup_setEscrow
    (hGet : engine.escrows[i]? = some escrow)
    (hKey : escrow'.orderId = escrow.orderId) :
    (engine.setEscrow i escrow').lookup orderId =
      (engine.lookup orderId).map fun p =>
        if p.1 = i then (i, escrow') else p :=
  KeyedList.firstMatch_set hGet hKey

/- The record just rewritten is the one found. -/
theorem lookup_setEscrow_self
    (hLookup : engine.lookup orderId = some (i, escrow))
    (hKey : escrow'.orderId = escrow.orderId) :
    (engine.setEscrow i escrow').lookup orderId =
      some (i, escrow') := by
  rw [lookup_setEscrow (getElem?_of_lookup hLookup) hKey,
    hLookup]
  simp

theorem getEscrow_setEscrow_self
    (hLookup : engine.lookup orderId = some (i, escrow))
    (hKey : escrow'.orderId = escrow.orderId) :
    (engine.setEscrow i escrow').getEscrow orderId =
      .ok escrow' := by
  rw [getEscrow_eq, lookup_setEscrow_self hLookup hKey]

end CoreProverEngine

end Engine

end BorderController

------------------------------------------------------------
-- Blocks on a Borrowed Escrow
------------------------------------------------------------

namespace BorderController

namespace Engine

namespace Escrow

variable {now : TimeTruth}
variable {height chainId amount : UInt64}
variable {txid : String}
variable {escrow escrow' : Escrow}

theorem sellerAccept_ok_iff
    {u : Unit} :
    escrow.sellerAccept now chainId txid =
        .ok (u, escrow') ↔
      escrow.state = .buyerCommitted ∧
        RustString.isBlank txid = false ∧
        now.mono ≤ escrow.acceptanceDeadlineMono ∧
        escrow' =
          { escrow with
            sellerChainId := chainId
            sellerAcceptMono := some now.mono
            sellerAcceptTxid := some txid
            fulfillmentDeadlineMono :=
              some
                (now.mono +
                  escrow.profile.timing.fulfillmentWindowSecs)
            state := .sellerAccepted } := by
  unfold sellerAccept
  by_cases hState : escrow.state = .buyerCommitted
  · by_cases hTxid : RustString.isBlank txid = true
    · simp [hState, hTxid]
    · by_cases hTime :
          escrow.acceptanceDeadlineMono < now.mono
      · simp [hState, hTxid, hTime]
      · simp [hState, hTxid, hTime, UInt64.not_lt.mp hTime,
          eq_comm]
  · simp [hState]

theorem sellerFulfill_ok_iff
    {late : Bool} :
    escrow.sellerFulfill now txid = .ok (late, escrow') ↔
      escrow.state.canFulfill = true ∧
        RustString.isBlank txid = false ∧
        late = escrow.isLate now ∧
        escrow' =
          { escrow with
            fulfillmentMono := some now.mono
            sellerFulfillTxid := some txid
            state :=
              if escrow.isLate now then
                .fulfillmentExpired
              else
                .sellerFulfilled } := by
  unfold sellerFulfill
  by_cases hState : escrow.state.canFulfill = true
  · by_cases hTxid : RustString.isBlank txid = true
    · simp [hState, hTxid]
    · simp only [hState, hTxid, Bool.not_true,
        Bool.false_eq_true, if_false, Except.ok.injEq,
        Prod.mk.injEq, true_and]
      exact and_congr eq_comm eq_comm
  · simp [hState]

theorem sellerClaim_ok_iff :
    escrow.sellerClaim now height txid =
        .ok (amount, escrow') ↔
      escrow.state.isClaimable = true ∧
        RustString.isBlank txid = false ∧
        amount = escrow.amount ∧
        escrow' =
          { escrow with
            sellerClaimTxid := some txid
            settlementMono := some now.mono
            sellerBlockHeight := some height
            state := .sellerClaimed } := by
  unfold sellerClaim
  by_cases hState : escrow.state.isClaimable = true
  · by_cases hTxid : RustString.isBlank txid = true
    · simp [hState, hTxid]
    · simp [hState, hTxid, eq_comm]
  · simp [hState]

theorem sellerRefund_ok_iff :
    escrow.sellerRefund now height txid =
        .ok (amount, escrow') ↔
      escrow.state.isClaimable = true ∧
        RustString.isBlank txid = false ∧
        amount = escrow.amount ∧
        escrow' =
          { escrow with
            sellerRefundTxid := some txid
            settlementMono := some now.mono
            sellerBlockHeight := some height
            state := .sellerRefunded } := by
  unfold sellerRefund
  by_cases hState : escrow.state.isClaimable = true
  · by_cases hTxid : RustString.isBlank txid = true
    · simp [hState, hTxid]
    · simp [hState, hTxid, eq_comm]
  · simp [hState]

theorem buyerWithdraw_ok_iff
    {txid : Option String} :
    escrow.buyerWithdraw now txid =
        .ok (amount, escrow') ↔
      (escrow.state = .fulfillmentExpired ∨
          escrow.state = .buyerCommitted ∧
            escrow.acceptanceDeadlineMono < now.mono) ∧
        amount = escrow.amount ∧
        escrow' =
          { escrow with
            buyerWithdrawTxid :=
              txid.or escrow.buyerWithdrawTxid
            state := .buyerWithdrawn
            settlementMono := some now.mono
            sellerBlockHeight := none } := by
  unfold buyerWithdraw
  by_cases hCommitted : escrow.state = .buyerCommitted
  · by_cases hTime :
        now.mono ≤ escrow.acceptanceDeadlineMono
    · simp [hCommitted, hTime]
    · simp [hCommitted, hTime, UInt64.not_le.mp hTime, eq_comm]
  · by_cases hExpired : escrow.state = .fulfillmentExpired
    · simp [hExpired, eq_comm]
    · simp [hCommitted, hExpired]

theorem timedRelease_ok_iff :
    escrow.timedRelease now height =
        .ok (amount, escrow') ↔
      escrow.profile.allowsTimedRelease = true ∧
        escrow.state.isClaimable = true ∧
        escrow.profile.timing.claimWindowSecs ≤
          escrow.elapsed now ∧
        amount = escrow.amount ∧
        escrow' =
          { escrow with
            sellerClaimTxid :=
              some ("auto_claim_" ++ toString now.mono)
            settlementMono := some now.mono
            sellerBlockHeight := some height
            state := .sellerClaimed } := by
  unfold timedRelease
  by_cases hAllowed :
      escrow.profile.allowsTimedRelease = true
  · by_cases hState : escrow.state.isClaimable = true
    · by_cases hTime :
          escrow.elapsed now <
            escrow.profile.timing.claimWindowSecs
      · simp [hAllowed, hState, hTime]
      · simp [hAllowed, hState, hTime, UInt64.not_lt.mp hTime,
          eq_comm]
    · simp [hAllowed, hState]
  · simp [hAllowed]

end Escrow

end Engine

end BorderController

------------------------------------------------------------
-- Calls
------------------------------------------------------------

namespace BorderController

namespace Engine

variable {α β : Type}

theorem call_bind
    (operation : EngineM α)
    (rest : α → EngineM β)
    (engine : CoreProverEngine) :
    (operation >>= rest).call engine =
      match operation.call engine with
      | (.ok a, engine') => (rest a).call engine'
      | (.error e, engine') => (.error e, engine') := by
  simp only [EngineM.call, ExceptT.run_bind, StateT.run_bind]
  cases operation.run.run engine with
  | mk result engine' => cases result <;> rfl

theorem call_map
    (f : α → β)
    (operation : EngineM α)
    (engine : CoreProverEngine) :
    (f <$> operation).call engine =
      match operation.call engine with
      | (.ok a, engine') => (.ok (f a), engine')
      | (.error e, engine') => (.error e, engine') := by
  rw [map_eq_pure_bind, call_bind]
  rfl

theorem call_get
    (engine : CoreProverEngine) :
    (get : EngineM CoreProverEngine).call engine =
      (.ok engine, engine) := rfl

end Engine

end BorderController

------------------------------------------------------------
-- Borrowing an Escrow
------------------------------------------------------------

namespace BorderController

namespace Engine

variable {α β ρ : Type}

/-
  The course of a call that borrows a record: `done` is what
  comes of a block that succeeds.
-/
def CoreProverEngine.borrow
    (orderId : OrderId)
    (block : Escrow → Except String (α × Escrow))
    (done :
      Nat → α → Escrow →
        Except String ρ × CoreProverEngine)
    (engine : CoreProverEngine) :
    Except String ρ × CoreProverEngine :=
  match engine.lookup orderId with
  | none => (.error "Escrow not found", engine)
  | some (i, escrow) =>
      match block escrow with
      | .error e => (.error e, engine)
      | .ok (a, escrow') => done i a escrow'

section borrow

variable {orderId : OrderId}
variable {block : Escrow → Except String (α × Escrow)}
variable
  {done done' :
    Nat → α → Escrow → Except String ρ × CoreProverEngine}
variable {engine : CoreProverEngine}
variable {i : Nat}
variable {a : α}
variable {escrow escrow' : Escrow}

theorem borrow_of_none
    (hLookup : engine.lookup orderId = none) :
    engine.borrow orderId block done =
      (.error "Escrow not found", engine) := by
  unfold CoreProverEngine.borrow
  rw [hLookup]

theorem borrow_of_error
    {message : String}
    (hLookup : engine.lookup orderId = some (i, escrow))
    (hBlock : block escrow = .error message) :
    engine.borrow orderId block done =
      (.error message, engine) := by
  unfold CoreProverEngine.borrow
  simp only [hLookup, hBlock]

theorem borrow_of_ok
    (hLookup : engine.lookup orderId = some (i, escrow))
    (hBlock : block escrow = .ok (a, escrow')) :
    engine.borrow orderId block done = done i a escrow' := by
  unfold CoreProverEngine.borrow
  simp only [hLookup, hBlock]

/- Only what comes of a block that succeeds matters. -/
theorem borrow_congr
    (hDone :
      ∀ {i : Nat} {a : α} {escrow escrow' : Escrow},
        engine.lookup orderId = some (i, escrow) →
        block escrow = .ok (a, escrow') →
        done i a escrow' = done' i a escrow') :
    engine.borrow orderId block done =
      engine.borrow orderId block done' := by
  cases hLookup : engine.lookup orderId with
  | none =>
      rw [borrow_of_none hLookup, borrow_of_none hLookup]
  | some p =>
      cases hBlock : block p.2 with
      | error message =>
          rw [borrow_of_error hLookup hBlock,
            borrow_of_error hLookup hBlock]
      | ok q =>
          rw [borrow_of_ok hLookup hBlock,
            borrow_of_ok hLookup hBlock]
          exact hDone hLookup hBlock

end borrow

/- A block on a missing escrow, a failed block, a rewrite. -/
theorem call_withEscrowMut
    (orderId : OrderId)
    (block : Escrow → Except String (α × Escrow))
    (engine : CoreProverEngine) :
    (withEscrowMut orderId block).call engine =
      engine.borrow orderId block fun i a escrow' =>
        (.ok a, engine.setEscrow i escrow') := by
  unfold withEscrowMut
  rw [call_bind]
  change
    (match engine.lookup orderId with
      | none => (throw "Escrow not found" : EngineM α)
      | some (i, escrow) => _).call engine = _
  cases hLookup : engine.lookup orderId with
  | none =>
      rw [borrow_of_none hLookup]
      rfl
  | some p =>
      cases hBlock : block p.2 with
      | error message =>
          rw [borrow_of_error hLookup hBlock]
          simp only [hBlock]
          rfl
      | ok q =>
          rw [borrow_of_ok hLookup hBlock]
          simp only [hBlock]
          rfl

/- What follows a borrow runs on the rewritten record. -/
theorem call_withEscrowMut_bind
    (orderId : OrderId)
    (block : Escrow → Except String (α × Escrow))
    (rest : α → EngineM β)
    (engine : CoreProverEngine) :
    (withEscrowMut orderId block >>= rest).call engine =
      engine.borrow orderId block fun i a escrow' =>
        (rest a).call (engine.setEscrow i escrow') := by
  rw [call_bind, call_withEscrowMut]
  cases hLookup : engine.lookup orderId with
  | none =>
      rw [borrow_of_none hLookup, borrow_of_none hLookup]
  | some p =>
      cases hBlock : block p.2 with
      | error message =>
          rw [borrow_of_error hLookup hBlock,
            borrow_of_error hLookup hBlock]
      | ok q =>
          rw [borrow_of_ok hLookup hBlock,
            borrow_of_ok hLookup hBlock]

end Engine

end BorderController

------------------------------------------------------------
-- Calls That Only Rewrite the Escrow
------------------------------------------------------------

namespace BorderController

namespace Engine

variable [Chrono]
variable (orderId : OrderId)
variable (engine : CoreProverEngine)

theorem exec_buyerCommit
    (buyer seller : String)
    (amount : UInt64)
    (profile : PaymentProfile)
    (chain : UInt64)
    (txid : String) :
    exec (.buyerCommit buyer seller amount profile chain txid)
        engine =
      some
        (if RustString.isBlank txid then
          (.error "buyer_commit_txid is required", engine)
        else
          let orderId := orderIdOf engine.nextSessionCounter
          (.ok (.order orderId),
            { engine with
              nextSessionCounter :=
                engine.nextSessionCounter + 1
              escrows :=
                engine.escrows ++
                  [.new orderId buyer seller amount profile
                    chain txid engine.currentMono] })) := by
  unfold exec
  simp only [call_map]
  by_cases hTxid : RustString.isBlank txid = true
  · simp only [buyerCommit, hTxid, if_true]
    rfl
  · simp only [buyerCommit, hTxid, Bool.false_eq_true,
      if_false]
    rfl

theorem exec_sellerAccept
    (txid : String) :
    exec (.sellerAccept orderId txid) engine =
      some
        (engine.borrow orderId
          (Escrow.sellerAccept engine.now engine.chainId txid)
          fun i _ escrow' =>
            (.ok .done, engine.setEscrow i escrow')) := by
  have hExec :
      exec (.sellerAccept orderId txid) engine =
        some
          (((fun _ => .done) <$>
            withEscrowMut orderId
              (Escrow.sellerAccept engine.now engine.chainId
                txid) : EngineM Reply).call engine) := rfl
  rw [hExec, map_eq_pure_bind, call_withEscrowMut_bind]
  rfl

theorem exec_buyerWithdraw
    (txid : Option String) :
    exec (.buyerWithdraw orderId txid) engine =
      some
        (engine.borrow orderId
          (Escrow.buyerWithdraw engine.now txid)
          fun i amount escrow' =>
            (.ok (.amount amount),
              engine.setEscrow i escrow')) := by
  have hExec :
      exec (.buyerWithdraw orderId txid) engine =
        some
          ((Reply.amount <$>
            withEscrowMut orderId
              (Escrow.buyerWithdraw engine.now txid) :
                EngineM Reply).call engine) := rfl
  rw [hExec, map_eq_pure_bind, call_withEscrowMut_bind]
  rfl

theorem exec_updateState :
    exec (.updateState orderId) engine =
      some
        (engine.borrow orderId
          (fun escrow =>
            .ok ((), escrow.updateState engine.now))
          fun i _ escrow' =>
            (.ok .done, engine.setEscrow i escrow')) := by
  have hExec :
      exec (.updateState orderId) engine =
        some
          (((fun _ => .done) <$>
            withEscrowMut orderId
              (fun escrow =>
                .ok ((), escrow.updateState engine.now)) :
                  EngineM Reply).call engine) := rfl
  rw [hExec, map_eq_pure_bind, call_withEscrowMut_bind]
  rfl

end Engine

end BorderController

------------------------------------------------------------
-- Fulfilment and Settlement
------------------------------------------------------------

namespace BorderController

namespace Engine

variable [Chrono]

theorem call_createReceiptStub
    {orderId : OrderId}
    {engine : CoreProverEngine}
    {escrow : Escrow}
    (late : Bool)
    (hFound : engine.getEscrow orderId = .ok escrow) :
    (createReceiptStub orderId late).call engine =
      (.ok (),
        { engine with
          receipts :=
            engine.receipts ++
              [escrow.receiptStub engine.now late] }) := by
  unfold createReceiptStub
  rw [call_bind, call_get]
  simp only [hFound]
  rfl

theorem call_finalizeReceipt
    {orderId : OrderId}
    {engine : CoreProverEngine}
    {escrow : Escrow}
    (refunded : Bool)
    (hFound : engine.getEscrow orderId = .ok escrow) :
    (finalizeReceipt orderId refunded).call engine =
      match engine.lastReceipt orderId with
      | none => (.error "receipt stub not found", engine)
      | some (idx, receipt) =>
          (.ok (),
            { engine with
              receipts :=
                engine.receipts.set idx
                  (receipt.finalize engine.now escrow
                    refunded) }) := by
  unfold finalizeReceipt
  rw [call_bind, call_get]
  simp only [hFound]
  unfold CoreProverEngine.lastReceipt
  cases KeyedList.lastMatch ReceiptMetadata.sessionId orderId
    engine.receipts <;> rfl

theorem exec_sellerFulfill
    (orderId : OrderId)
    (engine : CoreProverEngine)
    (txid : String) :
    exec (.sellerFulfill orderId txid) engine =
      some
        (engine.borrow orderId
          (Escrow.sellerFulfill engine.now txid)
          fun i late escrow' =>
            (.ok .done,
              { engine.setEscrow i escrow' with
                receipts :=
                  engine.receipts ++
                    [escrow'.receiptStub engine.now
                      late] })) := by
  have hExec :
      exec (.sellerFulfill orderId txid) engine =
        some
          (((fun _ => .done) <$>
            (withEscrowMut orderId
              (Escrow.sellerFulfill engine.now txid) >>=
                createReceiptStub orderId) :
                  EngineM Reply).call engine) := rfl
  rw [hExec, map_bind, call_withEscrowMut_bind]
  refine congrArg some (borrow_congr ?_)
  intro i late escrow escrow' hLookup hBlock
  have hKey : escrow'.orderId = escrow.orderId := by
    rw [(Escrow.sellerFulfill_ok_iff.mp hBlock).2.2.2]
  have hFound :=
    CoreProverEngine.getEscrow_setEscrow_self hLookup hKey
  rw [call_map, call_createReceiptStub late hFound]
  rfl

/- A call that settles an order in the seller's name. -/
structure Settlement where
  orderId : OrderId
  block : Escrow → Except String (UInt64 × Escrow)
  refunded : Bool

/- Claim, refund and timed release settle in the same way. -/
def Op.settlement
    (engine : CoreProverEngine) :
    Op → Option Settlement
  | .sellerClaim orderId txid =>
      some
        { orderId
          block :=
            Escrow.sellerClaim engine.now
              engine.currentBlockHeight txid
          refunded := false }
  | .sellerRefund orderId txid =>
      some
        { orderId
          block :=
            Escrow.sellerRefund engine.now
              engine.currentBlockHeight txid
          refunded := true }
  | .timedRelease orderId =>
      some
        { orderId
          block :=
            Escrow.timedRelease engine.now
              engine.currentBlockHeight
          refunded := false }
  | _ => none

/- The escrow a settlement leaves behind. -/
def Escrow.settle
    (now : TimeTruth)
    (height : UInt64)
    (refunded : Bool)
    (txid : String)
    (escrow : Escrow) :
    Escrow :=
  if refunded then
    { escrow with
      sellerRefundTxid := some txid
      settlementMono := some now.mono
      sellerBlockHeight := some height
      state := .sellerRefunded }
  else
    { escrow with
      sellerClaimTxid := some txid
      settlementMono := some now.mono
      sellerBlockHeight := some height
      state := .sellerClaimed }

omit [Chrono] in
@[simp] theorem Escrow.settle_orderId
    (now : TimeTruth)
    (height : UInt64)
    (refunded : Bool)
    (txid : String)
    (escrow : Escrow) :
    (escrow.settle now height refunded txid).orderId =
      escrow.orderId := by
  cases refunded <;> rfl

/- What a settlement block checks and writes. -/
theorem Settlement.block_ok
    {engine : CoreProverEngine}
    {op : Op}
    {settlement : Settlement}
    {escrow escrow' : Escrow}
    {amount : UInt64}
    (hSettle : op.settlement engine = some settlement)
    (hBlock :
      settlement.block escrow = .ok (amount, escrow')) :
    escrow.state.isClaimable = true ∧
      amount = escrow.amount ∧
      ∃ txid,
        escrow' =
          escrow.settle engine.now engine.currentBlockHeight
            settlement.refunded txid := by
  cases op with
  | sellerClaim orderId txid =>
      cases hSettle
      have hSpec := Escrow.sellerClaim_ok_iff.mp hBlock
      exact ⟨hSpec.1, hSpec.2.2.1, txid, hSpec.2.2.2⟩
  | sellerRefund orderId txid =>
      cases hSettle
      have hSpec := Escrow.sellerRefund_ok_iff.mp hBlock
      exact ⟨hSpec.1, hSpec.2.2.1, txid, hSpec.2.2.2⟩
  | timedRelease orderId =>
      cases hSettle
      have hSpec := Escrow.timedRelease_ok_iff.mp hBlock
      exact ⟨hSpec.2.1, hSpec.2.2.2.1, _, hSpec.2.2.2.2⟩
  | _ => simp [Op.settlement] at hSettle

/- A settlement block leaves the order id as it is. -/
theorem Settlement.orderId_of_block
    {engine : CoreProverEngine}
    {op : Op}
    {settlement : Settlement}
    {escrow escrow' : Escrow}
    {amount : UInt64}
    (hSettle : op.settlement engine = some settlement)
    (hBlock :
      settlement.block escrow = .ok (amount, escrow')) :
    escrow'.orderId = escrow.orderId := by
  rcases Settlement.block_ok hSettle hBlock with
    ⟨_, _, txid, hEq⟩
  simp [hEq]

/- The receipt of a settlement is finalized, if there is one. -/
def CoreProverEngine.settle
    (settlement : Settlement)
    (i : Nat)
    (amount : UInt64)
    (escrow : Escrow)
    (engine : CoreProverEngine) :
    Except String Reply × CoreProverEngine :=
  match engine.lastReceipt settlement.orderId with
  | none =>
      (.error "receipt stub not found",
        engine.setEscrow i escrow)
  | some (idx, receipt) =>
      (.ok (.amount amount),
        { engine.setEscrow i escrow with
          receipts :=
            engine.receipts.set idx
              (receipt.finalize engine.now escrow
                settlement.refunded) })

/- The common course of claim, refund and timed release. -/
theorem exec_settlement
    {engine : CoreProverEngine}
    {op : Op}
    {settlement : Settlement}
    (hSettle : op.settlement engine = some settlement) :
    exec op engine =
      some
        (engine.borrow settlement.orderId settlement.block
          fun i amount escrow' =>
            engine.settle settlement i amount escrow') := by
  have hExec :
      exec op engine =
        some
          ((Reply.amount <$>
            (withEscrowMut settlement.orderId
                settlement.block >>= fun amount =>
              finalizeReceipt settlement.orderId
                  settlement.refunded >>= fun _ =>
                pure amount) :
                  EngineM Reply).call engine) := by
    cases op with
    | sellerClaim orderId txid =>
        cases hSettle
        rfl
    | sellerRefund orderId txid =>
        cases hSettle
        rfl
    | timedRelease orderId =>
        cases hSettle
        rfl
    | _ => simp [Op.settlement] at hSettle
  rw [hExec, map_bind, call_withEscrowMut_bind]
  refine congrArg some (borrow_congr ?_)
  intro i amount escrow escrow' hLookup hBlock
  have hKey := Settlement.orderId_of_block hSettle hBlock
  have hFound :=
    CoreProverEngine.getEscrow_setEscrow_self hLookup hKey
  rw [call_map, call_bind,
    call_finalizeReceipt settlement.refunded hFound,
    CoreProverEngine.setEscrow_lastReceipt]
  unfold CoreProverEngine.settle
  cases engine.lastReceipt settlement.orderId <;> rfl

end Engine

end BorderController

import BorderController.Engine.Receipts
import BorderController.Library.KeyedPatch

/-
  Calls that address different orders do not interfere.

  Such a call reads the clock, the chain and its own order, and
  patches the records and the receipts at its own order id.

  Key definitions include:
    * `Outcome`
    * `CoreProverEngine.Agrees`
    * `LeavesOthers`, `SameOrders`
    * `CommutesAt`

  Key theorems include:
    * `exec_outcome`
    * `orders_commute`
-/

------------------------------------------------------------
-- Outcomes as Patches
------------------------------------------------------------

namespace BorderController

namespace Engine

open KeyedList (Patch)

/- What a call returns, and what it writes. -/
structure Outcome where
  result : Except String Reply
  records : Patch Escrow
  receipts : Patch ReceiptMetadata

namespace Outcome

/- An error that leaves everything as it was. -/
def refused (message : String) : Outcome :=
  { result := .error message
    records := .kept
    receipts := .kept }

def apply
    (outcome : Outcome)
    (engine : CoreProverEngine) :
    CoreProverEngine :=
  { engine with
    escrows := outcome.records.apply engine.escrows
    receipts := outcome.receipts.apply engine.receipts }

/- The outcome writes to one order only, and adds no record. -/
structure At
    (orderId : OrderId)
    (engine : CoreProverEngine)
    (outcome : Outcome) :
    Prop where
  inPlace : outcome.records.InPlace
  records :
    outcome.records.At Escrow.orderId orderId engine.escrows
  receipts :
    outcome.receipts.At ReceiptMetadata.sessionId orderId
      engine.receipts

theorem refused_at
    (message : String)
    (orderId : OrderId)
    (engine : CoreProverEngine) :
    (refused message).At orderId engine where
  inPlace := trivial
  records := .kept
  receipts := .kept

end Outcome

/- What a call that addresses the order reads is the same. -/
structure CoreProverEngine.Agrees
    (orderId : OrderId)
    (engine engine' : CoreProverEngine) :
    Prop where
  currentMono : engine'.currentMono = engine.currentMono
  currentUnix : engine'.currentUnix = engine.currentUnix
  chainId : engine'.chainId = engine.chainId
  currentBlockHeight :
    engine'.currentBlockHeight = engine.currentBlockHeight
  lookup : engine'.lookup orderId = engine.lookup orderId
  lastReceipt :
    engine'.lastReceipt orderId = engine.lastReceipt orderId

namespace CoreProverEngine.Agrees

variable {orderId : OrderId}
variable {engine engine' : CoreProverEngine}

theorem refl
    (orderId : OrderId)
    (engine : CoreProverEngine) :
    Agrees orderId engine engine :=
  ⟨rfl, rfl, rfl, rfl, rfl, rfl⟩

theorem now
    [Chrono]
    (hAgrees : Agrees orderId engine engine') :
    engine'.now = engine.now := by
  unfold CoreProverEngine.now
  rw [hAgrees.currentMono, hAgrees.currentUnix]

theorem settlement
    [Chrono]
    (hAgrees : Agrees orderId engine engine')
    (op : Op) :
    op.settlement engine' = op.settlement engine := by
  unfold Op.settlement
  rw [hAgrees.now, hAgrees.currentBlockHeight]

end CoreProverEngine.Agrees

/- Writing to one order is not read under another. -/
theorem Outcome.At.agrees
    {orderId orderId' : OrderId}
    {engine : CoreProverEngine}
    {outcome : Outcome}
    (hAt : outcome.At orderId engine)
    (hNe : orderId ≠ orderId') :
    CoreProverEngine.Agrees orderId' engine
      (outcome.apply engine) where
  currentMono := rfl
  currentUnix := rfl
  chainId := rfl
  currentBlockHeight := rfl
  lookup := hAt.records.firstMatch_apply hNe
  lastReceipt := hAt.receipts.lastMatch_apply hNe

end Engine

end BorderController

------------------------------------------------------------
-- The Outcome of a Call
------------------------------------------------------------

namespace BorderController

namespace Engine

open KeyedList (Patch)

variable {orderId : OrderId}
variable {engine : CoreProverEngine}

/-
  `answer` has one outcome in all engines that agree with
  `engine` on the order.
-/
def HasOutcome
    (orderId : OrderId)
    (engine : CoreProverEngine)
    (answer :
      CoreProverEngine →
        Except String Reply × CoreProverEngine) :
    Prop :=
  ∃ outcome : Outcome,
    outcome.At orderId engine ∧
      ∀ engine',
        engine.Agrees orderId engine' →
        answer engine' =
          (outcome.result, outcome.apply engine')

/- A call that borrows a record has the outcome of its block. -/
private theorem hasOutcome_borrow
    {α : Type}
    (block : Escrow → Except String (α × Escrow))
    (done :
      CoreProverEngine → Nat → α → Escrow →
        Except String Reply × CoreProverEngine)
    (hDone :
      ∀ {i : Nat} {a : α} {escrow escrow' : Escrow},
        engine.lookup orderId = some (i, escrow) →
        block escrow = .ok (a, escrow') →
        HasOutcome orderId engine fun engine' =>
          done engine' i a escrow') :
    HasOutcome orderId engine fun engine' =>
      engine'.borrow orderId block (done engine') := by
  cases hLookup : engine.lookup orderId with
  | none =>
      refine ⟨.refused "Escrow not found",
        Outcome.refused_at _ _ _, ?_⟩
      intro engine' hAgrees
      exact borrow_of_none (hAgrees.lookup.trans hLookup)
  | some p =>
      cases hBlock : block p.2 with
      | error message =>
          refine ⟨.refused message,
            Outcome.refused_at _ _ _, ?_⟩
          intro engine' hAgrees
          exact borrow_of_error (hAgrees.lookup.trans hLookup)
            hBlock
      | ok q =>
          rcases hDone hLookup hBlock with
            ⟨outcome, hAt, hAnswer⟩
          refine ⟨outcome, hAt, ?_⟩
          intro engine' hAgrees
          refine Eq.trans ?_ (hAnswer engine' hAgrees)
          exact borrow_of_ok (hAgrees.lookup.trans hLookup)
            hBlock

variable {i : Nat}
variable {escrow escrow' : Escrow}
variable {result : Except String Reply}

/- Rewriting the record found is an outcome at the order. -/
private theorem records_at
    (hLookup : engine.lookup orderId = some (i, escrow))
    (hKey : escrow'.orderId = escrow.orderId) :
    (Patch.replaced i escrow').At Escrow.orderId orderId
      engine.escrows := by
  have hFound := CoreProverEngine.orderId_of_lookup hLookup
  exact .replaced
    (CoreProverEngine.getElem?_of_lookup hLookup) hFound
    (hKey.trans hFound)

private theorem hasOutcome_setEscrow
    (hLookup : engine.lookup orderId = some (i, escrow))
    (hKey : escrow'.orderId = escrow.orderId) :
    HasOutcome orderId engine fun engine' =>
      (result, engine'.setEscrow i escrow') := by
  refine ⟨{ result
            records := .replaced i escrow'
            receipts := .kept }, ?_, ?_⟩
  · exact
      { inPlace := trivial
        records := records_at hLookup hKey
        receipts := .kept }
  · intro engine' hAgrees
    rfl

private theorem hasOutcome_issue
    {receipt : ReceiptMetadata}
    (hLookup : engine.lookup orderId = some (i, escrow))
    (hKey : escrow'.orderId = escrow.orderId)
    (hSession : receipt.sessionId = escrow'.orderId) :
    HasOutcome orderId engine fun engine' =>
      (result,
        { engine'.setEscrow i escrow' with
          receipts := engine'.receipts ++ [receipt] }) := by
  have hFound := CoreProverEngine.orderId_of_lookup hLookup
  refine ⟨{ result
            records := .replaced i escrow'
            receipts := .added receipt }, ?_, ?_⟩
  · exact
      { inPlace := trivial
        records := records_at hLookup hKey
        receipts :=
          .added (hSession.trans (hKey.trans hFound)) }
  · intro engine' hAgrees
    rfl

private theorem hasOutcome_settle
    [Chrono]
    {settlement : Settlement}
    {amount : UInt64}
    (hLookup :
      engine.lookup settlement.orderId = some (i, escrow))
    (hKey : escrow'.orderId = escrow.orderId) :
    HasOutcome settlement.orderId engine fun engine' =>
      engine'.settle settlement i amount escrow' := by
  cases hReceipt : engine.lastReceipt settlement.orderId with
  | none =>
      rcases @hasOutcome_setEscrow settlement.orderId engine
          i escrow escrow' (.error "receipt stub not found")
          hLookup hKey with
        ⟨outcome, hAt, hAnswer⟩
      refine ⟨outcome, hAt, ?_⟩
      intro engine' hAgrees
      refine Eq.trans ?_ (hAnswer engine' hAgrees)
      unfold CoreProverEngine.settle
      simp only [hAgrees.lastReceipt.trans hReceipt]
  | some p =>
      have hThere :=
        CoreProverEngine.getElem?_of_lastReceipt hReceipt
      have hSession :=
        CoreProverEngine.sessionId_of_lastReceipt hReceipt
      have hFinal :=
        ReceiptMetadata.finalize_sessionId engine.now escrow'
          settlement.refunded p.2
      refine ⟨{ result := .ok (.amount amount)
                records := .replaced i escrow'
                receipts :=
                  .replaced p.1
                    (p.2.finalize engine.now escrow'
                      settlement.refunded) }, ?_, ?_⟩
      · exact
          { inPlace := trivial
            records := records_at hLookup hKey
            receipts :=
              .replaced hThere hSession
                (hFinal.trans hSession) }
      · intro engine' hAgrees
        unfold CoreProverEngine.settle
        simp only [hAgrees.lastReceipt.trans hReceipt,
          hAgrees.now]
        rfl

end Engine

end BorderController

namespace BorderController

namespace Engine

variable [Chrono]
variable {op : Op}
variable {orderId : OrderId}

/- A call gives an answer, which has one outcome. -/
private theorem outcome_of_exec
    {engine : CoreProverEngine}
    {answer :
      CoreProverEngine →
        Except String Reply × CoreProverEngine}
    (hOutcome : HasOutcome orderId engine answer)
    (hExec :
      ∀ engine',
        engine.Agrees orderId engine' →
        exec op engine' = some (answer engine')) :
    ∃ outcome : Outcome,
      outcome.At orderId engine ∧
        ∀ engine',
          engine.Agrees orderId engine' →
          exec op engine' =
            some (outcome.result, outcome.apply engine') := by
  rcases hOutcome with ⟨outcome, hAt, hAnswer⟩
  refine ⟨outcome, hAt, ?_⟩
  intro engine' hAgrees
  rw [hExec engine' hAgrees, hAnswer engine' hAgrees]

private theorem outcome_of_settlement
    {engine : CoreProverEngine}
    {settlement : Settlement}
    (hSettle : op.settlement engine = some settlement) :
    ∃ outcome : Outcome,
      outcome.At settlement.orderId engine ∧
        ∀ engine',
          engine.Agrees settlement.orderId engine' →
          exec op engine' =
            some (outcome.result, outcome.apply engine') := by
  refine outcome_of_exec
    (hasOutcome_borrow settlement.block
      (fun engine' i amount escrow' =>
        engine'.settle settlement i amount escrow') ?_)
    fun engine' hAgrees =>
      exec_settlement ((hAgrees.settlement op).trans hSettle)
  intro i amount escrow escrow' hLookup hBlock
  apply hasOutcome_settle hLookup
  exact Settlement.orderId_of_block hSettle hBlock

/-
  A call that addresses an order has one outcome, in all
  engines that agree on the order.
-/
theorem exec_outcome
    (hOrder : op.orderId? = some orderId)
    (engine : CoreProverEngine) :
    ∃ outcome : Outcome,
      outcome.At orderId engine ∧
        ∀ engine',
          engine.Agrees orderId engine' →
          exec op engine' =
            some (outcome.result, outcome.apply engine') := by
  cases op with
  | buyerCommit buyer seller amount profile chain txid =>
      contradiction
  | advanceTime secs => contradiction
  | sellerAccept orderId txid =>
      cases hOrder
      refine outcome_of_exec
        (hasOutcome_borrow
          (Escrow.sellerAccept engine.now engine.chainId txid)
          (fun engine' i _ escrow' =>
            (.ok .done, engine'.setEscrow i escrow')) ?_)
        fun engine' hAgrees => ?_
      · intro i _ escrow escrow' hLookup hBlock
        apply hasOutcome_setEscrow hLookup
        rw [(Escrow.sellerAccept_ok_iff.mp hBlock).2.2.2]
      · rw [exec_sellerAccept, hAgrees.now, hAgrees.chainId]
  | sellerFulfill orderId txid =>
      cases hOrder
      refine outcome_of_exec
        (hasOutcome_borrow
          (Escrow.sellerFulfill engine.now txid)
          (fun engine' i late escrow' =>
            (.ok .done,
              { engine'.setEscrow i escrow' with
                receipts :=
                  engine'.receipts ++
                    [escrow'.receiptStub engine.now
                      late] })) ?_)
        fun engine' hAgrees => ?_
      · intro i late escrow escrow' hLookup hBlock
        apply hasOutcome_issue hLookup _ rfl
        rw [(Escrow.sellerFulfill_ok_iff.mp hBlock).2.2.2]
      · rw [exec_sellerFulfill, hAgrees.now]
  | buyerWithdraw orderId txid =>
      cases hOrder
      refine outcome_of_exec
        (hasOutcome_borrow
          (Escrow.buyerWithdraw engine.now txid)
          (fun engine' i amount escrow' =>
            (.ok (.amount amount),
              engine'.setEscrow i escrow')) ?_)
        fun engine' hAgrees => ?_
      · intro i amount escrow escrow' hLookup hBlock
        apply hasOutcome_setEscrow hLookup
        rw [(Escrow.buyerWithdraw_ok_iff.mp hBlock).2.2]
      · rw [exec_buyerWithdraw, hAgrees.now]
  | updateState orderId =>
      cases hOrder
      refine outcome_of_exec
        (hasOutcome_borrow
          (fun escrow =>
            .ok ((), escrow.updateState engine.now))
          (fun engine' i _ escrow' =>
            (.ok .done, engine'.setEscrow i escrow')) ?_)
        fun engine' hAgrees => ?_
      · intro i _ escrow escrow' hLookup hBlock
        cases hBlock
        apply hasOutcome_setEscrow hLookup
        rw [Escrow.updateState_eq]
        split <;> rfl
      · rw [exec_updateState, hAgrees.now]
  | sellerClaim orderId txid =>
      cases hOrder
      have hSettle :
          (Op.sellerClaim orderId txid).settlement engine =
            some _ := rfl
      exact outcome_of_settlement hSettle
  | sellerRefund orderId txid =>
      cases hOrder
      have hSettle :
          (Op.sellerRefund orderId txid).settlement engine =
            some _ := rfl
      exact outcome_of_settlement hSettle
  | timedRelease orderId =>
      cases hOrder
      have hSettle :
          (Op.timedRelease orderId).settlement engine =
            some _ := rfl
      exact outcome_of_settlement hSettle

end Engine

end BorderController

------------------------------------------------------------
-- Calls on Different Orders
------------------------------------------------------------

namespace BorderController

namespace Engine

/- The same records, and for every order the same receipts. -/
structure SameOrders
    (engine engine' : CoreProverEngine) :
    Prop where
  escrows : engine'.escrows = engine.escrows
  receipts :
    ∀ orderId,
      engine'.receiptsOf orderId = engine.receiptsOf orderId

/- Every record and receipt of another order is as it was. -/
structure LeavesOthers
    (orderId : OrderId)
    (engine engine' : CoreProverEngine) :
    Prop where
  escrows :
    ∀ (i : Nat) (escrow : Escrow),
      escrow.orderId ≠ orderId →
      (engine'.escrows[i]? = some escrow ↔
        engine.escrows[i]? = some escrow)
  receipts :
    ∀ (i : Nat) (receipt : ReceiptMetadata),
      receipt.sessionId ≠ orderId →
      (engine'.receipts[i]? = some receipt ↔
        engine.receipts[i]? = some receipt)

variable [Chrono]

/-
  One call after the other, in either order: both return the
  same and leave the same orders.
-/
def CommutesAt
    (op op' : Op)
    (engine : CoreProverEngine) :
    Prop :=
  ∃ result result' first first' both both',
    exec op engine = some (result, first) ∧
      exec op' first = some (result', both) ∧
      exec op' engine = some (result', first') ∧
      exec op first' = some (result, both') ∧
      SameOrders both both'

variable {op op' : Op}
variable {orderId orderId' : OrderId}
variable {engine engine' : CoreProverEngine}
variable {result : Except String Reply}

theorem exec_leavesOthers
    (hOrder : op.orderId? = some orderId)
    (hExec : exec op engine = some (result, engine')) :
    LeavesOthers orderId engine engine' := by
  rcases exec_outcome hOrder engine with
    ⟨outcome, hAt, hOutcome⟩
  rw [hOutcome engine (.refl _ _)] at hExec
  cases hExec
  exact
    { escrows := fun i escrow hOther =>
        hAt.records.getElem?_apply hOther
      receipts := fun i receipt hOther =>
        hAt.receipts.getElem?_apply hOther }

theorem exec_commutesAt
    (hOrder : op.orderId? = some orderId)
    (hOrder' : op'.orderId? = some orderId')
    (hNe : orderId ≠ orderId') :
    CommutesAt op op' engine := by
  rcases exec_outcome hOrder engine with
    ⟨outcome, hAt, hOutcome⟩
  rcases exec_outcome hOrder' engine with
    ⟨outcome', hAt', hOutcome'⟩
  refine ⟨_, _, _, _, _, _, hOutcome engine (.refl _ _),
    hOutcome' _ (hAt.agrees hNe), hOutcome' engine (.refl _ _),
    hOutcome _ (hAt'.agrees hNe.symm), ?_⟩
  exact
    { escrows :=
        (hAt.records.apply_comm hAt'.records hNe
          hAt.inPlace).symm
      receipts := fun other =>
        (hAt.receipts.withKey_comm hAt'.receipts hNe
          other).symm }

/-
  Any two calls that address different orders commute, in any
  engine, and leave every other order alone.
-/
theorem orders_commute
    (engine : CoreProverEngine)
    (hOrder : op.orderId? = some orderId)
    (hOrder' : op'.orderId? = some orderId')
    (hNe : orderId ≠ orderId') :
    CommutesAt op op' engine ∧
      (∀ result engine',
        exec op engine = some (result, engine') →
        LeavesOthers orderId engine engine') ∧
      ∀ result engine',
        exec op' engine = some (result, engine') →
        LeavesOthers orderId' engine engine' :=
  ⟨exec_commutesAt hOrder hOrder' hNe,
    fun _ _ => exec_leavesOthers hOrder,
    fun _ _ => exec_leavesOthers hOrder'⟩

end Engine

end BorderController

------------------------------------------------------------
-- Two Orders at Once
------------------------------------------------------------

namespace BorderController

namespace Engine

local instance commuteChrono : Chrono := utcChrono

/- Two orders, of which the first is accepted. -/
def twoOrders : List Op :=
  [ .buyerCommit "buyer" "seller" 25 .pizzaDelivery 1 "0x1",
    .buyerCommit "buyer" "seller" 30 .pizzaDelivery 1 "0x2",
    .sellerAccept (orderIdOf 1) "0x3" ]

/- One order is fulfilled while the other is accepted. -/
theorem orders_commute_fulfill_accept :
    CommutesAt (.sellerFulfill (orderIdOf 1) "0x4")
      (.sellerAccept (orderIdOf 2) "0x5")
      (play twoOrders (.new 1 12 0)).2 :=
  (orders_commute (play twoOrders (.new 1 12 0)).2 rfl rfl
    (by decide)).1

end Engine

end BorderController

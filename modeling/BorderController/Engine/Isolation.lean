import BorderController.Engine.Commute
import BorderController.Library.Isolation

/-
  Whoever deals with one order sees an engine of its own.

  The engine cut down to one order, with the clock, answers the
  calls on that order as the whole engine does, and no call on
  another order can be seen in it.

  Key definitions include:
    * `CoreProverEngine.only`
    * `Op.concerns`
    * `machine`

  Key theorems include:
    * `exec_only`
    * `exec_only_of_other`
    * `isolated`
    * `order_isolated`
-/

------------------------------------------------------------
-- The Engine of One Order
------------------------------------------------------------

namespace BorderController

namespace Engine

namespace CoreProverEngine

/- The record that the id addresses, and its receipts. -/
def only
    (orderId : OrderId)
    (engine : CoreProverEngine) :
    CoreProverEngine :=
  { engine with
    escrows := ((engine.lookup orderId).map Prod.snd).toList
    receipts := engine.receiptsOf orderId
    nextSessionCounter := 0 }

variable {orderId : OrderId}
variable {engine : CoreProverEngine}
variable {i : Nat}
variable {escrow escrow' : Escrow}

@[simp] theorem only_now [Chrono] :
    (engine.only orderId).now = engine.now := rfl

/- The record of the order is the first of its engine. -/
theorem lookup_only
    (hLookup : engine.lookup orderId = some (i, escrow)) :
    (engine.only orderId).lookup orderId =
      some (0, escrow) := by
  have hKey := orderId_of_lookup hLookup
  unfold only lookup at *
  rw [hLookup]
  simp [KeyedList.firstMatch, hKey]

theorem only_setEscrow
    (hLookup : engine.lookup orderId = some (i, escrow))
    (hKey : escrow'.orderId = escrow.orderId) :
    (engine.setEscrow i escrow').only orderId =
      (engine.only orderId).setEscrow 0 escrow' := by
  have hAfter := lookup_setEscrow_self hLookup hKey
  unfold only
  rw [hAfter, hLookup]
  rfl

theorem only_withReceipts
    (receipts : List ReceiptMetadata) :
    CoreProverEngine.only orderId { engine with receipts } =
      { engine.only orderId with
        receipts :=
          KeyedList.withKey ReceiptMetadata.sessionId orderId
            receipts } := rfl

/- `get_escrow` finds the order in its own engine. -/
@[simp] theorem getEscrow_only :
    (engine.only orderId).getEscrow orderId =
      engine.getEscrow orderId := by
  cases hLookup : engine.lookup orderId with
  | none =>
      rw [getEscrow_eq _ engine, hLookup]
      unfold only
      rw [hLookup]
      rfl
  | some p =>
      rw [getEscrow_eq, getEscrow_eq, lookup_only hLookup,
        hLookup]

@[simp] theorem receiptsOf_only :
    (engine.only orderId).receiptsOf orderId =
      engine.receiptsOf orderId := by
  simp [only, receiptsOf, KeyedList.withKey]

end CoreProverEngine

end Engine

end BorderController

------------------------------------------------------------
-- Calls on the Order
------------------------------------------------------------

namespace BorderController

namespace Engine

variable {orderId : OrderId}
variable {engine : CoreProverEngine}

/-
  A borrow in the order's engine does what it does in the whole
  one, if what comes of its block does.
-/
private theorem borrow_only
    {α : Type}
    {p : Nat × Escrow}
    {block : Escrow → Except String (α × Escrow)}
    {done done' :
      Nat → α → Escrow →
        Except String Reply × CoreProverEngine}
    (hLookup : engine.lookup orderId = some p)
    (hDone :
      ∀ {i a escrow escrow'},
        engine.lookup orderId = some (i, escrow) →
        block escrow = .ok (a, escrow') →
        done' 0 a escrow' =
          ((done i a escrow').1,
            (done i a escrow').2.only orderId)) :
    (engine.only orderId).borrow orderId block done' =
      ((engine.borrow orderId block done).1,
        (engine.borrow orderId block done).2.only
          orderId) := by
  have hOnly := CoreProverEngine.lookup_only hLookup
  cases hBlock : block p.2 with
  | error message =>
      rw [borrow_of_error hLookup hBlock,
        borrow_of_error hOnly hBlock]
  | ok q =>
      rw [borrow_of_ok hLookup hBlock,
        borrow_of_ok hOnly hBlock]
      exact hDone hLookup hBlock

variable [Chrono]
variable {op : Op}

/- The receipt of a settlement is found from the back. -/
private theorem settle_only
    {settlement : Settlement}
    {i : Nat}
    {amount : UInt64}
    {escrow escrow' : Escrow}
    (hLookup :
      engine.lookup settlement.orderId = some (i, escrow))
    (hKey : escrow'.orderId = escrow.orderId) :
    (engine.only settlement.orderId).settle settlement 0
        amount escrow' =
      ((engine.settle settlement i amount escrow').1,
        (engine.settle settlement i amount escrow').2.only
          settlement.orderId) := by
  have hRecord :=
    CoreProverEngine.only_setEscrow hLookup hKey
  cases hReceipt :
      engine.lastReceipt settlement.orderId with
  | none =>
      have hNil :
          engine.receiptsOf settlement.orderId = [] :=
        KeyedList.withKey_eq_nil_iff.mpr hReceipt
      have hNone :
          (engine.only settlement.orderId).lastReceipt
            settlement.orderId = none := by
        unfold CoreProverEngine.lastReceipt
          CoreProverEngine.only
        rw [hNil]
        rfl
      unfold CoreProverEngine.settle
      simp only [hReceipt, hNone, hRecord]
  | some q =>
      have hSession :=
        CoreProverEngine.sessionId_of_lastReceipt hReceipt
      have hFinal :=
        (ReceiptMetadata.finalize_sessionId engine.now escrow'
          settlement.refunded q.2).trans hSession
      rcases KeyedList.exists_withKey_of_lastMatch hReceipt
          hFinal with
        ⟨front, hBefore, hAfter⟩
      have hLast :
          (engine.only settlement.orderId).lastReceipt
              settlement.orderId =
            some (front.length, q.2) := by
        unfold CoreProverEngine.lastReceipt
          CoreProverEngine.only CoreProverEngine.receiptsOf
        rw [hBefore]
        exact KeyedList.lastMatch_append_self front hSession
      have hHere :
          (engine.receiptsOf settlement.orderId).set
              front.length
              (q.2.finalize engine.now escrow'
                settlement.refunded) =
            KeyedList.withKey ReceiptMetadata.sessionId
              settlement.orderId
              (engine.receipts.set q.1
                (q.2.finalize engine.now escrow'
                  settlement.refunded)) := by
        unfold CoreProverEngine.receiptsOf
        rw [hBefore, hAfter]
        simp
      unfold CoreProverEngine.settle
      simp only [hReceipt, hLast,
        CoreProverEngine.only_withReceipts, hRecord, ← hHere]
      rfl

private theorem exec_only_of_settlement
    {settlement : Settlement}
    {p : Nat × Escrow}
    (hSettle : op.settlement engine = some settlement)
    (hOnly :
      op.settlement (engine.only settlement.orderId) =
        some settlement)
    (hLookup : engine.lookup settlement.orderId = some p) :
    exec op (engine.only settlement.orderId) =
      (exec op engine).map fun answer =>
        (answer.1, answer.2.only settlement.orderId) := by
  rw [exec_settlement hSettle, exec_settlement hOnly]
  refine congrArg some (borrow_only hLookup ?_)
  intro i amount escrow escrow' hFound hBlock
  exact settle_only hFound
    (Settlement.orderId_of_block hSettle hBlock)

/- The engine of the order answers as the whole engine does. -/
theorem exec_only
    {p : Nat × Escrow}
    (hOrder : op.orderId? = some orderId)
    (hLookup : engine.lookup orderId = some p) :
    exec op (engine.only orderId) =
      (exec op engine).map fun answer =>
        (answer.1, answer.2.only orderId) := by
  cases op with
  | buyerCommit buyer seller amount profile chain txid =>
      contradiction
  | advanceTime secs => contradiction
  | sellerAccept orderId txid =>
      cases hOrder
      rw [exec_sellerAccept, exec_sellerAccept]
      refine congrArg some (borrow_only hLookup ?_)
      intro i _ escrow escrow' hFound hBlock
      have hKey := congrArg Escrow.orderId
        (Escrow.sellerAccept_ok_iff.mp hBlock).2.2.2
      rw [CoreProverEngine.only_setEscrow hFound hKey]
  | sellerFulfill orderId txid =>
      cases hOrder
      rw [exec_sellerFulfill, exec_sellerFulfill]
      refine congrArg some (borrow_only hLookup ?_)
      intro i late escrow escrow' hFound hBlock
      have hKey : escrow'.orderId = escrow.orderId := by
        rw [(Escrow.sellerFulfill_ok_iff.mp hBlock).2.2.2]
      have hStub :
          (escrow'.receiptStub engine.now late).sessionId =
            orderId :=
        hKey.trans (CoreProverEngine.orderId_of_lookup hFound)
      have hReceipts :
          KeyedList.withKey ReceiptMetadata.sessionId orderId
              (engine.receipts ++
                [escrow'.receiptStub engine.now late]) =
            engine.receiptsOf orderId ++
              [escrow'.receiptStub engine.now late] := by
        rw [KeyedList.withKey_append_singleton, if_pos hStub]
        rfl
      simp only [CoreProverEngine.only_withReceipts,
        CoreProverEngine.only_setEscrow hFound hKey,
        hReceipts]
      rfl
  | buyerWithdraw orderId txid =>
      cases hOrder
      rw [exec_buyerWithdraw, exec_buyerWithdraw]
      refine congrArg some (borrow_only hLookup ?_)
      intro i amount escrow escrow' hFound hBlock
      have hKey := congrArg Escrow.orderId
        (Escrow.buyerWithdraw_ok_iff.mp hBlock).2.2
      rw [CoreProverEngine.only_setEscrow hFound hKey]
  | updateState orderId =>
      cases hOrder
      rw [exec_updateState, exec_updateState,
        CoreProverEngine.only_now]
      refine congrArg some (borrow_only hLookup ?_)
      intro i _ escrow escrow' hFound hBlock
      cases hBlock
      have hKey :
          (escrow.updateState engine.now).orderId =
            escrow.orderId := by
        rw [Escrow.updateState_eq]
        split <;> rfl
      rw [CoreProverEngine.only_setEscrow hFound hKey]
  | sellerClaim orderId txid =>
      cases hOrder
      have hSettle :
          (Op.sellerClaim orderId txid).settlement engine =
            some _ := rfl
      exact exec_only_of_settlement hSettle rfl hLookup
  | sellerRefund orderId txid =>
      cases hOrder
      have hSettle :
          (Op.sellerRefund orderId txid).settlement engine =
            some _ := rfl
      exact exec_only_of_settlement hSettle rfl hLookup
  | timedRelease orderId =>
      cases hOrder
      have hSettle :
          (Op.timedRelease orderId).settlement engine =
            some _ := rfl
      exact exec_only_of_settlement hSettle rfl hLookup

end Engine

end BorderController

------------------------------------------------------------
-- Calls on Other Orders
------------------------------------------------------------

namespace BorderController

namespace Engine

/- The calls an order depends on: its own, and the clock's. -/
def Op.concerns (orderId : OrderId) : Op → Bool
  | .advanceTime _ => true
  | op => op.orderId? = some orderId

theorem Op.concerns_cases
    {orderId : OrderId}
    {op : Op}
    (hConcerns : op.concerns orderId = true) :
    (∃ secs, op = .advanceTime secs) ∨
      op.orderId? = some orderId := by
  cases op with
  | advanceTime secs => exact Or.inl ⟨secs, rfl⟩
  | _ => exact Or.inr (of_decide_eq_true hConcerns)

variable {orderId : OrderId}
variable {engine : CoreProverEngine}

/- The engine of the order tells the same time. -/
theorem advanceTime_only (secs : UInt64) :
    (engine.only orderId).advanceTime secs =
      (engine.advanceTime secs).map
        (CoreProverEngine.only orderId) := by
  unfold CoreProverEngine.advanceTime
  by_cases hInterval : engine.blockIntervalSecs = 0
  · have hInterval' :
        (engine.only orderId).blockIntervalSecs = 0 :=
      hInterval
    rw [if_pos hInterval, if_pos hInterval']
    rfl
  · have hInterval' :
        ¬ (engine.only orderId).blockIntervalSecs = 0 :=
      hInterval
    rw [if_neg hInterval, if_neg hInterval']
    rfl

variable [Chrono]
variable {op : Op}
variable {p : Nat × Escrow}

/- A call that does not concern the order cannot be seen. -/
theorem exec_only_of_other
    (hOther : op.concerns orderId = false)
    (hLookup : engine.lookup orderId = some p) :
    ∃ result engine',
      exec op engine = some (result, engine') ∧
        engine'.only orderId = engine.only orderId := by
  cases hOrder : op.orderId? with
  | some orderId' =>
      have hNe : orderId' ≠ orderId := by
        rintro rfl
        cases op <;> simp [Op.concerns, hOrder] at hOther
      rcases exec_outcome hOrder engine with
        ⟨outcome, hAt, hOutcome⟩
      refine ⟨_, _, hOutcome engine (.refl _ _), ?_⟩
      have hRecord := (hAt.agrees hNe).lookup
      have hReceipts := hAt.receipts.withKey_apply hNe
      unfold CoreProverEngine.only
      rw [hRecord]
      unfold CoreProverEngine.receiptsOf Outcome.apply
      rw [hReceipts]
  | none =>
      cases op with
      | buyerCommit buyer seller amount profile chain txid =>
          have hExec :=
            exec_buyerCommit engine buyer seller amount
              profile chain txid
          cases hTxid : RustString.isBlank txid with
          | true =>
              rw [hTxid] at hExec
              exact ⟨_, _, hExec, rfl⟩
          | false =>
              rw [hTxid] at hExec
              refine ⟨_, _, hExec, ?_⟩
              have hFound := hLookup
              unfold CoreProverEngine.lookup at hFound
              unfold CoreProverEngine.only
                CoreProverEngine.lookup
              simp only [hFound,
                KeyedList.firstMatch_append_of_some _ hFound]
              rfl
      | advanceTime secs => contradiction
      | _ => contradiction

end Engine

end BorderController

------------------------------------------------------------
-- Isolation of Orders
------------------------------------------------------------

namespace BorderController

namespace Engine

open Isolation (Machine Isolated)

variable [Chrono]

/- The engine as a machine that answers operations. -/
def machine :
    Machine CoreProverEngine Op (Except String Reply) where
  step := exec

/- Playing operations is running the machine. -/
theorem play_eq_run
    (ops : List Op)
    (engine : CoreProverEngine) :
    machine.run ops engine =
      ((play ops engine).1.map fun tr =>
          (tr.label.op, tr.label.result),
        (play ops engine).2) := by
  induction ops generalizing engine with
  | nil => rfl
  | cons op ops ih =>
      unfold play
      cases hExec : exec op engine with
      | none => rw [Machine.run_cons_of_none hExec]; rfl
      | some p =>
          rw [Machine.run_cons_of_some hExec, ih]
          rfl

/-
  As long as an order exists, the engine cut down to it is
  isolated from the calls on other orders.
-/
theorem isolated (orderId : OrderId) :
    Isolated machine machine (CoreProverEngine.only orderId)
      (Op.concerns orderId)
      (fun engine => (engine.lookup orderId).isSome) where
  seen := by
    intro op engine hThere hConcerns
    rcases Option.isSome_iff_exists.mp hThere with
      ⟨p, hLookup⟩
    rcases Op.concerns_cases hConcerns with
      ⟨secs, rfl⟩ | hOrder
    · change
        ((engine.only orderId).advanceTime secs).map _ =
          ((engine.advanceTime secs).map _).map _
      rw [advanceTime_only, Option.map_map, Option.map_map]
      rfl
    · exact exec_only hOrder hLookup
  unseen := by
    intro op engine hThere hOther
    rcases Option.isSome_iff_exists.mp hThere with
      ⟨p, hLookup⟩
    exact exec_only_of_other hOther hLookup
  keeps := by
    intro op engine result engine' hThere hExec
    rcases Option.isSome_iff_exists.mp hThere with
      ⟨⟨i, escrow⟩, hLookup⟩
    have hStep :
        system.Step engine ⟨op, result⟩ engine' := hExec
    rcases step_lookup hStep hLookup with
      ⟨escrow', hAfter, _⟩
    rw [hAfter]
    rfl

/- The answers to the calls that concern an order. -/
def answersFor
    (orderId : OrderId)
    (es : List (Transition CoreProverEngine Call)) :
    List (Op × Except String Reply) :=
  (es.map fun tr => (tr.label.op, tr.label.result)).filter
    fun p => p.1.concerns orderId

variable {orderId : OrderId}
variable {engine engine' : CoreProverEngine}
variable {ops ops' : List Op}

/-
  Two engines that hold an order alike answer alike whatever is
  asked about it, and go on to hold it alike, whatever is asked
  about other orders in between.
-/
theorem order_isolated
    (hThere : (engine.lookup orderId).isSome)
    (hThere' : (engine'.lookup orderId).isSome)
    (hAlike : engine.only orderId = engine'.only orderId)
    (hOps :
      ops.filter (Op.concerns orderId) =
        ops'.filter (Op.concerns orderId)) :
    answersFor orderId (play ops engine).1 =
        answersFor orderId (play ops' engine').1 ∧
      (play ops engine).2.getEscrow orderId =
        (play ops' engine').2.getEscrow orderId ∧
      (play ops engine).2.receiptsOf orderId =
        (play ops' engine').2.receiptsOf orderId ∧
      (play ops engine).2.now = (play ops' engine').2.now := by
  rcases (isolated orderId).noninterference hThere hThere'
      hAlike hOps with
    ⟨hAnswers, hView⟩
  rw [play_eq_run, play_eq_run] at hAnswers hView
  refine ⟨hAnswers, ?_, ?_, ?_⟩
  · have hRecord :=
      congrArg (CoreProverEngine.getEscrow orderId) hView
    simpa using hRecord
  · have hReceipts :=
      congrArg (CoreProverEngine.receiptsOf orderId) hView
    simpa using hReceipts
  · have hNow := congrArg CoreProverEngine.now hView
    exact hNow

end Engine

end BorderController

------------------------------------------------------------
-- An Order Among Others and Alone
------------------------------------------------------------

namespace BorderController

namespace Engine

local instance isolationChrono : Chrono := utcChrono

/- The first of two orders is delivered and claimed. -/
def busyOps : List Op :=
  [ .sellerAccept (orderIdOf 2) "0x4",
    .sellerFulfill (orderIdOf 1) "0x5",
    .buyerCommit "other" "seller" 40 .pizzaDelivery 1 "0x6",
    .advanceTime 60,
    .sellerFulfill (orderIdOf 2) "0x7",
    .sellerClaim (orderIdOf 1) "0x8" ]

/- The same with nobody else around. -/
def quietOps : List Op :=
  [ .sellerFulfill (orderIdOf 1) "0x5",
    .advanceTime 60,
    .sellerClaim (orderIdOf 1) "0x8" ]

/- The only order of an engine, accepted. -/
def oneOrder : List Op :=
  [ .buyerCommit "buyer" "seller" 25 .pizzaDelivery 1 "0x1",
    .sellerAccept (orderIdOf 1) "0x3" ]

/- Its receipts are the same as if it were the only order. -/
theorem order_isolated_claim :
    (play busyOps
        (play twoOrders (.new 1 12 0)).2).2.receiptsOf
          (orderIdOf 1) =
      (play quietOps
        (play oneOrder (.new 1 12 0)).2).2.receiptsOf
          (orderIdOf 1) :=
  (order_isolated rfl rfl rfl rfl).2.2.1

end Engine

end BorderController

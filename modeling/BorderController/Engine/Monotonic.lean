import BorderController.Engine.Isolation

/-
  Only the monotonic clock decides.

  The engine also keeps a Unix clock, its texts, a chain and a
  block height.  It writes them into its records and never reads
  them back: two engines that differ in nothing else answer
  every call alike.  The block interval alone matters, and only
  as far as it is zero or not, since to advance the time divides
  by it.

  Key definitions include:
    * `Escrow.bare`, `ReceiptMetadata.bare`
    * `CoreProverEngine.bare`

  Key theorems include:
    * `borrow_bare`
    * `exec_bare`
    * `monotonic_decides`
-/

------------------------------------------------------------
-- Records Without Unix Time and Chain
------------------------------------------------------------

namespace BorderController

namespace Engine

def Escrow.bare (escrow : Escrow) : Escrow :=
  { escrow with
    sellerChainId := 0
    sellerBlockHeight := none }

def ReceiptMetadata.bare
    (receipt : ReceiptMetadata) :
    ReceiptMetadata :=
  { receipt with
    fulfillmentUnix := 0
    fulfillmentIso := ""
    settlementUnix := 0
    settlementIso := ""
    discountExpirationUnix := 0
    sellerChainId := 0
    sellerBlockHeight := 0 }

/-
  What is left of an engine; of the block interval only whether
  `advance_time` divides by zero.
-/
def CoreProverEngine.bare
    (engine : CoreProverEngine) :
    CoreProverEngine :=
  { engine with
    escrows := engine.escrows.map Escrow.bare
    receipts := engine.receipts.map ReceiptMetadata.bare
    currentUnix := 0
    chainId := 0
    blockIntervalSecs :=
      if engine.blockIntervalSecs = 0 then 0 else 1
    currentBlockHeight := 0 }

/- An answer with what is left of the engine behind it. -/
def bareAnswer
    {ρ : Type}
    (p : Except String ρ × CoreProverEngine) :
    Except String ρ × CoreProverEngine :=
  (p.1, p.2.bare)

variable {engine : CoreProverEngine}
variable {escrow escrow' : Escrow}
variable {receipt receipt' : ReceiptMetadata}
variable {orderId : OrderId}
variable {i : Nat}

@[simp] theorem CoreProverEngine.bare_bare
    (engine : CoreProverEngine) :
    engine.bare.bare = engine.bare := by
  have hInterval :
      (if (if engine.blockIntervalSecs = 0 then (0 : UInt64)
          else 1) = 0 then (0 : UInt64) else 1) =
        if engine.blockIntervalSecs = 0 then 0 else 1 := by
    split <;> rfl
  unfold CoreProverEngine.bare
  simp only [hInterval, List.map_map]
  rfl

@[simp] theorem CoreProverEngine.map_escrows_bare :
    engine.bare.escrows.map Escrow.bare =
      engine.escrows.map Escrow.bare :=
  congrArg CoreProverEngine.escrows engine.bare_bare

@[simp] theorem CoreProverEngine.map_receipts_bare :
    engine.bare.receipts.map ReceiptMetadata.bare =
      engine.receipts.map ReceiptMetadata.bare :=
  congrArg CoreProverEngine.receipts engine.bare_bare

@[simp] theorem CoreProverEngine.lookup_bare :
    engine.bare.lookup orderId =
      (engine.lookup orderId).map fun p => (p.1, p.2.bare) :=
  KeyedList.firstMatch_map Escrow.bare (fun _ => rfl) orderId _

@[simp] theorem CoreProverEngine.lastReceipt_bare :
    engine.bare.lastReceipt orderId =
      (engine.lastReceipt orderId).map
        fun p => (p.1, p.2.bare) :=
  KeyedList.lastMatch_map ReceiptMetadata.bare (fun _ => rfl)
    orderId _

@[simp] theorem CoreProverEngine.getState_bare :
    engine.bare.getState orderId = engine.getState orderId := by
  unfold CoreProverEngine.getState
  rw [CoreProverEngine.getEscrow_eq,
    CoreProverEngine.getEscrow_eq,
    CoreProverEngine.lookup_bare]
  cases engine.lookup orderId <;> rfl

@[simp] theorem CoreProverEngine.setEscrow_bare :
    (engine.setEscrow i escrow).bare =
      engine.bare.setEscrow i escrow.bare := by
  unfold CoreProverEngine.bare CoreProverEngine.setEscrow
  simp only [List.map_set]

theorem CoreProverEngine.withEscrows_bare
    (nextSessionCounter : UInt64)
    (escrows : List Escrow) :
    CoreProverEngine.bare
        { engine with nextSessionCounter, escrows } =
      { engine.bare with
        nextSessionCounter
        escrows := escrows.map Escrow.bare } :=
  rfl

theorem CoreProverEngine.withClock_bare
    (currentMono currentUnix currentBlockHeight : UInt64) :
    CoreProverEngine.bare
        { engine with
          currentMono
          currentUnix
          currentBlockHeight } =
      { engine.bare with currentMono } :=
  rfl

theorem CoreProverEngine.withReceipts_bare
    (receipts : List ReceiptMetadata) :
    CoreProverEngine.bare { engine with receipts } =
      { engine.bare with
        receipts := receipts.map ReceiptMetadata.bare } :=
  rfl

end Engine

end BorderController

------------------------------------------------------------
-- Blocks
------------------------------------------------------------

namespace BorderController

namespace Engine

/- What a block returns, with what is left of the record. -/
def bareBlock
    {α : Type}
    (q : Except String (α × Escrow)) :
    Except String (α × Escrow) :=
  q.map fun p => (p.1, p.2.bare)

/- A check that both blocks make changes nothing. -/
theorem bareBlock_unless
    {α : Type}
    {P P' : Prop}
    [Decidable P]
    [Decidable P']
    {message : String}
    {block block' : Except String (α × Escrow)}
    (hCheck : P' ↔ P)
    (hBlock : bareBlock block' = bareBlock block) :
    bareBlock (if P' then .error message else block') =
      bareBlock (if P then .error message else block) := by
  by_cases hRefused : P
  · rw [if_pos hRefused, if_pos (hCheck.mpr hRefused)]
  · rw [if_neg hRefused, if_neg (mt hCheck.mp hRefused)]
    exact hBlock

namespace Escrow

variable {now now' : TimeTruth}
variable {chainId chainId' height height' : UInt64}
variable {escrow : Escrow}

theorem sellerAccept_bare
    (hMono : now'.mono = now.mono)
    (txid : String) :
    bareBlock (escrow.bare.sellerAccept now' chainId' txid) =
      bareBlock (escrow.sellerAccept now chainId txid) := by
  unfold sellerAccept
  rw [hMono]
  refine bareBlock_unless Iff.rfl (bareBlock_unless Iff.rfl
    (bareBlock_unless Iff.rfl rfl))

theorem isLate_bare
    (hMono : now'.mono = now.mono) :
    escrow.bare.isLate now' = escrow.isLate now := by
  unfold isLate
  rw [hMono]
  rfl

theorem sellerFulfill_bare
    (hMono : now'.mono = now.mono)
    (txid : String) :
    bareBlock (escrow.bare.sellerFulfill now' txid) =
      bareBlock (escrow.sellerFulfill now txid) := by
  unfold sellerFulfill
  rw [isLate_bare hMono, hMono]
  exact bareBlock_unless Iff.rfl (bareBlock_unless Iff.rfl rfl)

theorem sellerClaim_bare
    (hMono : now'.mono = now.mono)
    (txid : String) :
    bareBlock (escrow.bare.sellerClaim now' height' txid) =
      bareBlock (escrow.sellerClaim now height txid) := by
  unfold sellerClaim
  rw [hMono]
  exact bareBlock_unless Iff.rfl (bareBlock_unless Iff.rfl rfl)

theorem sellerRefund_bare
    (hMono : now'.mono = now.mono)
    (txid : String) :
    bareBlock (escrow.bare.sellerRefund now' height' txid) =
      bareBlock (escrow.sellerRefund now height txid) := by
  unfold sellerRefund
  rw [hMono]
  exact bareBlock_unless Iff.rfl (bareBlock_unless Iff.rfl rfl)

theorem buyerWithdraw_bare
    (hMono : now'.mono = now.mono)
    (txid : Option String) :
    bareBlock (escrow.bare.buyerWithdraw now' txid) =
      bareBlock (escrow.buyerWithdraw now txid) := by
  unfold buyerWithdraw
  rw [hMono]
  exact bareBlock_unless Iff.rfl (bareBlock_unless Iff.rfl rfl)

theorem timedRelease_bare
    (hMono : now'.mono = now.mono) :
    bareBlock (escrow.bare.timedRelease now' height') =
      bareBlock (escrow.timedRelease now height) := by
  have hElapsed :
      escrow.bare.elapsed now' = escrow.elapsed now := by
    unfold elapsed
    rw [hMono]
    rfl
  unfold timedRelease
  rw [hElapsed, hMono]
  exact bareBlock_unless Iff.rfl (bareBlock_unless Iff.rfl
    (bareBlock_unless Iff.rfl rfl))

theorem updateState_bare
    (hMono : now'.mono = now.mono) :
    (escrow.bare.updateState now').bare =
      (escrow.updateState now).bare := by
  rw [updateState_eq, updateState_eq, isLate_bare hMono]
  by_cases hExpires :
      escrow.state = .sellerAccepted ∧
        escrow.isLate now = true
  · have hExpires' :
        escrow.bare.state = .sellerAccepted ∧
          escrow.isLate now = true := hExpires
    rw [if_pos hExpires, if_pos hExpires']
    rfl
  · have hExpires' :
        ¬ (escrow.bare.state = .sellerAccepted ∧
          escrow.isLate now = true) := hExpires
    rw [if_neg hExpires, if_neg hExpires']
    rfl

end Escrow

end Engine

end BorderController

------------------------------------------------------------
-- Calls
------------------------------------------------------------

namespace BorderController

namespace Engine

variable {engine : CoreProverEngine}
variable {orderId : OrderId}

/-
  A borrow in what is left of an engine does what it does in
  the whole one, if its block and what comes of it do.
-/
theorem borrow_bare
    {α ρ : Type}
    {block block' : Escrow → Except String (α × Escrow)}
    {done done' :
      Nat → α → Escrow → Except String ρ × CoreProverEngine}
    (hBlock :
      ∀ escrow : Escrow,
        bareBlock (block' escrow.bare) =
          bareBlock (block escrow))
    (hDone :
      ∀ i a escrow escrow',
        escrow'.bare = escrow.bare →
        bareAnswer (done' i a escrow') =
          bareAnswer (done i a escrow)) :
    bareAnswer (engine.bare.borrow orderId block' done') =
      bareAnswer (engine.borrow orderId block done) := by
  cases hLookup : engine.lookup orderId with
  | none =>
      have hBare : engine.bare.lookup orderId = none := by
        rw [CoreProverEngine.lookup_bare, hLookup]
        rfl
      rw [borrow_of_none hLookup, borrow_of_none hBare]
      simp [bareAnswer]
  | some p =>
      have hBare :
          engine.bare.lookup orderId =
            some (p.1, p.2.bare) := by
        rw [CoreProverEngine.lookup_bare, hLookup]
        rfl
      have hSame := hBlock p.2
      cases hLeft : block' p.2.bare with
      | error message =>
          cases hRight : block p.2 with
          | error message' =>
              rw [hLeft, hRight] at hSame
              cases hSame
              rw [borrow_of_error hLookup hRight,
                borrow_of_error hBare hLeft]
              simp [bareAnswer]
          | ok q =>
              rw [hLeft, hRight] at hSame
              cases hSame
      | ok q' =>
          cases hRight : block p.2 with
          | error message =>
              rw [hLeft, hRight] at hSame
              cases hSame
          | ok q =>
              rw [hLeft, hRight] at hSame
              rcases Prod.mk.inj (Except.ok.inj hSame) with
                ⟨hValue, hRecord⟩
              rw [borrow_of_ok hLookup hRight,
                borrow_of_ok hBare hLeft, hValue]
              exact hDone _ _ _ _ hRecord

/- Nothing comes of the block but that the record is written. -/
private theorem answer_setEscrow
    {ρ : Type}
    {escrow escrow' : Escrow}
    (i : Nat)
    (result : Except String ρ)
    (hEscrow : escrow'.bare = escrow.bare) :
    bareAnswer (result, engine.bare.setEscrow i escrow') =
      bareAnswer (result, engine.setEscrow i escrow) := by
  unfold bareAnswer
  simp only [CoreProverEngine.setEscrow_bare,
    CoreProverEngine.bare_bare, hEscrow]

variable {now now' : TimeTruth}
variable {escrow escrow' : Escrow}

/- A stub depends on what is left of its record. -/
theorem receiptStub_bare
    (hMono : now'.mono = now.mono)
    (hEscrow : escrow'.bare = escrow.bare)
    (late : Bool) :
    (escrow'.receiptStub now' late).bare =
      (escrow.receiptStub now late).bare := by
  have hStub :
      ∀ (now : TimeTruth) (escrow : Escrow),
        (escrow.receiptStub now late).bare =
          (escrow.bare.receiptStub ⟨now.mono, 0, ""⟩
            late).bare :=
    fun _ _ => rfl
  rw [hStub now', hStub now, hMono, hEscrow]

theorem finalize_bare
    {receipt receipt' : ReceiptMetadata}
    (hMono : now'.mono = now.mono)
    (hEscrow : escrow'.bare = escrow.bare)
    (hReceipt : receipt'.bare = receipt.bare)
    (refunded : Bool) :
    (receipt'.finalize now' escrow' refunded).bare =
      (receipt.finalize now escrow refunded).bare := by
  have hFinal :
      ∀ (now : TimeTruth) (escrow : Escrow)
        (receipt : ReceiptMetadata),
        (receipt.finalize now escrow refunded).bare =
          (receipt.bare.finalize ⟨now.mono, 0, ""⟩
            escrow.bare refunded).bare := by
    intro now escrow receipt
    cases refunded <;> rfl
  rw [hFinal now', hFinal now, hMono, hEscrow, hReceipt]

variable [Chrono]

theorem CoreProverEngine.now_bare :
    engine.bare.now.mono = engine.now.mono := rfl

/- The receipt of a settlement is found and finalized alike. -/
private theorem settle_bare
    {settlement settlement' : Settlement}
    (i : Nat)
    (amount : UInt64)
    (hOrder : settlement'.orderId = settlement.orderId)
    (hRefunded : settlement'.refunded = settlement.refunded)
    (hEscrow : escrow'.bare = escrow.bare) :
    bareAnswer
        (engine.bare.settle settlement' i amount escrow') =
      bareAnswer
        (engine.settle settlement i amount escrow) := by
  unfold CoreProverEngine.settle
  rw [hOrder, CoreProverEngine.lastReceipt_bare]
  cases engine.lastReceipt settlement.orderId with
  | none => exact answer_setEscrow i _ hEscrow
  | some q =>
      have hReceipt : q.2.bare.bare = q.2.bare := rfl
      have hFinal :
          (q.2.bare.finalize engine.bare.now escrow'
              settlement'.refunded).bare =
            (q.2.finalize engine.now escrow
              settlement.refunded).bare := by
        rw [hRefunded]
        exact finalize_bare CoreProverEngine.now_bare hEscrow
          hReceipt _
      unfold bareAnswer
      simp only [Option.map_some,
        CoreProverEngine.withReceipts_bare,
        CoreProverEngine.setEscrow_bare,
        CoreProverEngine.bare_bare,
        CoreProverEngine.map_receipts_bare, List.map_set,
        hEscrow, hFinal]

private theorem exec_bare_of_settlement
    {op : Op}
    {settlement settlement' : Settlement}
    (hSettle : op.settlement engine = some settlement)
    (hSettle' :
      op.settlement engine.bare = some settlement')
    (hOrder : settlement'.orderId = settlement.orderId)
    (hRefunded : settlement'.refunded = settlement.refunded)
    (hBlock :
      ∀ escrow : Escrow,
        bareBlock (settlement'.block escrow.bare) =
          bareBlock (settlement.block escrow)) :
    (exec op engine.bare).map bareAnswer =
      (exec op engine).map bareAnswer := by
  rw [exec_settlement hSettle, exec_settlement hSettle',
    hOrder]
  refine congrArg some (borrow_bare hBlock ?_)
  intro i amount escrow escrow' hEscrow
  exact settle_bare i amount hOrder hRefunded hEscrow

/-
  Every call answers, and leaves behind, what it does on the
  engine without Unix clock and chain.
-/
theorem exec_bare
    (op : Op)
    (engine : CoreProverEngine) :
    (exec op engine.bare).map bareAnswer =
      (exec op engine).map bareAnswer := by
  have hMono := @CoreProverEngine.now_bare engine _
  cases op with
  | buyerCommit buyer seller amount profile chain txid =>
      rw [exec_buyerCommit, exec_buyerCommit]
      refine congrArg some ?_
      by_cases hTxid : RustString.isBlank txid = true
      · rw [if_pos hTxid, if_pos hTxid]
        simp [bareAnswer]
      · rw [if_neg hTxid, if_neg hTxid]
        unfold bareAnswer
        simp only [CoreProverEngine.withEscrows_bare,
          CoreProverEngine.bare_bare,
          CoreProverEngine.map_escrows_bare, List.map_append]
        rfl
  | advanceTime secs =>
      unfold exec CoreProverEngine.advanceTime
      by_cases hInterval : engine.blockIntervalSecs = 0
      · have hInterval' : engine.bare.blockIntervalSecs = 0 :=
          if_pos hInterval
        simp only [if_pos hInterval, if_pos hInterval',
          Option.map_none]
      · have hOne : engine.bare.blockIntervalSecs = 1 :=
          if_neg hInterval
        have hInterval' :
            ¬ engine.bare.blockIntervalSecs = 0 := by
          rw [hOne]
          decide
        simp only [if_neg hInterval, if_neg hInterval',
          Option.map_some]
        unfold bareAnswer
        simp only [CoreProverEngine.withClock_bare,
          CoreProverEngine.bare_bare]
        rfl
  | sellerAccept orderId txid =>
      rw [exec_sellerAccept, exec_sellerAccept]
      refine congrArg some (borrow_bare
        (fun escrow => Escrow.sellerAccept_bare hMono txid) ?_)
      intro i _ escrow escrow' hEscrow
      exact answer_setEscrow i _ hEscrow
  | sellerFulfill orderId txid =>
      rw [exec_sellerFulfill, exec_sellerFulfill]
      refine congrArg some (borrow_bare
        (fun escrow => Escrow.sellerFulfill_bare hMono txid)
        ?_)
      intro i late escrow escrow' hEscrow
      have hStub := receiptStub_bare hMono hEscrow late
      unfold bareAnswer
      simp only [CoreProverEngine.withReceipts_bare,
        CoreProverEngine.setEscrow_bare,
        CoreProverEngine.bare_bare,
        CoreProverEngine.map_receipts_bare, List.map_append,
        List.map_cons, List.map_nil, hEscrow, hStub]
  | buyerWithdraw orderId txid =>
      rw [exec_buyerWithdraw, exec_buyerWithdraw]
      refine congrArg some (borrow_bare
        (fun escrow => Escrow.buyerWithdraw_bare hMono txid)
        ?_)
      intro i amount escrow escrow' hEscrow
      exact answer_setEscrow i _ hEscrow
  | updateState orderId =>
      rw [exec_updateState, exec_updateState]
      refine congrArg some (borrow_bare ?_ ?_)
      · intro escrow
        have hRecord := @Escrow.updateState_bare
          engine.now engine.bare.now escrow hMono
        simp only [bareBlock, Except.map, hRecord]
      · intro i _ escrow escrow' hEscrow
        exact answer_setEscrow i _ hEscrow
  | sellerClaim orderId txid =>
      exact @exec_bare_of_settlement engine _ _ _ _ rfl rfl rfl
        rfl fun escrow => Escrow.sellerClaim_bare hMono txid
  | sellerRefund orderId txid =>
      exact @exec_bare_of_settlement engine _ _ _ _ rfl rfl rfl
        rfl fun escrow => Escrow.sellerRefund_bare hMono txid
  | timedRelease orderId =>
      exact @exec_bare_of_settlement engine _ _ _ _ rfl rfl rfl
        rfl fun escrow => Escrow.timedRelease_bare hMono

end Engine

end BorderController

------------------------------------------------------------
-- Runs
------------------------------------------------------------

namespace BorderController

namespace Engine

open Isolation (Machine Isolated)

variable [Chrono]

/- The engine that forgets Unix time and chain at every step. -/
def bareMachine :
    Machine CoreProverEngine Op (Except String Reply) where
  step op engine := (exec op engine).map bareAnswer

/- All that is left of an engine is a machine of its own. -/
theorem bare_isolated :
    Isolated machine bareMachine CoreProverEngine.bare
      (fun _ => true) (fun _ => True) where
  seen := by
    intro op engine _ _
    exact exec_bare op engine
  unseen := by
    intro op engine _ hUnseen
    contradiction
  keeps := by
    intros
    trivial

variable {engine engine' : CoreProverEngine}

/-
  Two engines that differ in Unix time, chain, height and the
  length of a block only (of both or of neither it is zero)
  answer all calls alike, whatever calls those are, and hold
  every order in the same state ever after.
-/
theorem monotonic_decides
    (hAlike : engine.bare = engine'.bare)
    (ops : List Op) :
    ((play ops engine).1.map fun tr =>
          (tr.label.op, tr.label.result)) =
        (play ops engine').1.map (fun tr =>
          (tr.label.op, tr.label.result)) ∧
      (play ops engine).2.bare = (play ops engine').2.bare ∧
      ∀ orderId,
        (play ops engine).2.getState orderId =
          (play ops engine').2.getState orderId := by
  rcases bare_isolated.noninterference trivial trivial hAlike
      (rfl : ops.filter (fun _ => true) = _) with
    ⟨hAnswers, hBare⟩
  rw [play_eq_run, play_eq_run] at hAnswers hBare
  simp only [List.filter_true] at hAnswers
  refine ⟨hAnswers, hBare, ?_⟩
  intro orderId
  have hState :=
    congrArg (CoreProverEngine.getState orderId) hBare
  simpa using hState

end Engine

end BorderController

------------------------------------------------------------
-- One Course of Events on Two Chains
------------------------------------------------------------

namespace BorderController

namespace Engine

local instance monotonicChrono : Chrono := utcChrono

/- An overdue order is delivered and refunded. -/
def lateRefundOps : List Op :=
  overdueOps ++
    [ .sellerFulfill (orderIdOf 1) "0x3",
      .sellerRefund (orderIdOf 1) "0x4" ]

/- The order is refunded on either chain, in any year. -/
theorem monotonic_decides_refund :
    (play lateRefundOps (.new 1 12 0)).2.getState
        (orderIdOf 1) =
      (play lateRefundOps (.new 369 10 1731600000)).2.getState
        (orderIdOf 1) :=
  (monotonic_decides rfl lateRefundOps).2.2 (orderIdOf 1)

end Engine

end BorderController

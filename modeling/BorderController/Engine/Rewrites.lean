import BorderController.Engine.Receipts

/-
  A receipt is issued once and written into at most once, by
  the settlement of its order.

  Key definitions include:
    * `ReceiptMetadata.asIssued`
    * `Rewrites`

  Key theorems include:
    * `step_receipt`
    * `receipt_written_once`
-/

------------------------------------------------------------
-- Receipts Along a Step
------------------------------------------------------------

namespace BorderController

namespace Engine

/- The receipt with its settlement part blank, as in a stub. -/
def ReceiptMetadata.asIssued
    (receipt : ReceiptMetadata) :
    ReceiptMetadata :=
  { receipt with
    settlementMono := 0
    settlementUnix := 0
    settlementIso := ""
    sellerClaimTxid := none
    sellerRefundTxid := none
    sellerBlockHeight := 0 }

/- A settlement writes nothing but its own part. -/
@[simp] theorem ReceiptMetadata.asIssued_finalize
    (now : TimeTruth)
    (escrow : Escrow)
    (refunded : Bool)
    (receipt : ReceiptMetadata) :
    (receipt.finalize now escrow refunded).asIssued =
      receipt.asIssued := by
  cases refunded <;> rfl

/- The call changes the receipt that is at position `i`. -/
def Rewrites
    (i : Nat)
    (tr : Transition CoreProverEngine Call) :
    Bool :=
  tr.source.receipts[i]?.isSome &&
    tr.target.receipts[i]? ≠ tr.source.receipts[i]?

variable [Chrono]
variable {engine engine' : CoreProverEngine}
variable {call : Call}
variable {i : Nat}
variable {receipt : ReceiptMetadata}

/-
  A receipt stays where it is, and only the settlement of its
  order writes into it.
-/
theorem step_receipt
    (hStep : system.Step engine call engine')
    (hGet : engine.receipts[i]? = some receipt) :
    engine'.receipts[i]? = some receipt ∨
      ∃ settlement j amount escrow escrow',
        call.op.settlement engine = some settlement ∧
          call.result = .ok (.amount amount) ∧
          receipt.sessionId = settlement.orderId ∧
          engine.lookup settlement.orderId =
            some (j, escrow) ∧
          settlement.block escrow = .ok (amount, escrow') ∧
          engine'.lookup settlement.orderId =
            some (j, escrow') ∧
          engine'.receipts[i]? =
            some
              (receipt.finalize engine.now escrow'
                settlement.refunded) := by
  rcases call with ⟨op, result⟩
  have hBound := (List.getElem?_eq_some_iff.mp hGet).1
  cases step_effect hStep with
  | fulfilled hLookup hBlock =>
      refine Or.inl ?_
      change (engine.receipts ++ [_])[i]? = some receipt
      rw [List.getElem?_append_left hBound, hGet]
  | @settled _ settlement j idx amount escrow escrow' last
      hSettle hLookup hBlock hReceipt =>
      have hThere :=
        CoreProverEngine.getElem?_of_lastReceipt hReceipt
      by_cases hIndex : idx = i
      · subst hIndex
        rw [hGet] at hThere
        cases hThere
        refine Or.inr ⟨settlement, j, amount, escrow, escrow',
          hSettle, rfl,
          CoreProverEngine.sessionId_of_lastReceipt hReceipt,
          hLookup, hBlock, ?_, List.getElem?_set_self hBound⟩
        exact CoreProverEngine.lookup_setEscrow_self hLookup
          (Settlement.orderId_of_block hSettle hBlock)
      · refine Or.inl ?_
        change (engine.receipts.set idx _)[i]? = some receipt
        rw [List.getElem?_set_ne hIndex, hGet]
  | advanced hAdvance =>
      rw [(advanceTime_spec hAdvance).2.1]
      exact Or.inl hGet
  | _ => exact Or.inl hGet

end Engine

end BorderController

------------------------------------------------------------
-- Receipts Along a Path
------------------------------------------------------------

namespace BorderController

namespace Engine

variable [Chrono]
variable {es : List (Transition CoreProverEngine Call)}
variable {engine engine' : CoreProverEngine}
variable {call : Call}
variable {i : Nat}
variable {receipt : ReceiptMetadata}

/- The receipt is on record, for an order that is settled. -/
def CoreProverEngine.Closed
    (i : Nat)
    (engine : CoreProverEngine) :
    Prop :=
  ∃ receipt j escrow,
    engine.receipts[i]? = some receipt ∧
      engine.lookup receipt.sessionId = some (j, escrow) ∧
      escrow.state.isTerminal = true

omit [Chrono] in
theorem rewrites_eq_true_iff
    {tr : Transition CoreProverEngine Call} :
    Rewrites i tr = true ↔
      (∃ receipt, tr.source.receipts[i]? = some receipt) ∧
        tr.target.receipts[i]? ≠ tr.source.receipts[i]? := by
  simp [Rewrites, Option.isSome_iff_exists]

/- The receipt of a settled order is not written into again. -/
theorem step_closed
    (hStep : system.Step engine call engine')
    (hClosed : engine.Closed i) :
    engine'.Closed i ∧
      ¬ Rewrites i ⟨engine, call, engine'⟩ = true := by
  rcases hClosed with
    ⟨receipt, j, escrow, hGet, hLookup, hTerminal⟩
  rcases step_receipt hStep hGet with
    hSame | ⟨settlement, k, amount, before, after, hSettle, _,
      hSession, hLookup', hBlock, _, _⟩
  · rcases step_lookup hStep hLookup with
      ⟨escrow', hAfter, hCase⟩
    have hEq : escrow' = escrow := by
      rcases hCase with hKept | ⟨_, hChange⟩
      · exact hKept
      · exact hChange.eq_of_isTerminal hTerminal
    subst hEq
    refine ⟨⟨receipt, j, escrow', hSame, hAfter, hTerminal⟩, ?_⟩
    intro hRewrites
    exact (rewrites_eq_true_iff.mp hRewrites).2
      (hSame.trans hGet.symm)
  · -- A settlement needs a claimable record.
    rw [← hSession, hLookup] at hLookup'
    cases hLookup'
    have hClaimable := (Settlement.block_ok hSettle hBlock).1
    rw [EscrowState.isTerminal_of_isClaimable hClaimable]
      at hTerminal
    contradiction

/- Writing into a receipt settles its order, and closes it. -/
theorem step_rewrites
    (hStep : system.Step engine call engine')
    (hRewrites : Rewrites i ⟨engine, call, engine'⟩ = true) :
    engine'.Closed i ∧
      ∃ receipt settlement amount,
        engine.receipts[i]? = some receipt ∧
          call.op.settlement engine = some settlement ∧
          settlement.orderId = receipt.sessionId ∧
          call.result = .ok (.amount amount) := by
  rcases rewrites_eq_true_iff.mp hRewrites with
    ⟨⟨receipt, hGet⟩, hDiffers⟩
  rcases step_receipt hStep hGet with
    hSame | ⟨settlement, j, amount, escrow, escrow', hSettle,
      hResult, hSession, _, hBlock, hAfter, hReceipt⟩
  · exact absurd (hSame.trans hGet.symm) hDiffers
  · refine ⟨⟨_, j, escrow', hReceipt, ?_, ?_⟩, receipt,
      settlement, amount, hGet, hSettle, hSession.symm,
      hResult⟩
    · rw [ReceiptMetadata.finalize_sessionId, hSession]
      exact hAfter
    · rcases Settlement.block_ok hSettle hBlock with
        ⟨_, _, txid, hEq⟩
      rw [hEq, Escrow.settle_state]
      cases settlement.refunded <;> rfl

/-
  What a receipt said when it was issued, it says for good, and
  it says no more unless some call writes into it.
-/
theorem path_receipt
    (hPath : system.Path engine es engine')
    (hGet : engine.receipts[i]? = some receipt) :
    ∃ receipt',
      engine'.receipts[i]? = some receipt' ∧
        receipt'.asIssued = receipt.asIssued ∧
        (es.countP (Rewrites i) = 0 → receipt' = receipt) := by
  induction hPath generalizing receipt with
  | nil engine => exact ⟨receipt, hGet, rfl, fun _ => rfl⟩
  | @cons engine next engine' call es hStep _ ih =>
      rcases step_receipt hStep hGet with
        hKept | ⟨_, _, _, _, escrow', _, _, _, _, _, _, hNow⟩
      · rcases ih hKept with
          ⟨receipt', hAfter, hIssued, hNone⟩
        refine ⟨receipt', hAfter, hIssued, ?_⟩
        intro hCount
        apply hNone
        rw [List.countP_cons] at hCount
        omega
      · rcases ih hNow with
          ⟨receipt', hAfter, hIssued, hNone⟩
        rw [ReceiptMetadata.asIssued_finalize] at hIssued
        refine ⟨receipt', hAfter, hIssued, ?_⟩
        intro hCount
        rw [List.countP_cons] at hCount
        rw [hNone (by omega)]
        by_contra hDiffers
        have hRewrites :
            Rewrites i ⟨engine, call, next⟩ = true := by
          rw [rewrites_eq_true_iff]
          refine ⟨⟨receipt, hGet⟩, ?_⟩
          intro hSame
          change next.receipts[i]? = engine.receipts[i]?
            at hSame
          rw [hNow, hGet] at hSame
          exact hDiffers (Option.some.inj hSame)
        rw [hRewrites] at hCount
        simp at hCount

/-
  Receipts are permanent.  A receipt keeps its place and what
  it was issued with; at most one call ever writes into it, a
  settlement of its order that returns `Ok`; and it is as it was
  as long as there was no such call.
-/
theorem receipt_written_once
    (hPath : system.Path engine es engine')
    (i : Nat) :
    es.countP (Rewrites i) ≤ 1 ∧
      (∀ tr ∈ es,
        Rewrites i tr = true →
        ∃ receipt settlement amount,
          tr.source.receipts[i]? = some receipt ∧
            tr.label.op.settlement tr.source =
              some settlement ∧
            settlement.orderId = receipt.sessionId ∧
            tr.label.result = .ok (.amount amount)) ∧
      ∀ receipt,
        engine.receipts[i]? = some receipt →
        ∃ receipt',
          engine'.receipts[i]? = some receipt' ∧
            receipt'.asIssued = receipt.asIssued ∧
            (es.countP (Rewrites i) = 0 →
              receipt' = receipt) := by
  refine ⟨?_, ?_, fun receipt hGet =>
    path_receipt hPath hGet⟩
  · exact hPath.countP_le_one (Rewrites i)
      (CoreProverEngine.Closed i)
      (fun hStep hRewrites =>
        (step_rewrites hStep hRewrites).1)
      (fun hClosed hStep => (step_closed hStep hClosed).1)
      (fun hClosed hStep => (step_closed hStep hClosed).2)
  · intro tr hMem hRewrites
    rcases hPath.exists_of_mem hMem with
      ⟨_, _, _, _, hStep, _⟩
    exact (step_rewrites hStep hRewrites).2

end Engine

end BorderController

------------------------------------------------------------
-- A Receipt That Is Claimed
------------------------------------------------------------

namespace BorderController

namespace Engine

local instance rewritesChrono : Chrono := utcChrono

/- A receipt is written into by the claim of its order only. -/
theorem receipt_written_once_claimed :
    (play
        (deliveryOps 60 ++
          [ .sellerClaim (orderIdOf 1) "0x4",
            .sellerRefund (orderIdOf 1) "0x5" ])
        (.new 1 12 0)).1.countP (Rewrites 0) ≤ 1 :=
  (receipt_written_once (play_path _ _) 0).1

end Engine

end BorderController

import BorderController.Engine.Delivery
import BorderController.Engine.Receipts

/-
  Orders that are delivered more than once.

  An order is fulfilled once, and so has one receipt and one
  discount coupon, unless its delivery was late: a late
  delivery leaves it in `FulfillmentExpired`, from which it can
  be fulfilled again.

  Key definitions include:
    * `Redelivers`
    * `DeliveredOnce`

  Key theorems include:
    * `deliveredOnce_iff`
-/

------------------------------------------------------------
-- Deliveries on Record
------------------------------------------------------------

namespace BorderController

namespace Engine

/-
  The call fulfils an order whose late fulfilment is already
  on record.
-/
def Redelivers
    (engine : CoreProverEngine)
    (op : Op) :
    Prop :=
  ∃ orderId txid i escrow,
    op = .sellerFulfill orderId txid ∧
      RustString.isBlank txid = false ∧
      engine.lookup orderId = some (i, escrow) ∧
      escrow.state = .fulfillmentExpired ∧
      escrow.fulfillmentMono.isSome

/- The receipt grants a discount for a late fulfilment. -/
def ReceiptMetadata.isCoupon
    (receipt : ReceiptMetadata) :
    Bool :=
  0 < receipt.discountPct

/-
  After the calls `es`, every order has been fulfilled at most
  once and has at most one receipt and one coupon, and what the
  run once recorded of a fulfilment is still on record.
-/
structure DeliveredOnce
    (es : List (Transition CoreProverEngine Call))
    (engine : CoreProverEngine) :
    Prop where
  fulfilments :
    ∀ orderId : OrderId, (fulfilments es).count orderId ≤ 1
  receipts :
    ∀ orderId : OrderId,
      (engine.receiptsOf orderId).length ≤ 1
  coupons :
    ∀ orderId : OrderId,
      (engine.receiptsOf orderId).countP
        ReceiptMetadata.isCoupon ≤ 1
  time :
    ∀ tr ∈ es, ∀ (i : Nat) (escrow : Escrow) (mono : UInt64),
      tr.source.escrows[i]? = some escrow →
      escrow.fulfillmentMono = some mono →
      ∃ escrow',
        engine.escrows[i]? = some escrow' ∧
          escrow'.fulfillmentMono = some mono
  txid :
    ∀ tr ∈ es, ∀ (i : Nat) (escrow : Escrow) (txid : String),
      tr.source.escrows[i]? = some escrow →
      escrow.sellerFulfillTxid = some txid →
      ∃ escrow',
        engine.escrows[i]? = some escrow' ∧
          escrow'.sellerFulfillTxid = some txid

variable [Chrono]
variable {engine engine' : CoreProverEngine}
variable {es : List (Transition CoreProverEngine Call)}
variable {call : Call}

/- Fulfilling a fulfilled record delivers it again. -/
theorem redelivers_of_block
    {orderId : OrderId}
    {txid : String}
    {i : Nat}
    {late : Bool}
    {escrow escrow' : Escrow}
    (hSound : escrow.Sound)
    (hLookup : engine.lookup orderId = some (i, escrow))
    (hBlock :
      escrow.sellerFulfill engine.now txid =
        .ok (late, escrow'))
    (hMono : escrow.fulfillmentMono.isSome) :
    Redelivers engine (.sellerFulfill orderId txid) := by
  rcases Escrow.sellerFulfill_ok_iff.mp hBlock with
    ⟨hCan, hTxid, _, _⟩
  refine ⟨orderId, txid, i, escrow, rfl, hTxid, hLookup, ?_,
    hMono⟩
  cases hState : escrow.state with
  | fulfillmentExpired => rfl
  | sellerAccepted =>
      rw [hSound.unfulfilled (Or.inr hState)] at hMono
      contradiction
  | _ => simp [hState, EscrowState.canFulfill] at hCan

/- Without a redelivery, what is on record stays there. -/
theorem step_recorded
    {i : Nat}
    {escrow : Escrow}
    (hSound : engine.Sound)
    (hOnce : ¬ Redelivers engine call.op)
    (hStep : system.Step engine call engine')
    (hGet : engine.escrows[i]? = some escrow)
    (hMono : escrow.fulfillmentMono.isSome) :
    ∃ escrow',
      engine'.escrows[i]? = some escrow' ∧
        escrow'.fulfillmentMono = escrow.fulfillmentMono ∧
        escrow'.sellerFulfillTxid =
          escrow.sellerFulfillTxid := by
  rcases step_record hStep hGet with
    ⟨escrow', hGet', rfl | ⟨orderId, hOrder, hLookup, hChange⟩⟩
  · exact ⟨escrow', hGet', rfl, rfl⟩
  · refine ⟨escrow', hGet', ?_⟩
    rcases hChange.fulfillmentMono with
      hSame | ⟨orderId', txid, hOp, _, _⟩
    · exact hSame
    · rw [hOp] at hOrder hChange hOnce
      cases hOrder
      cases hChange with
      | fulfill hBlock =>
          exact absurd
            (redelivers_of_block (hSound.records hGet) hLookup
              hBlock hMono) hOnce
      | settle hSettle => simp [Op.settlement] at hSettle

end Engine

end BorderController

------------------------------------------------------------
-- Fulfilments at Most Once
------------------------------------------------------------

namespace BorderController

namespace Engine

variable [Chrono]
variable {engine engine' : CoreProverEngine}
variable {es : List (Transition CoreProverEngine Call)}

/- A redelivery succeeds. -/
theorem fulfilment_of_redelivers
    {call : Call}
    (hStep : system.Step engine call engine')
    (hAgain : Redelivers engine call.op) :
    ∃ (i : Nat) (escrow : Escrow),
      engine.escrows[i]? = some escrow ∧
        escrow.fulfillmentMono.isSome ∧
        call.fulfilment? = some escrow.orderId := by
  rcases call with ⟨op, result⟩
  rcases hAgain with
    ⟨orderId, txid, i, escrow, hOp, hTxid, hLookup, hState,
      hMono⟩
  simp only at hOp
  subst hOp
  have hBlock :
      escrow.sellerFulfill engine.now txid = .ok (_, _) :=
    Escrow.sellerFulfill_ok_iff.mpr
      ⟨by rw [hState]; rfl, hTxid, rfl, rfl⟩
  have hExec :
      exec (.sellerFulfill orderId txid) engine =
        some (result, engine') := hStep
  rw [exec_sellerFulfill, borrow_of_ok hLookup hBlock,
    Option.some.injEq, Prod.mk.injEq] at hExec
  refine ⟨i, escrow,
    CoreProverEngine.getElem?_of_lookup hLookup, hMono, ?_⟩
  rw [← hExec.1, CoreProverEngine.orderId_of_lookup hLookup]
  rfl

/- Without redeliveries no order is fulfilled twice. -/
theorem IsRun.fulfilments_nodup
    (hRun : IsRun es engine) :
    (∀ tr ∈ es, ¬ Redelivers tr.source tr.label.op) →
      (fulfilments es).Nodup := by
  refine hRun.historyInvariant
    (fun es _ =>
      (∀ tr ∈ es, ¬ Redelivers tr.source tr.label.op) →
        (fulfilments es).Nodup) ?_ ?_
  · intro chainId interval genesis _
    exact List.nodup_nil
  · intro es engine call engine' hBefore hNodup hStep hOnce
    have hOld :=
      hNodup fun tr hMem =>
        hOnce tr (List.mem_append_left _ hMem)
    have hNow := hOnce _ (List.mem_append_right _
      List.mem_cons_self)
    cases hFulfilment : call.fulfilment? with
    | none =>
        simpa [fulfilments, hFulfilment] using hOld
    | some orderId =>
        have hSound : engine.Sound :=
          Reachable.sound ⟨es, hBefore⟩
        rcases step_fulfilment hStep hFulfilment with
          ⟨i, escrow, escrow', late, txid, hCall, hLookup,
            hBlock, _, _⟩
        have hFresh : orderId ∉ fulfilments es := by
          rw [← hBefore.fulfilments_eq]
          intro hReceipted
          rw [hCall] at hNow
          have hGet :=
            CoreProverEngine.getElem?_of_lookup hLookup
          exact hNow
            (redelivers_of_block (hSound.records hGet)
              hLookup hBlock
              ((hSound.receipted_iff hLookup).mp hReceipted))
        have hMore :
            fulfilments (es ++ [⟨engine, call, engine'⟩]) =
              fulfilments es ++ [orderId] := by
          simp [fulfilments, hFulfilment]
        rw [hMore]
        exact hOld.append (List.nodup_singleton orderId)
          (List.disjoint_singleton.mpr hFresh)

/- Without redeliveries every record of a fulfilment stays. -/
theorem IsRun.recorded
    {tr : Transition CoreProverEngine Call}
    {i : Nat}
    {escrow : Escrow}
    (hRun : IsRun es engine)
    (hOnce : ∀ tr ∈ es, ¬ Redelivers tr.source tr.label.op)
    (hMem : tr ∈ es)
    (hGet : tr.source.escrows[i]? = some escrow)
    (hMono : escrow.fulfillmentMono.isSome) :
    ∃ escrow',
      engine.escrows[i]? = some escrow' ∧
        escrow'.fulfillmentMono = escrow.fulfillmentMono ∧
        escrow'.sellerFulfillTxid =
          escrow.sellerFulfillTxid := by
  rcases List.append_of_mem hMem with ⟨before, after, hEs⟩
  subst hEs
  rcases hRun.split with ⟨hBefore, hStep, hAfter⟩
  have hPath :
      system.Path tr.source (tr :: after) engine :=
    .cons hStep hAfter
  refine (hPath.stable
    (fun tr => ¬ Redelivers tr.source tr.label.op)
    (fun engine =>
      engine.Sound ∧
        ∃ escrow',
          engine.escrows[i]? = some escrow' ∧
            escrow'.fulfillmentMono =
              escrow.fulfillmentMono ∧
            escrow'.sellerFulfillTxid =
              escrow.sellerFulfillTxid) ?_ ?_ ?_).2
  · rintro t l u hCall ⟨hSound, now, hNow, hTime, hTxid⟩ hNext
    refine ⟨step_sound hSound hNext, ?_⟩
    rcases step_recorded hSound hCall hNext hNow
        (by rwa [hTime]) with
      ⟨next, hGet', hTime', hTxid'⟩
    exact ⟨next, hGet', hTime'.trans hTime,
      hTxid'.trans hTxid⟩
  · intro e hLater
    exact hOnce e (List.mem_append_right _ hLater)
  · exact ⟨Reachable.sound ⟨_, hBefore⟩, escrow, hGet, rfl,
      rfl⟩

/- A redelivery is the second fulfilment of its order. -/
theorem IsRun.fulfilled_again
    {tr : Transition CoreProverEngine Call}
    (hRun : IsRun es engine)
    (hMem : tr ∈ es)
    (hAgain : Redelivers tr.source tr.label.op) :
    ∃ orderId, 1 < (fulfilments es).count orderId := by
  rcases List.append_of_mem hMem with ⟨before, after, hEs⟩
  subst hEs
  rcases hRun.split with ⟨hBefore, hStep, _⟩
  rcases fulfilment_of_redelivers hStep hAgain with
    ⟨i, escrow, hGet, hMono, hFulfilment⟩
  have hEarlier : escrow.orderId ∈ fulfilments before :=
    mem_fulfilments_iff.mpr
      (hBefore.fulfils_of_fulfillmentMono i escrow hGet hMono)
  have hSplit :
      fulfilments (before ++ tr :: after) =
        fulfilments before ++
          escrow.orderId :: fulfilments after := by
    simp [fulfilments, hFulfilment]
  have hFirst := List.count_pos_iff.mpr hEarlier
  refine ⟨escrow.orderId, ?_⟩
  rw [hSplit, List.count_append, List.count_cons_self]
  omega

theorem IsRun.source_sound
    {tr : Transition CoreProverEngine Call}
    (hRun : IsRun es engine)
    (hMem : tr ∈ es) :
    tr.source.Sound := by
  rcases List.append_of_mem hMem with ⟨before, after, hEs⟩
  subst hEs
  exact Reachable.sound ⟨_, hRun.split.1⟩

/-
  In a run every order is delivered at most once, with one
  receipt, one coupon and a lasting record, exactly when no
  call of the run redelivers a late delivery.
-/
theorem deliveredOnce_iff
    (hRun : IsRun es engine) :
    DeliveredOnce es engine ↔
      ∀ tr ∈ es, ¬ Redelivers tr.source tr.label.op := by
  constructor
  · intro hOnce tr hMem hAgain
    rcases hRun.fulfilled_again hMem hAgain with
      ⟨orderId, hTwice⟩
    have hCount := hOnce.fulfilments orderId
    omega
  · intro hOnce
    have hNodup := hRun.fulfilments_nodup hOnce
    have hReceipts :
        ∀ orderId, (engine.receiptsOf orderId).length ≤ 1 := by
      intro orderId
      rw [length_receiptsOf, hRun.fulfilments_eq]
      exact List.nodup_iff_count_le_one.mp hNodup orderId
    exact
      { fulfilments := List.nodup_iff_count_le_one.mp hNodup
        receipts := hReceipts
        coupons := fun orderId =>
          List.countP_le_length.trans (hReceipts orderId)
        time := by
          intro tr hMem i escrow mono hGet hMono
          rcases hRun.recorded hOnce hMem hGet
              (by rw [hMono]; rfl) with
            ⟨escrow', hGet', hTime, _⟩
          exact ⟨escrow', hGet', hTime.trans hMono⟩
        txid := by
          intro tr hMem i escrow txid hGet hTxid
          have hMono : escrow.fulfillmentMono.isSome := by
            have hSource := hRun.source_sound hMem
            rw [← (hSource.records hGet).txid, hTxid]
            rfl
          rcases hRun.recorded hOnce hMem hGet hMono with
            ⟨escrow', hGet', _, hSame⟩
          exact ⟨escrow', hGet', hSame.trans hTxid⟩ }

end Engine

end BorderController

------------------------------------------------------------
-- A Late Delivery Made Twice
------------------------------------------------------------

namespace BorderController

namespace Engine

local instance redeliveryChrono : Chrono := utcChrono

/- The second fulfilment adds a receipt with a coupon. -/
theorem late_delivery_twice :
    ∃ es engine,
      IsRun es engine ∧
        ¬ DeliveredOnce es engine ∧
        (engine.receiptsOf (orderIdOf 1)).map
            ReceiptMetadata.discountPct =
          [10, 10] := by
  refine ⟨_, _,
    play_isRun
      (deliveryOps 3601 ++
        [.sellerFulfill (orderIdOf 1) "0x4"])
      1 12 0, ?_, by decide +kernel⟩
  intro hOnce
  exact absurd (hOnce.receipts (orderIdOf 1))
    (by decide +kernel)

/- One late delivery is delivered once. -/
theorem deliveredOnce_late :
    DeliveredOnce (play (deliveryOps 3601) (.new 1 12 0)).1
      (play (deliveryOps 3601) (.new 1 12 0)).2 := by
  have hStates :
      ∀ tr ∈ (play (deliveryOps 3601) (.new 1 12 0)).1,
        ∀ escrow ∈ tr.source.escrows,
          escrow.fulfillmentMono = none := by
    decide +kernel
  refine (deliveredOnce_iff
    (play_isRun (deliveryOps 3601) 1 12 0)).mpr ?_
  rintro tr hMem ⟨_, _, i, escrow, _, _, hLookup, _, hMono⟩
  have hThere := CoreProverEngine.mem_of_lookup hLookup
  rw [hStates tr hMem escrow hThere] at hMono
  contradiction

end Engine

end BorderController

import BorderController.Engine.Receipts
import BorderController.Engine.Timing

/-
  The terms on which an order is delivered: whether it is late,
  and which discount its receipt grants.

  They follow from the time of acceptance, the fulfilment
  window and the time of the delivery, whatever happened in
  between.

  Key definitions include:
    * `AcceptedAt`
    * `Terms`

  Key theorems include:
    * `step_acceptedAt`
    * `IsRun.acceptedAt_iff`
    * `terms_of_fulfills`
-/

------------------------------------------------------------
-- Time of Acceptance
------------------------------------------------------------

namespace BorderController

namespace Engine

/- `seller_accept` on the order returned `Ok` at time `mono`. -/
def AcceptedAt
    (orderId : OrderId)
    (mono : UInt64)
    (tr : Transition CoreProverEngine Call) :
    Prop :=
  ∃ txid,
    tr.label = ⟨.sellerAccept orderId txid, .ok .done⟩ ∧
      tr.source.currentMono = mono

variable [Chrono]
variable {engine engine' : CoreProverEngine}
variable {call : Call}
variable {orderId : OrderId}
variable {i : Nat}
variable {escrow escrow' : Escrow}

/- Every record has its acceptance in order, in any run. -/
theorem Reachable.pending
    (hReach : Reachable engine)
    (hGet : engine.escrows[i]? = some escrow) :
    escrow.Pending := by
  refine Reachable.records ?_ ?_ hReach hGet
  · intro engine call engine' _ buyer seller amount profile
      chain txid reply _ _
    exact Escrow.new_pending
  · intro engine op escrow escrow' hChange hBefore
    exact hChange.pending hBefore

/- An acceptance finds a record without one, and dates it. -/
private theorem step_accepted
    {mono : UInt64}
    (hStep : system.Step engine call engine')
    (hAccepted :
      AcceptedAt orderId mono ⟨engine, call, engine'⟩) :
    ∃ i escrow escrow',
      engine.lookup orderId = some (i, escrow) ∧
        escrow.state = .buyerCommitted ∧
        engine'.lookup orderId = some (i, escrow') ∧
        escrow'.sellerAcceptMono = some mono := by
  rcases hAccepted with ⟨txid, hLabel, hMono⟩
  simp only at hLabel hMono
  subst hLabel
  cases step_effect hStep with
  | @accepted _ _ i escrow escrow' hLookup hBlock =>
      rcases Escrow.sellerAccept_ok_iff.mp hBlock with
        ⟨hState, _, _, hSpec⟩
      refine ⟨i, escrow, escrow', hLookup, hState, ?_, ?_⟩
      · exact CoreProverEngine.lookup_setEscrow_self hLookup
          (by rw [hSpec])
      · rw [hSpec, ← hMono]
        rfl

/- An order is dated before the call, or accepted by it. -/
theorem step_acceptedAt
    {mono : UInt64}
    (hStep : system.Step engine call engine')
    (hPending : escrow.Pending)
    (hLookup : engine.lookup orderId = some (i, escrow))
    (hLookup' : engine'.lookup orderId = some (i, escrow')) :
    escrow'.sellerAcceptMono = some mono ↔
      escrow.sellerAcceptMono = some mono ∨
        AcceptedAt orderId mono ⟨engine, call, engine'⟩ := by
  rcases step_lookup hStep hLookup with
    ⟨after, hAfter, hCase⟩
  rw [hLookup'] at hAfter
  cases hAfter
  constructor
  · intro hDated
    rcases hCase with rfl | ⟨hOrder, hChange⟩
    · exact Or.inl hDated
    · rcases hChange.sellerAcceptMono with
        hSame | ⟨orderId', txid, hOp, hBlock, _⟩
      · rw [hSame] at hDated
        exact Or.inl hDated
      · rw [(Escrow.sellerAccept_ok_iff.mp hBlock).2.2.2]
          at hDated
        cases hDated
        rw [hOp] at hOrder
        cases hOrder
        have hResult :=
          result_of_accept hStep hOp hLookup hBlock
        rcases call with ⟨op, result⟩
        simp only at hOp hResult
        subst hOp
        subst hResult
        exact Or.inr ⟨txid, rfl, rfl⟩
  · rintro (hDated | hAccepted)
    · rcases hCase with rfl | ⟨_, hChange⟩
      · exact hDated
      · rcases hChange.sellerAcceptMono with
          hSame | ⟨_, _, _, hBlock, _⟩
        · rwa [hSame]
        · have hNone :=
            hPending.committed
              (Escrow.sellerAccept_ok_iff.mp hBlock).1
          rw [hNone] at hDated
          contradiction
    · rcases step_accepted hStep hAccepted with
        ⟨j, _, after, _, _, hAfter, hDated⟩
      rw [hLookup'] at hAfter
      cases hAfter
      exact hDated

/- The time of acceptance on record is that of the run. -/
theorem IsRun.acceptedAt_iff
    {es : List (Transition CoreProverEngine Call)}
    (hRun : IsRun es engine)
    (mono : UInt64) :
    (∃ tr ∈ es, AcceptedAt orderId mono tr) ↔
      ∃ i escrow,
        engine.lookup orderId = some (i, escrow) ∧
          escrow.sellerAcceptMono = some mono := by
  refine hRun.historyInvariant
    (fun es engine =>
      (∃ tr ∈ es, AcceptedAt orderId mono tr) ↔
        ∃ i escrow,
          engine.lookup orderId = some (i, escrow) ∧
            escrow.sellerAcceptMono = some mono) ?_ ?_
  · intro chainId interval genesis
    simp [CoreProverEngine.lookup, CoreProverEngine.new,
      KeyedList.firstMatch]
  · intro es engine call engine' hBefore hHistory hStep
    have hPending :
        ∀ {i escrow},
          engine.lookup orderId = some (i, escrow) →
          escrow.Pending := fun hLookup =>
      Reachable.pending ⟨es, hBefore⟩
        (CoreProverEngine.getElem?_of_lookup hLookup)
    have hMore :
        (∃ tr ∈ es ++ [⟨engine, call, engine'⟩],
            AcceptedAt orderId mono tr) ↔
          (∃ tr ∈ es, AcceptedAt orderId mono tr) ∨
            AcceptedAt orderId mono
              ⟨engine, call, engine'⟩ := by
      simp [or_and_right, exists_or]
    rw [hMore, hHistory]
    constructor
    · rintro (⟨i, escrow, hLookup, hDated⟩ | hAccepted)
      · rcases step_lookup hStep hLookup with
          ⟨escrow', hLookup', _⟩
        refine ⟨i, escrow', hLookup', ?_⟩
        rw [step_acceptedAt hStep (hPending hLookup) hLookup
          hLookup']
        exact Or.inl hDated
      · rcases step_accepted hStep hAccepted with
          ⟨i, _, escrow', _, _, hLookup', hDated⟩
        exact ⟨i, escrow', hLookup', hDated⟩
    · rintro ⟨i, escrow', hLookup', hDated⟩
      rcases step_lookup_source hStep hLookup' with
        ⟨escrow, hLookup⟩ | ⟨_, _, _, _, _, _, hNew⟩
      · rw [step_acceptedAt hStep (hPending hLookup) hLookup
          hLookup'] at hDated
        rcases hDated with hBefore | hNow
        · exact Or.inl ⟨i, escrow, hLookup, hBefore⟩
        · exact Or.inr hNow
      · rw [hNew] at hDated
        contradiction

end Engine

end BorderController

------------------------------------------------------------
-- Terms of a Delivery
------------------------------------------------------------

namespace BorderController

namespace Engine

/-
  What an order in state `state` and its receipt show, when it
  was accepted at `accepted` and delivered at `now`.
-/
structure Terms
    (profile : PaymentProfile)
    (accepted : UInt64)
    (now : TimeTruth)
    (state : EscrowState)
    (receipt : ReceiptMetadata) :
    Prop where
  onTime :
    now.mono.toNat ≤
        accepted.toNat +
          profile.timing.fulfillmentWindowSecs.toNat →
      state = .sellerFulfilled ∧
        receipt.lateFulfilled = false ∧
        receipt.discountPct = 0 ∧
        receipt.discountExpirationUnix = 0
  late :
    accepted.toNat +
          profile.timing.fulfillmentWindowSecs.toNat <
        now.mono.toNat →
      receipt.lateFulfilled = true ∧
        receipt.discountPct =
          (if profile.enablesLateDiscount then
            profile.lateDiscountPct
          else
            0) ∧
        receipt.discountExpirationUnix =
          (if 0 < receipt.discountPct then
            now.unix + profile.discountExpirationDays * 86400
          else
            0)
  expiration :
    0 < receipt.discountPct →
    now.unix.toNat +
          profile.discountExpirationDays.toNat * 86400 <
        2 ^ 64 →
      receipt.discountExpirationUnix.toNat =
        now.unix.toNat +
          profile.discountExpirationDays.toNat * 86400

variable {mono : UInt64}
variable {escrow escrow' : Escrow}
variable {now : TimeTruth}

/- An order that can be fulfilled has been accepted. -/
theorem Escrow.Timed.accepted_of_canFulfill
    (hTimed : escrow.Timed mono)
    (hPending : escrow.Pending)
    (hCan : escrow.state.canFulfill = true) :
    ∃ accepted deadline,
      escrow.sellerAcceptMono = some accepted ∧
        escrow.fulfillmentDeadlineMono = some deadline ∧
        deadline.toNat =
          accepted.toNat +
            escrow.profile.timing.fulfillmentWindowSecs.toNat
              := by
  have hAccepted : escrow.sellerAcceptMono.isSome := by
    cases hState : escrow.state with
    | sellerAccepted => exact hPending.accepted hState
    | fulfillmentExpired =>
        rcases hTimed.expired hState with
          ⟨deadline, hDeadline, _⟩
        rw [← hTimed.deadline_isSome, hDeadline]
        rfl
    | _ => simp [hState, EscrowState.canFulfill] at hCan
  have hSet := hTimed.deadline_isSome
  rw [hAccepted] at hSet
  rcases Option.isSome_iff_exists.mp hAccepted with
    ⟨accepted, hAccept⟩
  rcases Option.isSome_iff_exists.mp hSet with
    ⟨deadline, hDeadline⟩
  exact ⟨accepted, deadline, hAccept, hDeadline,
    hTimed.fulfillmentDeadline accepted deadline hAccept
      hDeadline⟩

/- The receipt of a delivery carries its terms. -/
private theorem terms_of_block
    {txid : String}
    {late : Bool}
    {accepted deadline : UInt64}
    (hBlock :
      escrow.sellerFulfill now txid = .ok (late, escrow'))
    (hDeadline :
      escrow.fulfillmentDeadlineMono = some deadline)
    (hWindow :
      deadline.toNat =
        accepted.toNat +
          escrow.profile.timing.fulfillmentWindowSecs.toNat) :
    Terms escrow.profile accepted now escrow'.state
      (escrow'.receiptStub now late) := by
  rcases Escrow.sellerFulfill_ok_iff.mp hBlock with
    ⟨_, _, hLate, hSpec⟩
  have hProfile : escrow'.profile = escrow.profile := by
    rw [hSpec]
  have hState :
      escrow'.state =
        if late then .fulfillmentExpired
        else .sellerFulfilled := by
    rw [hSpec, hLate]
  have hPast :
      late = true ↔
        accepted.toNat +
            escrow.profile.timing.fulfillmentWindowSecs.toNat <
          now.mono.toNat := by
    rw [hLate, Escrow.isLate_eq_true_iff, ← hWindow]
    simp [hDeadline, UInt64.lt_iff_toNat_lt]
  exact
    { onTime := by
        intro hBefore
        have hInTime : late = false := by
          rw [← Bool.not_eq_true, hPast]
          exact Nat.not_lt.mpr hBefore
        rw [hState]
        subst hInTime
        exact ⟨rfl, rfl, rfl, rfl⟩
      late := by
        intro hAfter
        have hTrue := hPast.mpr hAfter
        subst hTrue
        rw [← hProfile]
        exact ⟨rfl, rfl, rfl⟩
      expiration := by
        intro hPositive hFits
        have hSum :
            (escrow'.receiptStub now late).discountExpirationUnix =
              now.unix +
                escrow.profile.discountExpirationDays *
                  86400 := by
          rw [← hProfile]
          exact if_pos hPositive
        have hDays :
            escrow.profile.discountExpirationDays.toNat *
                86400 <
              2 ^ 64 := by
          omega
        rw [hSum, UInt64.toNat_add, UInt64.toNat_mul]
        have hDay : (86400 : UInt64).toNat = 86400 := rfl
        rw [hDay, Nat.mod_eq_of_lt hDays,
          Nat.mod_eq_of_lt hFits] }

end Engine

end BorderController

------------------------------------------------------------
-- Deliveries of a Run
------------------------------------------------------------

namespace BorderController

namespace Engine

variable [Chrono]
variable {orderId : OrderId}

omit [Chrono] in
/- The first receipt of an order is the one that is shown. -/
theorem CoreProverEngine.getReceipt_of_first
    {engine engine' : CoreProverEngine}
    {receipt : ReceiptMetadata}
    (hReceipts :
      engine'.receipts = engine.receipts ++ [receipt])
    (hNone : ¬ engine.Receipted orderId)
    (hSession : receipt.sessionId = orderId) :
    engine'.getReceipt orderId = some receipt := by
  have hMissing : engine.getReceipt orderId = none := by
    rw [CoreProverEngine.getReceipt_eq,
      CoreProverEngine.receiptsOf_eq_nil_iff.mpr hNone]
    rfl
  unfold CoreProverEngine.getReceipt at hMissing ⊢
  rw [hReceipts, List.find?_append, hMissing]
  simp [hSession]

/-
  In a run none of whose additions to a clock wraps, the terms
  of a delivery follow from the time of the acceptance before
  it and from its own time, and the first delivery of an order
  issues the receipt that is shown for it.
-/
theorem terms_of_fulfills
    {chainId interval genesis : UInt64}
    {engine : CoreProverEngine}
    {before after : List (Transition CoreProverEngine Call)}
    {tr : Transition CoreProverEngine Call}
    (hPath :
      system.Path (.new chainId interval genesis)
        (before ++ tr :: after) engine)
    (hFits : ∀ e ∈ before, ClockFits e.source e.label.op)
    (hFulfils : Fulfils orderId tr) :
    ∃ i escrow escrow' accepted receipt,
      tr.source.lookup orderId = some (i, escrow) ∧
        tr.target.lookup orderId = some (i, escrow') ∧
        tr.target.receipts =
          tr.source.receipts ++ [receipt] ∧
        receipt.sessionId = orderId ∧
        ((∀ e ∈ before, ¬ Fulfils orderId e) →
          tr.target.getReceipt orderId = some receipt) ∧
        (∀ mono,
          (∃ e ∈ before, AcceptedAt orderId mono e) ↔
            mono = accepted) ∧
        Terms escrow.profile accepted tr.source.now
          escrow'.state receipt := by
  rcases hPath.split with ⟨hBefore, hStep, _⟩
  have hRun : IsRun before tr.source :=
    ⟨chainId, interval, genesis, hBefore⟩
  rcases step_fulfilment hStep
      (Call.fulfilment?_eq_some_iff.mpr hFulfils) with
    ⟨i, escrow, escrow', late, txid, _, hLookup, hBlock,
      hLookup', hReceipts⟩
  have hGet := CoreProverEngine.getElem?_of_lookup hLookup
  have hTimed :=
    ((timed_of_path hBefore hFits).1 i escrow hGet).1
  have hPending := Reachable.pending ⟨before, hRun⟩ hGet
  rcases hTimed.accepted_of_canFulfill hPending
      (Escrow.sellerFulfill_ok_iff.mp hBlock).1 with
    ⟨accepted, deadline, hAccepted, hDeadline, hWindow⟩
  have hSession :
      (escrow'.receiptStub tr.source.now late).sessionId =
        orderId :=
    CoreProverEngine.orderId_of_lookup hLookup'
  refine ⟨i, escrow, escrow', accepted, _, hLookup, hLookup',
    hReceipts, hSession, ?_, ?_,
    terms_of_block hBlock hDeadline hWindow⟩
  · intro hFirst
    have hNone : ¬ tr.source.Receipted orderId := by
      intro hReceipted
      unfold CoreProverEngine.Receipted at hReceipted
      rw [hRun.fulfilments_eq, mem_fulfilments_iff]
        at hReceipted
      rcases hReceipted with ⟨e, hMem, hEarlier⟩
      exact hFirst e hMem hEarlier
    exact CoreProverEngine.getReceipt_of_first hReceipts hNone
      hSession
  · intro mono
    rw [hRun.acceptedAt_iff mono]
    constructor
    · rintro ⟨j, found, hFound, hDated⟩
      rw [hLookup] at hFound
      cases hFound
      rw [hAccepted] at hDated
      exact (Option.some.inj hDated).symm
    · rintro rfl
      exact ⟨i, escrow, hLookup, hAccepted⟩

end Engine

end BorderController

------------------------------------------------------------
-- A Delivery One Second Late
------------------------------------------------------------

namespace BorderController

namespace Engine

local instance latenessChrono : Chrono := utcChrono

/- The first second after the window already is late. -/
theorem terms_overdue :
    ∃ receipt,
      (play (deliveryOps 3601)
          (.new 1 12 1700000000)).2.receipts =
        [receipt] ∧
      receipt.lateFulfilled = true ∧
      receipt.discountPct = 10 ∧
      receipt.discountExpirationUnix =
        1700003601 + 90 * 86400 := by
  have hLast :
      ∃ tr,
        (play (deliveryOps 3601)
            (.new 1 12 1700000000)).1.drop 3 =
          [tr] ∧
        tr.label =
          ⟨.sellerFulfill (orderIdOf 1) "0x3", .ok .done⟩ ∧
        tr.target =
          (play (deliveryOps 3601)
            (.new 1 12 1700000000)).2 ∧
        tr.source.receipts = [] ∧
        tr.source.currentMono = 3601 ∧
        tr.source.currentUnix = 1700003601 ∧
        tr.source.escrows.map Escrow.profile =
          [.pizzaDelivery] := by
    exact ⟨_, rfl, rfl, rfl, rfl, rfl, rfl, rfl⟩
  rcases hLast with
    ⟨tr, hLast, hLabel, hTarget, hNone, hMono, hUnix, hProfile⟩
  have hPath :=
    play_path (deliveryOps 3601) (.new 1 12 1700000000)
  rw [← List.take_append_drop 3 (play _ _).1, hLast] at hPath
  have hFits :
      ∀ e ∈
        (play (deliveryOps 3601)
          (.new 1 12 1700000000)).1.take 3,
        ClockFits e.source e.label.op := by
    intro e hMem
    exact deliveryOps_clockFits (by simp) e
      (List.mem_of_mem_take hMem)
  have hAt :
      ∃ e ∈
        (play (deliveryOps 3601)
          (.new 1 12 1700000000)).1.take 3,
        AcceptedAt (orderIdOf 1) 0 e :=
    ⟨_, List.mem_cons_of_mem _ (List.mem_cons_self ..),
      "0x2", rfl, rfl⟩
  rcases terms_of_fulfills hPath hFits ⟨"0x3", hLabel⟩ with
    ⟨i, escrow, _, accepted, receipt, hLookup, _, hReceipts,
      _, _, hAccepted, hTerms⟩
  have hZero := (hAccepted 0).mp hAt
  have hPizza : escrow.profile = .pizzaDelivery := by
    apply List.mem_singleton.mp
    rw [← hProfile]
    exact List.mem_map_of_mem
      (CoreProverEngine.mem_of_lookup hLookup)
  rw [hPizza, ← hZero] at hTerms
  have hWindow :
      (0 : UInt64).toNat +
          TimingWindows.pizzaDelivery.fulfillmentWindowSecs.toNat <
        tr.source.now.mono.toNat := by
    rw [CoreProverEngine.now_mono, hMono]
    decide
  rcases hTerms.late hWindow with ⟨hLate, hPct, hUntil⟩
  refine ⟨receipt, ?_, hLate, hPct, ?_⟩
  · rw [← hTarget, hReceipts, hNone]
    rfl
  · have hNow : tr.source.now.unix = 1700003601 := hUnix
    rw [hUntil, hPct, hNow]
    rfl

end Engine

end BorderController

import BorderController.CoreProverEscrow.Calls

/-
  The two claims on an order whose seller has committed, and
  when neither stands in the way of the other.

  Key definitions include:
    * `PaymentDue`, `CounterEscrowDue`
    * `IndependentClaims`

  Key theorems include:
    * `independentClaims_iff`
    * `buyerFirst_not_independentClaims`
-/

------------------------------------------------------------
-- What Is Due
------------------------------------------------------------

namespace BorderController

namespace CoreProverEscrow

def SellerCommitted (moments : List Moment) : Prop :=
  ∃ sender amount time,
    Moment.committed sender amount time ∈ moments

/- The seller has not been paid. -/
def PaymentDue (moments : List Moment) : Prop :=
  ∀ recipient amount time,
    Moment.sent .payment recipient amount time ∉ moments

/- The seller put something up, and it is still there. -/
def CounterEscrowDue (moments : List Moment) : Prop :=
  (∃ sender amount time,
    Moment.committed sender amount time ∈ moments ∧
      0 < amount) ∧
    ∀ recipient amount time,
      Moment.sent .counterEscrow recipient amount time ∉
        moments

namespace Escrow.Lifecycle

variable {escrow : Escrow}
variable {moments : List Moment}

theorem paymentDue_iff
    (hLife : escrow.Lifecycle moments)
    (hCommitted : SellerCommitted moments) :
    PaymentDue moments ↔
      escrow.state = .bothCommitted ∨
        escrow.state = .buyerClaimed := by
  rcases hCommitted with ⟨sender, amount, time, hMem⟩
  cases hLife <;> simp_all [PaymentDue]

theorem counterEscrowDue_iff
    (hLife : escrow.Lifecycle moments) :
    CounterEscrowDue moments ↔
      (escrow.state = .bothCommitted ∨
          escrow.state = .sellerClaimed) ∧
        0 < escrow.sellerAmount := by
  cases hLife <;> simp_all [CounterEscrowDue]

end Escrow.Lifecycle

end CoreProverEscrow

end BorderController

------------------------------------------------------------
-- Independence
------------------------------------------------------------

namespace BorderController

namespace CoreProverEscrow

namespace World

/- `sellerClaimPayment` by the seller of the order. -/
def sellerClaim (world : World) (orderId : Bytes32) : Message :=
  { sender := (world.escrows orderId).seller
    value := 0
    function := .sellerClaimPayment orderId }

/- `buyerClaimCounterEscrow` by the buyer of the order. -/
def buyerClaim (world : World) (orderId : Bytes32) : Message :=
  { sender := (world.escrows orderId).buyer
    value := 0
    function := .buyerClaimCounterEscrow orderId }

/- The ether that an account received from the contract. -/
def received (account : Address) (world : World) : Nat :=
  (world.trace.map fun
    | .called _ _ => 0
    | .sent payment _ =>
        if payment.recipient = account then
          payment.amount
        else
          0).sum

/-
  The claims can be made in either order, at the two times, and
  both orders leave `BOTH_CLAIMED` and the same balances.
-/
def ClaimsCommute
    (world : World)
    (orderId : Bytes32)
    (first second : Nat) :
    Prop :=
  ∃ sellerFirst buyerFirst,
    replay accepting
        [(first, world.sellerClaim orderId),
          (second, world.buyerClaim orderId)]
        world = some sellerFirst ∧
      replay accepting
          [(first, world.buyerClaim orderId),
            (second, world.sellerClaim orderId)]
          world = some buyerFirst ∧
        (sellerFirst.escrows orderId).state = .bothClaimed ∧
          (buyerFirst.escrows orderId).state = .bothClaimed ∧
            sellerFirst.balance = buyerFirst.balance ∧
              ∀ account,
                sellerFirst.received account =
                  buyerFirst.received account

end World

/-
  Neither claim stands in the way of the other: each succeeds
  when it is due, and the two commute when both are.
-/
structure IndependentClaims
    (orderId : Bytes32)
    (time : Nat)
    (world : World) :
    Prop where
  seller :
    Succeeds accepting time (world.sellerClaim orderId)
        world ↔
      PaymentDue (history orderId world.trace)
  buyer :
    Succeeds accepting time (world.buyerClaim orderId) world ↔
      CounterEscrowDue (history orderId world.trace)
  commute :
    PaymentDue (history orderId world.trace) →
      CounterEscrowDue (history orderId world.trace) →
      ∀ later,
        time ≤ later →
        later ≤ (world.escrows orderId).claimDeadline →
        world.ClaimsCommute orderId time later

end CoreProverEscrow

end BorderController

------------------------------------------------------------
-- When the Claims Are Independent
------------------------------------------------------------

namespace BorderController

namespace CoreProverEscrow

variable {world : World}
variable {orderId : Bytes32}
variable {time later : Nat}

/- In time, the seller can claim from `BOTH_COMMITTED` only. -/
theorem Observable.sellerClaim_succeeds
    (hWorld : Observable world)
    (hTime : time ≤ (world.escrows orderId).claimDeadline) :
    Succeeds accepting time (world.sellerClaim orderId)
        world ↔
      (world.escrows orderId).state = .bothCommitted := by
  have hCovered := hWorld.solvent.owed_le_balance orderId
  refine succeeds_sellerClaimPayment.trans ⟨And.left, ?_⟩
  intro hState
  simp only [World.outstanding, Escrow.outstanding,
    hState] at hCovered
  exact ⟨hState, rfl, hTime, rfl,
    (Nat.le_add_right _ _).trans hCovered⟩

/- In time, the buyer can claim what is due. -/
theorem Observable.buyerClaim_succeeds
    (hWorld : Observable world)
    (hTime : time ≤ (world.escrows orderId).claimDeadline) :
    Succeeds accepting time (world.buyerClaim orderId) world ↔
      CounterEscrowDue (history orderId world.trace) := by
  have hCovered := hWorld.solvent.owed_le_balance orderId
  rw [(hWorld.consistent orderId).counterEscrowDue_iff]
  refine succeeds_buyerClaimCounterEscrow.trans ⟨?_, ?_⟩
  · rintro ⟨hState, _, hAmount, _⟩
    exact ⟨hState, hAmount⟩
  · rintro ⟨hState, hAmount⟩
    refine ⟨hState, rfl, hAmount, hTime, rfl, ?_⟩
    refine Nat.le_trans ?_ hCovered
    rcases hState with hState | hState
    · simp only [World.outstanding, Escrow.outstanding, hState]
      exact Nat.le_add_left _ _
    · simp only [World.outstanding, Escrow.outstanding, hState]
      exact Nat.le_refl _

theorem Escrow.Pays.state_ne
    {sender : Address}
    {escrow escrow' : Escrow}
    {payment : Payment}
    (hPays :
      Escrow.Pays orderId sender time escrow payment
        escrow') :
    escrow'.state ≠ .bothCommitted := by
  cases hPays <;> exact nofun

/- Once the buyer has claimed, the seller cannot. -/
theorem buyerFirst_not_commute :
    ¬ world.ClaimsCommute orderId time later := by
  rintro ⟨_, buyerFirst, _, hReplay, _⟩
  rcases replay_cons hReplay with
    ⟨_, claimed, _, hBuyer, hRest⟩
  rcases replay_cons hRest with ⟨_, _, _, hSeller, _⟩
  rcases call_pays rfl hBuyer with
    ⟨payment, escrow, hPays, hEscrows⟩
  have hSucceeds :
      Succeeds accepting later (world.sellerClaim orderId)
        claimed := by
    unfold Succeeds
    rw [hSeller]
    rfl
  have hState := (succeeds_sellerClaimPayment.mp hSucceeds).1
  have hEscrow : claimed.escrows orderId = escrow := by
    rw [hEscrows]
    exact Function.update_self _ _ _
  rw [hEscrow] at hState
  exact hPays.state_ne hState

/-
  The claims are independent until the buyer has claimed first,
  or can.
-/
theorem independentClaims_iff
    (hWorld : Observable world)
    (hCommitted :
      SellerCommitted (history orderId world.trace))
    (hTime : time ≤ (world.escrows orderId).claimDeadline) :
    IndependentClaims orderId time world ↔
      (world.escrows orderId).state ≠ .buyerClaimed ∧
        ¬ ((world.escrows orderId).state = .bothCommitted ∧
          0 < (world.escrows orderId).sellerAmount) := by
  have hLife := hWorld.consistent orderId
  have hPaymentDue := hLife.paymentDue_iff hCommitted
  have hCounterDue := hLife.counterEscrowDue_iff
  have hSeller := hWorld.sellerClaim_succeeds hTime
  have hBuyer := hWorld.buyerClaim_succeeds hTime
  constructor
  · intro hIndependent
    refine ⟨?_, ?_⟩
    · intro hState
      have hDue := hPaymentDue.mpr (.inr hState)
      have hBoth :=
        hSeller.mp (hIndependent.seller.mpr hDue)
      rw [hState] at hBoth
      contradiction
    · rintro ⟨hState, hAmount⟩
      have hFirst := hPaymentDue.mpr (.inl hState)
      have hSecond :=
        hCounterDue.mpr ⟨.inl hState, hAmount⟩
      exact buyerFirst_not_commute
        (hIndependent.commute hFirst hSecond time
          (Nat.le_refl time) hTime)
  · rintro ⟨hState, hBoth⟩
    refine ⟨?_, hBuyer, ?_⟩
    · rw [hSeller, hPaymentDue]
      exact (or_iff_left hState).symm
    · intro hFirst hSecond
      rcases hPaymentDue.mp hFirst with hState' | hState'
      · have hAmount := (hCounterDue.mp hSecond).2
        exact absurd ⟨hState', hAmount⟩ hBoth
      · exact absurd hState' hState

/- An order whose seller signs. -/
def signedOrder : List (Nat × Message) :=
  [(1000,
      ⟨0xB0B, 10 ^ 18,
        .createEscrow 7 0x5E11 86400 604800 false 0⟩),
    (2000,
      ⟨0x5E11, 0,
        .sellerCommitSignature 7 [1] "Acme Corp" "LLC" 9⟩)]

/- Physical goods: the buyer claims the counter-escrow first. -/
def buyerFirstOrder : List (Nat × Message) :=
  [(1000,
      ⟨0xB0B, 10 ^ 18,
        .createEscrow 7 0x5E11 86400 604800 false 0⟩),
    (2000, ⟨0x5E11, 10 ^ 18, .sellerCommitEscrow 7⟩),
    (3000, ⟨0xB0B, 0, .buyerClaimCounterEscrow 7⟩)]

/- Nothing stands in the way of a seller who signed. -/
theorem signed_independentClaims :
    ∃ world,
      replay accepting signedOrder (.deployed 1000 0) =
          some world ∧
        IndependentClaims 7 3000 world := by
  refine ⟨_, rfl, ?_⟩
  refine (independentClaims_iff ?_ ?_ ?_).mpr ?_
  · exact (@Reachable.replay _ _ accepting signedOrder
      (.deployed 1000 0) rfl).observable
  · exact ⟨0x5E11, 0, 2000, by decide +kernel⟩
  · decide +kernel
  · decide +kernel

/-
  The buyer has claimed, and the seller, who has not been paid,
  cannot claim any more.
-/
theorem buyerFirst_not_independentClaims :
    ∃ world,
      replay accepting buyerFirstOrder (.deployed 1000 0) =
          some world ∧
        SellerCommitted (history 7 world.trace) ∧
          3000 ≤ (world.escrows 7).claimDeadline ∧
            PaymentDue (history 7 world.trace) ∧
              ¬ Succeeds accepting 3000 (world.sellerClaim 7)
                  world ∧
                ¬ IndependentClaims 7 3000 world := by
  have hView :
      (replay accepting buyerFirstOrder
          (.deployed 1000 0)).map
          (fun world =>
            ((world.escrows 7).state,
              (world.escrows 7).claimDeadline,
              history 7 world.trace)) =
        some
          (.buyerClaimed, 692200,
            [.created 0xB0B (10 ^ 18) 1000,
              .committed 0x5E11 (10 ^ 18) 2000,
              .sent .counterEscrow 0xB0B (10 ^ 18) 3000]) := by
    decide +kernel
  cases hReplay :
      replay accepting buyerFirstOrder (.deployed 1000 0) with
  | none =>
      rw [hReplay] at hView
      contradiction
  | some world =>
      rw [hReplay] at hView
      simp only [Option.map_some, Option.some.injEq,
        Prod.mk.injEq] at hView
      rcases hView with ⟨hState, hDeadline, hHistory⟩
      have hWorld :=
        (Reachable.replay (.deployed 1000 0)
          hReplay).observable
      have hTime :
          3000 ≤ (world.escrows 7).claimDeadline := by
        omega
      have hCommitted :
          SellerCommitted (history 7 world.trace) := by
        rw [hHistory]
        exact ⟨0x5E11, 10 ^ 18, 2000, by simp⟩
      have hDue :=
        ((hWorld.consistent 7).paymentDue_iff
          hCommitted).mpr (.inr hState)
      have hFails :
          ¬ Succeeds accepting 3000 (world.sellerClaim 7)
              world := by
        rw [hWorld.sellerClaim_succeeds hTime, hState]
        exact nofun
      refine ⟨world, rfl, hCommitted, hTime, hDue, hFails, ?_⟩
      intro hIndependent
      exact hFails (hIndependent.seller.mpr hDue)

end CoreProverEscrow

end BorderController

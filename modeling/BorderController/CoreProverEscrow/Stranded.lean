import BorderController.CoreProverEscrow.Calls
import Mathlib.Order.Bounds.Basic

/-
  Ether that can never leave the contract again.

  Some of what is outstanding on an order is out of reach: past
  its claim deadline, or after the buyer has claimed first.  It
  is exactly what no continuation can pay out.

  Key definitions include:
    * `Escrow.stranded`

  Key theorems include:
    * `path_le_stranded`
    * `stranded_isLeast`
-/

------------------------------------------------------------
-- Stranded Ether
------------------------------------------------------------

namespace BorderController

namespace CoreProverEscrow

/- What will be outstanding for good, from the block time on. -/
def Escrow.stranded (time : Nat) (escrow : Escrow) : Nat :=
  match escrow.state with
  | .bothCommitted =>
      if time ≤ escrow.claimDeadline then
        0
      else if escrow.allowsTimedRelease then
        escrow.sellerAmount
      else
        escrow.buyerAmount + escrow.sellerAmount
  | .sellerClaimed =>
      if time ≤ escrow.claimDeadline then
        0
      else
        escrow.sellerAmount
  | .buyerClaimed => escrow.buyerAmount
  | _ => 0

def World.stranded (world : World) (orderId : Bytes32) : Nat :=
  (world.escrows orderId).stranded world.timestamp

namespace Escrow

variable {orderId : Bytes32}
variable {sender : Address}
variable {time later : Nat}
variable {payment : Payment}
variable {escrow escrow' : Escrow}

theorem stranded_le_outstanding
    (time : Nat)
    (escrow : Escrow) :
    escrow.stranded time ≤ escrow.outstanding := by
  unfold stranded outstanding
  cases escrow.state with
  | bothCommitted =>
      dsimp only
      split
      · exact Nat.zero_le _
      · split
        · exact Nat.le_add_left _ _
        · exact le_rfl
  | sellerClaimed =>
      dsimp only
      split
      · exact Nat.zero_le _
      · exact le_rfl
  | buyerClaimed => exact Nat.le_refl _
  | _ => exact Nat.zero_le _

/- Time only strands more. -/
theorem stranded_mono
    (hLater : time ≤ later)
    (escrow : Escrow) :
    escrow.stranded time ≤ escrow.stranded later := by
  unfold stranded
  cases escrow.state with
  | bothCommitted =>
      dsimp only
      by_cases hTime : time ≤ escrow.claimDeadline
      · rw [if_pos hTime]
        exact Nat.zero_le _
      · have hPast : ¬ later ≤ escrow.claimDeadline := by
          omega
        rw [if_neg hTime, if_neg hPast]
  | sellerClaimed =>
      dsimp only
      by_cases hTime : time ≤ escrow.claimDeadline
      · rw [if_pos hTime]
        exact Nat.zero_le _
      · have hPast : ¬ later ≤ escrow.claimDeadline := by
          omega
        rw [if_neg hTime, if_neg hPast]
  | _ => exact Nat.le_refl _

/- No payment brings stranded ether back. -/
theorem Pays.stranded_le
    (hPays :
      Escrow.Pays orderId sender time escrow payment escrow') :
    escrow.stranded time ≤ escrow'.stranded time := by
  unfold stranded
  cases hPays with
  | sellerClaim hState _ hTime =>
      simp only [hState, if_pos hTime, le_refl]
  | timedRelease hState hAllowed _ =>
      simp only [hState, hAllowed, if_true, le_refl]
  | buyerClaimFirst hState _ _ hTime =>
      simp only [hState, if_pos hTime]
      exact Nat.zero_le _
  | buyerClaimSecond hState _ _ hTime =>
      simp only [hState, if_pos hTime, le_refl]
  | refund hState _ =>
      simp only [hState, le_refl]

end Escrow

end CoreProverEscrow

end BorderController

------------------------------------------------------------
-- Stranded for Good
------------------------------------------------------------

namespace BorderController

namespace CoreProverEscrow

variable {world world' after : World}
variable {es : List (Transition World Transaction)}
variable {msg : Message}
variable {orderId : Bytes32}
variable {n : Nat}

/- Writing a record that strands no less. -/
private theorem le_stranded_write
    {orderId' : Bytes32}
    {escrow : Escrow}
    (hStranded : n ≤ world.stranded orderId)
    (hEscrows :
      after.escrows =
        Function.update world.escrows orderId' escrow)
    (hTime : after.timestamp = world.timestamp)
    (hWritten :
      (world.escrows orderId').stranded world.timestamp ≤
        escrow.stranded world.timestamp) :
    n ≤ after.stranded orderId := by
  unfold World.stranded at hStranded ⊢
  rw [hEscrows, hTime]
  by_cases hOrder : orderId = orderId'
  · subst hOrder
    rw [Function.update_self]
    exact le_trans hStranded hWritten
  · rw [Function.update_of_ne hOrder]
    exact hStranded

/- An order without both commitments strands nothing. -/
private theorem stranded_le_of_state
    {time : Nat}
    {escrow escrow' : Escrow}
    (hState :
      escrow.state = .none ∨ escrow.state = .buyerCommitted) :
    escrow.stranded time ≤ escrow'.stranded time := by
  have hZero : escrow.stranded time = 0 := by
    unfold Escrow.stranded
    rcases hState with hNone | hCommitted
    · rw [hNone]
    · rw [hCommitted]
  rw [hZero]
  exact Nat.zero_le _

/- No body, whatever its recipients do, frees anything. -/
theorem entry_keeps_stranded
    (hStranded : n ≤ world.stranded orderId) :
    (contract.entry msg world).Keeps contract
      (fun world => n ≤ world.stranded orderId) := by
  have hShape := msg.shape (world.enter msg)
  have hEntered : n ≤ (world.enter msg).stranded orderId :=
    hStranded
  show (msg.body (world.enter msg)).Keeps contract _
  generalize msg.body (world.enter msg) = proc at hShape
  cases hShape with
  | reverts reason => trivial
  | creates _ hFresh _ _ _ _ hSame =>
      exact le_stranded_write hEntered hSame.escrows
        hSame.timestamp (stranded_le_of_state (.inl hFresh))
  | deposits _ hState _ _ hSame =>
      exact le_stranded_write hEntered hSame.escrows
        hSame.timestamp (stranded_le_of_state (.inr hState))
  | signs _ _ hState _ _ hSame =>
      exact le_stranded_write hEntered hSame.escrows
        hSame.timestamp (stranded_le_of_state (.inr hState))
  | pays _ _ _ hPays hResume =>
      refine ⟨?_, ?_⟩
      · intro paid hPay
        rcases World.pay_eq_some hPay with ⟨_, hPaid⟩
        subst hPaid
        exact le_stranded_write hEntered rfl rfl
          hPays.stranded_le
      · intro resumed hResumed
        rcases hResume resumed with
          ⟨after, result, hResult, hSame⟩
        rw [hResult]
        show n ≤ after.stranded orderId
        unfold World.stranded at hResumed ⊢
        rw [hSame.escrows, hSame.timestamp]
        exact hResumed

/- What is stranded stays outstanding along every path. -/
theorem path_le_stranded
    (hPath : system.Path world es world')
    (hStranded : n ≤ world.stranded orderId) :
    n ≤ world'.stranded orderId := by
  refine hPath.invariant
    (fun world => n ≤ world.stranded orderId) hStranded ?_
  intro before tx after hBefore hStep
  cases hStep with
  | @call _ time msg hLater hRuns =>
      refine Reentrancy.Runs.keeps
        (fun _ _ => entry_keeps_stranded) ?_ hRuns
        (entry_keeps_stranded ?_)
      · rintro s _ ⟨amount, rfl⟩ hState
        exact hState
      · exact le_trans hBefore
          (Escrow.stranded_mono hLater _)
  | force amount => exact hBefore

end CoreProverEscrow

end BorderController

------------------------------------------------------------
-- Payments That Can Be Made
------------------------------------------------------------

namespace BorderController

namespace CoreProverEscrow

variable {world : World}
variable {orderId : Bytes32}
variable {sender : Address}
variable {time : Nat}
variable {payment : Payment}
variable {escrow escrow' : Escrow}

/- Every payment a record allows is made by some function. -/
theorem Escrow.Pays.exists_function
    (hPays :
      Escrow.Pays orderId sender time escrow payment escrow') :
    ∃ function, ∀ world paid,
      world.escrows orderId = escrow →
      world.timestamp = time →
      (world.setEscrow orderId escrow').pay payment =
        some paid →
      ∃ after,
        Reentrancy.Runs contract
            (Message.body ⟨sender, 0, function⟩ world)
            after ∧
          World.SameFunds paid after := by
  cases hPays with
  | sellerClaim hState hSender hTime =>
      refine ⟨.sellerClaimPayment orderId, ?_⟩
      rintro world paid rfl rfl hPay
      simp only [Message.body, sellerClaimPayment, nonpayable,
        hState, hSender, hTime, ne_eq, not_true_eq_false,
        if_false]
      exact ⟨_, .transfer hPay (.quiet paid) (.finish _ _),
        .emit (.refl paid) _⟩
  | timedRelease hState hAllowed hTime =>
      refine ⟨.triggerTimedRelease orderId, ?_⟩
      rintro world paid rfl rfl hPay
      simp only [Message.body, triggerTimedRelease,
        nonpayable, ne_eq, not_true_eq_false, if_false]
      rw [if_neg (not_not.mpr hState),
        if_neg (not_not.mpr hAllowed),
        if_neg (not_not.mpr hTime)]
      exact ⟨_, .transfer hPay (.quiet paid) (.finish _ _),
        .emit (.emit (.refl paid) _) _⟩
  | buyerClaimFirst hState hSender hAmount hTime =>
      refine ⟨.buyerClaimCounterEscrow orderId, ?_⟩
      rintro world paid rfl rfl hPay
      simp only [Message.body, buyerClaimCounterEscrow,
        nonpayable, hState, hSender, hAmount, hTime, ne_eq,
        true_or, not_true_eq_false, reduceCtorEq, if_false]
      exact ⟨_, .transfer hPay (.quiet paid) (.finish _ _),
        .emit (.refl paid) _⟩
  | buyerClaimSecond hState hSender hAmount hTime =>
      refine ⟨.buyerClaimCounterEscrow orderId, ?_⟩
      rintro world paid rfl rfl hPay
      simp only [Message.body, buyerClaimCounterEscrow,
        nonpayable, hState, hSender, hAmount, hTime, ne_eq,
        or_true, not_true_eq_false, if_false, if_true]
      exact ⟨_, .transfer hPay (.quiet paid) (.finish _ _),
        .emit (.refl paid) _⟩
  | refund hState hLate =>
      refine ⟨.refundBuyerTimeout orderId, ?_⟩
      rintro world paid rfl rfl hPay
      simp only [Message.body, refundBuyerTimeout,
        nonpayable, hState, hLate, ne_eq, not_true_eq_false,
        if_false]
      exact ⟨_, .transfer hPay (.quiet paid) (.finish _ _),
        .emit (.refl paid) _⟩

/- Solvency covers it, so it is a step of the contract. -/
theorem Escrow.Pays.exists_step
    (hReach : Reachable world)
    (hLater : world.timestamp ≤ time)
    (hPays :
      Escrow.Pays orderId sender time (world.escrows orderId)
        payment escrow) :
    ∃ tx after,
      system.Step world tx after ∧
        after.escrows orderId = escrow ∧
          after.timestamp = time := by
  have hCovered :=
    (hReach.observable.solvent.pays hPays).1
  rcases hPays.exists_function with ⟨function, hRuns⟩
  have hPay :
      ∃ paid,
        (({ world with timestamp := time }.enter
            ⟨sender, 0, function⟩).setEscrow orderId
          escrow).pay payment = some paid :=
    World.exists_pay_eq_some.mpr hCovered
  rcases hPay with ⟨paid, hPaid⟩
  rcases hRuns
      ({ world with timestamp := time }.enter
        ⟨sender, 0, function⟩)
      paid rfl rfl hPaid with
    ⟨after, hRun, hSame⟩
  rcases World.pay_eq_some hPaid with ⟨_, hEq⟩
  refine ⟨.call time ⟨sender, 0, function⟩, after,
    .call hLater hRun, ?_, ?_⟩
  · rw [hSame.escrows, hEq]
    exact World.escrows_setEscrow_self _ _ _
  · rw [hSame.timestamp, hEq]
    rfl

end CoreProverEscrow

end BorderController

------------------------------------------------------------
-- All That Is Not Stranded Can Be Paid
------------------------------------------------------------

namespace BorderController

namespace CoreProverEscrow

variable {world world' : World}
variable {orderId : Bytes32}

theorem Reachable.step
    {tx : Transaction}
    (hReach : Reachable world)
    (hStep : system.Step world tx world') :
    Reachable world' := by
  rcases hReach with ⟨timestamp, balance, es, hPath⟩
  exact ⟨timestamp, balance, _, hPath.snoc hStep⟩

/- Some path ends with this much outstanding on the order. -/
def Leaves
    (world : World)
    (orderId : Bytes32)
    (amount : Nat) :
    Prop :=
  ∃ es world',
    system.Path world es world' ∧
      (world'.escrows orderId).outstanding = amount

theorem Leaves.here
    (world : World)
    (orderId : Bytes32) :
    Leaves world orderId
      (world.escrows orderId).outstanding :=
  ⟨[], world, .nil world, rfl⟩

theorem Leaves.step
    {tx : Transaction}
    {amount : Nat}
    (hStep : system.Step world tx world')
    (hLeaves : Leaves world' orderId amount) :
    Leaves world orderId amount := by
  rcases hLeaves with ⟨es, last, hPath, hAmount⟩
  exact ⟨_, last, .cons hStep hPath, hAmount⟩

/- The counter-escrow can be claimed once the seller is paid. -/
private theorem leaves_of_sellerClaimed
    (hReach : Reachable world)
    (hState :
      (world.escrows orderId).state = .sellerClaimed) :
    Leaves world orderId (world.stranded orderId) := by
  unfold World.stranded Escrow.stranded
  rw [hState]
  dsimp only
  have hHere := Leaves.here world orderId
  unfold Escrow.outstanding at hHere
  rw [hState] at hHere
  dsimp only at hHere
  by_cases hTime :
      world.timestamp ≤ (world.escrows orderId).claimDeadline
  · rw [if_pos hTime]
    rcases Nat.eq_zero_or_pos
        (world.escrows orderId).sellerAmount with
      hZero | hPos
    · rw [hZero] at hHere
      exact hHere
    · rcases (Escrow.Pays.buyerClaimSecond hState rfl hPos
          hTime).exists_step hReach le_rfl with
        ⟨tx, after, hStep, hAfter, _⟩
      refine .step hStep ?_
      have hThere := Leaves.here after orderId
      rw [hAfter] at hThere
      exact hThere
  · rw [if_neg hTime]
    exact hHere

private theorem leaves_of_bothCommitted
    (hReach : Reachable world)
    (hState :
      (world.escrows orderId).state = .bothCommitted) :
    Leaves world orderId (world.stranded orderId) := by
  by_cases hTime :
      world.timestamp ≤ (world.escrows orderId).claimDeadline
  · -- The seller goes first, as the buyer would shut it out.
    rcases (Escrow.Pays.sellerClaim hState rfl
        hTime).exists_step hReach le_rfl with
      ⟨tx, after, hStep, hAfter, hNow⟩
    have hClaimed :
        (after.escrows orderId).state = .sellerClaimed := by
      rw [hAfter]
    have hLeaves :=
      leaves_of_sellerClaimed (hReach.step hStep) hClaimed
    have hSame :
        after.stranded orderId = world.stranded orderId := by
      unfold World.stranded Escrow.stranded
      rw [hAfter, hNow]
      simp only [hState, if_pos hTime]
    rw [hSame] at hLeaves
    exact .step hStep hLeaves
  · cases hAllowed :
        (world.escrows orderId).allowsTimedRelease with
    | false =>
        have hHere := Leaves.here world orderId
        unfold World.stranded Escrow.stranded
        unfold Escrow.outstanding at hHere
        simp only [hState, if_neg hTime, hAllowed] at hHere ⊢
        exact hHere
    | true =>
        have hRelease :=
          @Escrow.Pays.timedRelease orderId 0 _ _ hState
            hAllowed (le_max_right world.timestamp _)
        rcases hRelease.exists_step hReach
            (le_max_left _ _) with
          ⟨tx, after, hStep, hAfter, _⟩
        refine .step hStep ?_
        have hThere := Leaves.here after orderId
        unfold World.stranded Escrow.stranded
        simp only [hState, if_neg hTime, hAllowed, if_true]
        rw [hAfter] at hThere
        exact hThere

/- A deposit alone can be refunded after its deadline. -/
private theorem leaves_of_buyerCommitted
    (hReach : Reachable world)
    (hState :
      (world.escrows orderId).state = .buyerCommitted) :
    Leaves world orderId (world.stranded orderId) := by
  have hLate :
      (world.escrows orderId).commitmentDeadline <
        max world.timestamp
          ((world.escrows orderId).commitmentDeadline + 1) := by
    omega
  have hRefund :=
    @Escrow.Pays.refund orderId 0 _ _ hState hLate
  rcases hRefund.exists_step hReach (le_max_left _ _) with
    ⟨tx, after, hStep, hAfter, _⟩
  refine .step hStep ?_
  have hThere := Leaves.here after orderId
  unfold World.stranded Escrow.stranded
  rw [hState]
  rw [hAfter] at hThere
  exact hThere

/- In every other state nothing can be paid any more. -/
private theorem leaves_of_eq
    (hEq :
      world.stranded orderId =
        (world.escrows orderId).outstanding) :
    Leaves world orderId (world.stranded orderId) := by
  rw [hEq]
  exact .here world orderId

/-
  What is stranded is the least that any continuation leaves
  outstanding, whatever messages it is made of and whatever
  recipients do.
-/
theorem stranded_isLeast
    (hReach : Reachable world)
    (orderId : Bytes32) :
    IsLeast (Leaves world orderId)
      (world.stranded orderId) := by
  constructor
  · cases hState : (world.escrows orderId).state with
    | bothCommitted => exact leaves_of_bothCommitted hReach hState
    | sellerClaimed => exact leaves_of_sellerClaimed hReach hState
    | buyerCommitted =>
        exact leaves_of_buyerCommitted hReach hState
    | _ =>
        apply leaves_of_eq
        unfold World.stranded Escrow.stranded
          Escrow.outstanding
        rw [hState]
  · rintro amount ⟨es, last, hPath, rfl⟩
    exact le_trans (path_le_stranded hPath le_rfl)
      (Escrow.stranded_le_outstanding _ _)

end CoreProverEscrow

end BorderController

------------------------------------------------------------
-- A Buyer Who Claims First
------------------------------------------------------------

namespace BorderController

namespace CoreProverEscrow

/- Both have committed, and the buyer takes the 40. -/
def eagerBuyerOrder : List (Nat × Message) :=
  [(1000,
      ⟨0xB0B, 500,
        .createEscrow 7 0x5E11 86400 604800 false 0⟩),
    (2000, ⟨0x5E11, 40, .sellerCommitEscrow 7⟩),
    (3000, ⟨0xB0B, 0, .buyerClaimCounterEscrow 7⟩)]

/- The payment of 500 stays in the contract for ever. -/
theorem stranded_isLeast_eagerBuyer :
    ∃ world,
      replay accepting eagerBuyerOrder (.deployed 1000 0) =
          some world ∧
        world.stranded 7 = 500 ∧
          IsLeast (Leaves world 7) (world.stranded 7) :=
  ⟨_, rfl, rfl,
    stranded_isLeast
      (@Reachable.replay _ _ accepting eagerBuyerOrder
        (.deployed 1000 0) rfl) 7⟩

end CoreProverEscrow

end BorderController

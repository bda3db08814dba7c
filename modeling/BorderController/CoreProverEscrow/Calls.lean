import BorderController.CoreProverEscrow.Solvency

/-
  When a call succeeds, with recipients that accept or reject
  ether and call nobody back.

  Key definitions include:
    * `Succeeds`

  Key theorems include:
    * `succeeds_sellerCommitEscrow`
    * `succeeds_sellerCommitSignature`
    * `succeeds_sellerClaimPayment`
    * `succeeds_buyerClaimCounterEscrow`
    * `succeeds_refundBuyerTimeout`
    * `call_pays`
-/

------------------------------------------------------------
-- Successful Calls
------------------------------------------------------------

namespace BorderController

namespace CoreProverEscrow

/- The call does not revert. -/
def Succeeds
    (accepts : Payment → Bool)
    (timestamp : Nat)
    (msg : Message)
    (world : World) :
    Prop :=
  (call accepts timestamp msg world).isSome

instance
    (accepts : Payment → Bool)
    (timestamp : Nat)
    (msg : Message)
    (world : World) :
    Decidable (Succeeds accepts timestamp msg world) :=
  inferInstanceAs (Decidable (_ = true))

variable {accepts : Payment → Bool}
variable {time : Nat}
variable {sender : Address}
variable {value : Nat}
variable {orderId : Bytes32}
variable {world : World}

theorem World.exists_pay_eq_some
    {payment : Payment} :
    (∃ paid, world.pay payment = some paid) ↔
      payment.amount ≤ world.balance := by
  constructor
  · rintro ⟨paid, hPay⟩
    exact (World.pay_eq_some hPay).1
  · intro hCovered
    exact ⟨_, if_pos hCovered⟩

theorem succeeds_iff
    {msg : Message} :
    Succeeds accepts time msg world ↔
      ((msg.body
          ({ world with timestamp := time }.enter
            msg)).settle
        contract accepts).isSome :=
  Iff.rfl

/- A transfer after which nothing can fail. -/
private theorem settle_last
    {payment : Payment}
    {resume : World → Proc}
    (hResume :
      ∀ paid, ∃ after result,
        resume paid = .finish after result) :
    ((Reentrancy.Proc.transfer world payment resume).settle
        contract accepts).isSome ↔
      accepts payment ∧ payment.amount ≤ world.balance := by
  rw [Reentrancy.Proc.settle_transfer,
    ← World.exists_pay_eq_some]
  refine and_congr_right fun _ => exists_congr fun paid => ?_
  apply and_iff_left
  rcases hResume paid with ⟨after, result, hFinish⟩
  rw [hFinish]
  rfl

theorem succeeds_sellerCommitEscrow :
    Succeeds accepts time
        ⟨sender, value, .sellerCommitEscrow orderId⟩ world ↔
      (world.escrows orderId).state = .buyerCommitted ∧
        sender = (world.escrows orderId).seller ∧
          time ≤ (world.escrows orderId).commitmentDeadline := by
  rw [succeeds_iff]
  unfold Message.body sellerCommitEscrow
  simp only [Reentrancy.Proc.settle_unless, not_not]
  exact and_congr_right fun _ => and_congr_right fun _ =>
    and_iff_left rfl

theorem succeeds_sellerCommitSignature
    {signature : List UInt8}
    {businessName businessLicense : String}
    {documentHash : Bytes32} :
    Succeeds accepts time
        ⟨sender, value,
          .sellerCommitSignature orderId signature
            businessName businessLicense documentHash⟩
        world ↔
      value = 0 ∧
        (world.escrows orderId).state = .buyerCommitted ∧
          sender = (world.escrows orderId).seller ∧
            time ≤
              (world.escrows orderId).commitmentDeadline := by
  rw [succeeds_iff]
  unfold Message.body sellerCommitSignature nonpayable
  simp only [Reentrancy.Proc.settle_unless, not_not]
  exact and_congr_right fun _ => and_congr_right fun _ =>
    and_congr_right fun _ => and_iff_left rfl

theorem succeeds_sellerClaimPayment :
    Succeeds accepts time
        ⟨sender, 0, .sellerClaimPayment orderId⟩ world ↔
      (world.escrows orderId).state = .bothCommitted ∧
        sender = (world.escrows orderId).seller ∧
          time ≤ (world.escrows orderId).claimDeadline ∧
            accepts
                { orderId
                  purpose := .payment
                  recipient := (world.escrows orderId).seller
                  amount :=
                    (world.escrows orderId).buyerAmount } ∧
              (world.escrows orderId).buyerAmount ≤
                world.balance := by
  rw [succeeds_iff]
  unfold Message.body sellerClaimPayment nonpayable
  simp only [Reentrancy.Proc.settle_unless, not_not,
    true_and]
  exact and_congr_right fun _ => and_congr_right fun _ =>
    and_congr_right fun _ => settle_last fun _ => ⟨_, _, rfl⟩

theorem succeeds_buyerClaimCounterEscrow :
    Succeeds accepts time
        ⟨sender, 0, .buyerClaimCounterEscrow orderId⟩ world ↔
      ((world.escrows orderId).state = .bothCommitted ∨
          (world.escrows orderId).state = .sellerClaimed) ∧
        sender = (world.escrows orderId).buyer ∧
          0 < (world.escrows orderId).sellerAmount ∧
            time ≤ (world.escrows orderId).claimDeadline ∧
              accepts
                  { orderId
                    purpose := .counterEscrow
                    recipient := (world.escrows orderId).buyer
                    amount :=
                      (world.escrows orderId).sellerAmount } ∧
                (world.escrows orderId).sellerAmount ≤
                  world.balance := by
  rw [succeeds_iff]
  unfold Message.body buyerClaimCounterEscrow nonpayable
  simp only [Reentrancy.Proc.settle_unless, not_not,
    true_and]
  exact and_congr_right fun _ => and_congr_right fun _ =>
    and_congr_right fun _ => and_congr_right fun _ =>
      settle_last fun _ => ⟨_, _, rfl⟩

theorem succeeds_refundBuyerTimeout :
    Succeeds accepts time
        ⟨sender, 0, .refundBuyerTimeout orderId⟩ world ↔
      (world.escrows orderId).state = .buyerCommitted ∧
        (world.escrows orderId).commitmentDeadline < time ∧
          accepts
              { orderId
                purpose := .refund
                recipient := (world.escrows orderId).buyer
                amount :=
                  (world.escrows orderId).buyerAmount } ∧
            (world.escrows orderId).buyerAmount ≤
              world.balance := by
  rw [succeeds_iff]
  unfold Message.body refundBuyerTimeout nonpayable
  simp only [Reentrancy.Proc.settle_unless, not_not,
    true_and]
  exact and_congr_right fun _ => and_congr_right fun _ =>
    settle_last fun _ => ⟨_, _, rfl⟩

end CoreProverEscrow

end BorderController

------------------------------------------------------------
-- Effects of Successful Calls
------------------------------------------------------------

namespace BorderController

namespace CoreProverEscrow

variable {accepts : Payment → Bool}
variable {time : Nat}
variable {msg : Message}
variable {world after : World}
variable {result : Returned}

/- A call that commits nobody pays, and writes one record. -/
theorem call_pays
    (hOpens : msg.function.opens = false)
    (hCall :
      call accepts time msg world = some (after, result)) :
    ∃ payment escrow,
      Escrow.Pays msg.function.orderId msg.sender time
          (world.escrows msg.function.orderId) payment
          escrow ∧
        after.escrows =
          Function.update world.escrows msg.function.orderId
            escrow := by
  have hShape :=
    msg.shape ({ world with timestamp := time }.enter msg)
  change
    (msg.body ({ world with timestamp := time }.enter
      msg)).settle contract accepts = _ at hCall
  generalize
    msg.body ({ world with timestamp := time }.enter msg) =
      proc at hShape hCall
  cases hShape with
  | reverts reason => contradiction
  | creates hFunction =>
      rcases hFunction with ⟨_, _, _, _, _, hFunction⟩
      rw [hFunction] at hOpens
      contradiction
  | deposits hFunction =>
      rw [hFunction] at hOpens
      contradiction
  | signs hFunction =>
      rcases hFunction with ⟨_, _, _, _, hFunction⟩
      rw [hFunction] at hOpens
      contradiction
  | @pays orderId payment escrow resume hOrder _ _ hPays
      hResume =>
      subst hOrder
      refine ⟨payment, escrow, hPays, ?_⟩
      rw [Reentrancy.Proc.settle] at hCall
      split at hCall
      · split at hCall
        · contradiction
        · rename_i paid hPay
          rcases hResume paid with
            ⟨settled, _, hFinish, hSame⟩
          rw [hFinish] at hCall
          cases hCall
          rw [hSame.escrows, (World.pay_eq_some hPay).2]
          rfl
      · contradiction

end CoreProverEscrow

end BorderController

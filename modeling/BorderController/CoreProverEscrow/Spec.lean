import BorderController.CoreProverEscrow.Functions

/-
  What a message can do, said once.

  Every body reverts, or writes the one escrow record the
  message names and at most pays once from it.

  Key definitions include:
    * `Escrow.Pays`
    * `Shape`

  Key theorems include:
    * `Message.shape`
-/

------------------------------------------------------------
-- Payments From One Escrow
------------------------------------------------------------

namespace BorderController

namespace CoreProverEscrow

/-
  A call by `sender` at `time` pays from the escrow and leaves
  it as the second record.
-/
inductive Escrow.Pays
    (orderId : Bytes32)
    (sender : Address)
    (time : Nat)
    (escrow : Escrow) :
    Payment → Escrow → Prop
  | sellerClaim :
      escrow.state = .bothCommitted →
      sender = escrow.seller →
      time ≤ escrow.claimDeadline →
      Pays orderId sender time escrow
        { orderId
          purpose := .payment
          recipient := escrow.seller
          amount := escrow.buyerAmount }
        { escrow with state := .sellerClaimed }
  | timedRelease :
      escrow.state = .bothCommitted →
      escrow.allowsTimedRelease = true →
      escrow.timedReleaseTime ≤ time →
      Pays orderId sender time escrow
        { orderId
          purpose := .payment
          recipient := escrow.seller
          amount := escrow.buyerAmount }
        { escrow with state := .sellerClaimed }
  | buyerClaimFirst :
      escrow.state = .bothCommitted →
      sender = escrow.buyer →
      0 < escrow.sellerAmount →
      time ≤ escrow.claimDeadline →
      Pays orderId sender time escrow
        { orderId
          purpose := .counterEscrow
          recipient := escrow.buyer
          amount := escrow.sellerAmount }
        { escrow with
          sellerAmount := 0
          state := .buyerClaimed }
  | buyerClaimSecond :
      escrow.state = .sellerClaimed →
      sender = escrow.buyer →
      0 < escrow.sellerAmount →
      time ≤ escrow.claimDeadline →
      Pays orderId sender time escrow
        { orderId
          purpose := .counterEscrow
          recipient := escrow.buyer
          amount := escrow.sellerAmount }
        { escrow with
          sellerAmount := 0
          state := .bothClaimed }
  | refund :
      escrow.state = .buyerCommitted →
      escrow.commitmentDeadline < time →
      Pays orderId sender time escrow
        { orderId
          purpose := .refund
          recipient := escrow.buyer
          amount := escrow.buyerAmount }
        { escrow with state := .expired }

/- The functions that deposit or commit. -/
def ExternalFunction.opens : ExternalFunction → Bool
  | .createEscrow .. => true
  | .sellerCommitEscrow _ => true
  | .sellerCommitSignature .. => true
  | _ => false

/- The functions with which a seller commits. -/
def ExternalFunction.commits : ExternalFunction → Bool
  | .sellerCommitEscrow _ => true
  | .sellerCommitSignature .. => true
  | _ => false

end CoreProverEscrow

end BorderController

------------------------------------------------------------
-- Shapes of Bodies
------------------------------------------------------------

namespace BorderController

namespace CoreProverEscrow

/- The two worlds differ in events and signatures only. -/
structure World.SameFunds (world world' : World) : Prop where
  escrows : world'.escrows = world.escrows
  balance : world'.balance = world.balance
  trace : world'.trace = world.trace
  timestamp : world'.timestamp = world.timestamp

namespace World.SameFunds

variable {world world' : World}

theorem refl (world : World) : World.SameFunds world world :=
  ⟨rfl, rfl, rfl, rfl⟩

theorem emit
    (hSame : World.SameFunds world world')
    (event : Event) :
    World.SameFunds world (world'.emit event) :=
  ⟨hSame.escrows, hSame.balance, hSame.trace,
    hSame.timestamp⟩

end World.SameFunds

/- The shapes of a body; the world is the one entered. -/
inductive Shape (msg : Message) (world : World) : Proc → Prop
  | reverts (reason : String) :
      Shape msg world (.revert reason)
  | creates
      {orderId : Bytes32} {escrow : Escrow} {after : World}
      {result : Returned} :
      (∃ seller commitmentWindow claimWindow
          allowsTimedRelease timedReleaseDelay,
        msg.function =
          .createEscrow orderId seller commitmentWindow
            claimWindow allowsTimedRelease
            timedReleaseDelay) →
      (world.escrows orderId).state = .none →
      escrow.state = .buyerCommitted →
      escrow.buyer = msg.sender →
      escrow.buyerAmount = msg.value →
      escrow.sellerAmount = 0 →
      World.SameFunds (world.setEscrow orderId escrow) after →
      Shape msg world (.finish after result)
  | deposits
      {orderId : Bytes32} {after : World} {result : Returned} :
      msg.function = .sellerCommitEscrow orderId →
      (world.escrows orderId).state = .buyerCommitted →
      msg.sender = (world.escrows orderId).seller →
      world.timestamp ≤
        (world.escrows orderId).commitmentDeadline →
      World.SameFunds
        (world.setEscrow orderId
          { world.escrows orderId with
            sellerAmount := msg.value
            state := .bothCommitted })
        after →
      Shape msg world (.finish after result)
  | signs
      {orderId : Bytes32} {after : World} {result : Returned} :
      (∃ signature businessName businessLicense documentHash,
        msg.function =
          .sellerCommitSignature orderId signature
            businessName businessLicense documentHash) →
      msg.value = 0 →
      (world.escrows orderId).state = .buyerCommitted →
      msg.sender = (world.escrows orderId).seller →
      world.timestamp ≤
        (world.escrows orderId).commitmentDeadline →
      World.SameFunds
        (world.setEscrow orderId
          { world.escrows orderId with
            state := .bothCommitted })
        after →
      Shape msg world (.finish after result)
  | pays
      {orderId : Bytes32} {payment : Payment}
      {escrow : Escrow} {resume : World → Proc} :
      msg.function.orderId = orderId →
      msg.function.opens = false →
      msg.value = 0 →
      Escrow.Pays orderId msg.sender world.timestamp
        (world.escrows orderId) payment escrow →
      (∀ world', ∃ after result,
        resume world' = .finish after result ∧
          World.SameFunds world' after) →
      Shape msg world
        (.transfer (world.setEscrow orderId escrow) payment
          resume)

variable {msg : Message}
variable {world : World}
variable {orderId : Bytes32}

/- A body behind a check has the shape of the body. -/
theorem Shape.unless
    {P : Prop}
    [Decidable P]
    {reason : String}
    {body : Proc}
    (hShape : ¬ P → Shape msg world body) :
    Shape msg world (if P then .revert reason else body) := by
  by_cases hRefused : P
  · rw [if_pos hRefused]
    exact .reverts reason
  · rw [if_neg hRefused]
    exact hShape hRefused

private theorem createEscrow_shape
    {seller : Address}
    {commitmentWindow claimWindow timedReleaseDelay : Nat}
    {allowsTimedRelease : Bool}
    (hFunction :
      msg.function =
        .createEscrow orderId seller commitmentWindow
          claimWindow allowsTimedRelease timedReleaseDelay) :
    Shape msg world
      (createEscrow orderId seller commitmentWindow claimWindow
        allowsTimedRelease timedReleaseDelay msg world) := by
  refine .unless fun _ => .unless fun _ =>
    .unless fun hState => ?_
  split
  · exact .reverts _
  · split
    · exact .reverts _
    · split
      · exact .reverts _
      · exact .creates ⟨_, _, _, _, _, hFunction⟩
          (not_not.mp hState) rfl rfl rfl rfl
          (.emit (.refl _) _)

private theorem sellerCommitEscrow_shape
    (hFunction : msg.function = .sellerCommitEscrow orderId) :
    Shape msg world
      (sellerCommitEscrow orderId msg world) := by
  refine .unless fun hState => .unless fun hSender =>
    .unless fun hTime => ?_
  exact .deposits hFunction (not_not.mp hState)
    (not_not.mp hSender) (not_not.mp hTime)
    (.emit (.refl _) _)

private theorem sellerCommitSignature_shape
    {signature : List UInt8}
    {businessName businessLicense : String}
    {documentHash : Bytes32}
    (hFunction :
      msg.function =
        .sellerCommitSignature orderId signature businessName
          businessLicense documentHash) :
    Shape msg world
      (sellerCommitSignature orderId signature businessName
        businessLicense documentHash msg world) := by
  refine .unless fun hValue => .unless fun hState =>
    .unless fun hSender => .unless fun hTime => ?_
  exact .signs ⟨_, _, _, _, hFunction⟩ (not_not.mp hValue)
    (not_not.mp hState) (not_not.mp hSender)
    (not_not.mp hTime) ⟨rfl, rfl, rfl, rfl⟩

private theorem sellerClaimPayment_shape
    (hFunction : msg.function = .sellerClaimPayment orderId) :
    Shape msg world
      (sellerClaimPayment orderId msg world) := by
  refine .unless fun hValue => .unless fun hState =>
    .unless fun hSender => .unless fun hTime => ?_
  refine .pays (by rw [hFunction]; rfl)
    (by rw [hFunction]; rfl) (not_not.mp hValue)
    (.sellerClaim (not_not.mp hState) (not_not.mp hSender)
      (not_not.mp hTime)) ?_
  intro world'
  exact ⟨_, _, rfl, .emit (.refl world') _⟩

private theorem buyerClaimCounterEscrow_shape
    (hFunction :
      msg.function = .buyerClaimCounterEscrow orderId) :
    Shape msg world
      (buyerClaimCounterEscrow orderId msg world) := by
  refine .unless fun hValue => .unless fun hState =>
    .unless fun hSender => .unless fun hAmount =>
      .unless fun hTime => ?_
  refine .pays (by rw [hFunction]; rfl)
    (by rw [hFunction]; rfl) (not_not.mp hValue) ?_ ?_
  · rcases not_not.mp hState with hBoth | hSeller
    · rw [if_neg (by simp [hBoth])]
      exact .buyerClaimFirst hBoth (not_not.mp hSender)
        (not_not.mp hAmount) (not_not.mp hTime)
    · rw [if_pos hSeller]
      exact .buyerClaimSecond hSeller (not_not.mp hSender)
        (not_not.mp hAmount) (not_not.mp hTime)
  · intro world'
    exact ⟨_, _, rfl, .emit (.refl world') _⟩

private theorem triggerTimedRelease_shape
    (hFunction : msg.function = .triggerTimedRelease orderId) :
    Shape msg world
      (triggerTimedRelease orderId msg world) := by
  refine .unless fun hValue => .unless fun hState =>
    .unless fun hAllowed => .unless fun hTime => ?_
  refine .pays (by rw [hFunction]; rfl)
    (by rw [hFunction]; rfl) (not_not.mp hValue)
    (.timedRelease (not_not.mp hState) (not_not.mp hAllowed)
      (not_not.mp hTime)) ?_
  intro world'
  exact ⟨_, _, rfl, .emit (.emit (.refl world') _) _⟩

private theorem refundBuyerTimeout_shape
    (hFunction : msg.function = .refundBuyerTimeout orderId) :
    Shape msg world
      (refundBuyerTimeout orderId msg world) := by
  refine .unless fun hValue => .unless fun hState =>
    .unless fun hTime => ?_
  refine .pays (by rw [hFunction]; rfl)
    (by rw [hFunction]; rfl) (not_not.mp hValue)
    (.refund (not_not.mp hState) (not_not.mp hTime)) ?_
  intro world'
  exact ⟨_, _, rfl, .emit (.refl world') _⟩

/- Every body has one of the shapes. -/
theorem Message.shape
    (msg : Message)
    (world : World) :
    Shape msg world (msg.body world) := by
  unfold Message.body
  cases hFunction : msg.function with
  | createEscrow orderId seller commitmentWindow claimWindow
      allowsTimedRelease timedReleaseDelay =>
      exact createEscrow_shape hFunction
  | sellerCommitEscrow orderId =>
      exact sellerCommitEscrow_shape hFunction
  | sellerCommitSignature orderId signature businessName
      businessLicense documentHash =>
      exact sellerCommitSignature_shape hFunction
  | sellerClaimPayment orderId =>
      exact sellerClaimPayment_shape hFunction
  | buyerClaimCounterEscrow orderId =>
      exact buyerClaimCounterEscrow_shape hFunction
  | triggerTimedRelease orderId =>
      exact triggerTimedRelease_shape hFunction
  | refundBuyerTimeout orderId =>
      exact refundBuyerTimeout_shape hFunction

end CoreProverEscrow

end BorderController

import BorderController.CoreProverEscrow.Types
import BorderController.Library.Reentrancy

/-
  The external functions of the `CoreProverEscrow` contract.

  A function is a procedure that reverts with a reason, ends,
  or makes its one `transfer` and goes on in whatever world the
  recipient leaves.

  Key definitions include:
    * `createEscrow`
    * `sellerCommitEscrow`, `sellerCommitSignature`
    * `sellerClaimPayment`, `buyerClaimCounterEscrow`
    * `triggerTimedRelease`, `refundBuyerTimeout`
    * `contract`
-/

------------------------------------------------------------
-- Procedures of the Contract
------------------------------------------------------------

namespace BorderController

namespace CoreProverEscrow

/- What an external function returns. -/
inductive Returned where
  | nothing
  | bytes32 (value : Bytes32)
  | uint256 (value : Nat)
deriving DecidableEq, Repr

abbrev Proc :=
  Reentrancy.Proc World Payment String Returned

/- Checked `uint256` addition. -/
def checkedAdd (a b : Nat) : Option Nat :=
  if a + b < 2 ^ 256 then some (a + b) else none

/- The panic of an arithmetic overflow. -/
def overflow : String := "Panic(0x11)"

/- Only `payable` functions take ether. -/
def nonpayable
    (msg : Message)
    (body : Proc) :
    Proc :=
  if msg.value ≠ 0 then
    .revert ""
  else
    body

end CoreProverEscrow

end BorderController

------------------------------------------------------------
-- Commitment
------------------------------------------------------------

namespace BorderController

namespace CoreProverEscrow

def createEscrow
    (orderId : Bytes32)
    (seller : Address)
    (commitmentWindow claimWindow : Nat)
    (allowsTimedRelease : Bool)
    (timedReleaseDelay : Nat)
    (msg : Message)
    (world : World) :
    Proc :=
  if ¬ msg.value > 0 then
    .revert "Must send payment"
  else if seller = 0 then
    .revert "Invalid seller"
  else if (world.escrows orderId).state ≠ .none then
    .revert "Escrow already exists"
  else
    match checkedAdd world.timestamp commitmentWindow with
    | none => .revert overflow
    | some commitmentDeadline =>
        match checkedAdd commitmentDeadline claimWindow with
        | none => .revert overflow
        | some claimDeadline =>
            match
              if allowsTimedRelease then
                checkedAdd commitmentDeadline timedReleaseDelay
              else
                some 0 with
            | none => .revert overflow
            | some timedReleaseTime =>
                let world :=
                  world.setEscrow orderId
                    { buyer := msg.sender
                      seller
                      buyerAmount := msg.value
                      sellerAmount := 0
                      state := .buyerCommitted
                      createdAt := world.timestamp
                      commitmentDeadline
                      claimDeadline
                      allowsTimedRelease
                      timedReleaseTime }
                .finish
                  (world.emit
                    (.escrowCreated orderId msg.sender seller
                      msg.value))
                  (.bytes32 orderId)

def sellerCommitEscrow
    (orderId : Bytes32)
    (msg : Message)
    (world : World) :
    Proc :=
  let escrow := world.escrows orderId
  if escrow.state ≠ .buyerCommitted then
    .revert "Invalid state"
  else if msg.sender ≠ escrow.seller then
    .revert "Not seller"
  else if ¬ world.timestamp ≤ escrow.commitmentDeadline then
    .revert "Commitment deadline passed"
  else
    let world :=
      world.setEscrow orderId
        { escrow with
          sellerAmount := msg.value
          state := .bothCommitted }
    .finish (world.emit (.bothCommitted orderId)) .nothing

def sellerCommitSignature
    (orderId : Bytes32)
    (signature : List UInt8)
    (businessName businessLicense : String)
    (documentHash : Bytes32)
    (msg : Message)
    (world : World) :
    Proc :=
  nonpayable msg <|
    let escrow := world.escrows orderId
    if escrow.state ≠ .buyerCommitted then
      .revert "Invalid state"
    else if msg.sender ≠ escrow.seller then
      .revert "Not seller"
    else if ¬ world.timestamp ≤ escrow.commitmentDeadline then
      .revert "Commitment deadline passed"
    else
      let world :=
        world.setLegalSignature orderId
          { signature
            businessName
            businessLicense
            documentHash
            timestamp := world.timestamp }
      let world :=
        world.setEscrow orderId
          { escrow with state := .bothCommitted }
      .finish (world.emit (.bothCommitted orderId)) .nothing

end CoreProverEscrow

end BorderController

------------------------------------------------------------
-- Claims
------------------------------------------------------------

namespace BorderController

namespace CoreProverEscrow

def sellerClaimPayment
    (orderId : Bytes32)
    (msg : Message)
    (world : World) :
    Proc :=
  nonpayable msg <|
    let escrow := world.escrows orderId
    if escrow.state ≠ .bothCommitted then
      .revert "Not both committed"
    else if msg.sender ≠ escrow.seller then
      .revert "Not seller"
    else if ¬ world.timestamp ≤ escrow.claimDeadline then
      .revert "Claim deadline passed"
    else
      .transfer
        (world.setEscrow orderId
          { escrow with state := .sellerClaimed })
        { orderId
          purpose := .payment
          recipient := escrow.seller
          amount := escrow.buyerAmount }
        fun world =>
          let receiptId := orderId.toNat
          .finish
            (world.emit
              (.paymentClaimed orderId
                (world.escrows orderId).seller receiptId))
            (.uint256 receiptId)

def buyerClaimCounterEscrow
    (orderId : Bytes32)
    (msg : Message)
    (world : World) :
    Proc :=
  nonpayable msg <|
    let escrow := world.escrows orderId
    if ¬ (escrow.state = .bothCommitted ∨
        escrow.state = .sellerClaimed) then
      .revert "Invalid state"
    else if msg.sender ≠ escrow.buyer then
      .revert "Not buyer"
    else if ¬ escrow.sellerAmount > 0 then
      .revert "No counter-escrow"
    else if ¬ world.timestamp ≤ escrow.claimDeadline then
      .revert "Claim deadline passed"
    else
      let amount := escrow.sellerAmount
      .transfer
        (world.setEscrow orderId
          { escrow with
            sellerAmount := 0
            state :=
              if escrow.state = .sellerClaimed then
                .bothClaimed
              else
                .buyerClaimed })
        { orderId
          purpose := .counterEscrow
          recipient := escrow.buyer
          amount }
        fun world =>
          .finish
            (world.emit
              (.counterEscrowClaimed orderId
                (world.escrows orderId).buyer amount))
            (.uint256 amount)

end CoreProverEscrow

end BorderController

------------------------------------------------------------
-- Timeouts
------------------------------------------------------------

namespace BorderController

namespace CoreProverEscrow

def triggerTimedRelease
    (orderId : Bytes32)
    (msg : Message)
    (world : World) :
    Proc :=
  nonpayable msg <|
    let escrow := world.escrows orderId
    if escrow.state ≠ .bothCommitted then
      .revert "Not both committed"
    else if ¬ escrow.allowsTimedRelease then
      .revert "Timed release not enabled"
    else if ¬ world.timestamp ≥ escrow.timedReleaseTime then
      .revert "Too early for timed release"
    else
      .transfer
        (world.setEscrow orderId
          { escrow with state := .sellerClaimed })
        { orderId
          purpose := .payment
          recipient := escrow.seller
          amount := escrow.buyerAmount }
        fun world =>
          .finish
            ((world.emit (.timedReleaseTriggered orderId)).emit
              (.paymentClaimed orderId
                (world.escrows orderId).seller orderId.toNat))
            .nothing

def refundBuyerTimeout
    (orderId : Bytes32)
    (msg : Message)
    (world : World) :
    Proc :=
  nonpayable msg <|
    let escrow := world.escrows orderId
    if escrow.state ≠ .buyerCommitted then
      .revert "Invalid state"
    else if ¬ world.timestamp > escrow.commitmentDeadline then
      .revert "Commitment deadline not passed"
    else
      .transfer
        (world.setEscrow orderId
          { escrow with state := .expired })
        { orderId
          purpose := .refund
          recipient := escrow.buyer
          amount := escrow.buyerAmount }
        fun world =>
          let escrow := world.escrows orderId
          .finish
            (world.emit
              (.refundProcessed orderId escrow.buyer
                escrow.buyerAmount))
            .nothing

end CoreProverEscrow

end BorderController

------------------------------------------------------------
-- The Contract
------------------------------------------------------------

namespace BorderController

namespace CoreProverEscrow

/- The body a message runs, in the world it has entered. -/
def Message.body (msg : Message) (world : World) : Proc :=
  match msg.function with
  | .createEscrow orderId seller commitmentWindow claimWindow
      allowsTimedRelease timedReleaseDelay =>
      createEscrow orderId seller commitmentWindow claimWindow
        allowsTimedRelease timedReleaseDelay msg world
  | .sellerCommitEscrow orderId =>
      sellerCommitEscrow orderId msg world
  | .sellerCommitSignature orderId signature businessName
      businessLicense documentHash =>
      sellerCommitSignature orderId signature businessName
        businessLicense documentHash msg world
  | .sellerClaimPayment orderId =>
      sellerClaimPayment orderId msg world
  | .buyerClaimCounterEscrow orderId =>
      buyerClaimCounterEscrow orderId msg world
  | .triggerTimedRelease orderId =>
      triggerTimedRelease orderId msg world
  | .refundBuyerTimeout orderId =>
      refundBuyerTimeout orderId msg world

/- A recipient may call any function and force ether. -/
def contract :
    Reentrancy.Contract World Message Payment String Returned
    where
  entry msg world := msg.body (world.enter msg)
  pay := World.pay
  drift world world' := ∃ amount, world' = world.force amount

/-
  Call the contract at a block time, with recipients that call
  nobody back; `none` is a revert.
-/
def call
    (accepts : Payment → Bool)
    (timestamp : Nat)
    (msg : Message)
    (world : World) :
    Option (World × Returned) :=
  (contract.entry msg
    { world with timestamp }).settle contract accepts

end CoreProverEscrow

end BorderController

import Mathlib.Data.BitVec
import Mathlib.Logic.Function.Basic

/-
  Storage of the `CoreProverEscrow` contract, and the accounts
  and messages around it.

  A `uint256` is a natural number; sums that do not fit revert.

  Key definitions include:
    * `EscrowState`, `Escrow`, `LegalSignature`
    * `ExternalFunction`, `Message`
    * `Payment`
    * `World`
-/

------------------------------------------------------------
-- Storage
------------------------------------------------------------

namespace BorderController

namespace CoreProverEscrow

abbrev Address := BitVec 160

abbrev Bytes32 := BitVec 256

inductive EscrowState where
  | none
  | buyerCommitted
  | sellerCommitted
  | bothCommitted
  | sellerClaimed
  | buyerClaimed
  | bothClaimed
  | disputed
  | expired
deriving DecidableEq, Repr

structure Escrow where
  buyer : Address
  seller : Address
  buyerAmount : Nat
  sellerAmount : Nat
  state : EscrowState
  createdAt : Nat
  commitmentDeadline : Nat
  claimDeadline : Nat
  allowsTimedRelease : Bool
  timedReleaseTime : Nat
deriving DecidableEq, Repr

/- The zero value of unwritten storage. -/
def Escrow.zero : Escrow :=
  { buyer := 0
    seller := 0
    buyerAmount := 0
    sellerAmount := 0
    state := .none
    createdAt := 0
    commitmentDeadline := 0
    claimDeadline := 0
    allowsTimedRelease := false
    timedReleaseTime := 0 }

structure LegalSignature where
  signature : List UInt8
  businessName : String
  businessLicense : String
  documentHash : Bytes32
  timestamp : Nat
deriving DecidableEq, Repr

def LegalSignature.zero : LegalSignature :=
  { signature := []
    businessName := ""
    businessLicense := ""
    documentHash := 0
    timestamp := 0 }

/- The events the contract emits. -/
inductive Event where
  | escrowCreated
      (orderId : Bytes32) (buyer seller : Address)
      (amount : Nat)
  | bothCommitted (orderId : Bytes32)
  | paymentClaimed
      (orderId : Bytes32) (seller : Address) (receiptId : Nat)
  | counterEscrowClaimed
      (orderId : Bytes32) (buyer : Address) (amount : Nat)
  | timedReleaseTriggered (orderId : Bytes32)
  | refundProcessed
      (orderId : Bytes32) (buyer : Address) (amount : Nat)
deriving DecidableEq, Repr

end CoreProverEscrow

end BorderController

------------------------------------------------------------
-- Messages and Payments
------------------------------------------------------------

namespace BorderController

namespace CoreProverEscrow

/- The external functions that change the state. -/
inductive ExternalFunction where
  | createEscrow
      (orderId : Bytes32) (seller : Address)
      (commitmentWindow claimWindow : Nat)
      (allowsTimedRelease : Bool) (timedReleaseDelay : Nat)
  | sellerCommitEscrow (orderId : Bytes32)
  | sellerCommitSignature
      (orderId : Bytes32) (signature : List UInt8)
      (businessName businessLicense : String)
      (documentHash : Bytes32)
  | sellerClaimPayment (orderId : Bytes32)
  | buyerClaimCounterEscrow (orderId : Bytes32)
  | triggerTimedRelease (orderId : Bytes32)
  | refundBuyerTimeout (orderId : Bytes32)
deriving DecidableEq, Repr

def ExternalFunction.orderId : ExternalFunction → Bytes32
  | .createEscrow orderId _ _ _ _ _ => orderId
  | .sellerCommitEscrow orderId => orderId
  | .sellerCommitSignature orderId _ _ _ _ => orderId
  | .sellerClaimPayment orderId => orderId
  | .buyerClaimCounterEscrow orderId => orderId
  | .triggerTimedRelease orderId => orderId
  | .refundBuyerTimeout orderId => orderId

/- `msg.sender`, `msg.value` and what is called. -/
structure Message where
  sender : Address
  value : Nat
  function : ExternalFunction
deriving DecidableEq, Repr

/- The three ways in which ether of an order leaves. -/
inductive Purpose where
  | payment
  | counterEscrow
  | refund
deriving DecidableEq, Repr

/- One `transfer` of the contract, and the order it serves. -/
structure Payment where
  orderId : Bytes32
  purpose : Purpose
  recipient : Address
  amount : Nat
deriving DecidableEq, Repr

end CoreProverEscrow

end BorderController

------------------------------------------------------------
-- The World
------------------------------------------------------------

namespace BorderController

namespace CoreProverEscrow

/- A call that was entered or a payment that was made. -/
inductive Entry where
  | called (message : Message) (time : Nat)
  | sent (payment : Payment) (time : Nat)
deriving DecidableEq, Repr

/-
  The block time, the account of the contract and its storage,
  and two records: the events it emitted and the ether that
  moved.  A revert undoes all of them.
-/
structure World where
  timestamp : Nat
  balance : Nat
  escrows : Bytes32 → Escrow
  legalSignatures : Bytes32 → LegalSignature
  events : List Event
  trace : List Entry

namespace World

/- A contract just deployed, at an address with some ether. -/
def deployed (timestamp balance : Nat) : World :=
  { timestamp
    balance
    escrows := fun _ => .zero
    legalSignatures := fun _ => .zero
    events := []
    trace := [] }

/- A message arrives with its ether. -/
def enter (message : Message) (world : World) : World :=
  { world with
    balance := world.balance + message.value
    trace :=
      world.trace ++ [.called message world.timestamp] }

/- Ether leaves, if there is enough of it. -/
def pay (payment : Payment) (world : World) : Option World :=
  if payment.amount ≤ world.balance then
    some
      { world with
        balance := world.balance - payment.amount
        trace :=
          world.trace ++ [.sent payment world.timestamp] }
  else
    none

/- Ether that others force on the contract. -/
def force (amount : Nat) (world : World) : World :=
  { world with balance := world.balance + amount }

def setEscrow
    (orderId : Bytes32)
    (escrow : Escrow)
    (world : World) :
    World :=
  { world with
    escrows := Function.update world.escrows orderId escrow }

def setLegalSignature
    (orderId : Bytes32)
    (legalSignature : LegalSignature)
    (world : World) :
    World :=
  { world with
    legalSignatures :=
      Function.update world.legalSignatures orderId
        legalSignature }

def emit (event : Event) (world : World) : World :=
  { world with events := world.events ++ [event] }

@[simp]
theorem escrows_setEscrow_self
    (orderId : Bytes32)
    (escrow : Escrow)
    (world : World) :
    (world.setEscrow orderId escrow).escrows orderId =
      escrow := by
  dsimp only [setEscrow]
  rw [Function.update_self]

theorem escrows_setEscrow_of_ne
    {orderId other : Bytes32}
    (hOther : other ≠ orderId)
    (escrow : Escrow)
    (world : World) :
    (world.setEscrow orderId escrow).escrows other =
      world.escrows other := by
  dsimp only [setEscrow]
  rw [Function.update_of_ne hOther]

end World

end CoreProverEscrow

end BorderController

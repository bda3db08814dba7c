import Mathlib.Data.UInt

/-
  Data types of the settlement engine: the escrow record and
  the receipt.

  All `u64` quantities are `UInt64`, whose arithmetic wraps as
  in a release build.

  Key definitions include:
    * `EscrowState`
    * `PaymentProfile`
    * `ReceiptMetadata`
    * `Escrow`
-/

------------------------------------------------------------
-- Escrow States
------------------------------------------------------------

namespace BorderController

namespace Engine

inductive EscrowState where
  | buyerCommitted
  | sellerAccepted
  | sellerFulfilled
  | fulfillmentExpired
  | sellerClaimed
  | sellerRefunded
  | buyerWithdrawn
deriving DecidableEq, Repr

namespace EscrowState

/- The three states in which an order has been settled. -/
def isTerminal : EscrowState → Bool
  | .sellerClaimed => true
  | .sellerRefunded => true
  | .buyerWithdrawn => true
  | _ => false

def canFulfill : EscrowState → Bool
  | .sellerAccepted => true
  | .fulfillmentExpired => true
  | _ => false

/- The derived `Debug` text, used in one error message. -/
def debug : EscrowState → String
  | .buyerCommitted => "BuyerCommitted"
  | .sellerAccepted => "SellerAccepted"
  | .sellerFulfilled => "SellerFulfilled"
  | .fulfillmentExpired => "FulfillmentExpired"
  | .sellerClaimed => "SellerClaimed"
  | .sellerRefunded => "SellerRefunded"
  | .buyerWithdrawn => "BuyerWithdrawn"

end EscrowState

end Engine

end BorderController

------------------------------------------------------------
-- Payment Profiles
------------------------------------------------------------

namespace BorderController

namespace Engine

structure TimingWindows where
  acceptanceWindowSecs : UInt64
  fulfillmentWindowSecs : UInt64
  claimWindowSecs : UInt64
deriving DecidableEq, Repr

namespace TimingWindows

def pizzaDelivery : TimingWindows :=
  { acceptanceWindowSecs := 1800
    fulfillmentWindowSecs := 3600
    claimWindowSecs := 3600 }

end TimingWindows

structure PaymentProfile where
  timing : TimingWindows
  allowsTimedRelease : Bool
  enablesLateDiscount : Bool
  lateDiscountPct : UInt8
  discountExpirationDays : UInt64
deriving DecidableEq, Repr

namespace PaymentProfile

def pizzaDelivery : PaymentProfile :=
  { timing := .pizzaDelivery
    allowsTimedRelease := true
    enablesLateDiscount := true
    lateDiscountPct := 10
    discountExpirationDays := 90 }

end PaymentProfile

end Engine

end BorderController

------------------------------------------------------------
-- Receipts
------------------------------------------------------------

namespace BorderController

namespace Engine

/- `[u8; 32]`. -/
abbrev OrderId := Vector UInt8 32

structure ReceiptMetadata where
  sessionId : OrderId
  /- A `u128`, only ever widened from a `u64`. -/
  orderAmount : Nat
  fulfillmentMono : UInt64
  fulfillmentUnix : UInt64
  fulfillmentIso : String
  settlementMono : UInt64
  settlementUnix : UInt64
  settlementIso : String
  lateFulfilled : Bool
  discountPct : UInt8
  discountExpirationUnix : UInt64
  buyerChainId : UInt64
  buyerCommitTxid : String
  sellerChainId : UInt64
  sellerAcceptTxid : String
  sellerFulfillTxid : String
  sellerClaimTxid : Option String
  sellerRefundTxid : Option String
  buyerWithdrawTxid : Option String
  sellerBlockHeight : UInt64
deriving DecidableEq, Repr

end Engine

end BorderController

------------------------------------------------------------
-- Escrow Records
------------------------------------------------------------

namespace BorderController

namespace Engine

structure Escrow where
  orderId : OrderId
  buyer : String
  seller : String
  amount : UInt64
  profile : PaymentProfile
  state : EscrowState
  buyerCommitMono : UInt64
  sellerAcceptMono : Option UInt64
  fulfillmentMono : Option UInt64
  settlementMono : Option UInt64
  acceptanceDeadlineMono : UInt64
  fulfillmentDeadlineMono : Option UInt64
  buyerChainId : UInt64
  buyerCommitTxid : String
  sellerChainId : UInt64
  sellerAcceptTxid : Option String
  sellerFulfillTxid : Option String
  sellerClaimTxid : Option String
  sellerRefundTxid : Option String
  buyerWithdrawTxid : Option String
  sellerBlockHeight : Option UInt64
deriving DecidableEq, Repr

namespace Escrow

def new
    (orderId : OrderId)
    (buyer seller : String)
    (amount : UInt64)
    (profile : PaymentProfile)
    (buyerChainId : UInt64)
    (buyerCommitTxid : String)
    (currentMono : UInt64) :
    Escrow :=
  let acceptanceDeadline :=
    currentMono + profile.timing.acceptanceWindowSecs
  { orderId
    buyer
    seller
    amount
    profile
    state := .buyerCommitted
    buyerCommitMono := currentMono
    sellerAcceptMono := none
    fulfillmentMono := none
    settlementMono := none
    acceptanceDeadlineMono := acceptanceDeadline
    fulfillmentDeadlineMono := none
    buyerChainId
    buyerCommitTxid
    sellerChainId := 0
    sellerAcceptTxid := none
    sellerFulfillTxid := none
    sellerClaimTxid := none
    sellerRefundTxid := none
    buyerWithdrawTxid := none
    sellerBlockHeight := none }

end Escrow

end Engine

end BorderController

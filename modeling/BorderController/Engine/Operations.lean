import BorderController.Engine.Clock
import BorderController.Engine.Types
import BorderController.Library.KeyedList
import BorderController.Library.RustString

/-
  The settlement engine and its operations.

  An operation borrows the first escrow with the given order
  id, checks it and rewrites it in place, and may then work on
  the receipts.  An error leaves behind whatever had been
  written before it was raised, so operations run in a state
  monad below the error.

  Key definitions include:
    * `CoreProverEngine`
    * `EngineM`
    * `CoreProverEngine.advanceTime`
    * `buyerCommit`, `sellerAccept`, `sellerFulfill`
    * `sellerClaim`, `sellerRefund`, `buyerWithdraw`
    * `timedRelease`, `updateState`
    * `finalizeReceipt`
-/

------------------------------------------------------------
-- The Engine
------------------------------------------------------------

namespace BorderController

namespace Engine

structure CoreProverEngine where
  escrows : List Escrow
  receipts : List ReceiptMetadata
  nextSessionCounter : UInt64
  currentMono : UInt64
  currentUnix : UInt64
  chainId : UInt64
  blockIntervalSecs : UInt64
  currentBlockHeight : UInt64
deriving DecidableEq, Repr

namespace CoreProverEngine

def new
    (chainId blockIntervalSecs genesisUnix : UInt64) :
    CoreProverEngine :=
  { escrows := []
    receipts := []
    nextSessionCounter := 1
    currentMono := 0
    currentUnix := genesisUnix
    chainId
    blockIntervalSecs
    currentBlockHeight := 1 }

/- `none` is the panic of a division by zero. -/
def advanceTime
    (secs : UInt64)
    (engine : CoreProverEngine) :
    Option CoreProverEngine :=
  if engine.blockIntervalSecs = 0 then
    none
  else
    some
      { engine with
        currentMono := engine.currentMono + secs
        currentUnix := engine.currentUnix + secs
        currentBlockHeight :=
          engine.currentBlockHeight +
            secs / engine.blockIntervalSecs }

def now [Chrono] (engine : CoreProverEngine) : TimeTruth :=
  .new engine.currentMono engine.currentUnix

def getEscrow
    (orderId : OrderId)
    (engine : CoreProverEngine) :
    Except String Escrow :=
  match engine.escrows.find? (fun e => e.orderId = orderId) with
  | some escrow => .ok escrow
  | none => .error "Escrow not found"

def getState
    (orderId : OrderId)
    (engine : CoreProverEngine) :
    Except String EscrowState :=
  (engine.getEscrow orderId).map Escrow.state

def getReceipt
    (orderId : OrderId)
    (engine : CoreProverEngine) :
    Option ReceiptMetadata :=
  engine.receipts.find? (fun r => r.sessionId = orderId)

end CoreProverEngine

/- A method on `&mut self` that returns `Result<α, String>`. -/
abbrev EngineM := ExceptT String (StateM CoreProverEngine)

/- Call an operation: its result and the engine it leaves. -/
def EngineM.call
    {α : Type}
    (operation : EngineM α)
    (engine : CoreProverEngine) :
    Except String α × CoreProverEngine :=
  (ExceptT.run operation).run engine

/-
  `get_escrow_mut` followed by a block that owns the borrow:
  the block sees the first escrow with the order id and either
  fails or rewrites it where it stands.
-/
def withEscrowMut
    {α : Type}
    (orderId : OrderId)
    (block : Escrow → Except String (α × Escrow)) :
    EngineM α := do
  let engine ← get
  match KeyedList.firstMatch
      Escrow.orderId orderId engine.escrows with
  | none => throw "Escrow not found"
  | some (i, escrow) =>
      match block escrow with
      | .error e => throw e
      | .ok (a, escrow') =>
          set
            { engine with
              escrows := engine.escrows.set i escrow' }
          return a

end Engine

end BorderController

------------------------------------------------------------
-- Buyer Commit
------------------------------------------------------------

namespace BorderController

namespace Engine

variable [Chrono]

/- The order id that a session counter encodes. -/
def orderIdOf (counter : UInt64) : OrderId :=
  ((Vector.replicate 32 0).set 0
    (counter &&& 0xFF).toUInt8).set 1
      ((counter >>> 8) &&& 0xFF).toUInt8

def generateOrderId : EngineM OrderId := do
  let engine ← get
  set
    { engine with
      nextSessionCounter := engine.nextSessionCounter + 1 }
  return orderIdOf engine.nextSessionCounter

def buyerCommit
    (buyer seller : String)
    (amount : UInt64)
    (profile : PaymentProfile)
    (buyerChainId : UInt64)
    (buyerCommitTxid : String) :
    EngineM OrderId := do
  let now := (← get).now
  if RustString.isBlank buyerCommitTxid then
    throw "buyer_commit_txid is required"
  else
    let orderId ← generateOrderId
    let escrow :=
      Escrow.new orderId buyer seller amount profile
        buyerChainId buyerCommitTxid now.mono
    modify fun engine =>
      { engine with escrows := engine.escrows ++ [escrow] }
    return orderId

end Engine

end BorderController

------------------------------------------------------------
-- Seller Accept
------------------------------------------------------------

namespace BorderController

namespace Engine

variable [Chrono]

/- The block of `seller_accept` that borrows the escrow. -/
def Escrow.sellerAccept
    (now : TimeTruth)
    (chainId : UInt64)
    (sellerAcceptTxid : String)
    (escrow : Escrow) :
    Except String (Unit × Escrow) :=
  if escrow.state ≠ .buyerCommitted then
    .error "seller_accept only valid from BuyerCommitted"
  else if RustString.isBlank sellerAcceptTxid then
    .error "seller_accept_txid is required"
  else if now.mono > escrow.acceptanceDeadlineMono then
    .error "acceptance window expired"
  else
    .ok ((),
      { escrow with
        sellerChainId := chainId
        sellerAcceptMono := some now.mono
        sellerAcceptTxid := some sellerAcceptTxid
        fulfillmentDeadlineMono :=
          some
            (now.mono +
              escrow.profile.timing.fulfillmentWindowSecs)
        state := .sellerAccepted })

def sellerAccept
    (orderId : OrderId)
    (sellerAcceptTxid : String) :
    EngineM Unit := do
  let engine ← get
  withEscrowMut orderId
    (Escrow.sellerAccept engine.now engine.chainId
      sellerAcceptTxid)

end Engine

end BorderController

------------------------------------------------------------
-- Seller Fulfill
------------------------------------------------------------

namespace BorderController

namespace Engine

variable [Chrono]

/- Whether a fulfilment now would be after its deadline. -/
def Escrow.isLate
    (now : TimeTruth)
    (escrow : Escrow) :
    Bool :=
  match escrow.fulfillmentDeadlineMono with
  | some d => now.mono > d
  | none => false

/- The block of `seller_fulfill` that borrows the escrow. -/
def Escrow.sellerFulfill
    (now : TimeTruth)
    (sellerFulfillTxid : String)
    (escrow : Escrow) :
    Except String (Bool × Escrow) :=
  if !escrow.state.canFulfill then
    .error
      ("seller_fulfill invalid in state " ++
        escrow.state.debug)
  else if RustString.isBlank sellerFulfillTxid then
    .error "seller_fulfill_txid is required"
  else
    .ok (escrow.isLate now,
      { escrow with
        fulfillmentMono := some now.mono
        sellerFulfillTxid := some sellerFulfillTxid
        state :=
          if escrow.isLate now then
            .fulfillmentExpired
          else
            .sellerFulfilled })

/- The receipt stub that a fulfilment issues. -/
def Escrow.receiptStub
    (now : TimeTruth)
    (isLate : Bool)
    (escrow : Escrow) :
    ReceiptMetadata :=
  let lateDiscount :=
    if isLate && escrow.profile.enablesLateDiscount then
      escrow.profile.lateDiscountPct
    else
      0
  let discountExpirationUnix :=
    if lateDiscount > 0 then
      now.unix + escrow.profile.discountExpirationDays * 86400
    else
      0
  { sessionId := escrow.orderId
    orderAmount := escrow.amount.toNat
    fulfillmentMono := escrow.fulfillmentMono.getD now.mono
    fulfillmentUnix := now.unix
    fulfillmentIso := now.iso
    settlementMono := 0
    settlementUnix := 0
    settlementIso := ""
    lateFulfilled := isLate
    discountPct := lateDiscount
    discountExpirationUnix
    buyerChainId := escrow.buyerChainId
    buyerCommitTxid := escrow.buyerCommitTxid
    sellerChainId := escrow.sellerChainId
    sellerAcceptTxid := escrow.sellerAcceptTxid.getD ""
    sellerFulfillTxid := escrow.sellerFulfillTxid.getD ""
    sellerClaimTxid := none
    sellerRefundTxid := none
    buyerWithdrawTxid := none
    sellerBlockHeight := 0 }

def createReceiptStub
    (orderId : OrderId)
    (isLate : Bool) :
    EngineM Unit := do
  let engine ← get
  match engine.getEscrow orderId with
  | .error e => throw e
  | .ok escrow =>
      set
        { engine with
          receipts :=
            engine.receipts ++
              [escrow.receiptStub engine.now isLate] }

def sellerFulfill
    (orderId : OrderId)
    (sellerFulfillTxid : String) :
    EngineM Unit := do
  let engine ← get
  let isLate ←
    withEscrowMut orderId
      (Escrow.sellerFulfill engine.now sellerFulfillTxid)
  createReceiptStub orderId isLate

end Engine

end BorderController

------------------------------------------------------------
-- Receipt Finalization
------------------------------------------------------------

namespace BorderController

namespace Engine

variable [Chrono]

/- The settlement written into a receipt. -/
def ReceiptMetadata.finalize
    (now : TimeTruth)
    (escrow : Escrow)
    (refunded : Bool)
    (receipt : ReceiptMetadata) :
    ReceiptMetadata :=
  let settled :=
    { receipt with
      settlementMono := escrow.settlementMono.getD now.mono
      settlementUnix := now.unix
      settlementIso := now.iso
      sellerBlockHeight := escrow.sellerBlockHeight.getD 0 }
  if refunded then
    { settled with
      sellerRefundTxid := escrow.sellerRefundTxid }
  else
    { settled with
      sellerClaimTxid := escrow.sellerClaimTxid }

def finalizeReceipt
    (orderId : OrderId)
    (refunded : Bool) :
    EngineM Unit := do
  let engine ← get
  match engine.getEscrow orderId with
  | .error e => throw e
  | .ok escrow =>
      match KeyedList.lastMatch
          ReceiptMetadata.sessionId orderId
          engine.receipts with
      | none => throw "receipt stub not found"
      | some (idx, receipt) =>
          set
            { engine with
              receipts :=
                engine.receipts.set idx
                  (receipt.finalize engine.now escrow
                    refunded) }

end Engine

end BorderController

------------------------------------------------------------
-- Settlement
------------------------------------------------------------

namespace BorderController

namespace Engine

variable [Chrono]

/- The states in which the seller may settle. -/
def EscrowState.isClaimable : EscrowState → Bool
  | .sellerFulfilled => true
  | .fulfillmentExpired => true
  | _ => false

/- The block of `seller_claim` that borrows the escrow. -/
def Escrow.sellerClaim
    (now : TimeTruth)
    (blockHeight : UInt64)
    (sellerClaimTxid : String)
    (escrow : Escrow) :
    Except String (UInt64 × Escrow) :=
  if !escrow.state.isClaimable then
    .error "seller_claim only valid after fulfillment"
  else if RustString.isBlank sellerClaimTxid then
    .error "seller_claim_txid is required"
  else
    .ok (escrow.amount,
      { escrow with
        sellerClaimTxid := some sellerClaimTxid
        settlementMono := some now.mono
        sellerBlockHeight := some blockHeight
        state := .sellerClaimed })

def sellerClaim
    (orderId : OrderId)
    (sellerClaimTxid : String) :
    EngineM UInt64 := do
  let engine ← get
  let amount ←
    withEscrowMut orderId
      (Escrow.sellerClaim engine.now
        engine.currentBlockHeight sellerClaimTxid)
  finalizeReceipt orderId false
  return amount

/- The block of `seller_refund` that borrows the escrow. -/
def Escrow.sellerRefund
    (now : TimeTruth)
    (blockHeight : UInt64)
    (sellerRefundTxid : String)
    (escrow : Escrow) :
    Except String (UInt64 × Escrow) :=
  if !escrow.state.isClaimable then
    .error "seller_refund only valid after fulfillment"
  else if RustString.isBlank sellerRefundTxid then
    .error "seller_refund_txid is required"
  else
    .ok (escrow.amount,
      { escrow with
        sellerRefundTxid := some sellerRefundTxid
        settlementMono := some now.mono
        sellerBlockHeight := some blockHeight
        state := .sellerRefunded })

def sellerRefund
    (orderId : OrderId)
    (sellerRefundTxid : String) :
    EngineM UInt64 := do
  let engine ← get
  let amount ←
    withEscrowMut orderId
      (Escrow.sellerRefund engine.now
        engine.currentBlockHeight sellerRefundTxid)
  finalizeReceipt orderId true
  return amount

/- The block of `buyer_withdraw` that borrows the escrow. -/
def Escrow.buyerWithdraw
    (now : TimeTruth)
    (buyerWithdrawTxid : Option String)
    (escrow : Escrow) :
    Except String (UInt64 × Escrow) :=
  if escrow.state ≠ .buyerCommitted ∧
      escrow.state ≠ .fulfillmentExpired then
    .error "buyer_withdraw not allowed"
  else if escrow.state = .buyerCommitted ∧
      now.mono ≤ escrow.acceptanceDeadlineMono then
    .error "buyer_withdraw not yet allowed"
  else
    .ok (escrow.amount,
      { escrow with
        buyerWithdrawTxid :=
          buyerWithdrawTxid.or escrow.buyerWithdrawTxid
        state := .buyerWithdrawn
        settlementMono := some now.mono
        sellerBlockHeight := none })

def buyerWithdraw
    (orderId : OrderId)
    (buyerWithdrawTxid : Option String) :
    EngineM UInt64 := do
  let engine ← get
  withEscrowMut orderId
    (Escrow.buyerWithdraw engine.now buyerWithdrawTxid)

/- `u64::saturating_sub`. -/
def saturatingSub (a b : UInt64) : UInt64 :=
  if b ≤ a then a - b else 0

/- Seconds since fulfilment, or since 0 if none is recorded. -/
def Escrow.elapsed
    (now : TimeTruth)
    (escrow : Escrow) :
    UInt64 :=
  saturatingSub now.mono (escrow.fulfillmentMono.getD 0)

/- The block of `timed_release` that borrows the escrow. -/
def Escrow.timedRelease
    (now : TimeTruth)
    (blockHeight : UInt64)
    (escrow : Escrow) :
    Except String (UInt64 × Escrow) :=
  if !escrow.profile.allowsTimedRelease then
    .error "timed_release disabled"
  else if !escrow.state.isClaimable then
    .error "timed_release only after fulfillment"
  else if escrow.elapsed now <
      escrow.profile.timing.claimWindowSecs then
    .error "claim window not expired"
  else
    .ok (escrow.amount,
      { escrow with
        sellerClaimTxid :=
          some ("auto_claim_" ++ toString now.mono)
        settlementMono := some now.mono
        sellerBlockHeight := some blockHeight
        state := .sellerClaimed })

def timedRelease (orderId : OrderId) : EngineM UInt64 := do
  let engine ← get
  let amount ←
    withEscrowMut orderId
      (Escrow.timedRelease engine.now
        engine.currentBlockHeight)
  finalizeReceipt orderId false
  return amount

end Engine

end BorderController

------------------------------------------------------------
-- State Update
------------------------------------------------------------

namespace BorderController

namespace Engine

variable [Chrono]

/- The label an escrow gets when its deadline is looked at. -/
def Escrow.updateState
    (now : TimeTruth)
    (escrow : Escrow) :
    Escrow :=
  if escrow.state = .sellerAccepted then
    match escrow.fulfillmentDeadlineMono with
    | some deadline =>
        if now.mono > deadline then
          { escrow with state := .fulfillmentExpired }
        else
          escrow
    | none => escrow
  else
    escrow

def updateState (orderId : OrderId) : EngineM Unit := do
  let engine ← get
  withEscrowMut orderId fun escrow =>
    .ok ((), escrow.updateState engine.now)

end Engine

end BorderController

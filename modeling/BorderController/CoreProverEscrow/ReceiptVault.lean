import BorderController.CoreProverEscrow.Functions

/-
  The `ReceiptVault` contract: receipts by number, for anybody
  to mint.

  Key definitions include:
    * `Receipt`, `ReceiptVault`
    * `ReceiptVault.mintReceipt`
    * `ReceiptVault.getReceipt`
    * `ReceiptVault.verifyBuyerOwnership`

  Key theorems include:
    * `ReceiptVault.getReceipt_eq_ok_iff`
    * `ReceiptVault.stored_store_iff`
-/

------------------------------------------------------------
-- Storage
------------------------------------------------------------

namespace BorderController

namespace CoreProverEscrow

structure Receipt where
  orderId : Bytes32
  seller : Address
  buyer : Address
  timestamp : Nat
  fulfillmentDataHash : Bytes32
  legalSignatureHash : Bytes32
  wasCounterEscrowed : Bool
  metadataURI : String
deriving DecidableEq, Repr

def Receipt.zero : Receipt :=
  { orderId := 0
    seller := 0
    buyer := 0
    timestamp := 0
    fulfillmentDataHash := 0
    legalSignatureHash := 0
    wasCounterEscrowed := false
    metadataURI := "" }

structure ReceiptMinted where
  tokenId : Nat
  orderId : Bytes32
  buyer : Address
  seller : Address
deriving DecidableEq, Repr

/- Receipts are numbered from one. -/
structure ReceiptVault where
  receipts : Nat → Receipt
  nextTokenId : Nat
  events : List ReceiptMinted
  nextTokenId_pos : 0 < nextTokenId

namespace ReceiptVault

def deployed : ReceiptVault :=
  { receipts := fun _ => .zero
    nextTokenId := 1
    events := []
    nextTokenId_pos := Nat.one_pos }

/- The number is that of a receipt. -/
def Stored (vault : ReceiptVault) (tokenId : Nat) : Prop :=
  tokenId > 0 ∧ tokenId < vault.nextTokenId

instance
    (vault : ReceiptVault)
    (tokenId : Nat) :
    Decidable (vault.Stored tokenId) := by
  unfold Stored
  infer_instance

end ReceiptVault

end CoreProverEscrow

end BorderController

------------------------------------------------------------
-- Functions
------------------------------------------------------------

namespace BorderController

namespace CoreProverEscrow

/- The arguments of `mintReceipt`. -/
structure MintReceipt where
  orderId : Bytes32
  buyer : Address
  seller : Address
  fulfillmentDataHash : Bytes32
  legalSignatureHash : Bytes32
  wasCounterEscrowed : Bool
  metadataURI : String
deriving DecidableEq, Repr

def MintReceipt.receipt
    (mint : MintReceipt)
    (timestamp : Nat) :
    Receipt :=
  { orderId := mint.orderId
    seller := mint.seller
    buyer := mint.buyer
    timestamp
    fulfillmentDataHash := mint.fulfillmentDataHash
    legalSignatureHash := mint.legalSignatureHash
    wasCounterEscrowed := mint.wasCounterEscrowed
    metadataURI := mint.metadataURI }

namespace ReceiptVault

/- The vault with one more receipt. -/
def store
    (mint : MintReceipt)
    (timestamp : Nat)
    (vault : ReceiptVault) :
    ReceiptVault :=
  { receipts :=
      Function.update vault.receipts vault.nextTokenId
        (mint.receipt timestamp)
    nextTokenId := vault.nextTokenId + 1
    events :=
      vault.events ++
        [⟨vault.nextTokenId, mint.orderId, mint.buyer,
          mint.seller⟩]
    nextTokenId_pos := Nat.succ_pos vault.nextTokenId }

/- `nextTokenId++` is checked arithmetic. -/
def mintReceipt
    (mint : MintReceipt)
    (timestamp : Nat)
    (vault : ReceiptVault) :
    Except String (ReceiptVault × Nat) :=
  match checkedAdd vault.nextTokenId 1 with
  | none => .error overflow
  | some _ =>
      .ok (vault.store mint timestamp, vault.nextTokenId)

def getReceipt
    (tokenId : Nat)
    (vault : ReceiptVault) :
    Except String Receipt :=
  if ¬ vault.Stored tokenId then
    .error "Invalid token ID"
  else
    .ok (vault.receipts tokenId)

def verifyBuyerOwnership
    (tokenId : Nat)
    (zkProof : List UInt8)
    (vault : ReceiptVault) :
    Except String Bool :=
  if ¬ vault.Stored tokenId then
    .error "Invalid token ID"
  else
    .ok (zkProof.length > 0)

end ReceiptVault

end CoreProverEscrow

end BorderController

------------------------------------------------------------
-- What Is Stored
------------------------------------------------------------

namespace BorderController

namespace CoreProverEscrow

namespace ReceiptVault

variable {vault : ReceiptVault}
variable {mint : MintReceipt}
variable {timestamp tokenId : Nat}
variable {receipt : Receipt}

theorem getReceipt_eq_ok_iff :
    vault.getReceipt tokenId = .ok receipt ↔
      vault.Stored tokenId ∧
        vault.receipts tokenId = receipt := by
  unfold getReceipt
  by_cases hStored : vault.Stored tokenId <;>
    simp [hStored]

theorem not_stored_deployed : ¬ deployed.Stored tokenId := by
  intro hStored
  have hLess : tokenId < 1 := hStored.2
  exact Nat.not_lt_of_ge hStored.1 hLess

/- Storing a receipt adds the one number. -/
theorem stored_store_iff :
    (vault.store mint timestamp).Stored tokenId ↔
      tokenId = vault.nextTokenId ∨ vault.Stored tokenId := by
  have hPos := vault.nextTokenId_pos
  dsimp only [Stored, store]
  omega

theorem receipts_store_new :
    (vault.store mint timestamp).receipts vault.nextTokenId =
      mint.receipt timestamp := by
  dsimp only [store]
  rw [Function.update_self]

theorem receipts_store_of_stored
    (hStored : vault.Stored tokenId) :
    (vault.store mint timestamp).receipts tokenId =
      vault.receipts tokenId := by
  have hOther : tokenId ≠ vault.nextTokenId :=
    Nat.ne_of_lt hStored.2
  dsimp only [store]
  rw [Function.update_of_ne hOther]

end ReceiptVault

end CoreProverEscrow

end BorderController

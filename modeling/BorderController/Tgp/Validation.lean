import BorderController.Library.EarlyReturn
import BorderController.Library.RustString
import BorderController.Tgp.Messages

/-
  The two validators of gateway messages: that of the message
  types, and that of the older protocol module.

  They differ in what they ask of addresses and hashes, and of
  the time an offer expires.

  Key definitions include:
    * `TGPMessage.validate`
    * `Protocol.TGPMessage.validate`
    * `TGPMessage.Disputed`

  Key theorems include:
    * `validate_eq_ok_iff` for every kind of message
    * `validate_agree_iff`
-/

------------------------------------------------------------
-- Fields
------------------------------------------------------------

namespace BorderController

namespace Tgp

open EarlyReturn

def validateNonEmpty
    (value fieldName : String) :
    Except String Unit :=
  refuseIf (value = "")
    (fieldName ++ " is required and must not be empty")

def validatePositiveAmount
    (amount : UInt64)
    (fieldName : String) :
    Except String Unit :=
  refuseIf (amount = 0)
    (fieldName ++ " must be greater than 0")

/- What comes after `0x` is made of hexadecimal digits. -/
def isHexAfter0x (s : String) : Bool :=
  (s.toList.drop 2).all RustString.isAsciiHexdigit

/- `0x` and then hexadecimal digits, of the given length. -/
def validateHex
    (size : Nat)
    (wrongStart wrongSize wrongDigit : String)
    (value : String) :
    Except String Unit := do
  refuseIf (RustString.startsWith "0x" value = false)
    (wrongStart ++ value)
  refuseIf (RustString.len value ≠ size)
    (wrongSize ++ value)
  refuseIf (isHexAfter0x value = false)
    (wrongDigit ++ value)

def validateAddress
    (address fieldName : String) :
    Except String Unit :=
  validateHex 42
    (fieldName ++
      " must be a valid Ethereum address starting with 0x: ")
    (fieldName ++
      " must be 42 characters long (0x + 40 hex chars): ")
    (fieldName ++
      " must contain only hexadecimal characters after 0x: ")
    address

def validateTransactionHash
    (hash fieldName : String) :
    Except String Unit :=
  validateHex 66
    (fieldName ++
      " must be a valid transaction hash starting with 0x: ")
    (fieldName ++
      " must be 66 characters long (0x + 64 hex chars): ")
    (fieldName ++
      " must contain only hexadecimal characters after 0x: ")
    hash

def EconomicEnvelope.validate
    (envelope : EconomicEnvelope) :
    Except String Unit := do
  refuseIf (10000 < envelope.maxFeesBps)
    ("max_fees_bps cannot exceed 10000 (100%), got: " ++
      toString envelope.maxFeesBps)
  ifSome envelope.expiry fun expiry =>
    refuseIf
      (RustString.contains 'T' expiry = false ∨
        RustString.endsWith 'Z' expiry = false ∧
          RustString.contains '+' expiry = false ∧
          RustString.contains '-' expiry = false)
      ("expiry must be in RFC3339 format " ++
        "(e.g., 2025-11-10T23:59:59Z): " ++ expiry)

end Tgp

end BorderController

------------------------------------------------------------
-- Messages
------------------------------------------------------------

namespace BorderController

namespace Tgp

open EarlyReturn

def QueryMessage.validate
    (message : QueryMessage) :
    Except String Unit := do
  validateNonEmpty message.id "id"
  validateNonEmpty message.«from» "from"
  validateNonEmpty message.«to» "to"
  validateNonEmpty message.asset "asset"
  validatePositiveAmount message.amount "amount"
  ifSome message.escrowContractFrom402 fun contract =>
    validateAddress contract "escrow_contract_from_402"

def OfferMessage.validate
    (message : OfferMessage) :
    Except String Unit := do
  validateNonEmpty message.id "id"
  validateNonEmpty message.queryId "query_id"
  validateNonEmpty message.asset "asset"
  validatePositiveAmount message.amount "amount"
  ifSome message.coreproverContract fun contract =>
    validateAddress contract "coreprover_contract"
  message.economicEnvelope.validate

def SettleMessage.validate
    (message : SettleMessage) :
    Except String Unit := do
  validateNonEmpty message.id "id"
  validateNonEmpty message.queryOrOfferId "query_or_offer_id"
  ifSome message.layer8Tx fun tx =>
    validateTransactionHash tx "layer8_tx"

def ErrorMessage.validate
    (message : ErrorMessage) :
    Except String Unit := do
  validateNonEmpty message.id "id"
  validateNonEmpty message.code "code"
  validateNonEmpty message.message "message"

def TGPMessage.validate : TGPMessage → Except String Unit
  | .query message => message.validate
  | .offer message => message.validate
  | .settle message => message.validate
  | .error message => message.validate

end Tgp

end BorderController

------------------------------------------------------------
-- The Protocol Module
------------------------------------------------------------

namespace BorderController

/- The messages have the same fields as the others. -/
namespace Protocol

open EarlyReturn
open Tgp

def EconomicEnvelope.validate
    (envelope : Tgp.EconomicEnvelope) :
    Except String Unit := do
  refuseIf (10000 < envelope.maxFeesBps)
    ("max_fees_bps cannot exceed 10000 (100%), got: " ++
      toString envelope.maxFeesBps)
  ifSome envelope.expiry fun expiry =>
    refuseIf
      (RustString.contains 'T' expiry = false ∨
        RustString.endsWith 'Z' expiry = false)
      ("expiry must be in RFC3339 format " ++
        "(e.g., 2025-11-10T23:59:59Z): " ++ expiry)

def QueryMessage.validate
    (message : Tgp.QueryMessage) :
    Except String Unit := do
  refuseIf (message.id = "")
    "id is required and must not be empty"
  refuseIf (message.«from» = "")
    "from is required and must not be empty"
  refuseIf (message.«to» = "")
    "to is required and must not be empty"
  refuseIf (message.asset = "")
    "asset is required and must not be empty"
  refuseIf (message.amount = 0)
    "amount must be greater than 0"
  ifSome message.escrowContractFrom402 fun contract =>
    refuseIf
      (RustString.startsWith "0x" contract = false ∨
        RustString.len contract ≠ 42)
      ("escrow_contract_from_402 must be a valid " ++
        "Ethereum address: " ++ contract)

def OfferMessage.validate
    (message : Tgp.OfferMessage) :
    Except String Unit := do
  refuseIf (message.id = "")
    "id is required and must not be empty"
  refuseIf (message.queryId = "")
    "query_id is required and must not be empty"
  refuseIf (message.asset = "")
    "asset is required and must not be empty"
  refuseIf (message.amount = 0)
    "amount must be greater than 0"
  ifSome message.coreproverContract fun contract =>
    refuseIf
      (RustString.startsWith "0x" contract = false ∨
        RustString.len contract ≠ 42)
      ("coreprover_contract must be a valid " ++
        "Ethereum address: " ++ contract)
  EconomicEnvelope.validate message.economicEnvelope

def SettleMessage.validate
    (message : Tgp.SettleMessage) :
    Except String Unit := do
  refuseIf (message.id = "")
    "id is required and must not be empty"
  refuseIf (message.queryOrOfferId = "")
    "query_or_offer_id is required and must not be empty"
  ifSome message.layer8Tx fun tx =>
    refuseIf
      (RustString.startsWith "0x" tx = false ∨
        RustString.len tx ≠ 66)
      ("layer8_tx must be a valid transaction hash " ++
        "(66 chars, 0x-prefixed): " ++ tx)

def ErrorMessage.validate
    (message : Tgp.ErrorMessage) :
    Except String Unit := do
  refuseIf (message.id = "")
    "id is required and must not be empty"
  refuseIf (message.code = "")
    "code is required and must not be empty"
  refuseIf (message.message = "")
    "message is required and must not be empty"

def TGPMessage.validate :
    Tgp.TGPMessage → Except String Unit
  | .query message => QueryMessage.validate message
  | .offer message => OfferMessage.validate message
  | .settle message => SettleMessage.validate message
  | .error message => ErrorMessage.validate message

end Protocol

end BorderController

------------------------------------------------------------
-- What Is Accepted
------------------------------------------------------------

namespace BorderController

namespace Tgp

open EarlyReturn

/- Starts with `0x` and has the given length. -/
def HexShaped (size : Nat) (value : String) : Prop :=
  RustString.startsWith "0x" value = true ∧
    RustString.len value = size

/- An expiry with the time zone `Z`. -/
def EndsInZ (expiry : String) : Prop :=
  RustString.contains 'T' expiry = true ∧
    RustString.endsWith 'Z' expiry = true

/- An expiry without it, but with a sign that may start a
   numeric time zone. -/
def HasSign (expiry : String) : Prop :=
  RustString.contains 'T' expiry = true ∧
    RustString.endsWith 'Z' expiry = false ∧
    (RustString.contains '+' expiry = true ∨
      RustString.contains '-' expiry = true)

@[simp] theorem validateNonEmpty_eq_ok_iff
    {value fieldName : String} :
    validateNonEmpty value fieldName = .ok () ↔
      value ≠ "" := by
  simp [validateNonEmpty]

@[simp] theorem validatePositiveAmount_eq_ok_iff
    {amount : UInt64}
    {fieldName : String} :
    validatePositiveAmount amount fieldName = .ok () ↔
      amount ≠ 0 := by
  simp [validatePositiveAmount]

theorem validateHex_eq_ok_iff
    {size : Nat}
    {wrongStart wrongSize wrongDigit value : String} :
    validateHex size wrongStart wrongSize wrongDigit value =
        .ok () ↔
      HexShaped size value ∧ isHexAfter0x value = true := by
  simp [validateHex, HexShaped, and_assoc]

@[simp] theorem validateAddress_eq_ok_iff
    {address fieldName : String} :
    validateAddress address fieldName = .ok () ↔
      HexShaped 42 address ∧ isHexAfter0x address = true := by
  unfold validateAddress
  exact validateHex_eq_ok_iff

@[simp] theorem validateTransactionHash_eq_ok_iff
    {hash fieldName : String} :
    validateTransactionHash hash fieldName = .ok () ↔
      HexShaped 66 hash ∧ isHexAfter0x hash = true := by
  unfold validateTransactionHash
  exact validateHex_eq_ok_iff

/- The check of the protocol module for the same fields. -/
theorem hexShaped_iff
    {size : Nat}
    {value : String} :
    ¬ (RustString.startsWith "0x" value = false ∨
        RustString.len value ≠ size) ↔
      HexShaped size value := by
  simp [HexShaped]

end Tgp

end BorderController

------------------------------------------------------------
-- Accepted Messages
------------------------------------------------------------

namespace BorderController

namespace Tgp

open EarlyReturn

variable {value : String}

/- The required fields of each message are filled in. -/
def QueryMessage.Complete (message : QueryMessage) : Prop :=
  message.id ≠ "" ∧ message.«from» ≠ "" ∧
    message.«to» ≠ "" ∧ message.asset ≠ "" ∧
    message.amount ≠ 0

def OfferMessage.Complete (message : OfferMessage) : Prop :=
  message.id ≠ "" ∧ message.queryId ≠ "" ∧
    message.asset ≠ "" ∧ message.amount ≠ 0 ∧
    message.economicEnvelope.maxFeesBps ≤ 10000

def SettleMessage.Complete (message : SettleMessage) : Prop :=
  message.id ≠ "" ∧ message.queryOrOfferId ≠ ""

/- An optional address or hash, as each module asks. -/
def ShapedIfAny
    (size : Nat)
    (field : Option String) :
    Prop :=
  ∀ value, field = some value → HexShaped size value

def HexIfAny
    (size : Nat)
    (field : Option String) :
    Prop :=
  ∀ value, field = some value →
    HexShaped size value ∧ isHexAfter0x value = true

theorem QueryMessage.validate_eq_ok_iff
    {message : QueryMessage} :
    message.validate = .ok () ↔
      message.Complete ∧
        HexIfAny 42 message.escrowContractFrom402 := by
  simp [QueryMessage.validate, QueryMessage.Complete,
    HexIfAny, and_assoc]

theorem EconomicEnvelope.validate_eq_ok_iff
    {envelope : EconomicEnvelope} :
    envelope.validate = .ok () ↔
      envelope.maxFeesBps ≤ 10000 ∧
        ∀ expiry, envelope.expiry = some expiry →
          EndsInZ expiry ∨ HasSign expiry := by
  have hExpiry : ∀ expiry : String,
      ¬ (RustString.contains 'T' expiry = false ∨
          RustString.endsWith 'Z' expiry = false ∧
            RustString.contains '+' expiry = false ∧
            RustString.contains '-' expiry = false) ↔
        EndsInZ expiry ∨ HasSign expiry := by
    intro expiry
    unfold EndsInZ HasSign
    cases RustString.contains 'T' expiry <;>
      cases RustString.endsWith 'Z' expiry <;>
      simp [or_iff_not_imp_left]
  simp only [EconomicEnvelope.validate, bind_eq_ok_iff,
    refuseIf_eq_ok_iff, ifSome_eq_ok_iff, hExpiry,
    UInt32.not_lt]

theorem OfferMessage.validate_eq_ok_iff
    {message : OfferMessage} :
    message.validate = .ok () ↔
      message.Complete ∧
        HexIfAny 42 message.coreproverContract ∧
        ∀ expiry,
          message.economicEnvelope.expiry = some expiry →
            EndsInZ expiry ∨ HasSign expiry := by
  simp only [OfferMessage.validate, OfferMessage.Complete,
    HexIfAny, bind_eq_ok_iff, ifSome_eq_ok_iff,
    validateNonEmpty_eq_ok_iff, validateAddress_eq_ok_iff,
    validatePositiveAmount_eq_ok_iff,
    EconomicEnvelope.validate_eq_ok_iff]
  tauto

theorem SettleMessage.validate_eq_ok_iff
    {message : SettleMessage} :
    message.validate = .ok () ↔
      message.Complete ∧
        HexIfAny 66 message.layer8Tx := by
  simp [SettleMessage.validate, SettleMessage.Complete,
    HexIfAny, and_assoc]

end Tgp

namespace Protocol

open EarlyReturn
open Tgp

theorem QueryMessage.validate_eq_ok_iff
    {message : Tgp.QueryMessage} :
    QueryMessage.validate message = .ok () ↔
      message.Complete ∧
        ShapedIfAny 42 message.escrowContractFrom402 := by
  simp only [QueryMessage.validate, ShapedIfAny,
    Tgp.QueryMessage.Complete, bind_eq_ok_iff,
    refuseIf_eq_ok_iff, ifSome_eq_ok_iff, hexShaped_iff,
    and_assoc]

theorem EconomicEnvelope.validate_eq_ok_iff
    {envelope : Tgp.EconomicEnvelope} :
    EconomicEnvelope.validate envelope = .ok () ↔
      envelope.maxFeesBps ≤ 10000 ∧
        ∀ expiry, envelope.expiry = some expiry →
          EndsInZ expiry := by
  simp [EconomicEnvelope.validate, EndsInZ]

theorem OfferMessage.validate_eq_ok_iff
    {message : Tgp.OfferMessage} :
    OfferMessage.validate message = .ok () ↔
      message.Complete ∧
        ShapedIfAny 42 message.coreproverContract ∧
        ∀ expiry,
          message.economicEnvelope.expiry = some expiry →
            EndsInZ expiry := by
  simp only [OfferMessage.validate, ShapedIfAny,
    Tgp.OfferMessage.Complete, bind_eq_ok_iff,
    refuseIf_eq_ok_iff, ifSome_eq_ok_iff, hexShaped_iff,
    EconomicEnvelope.validate_eq_ok_iff]
  tauto

theorem SettleMessage.validate_eq_ok_iff
    {message : Tgp.SettleMessage} :
    SettleMessage.validate message = .ok () ↔
      message.Complete ∧
        ShapedIfAny 66 message.layer8Tx := by
  simp only [SettleMessage.validate, ShapedIfAny,
    Tgp.SettleMessage.Complete, bind_eq_ok_iff,
    refuseIf_eq_ok_iff, ifSome_eq_ok_iff, hexShaped_iff,
    and_assoc]

theorem ErrorMessage.validate_eq_ok_iff
    {message : Tgp.ErrorMessage} :
    ErrorMessage.validate message = .ok () ↔
      message.validate = .ok () := by
  simp [ErrorMessage.validate, Tgp.ErrorMessage.validate]

end Protocol

end BorderController

------------------------------------------------------------
-- Where They Differ
------------------------------------------------------------

namespace BorderController

namespace Tgp

variable {size : Nat}
variable {field : Option String}

/- An address or a hash with something else than digits. -/
def NotHex
    (size : Nat)
    (field : Option String) :
    Prop :=
  ∃ value, field = some value ∧
    HexShaped size value ∧ isHexAfter0x value = false

def OfferMessage.Disputed (message : OfferMessage) : Prop :=
  message.Complete ∧
    ((NotHex 42 message.coreproverContract ∧
        ∀ expiry,
          message.economicEnvelope.expiry = some expiry →
            EndsInZ expiry) ∨
      (HexIfAny 42 message.coreproverContract ∧
        ∃ expiry,
          message.economicEnvelope.expiry = some expiry ∧
            HasSign expiry))

/- The messages that only one of the modules accepts. -/
def TGPMessage.Disputed : TGPMessage → Prop
  | .query message =>
      message.Complete ∧
        NotHex 42 message.escrowContractFrom402
  | .offer message => message.Disputed
  | .settle message =>
      message.Complete ∧ NotHex 66 message.layer8Tx
  | .error _ => False

theorem ShapedIfAny.of_hex
    (hHex : HexIfAny size field) :
    ShapedIfAny size field :=
  fun value hValue => (hHex value hValue).1

/- Of a field with the right shape, only the digits are left
   to ask about. -/
theorem hexIfAny_iff_of_shaped
    (hShaped : ShapedIfAny size field) :
    HexIfAny size field ↔ ¬ NotHex size field := by
  constructor
  · intro hHex hNotHex
    rcases hNotHex with ⟨value, hValue, -, hDigits⟩
    have hAll := (hHex value hValue).2
    rw [hDigits] at hAll
    exact Bool.false_ne_true hAll
  · intro hNotHex value hValue
    have hShape := hShaped value hValue
    refine ⟨hShape, ?_⟩
    by_contra hDigits
    apply hNotHex
    exact ⟨value, hValue, hShape, by simpa using hDigits⟩

theorem ShapedIfAny.of_notHex
    (hNotHex : NotHex size field) :
    ShapedIfAny size field := by
  intro value hValue
  rcases hNotHex with ⟨other, hOther, hShape, -⟩
  rw [hValue] at hOther
  cases hOther
  exact hShape

/- A required part that both ask for, and a field that one
   of them asks more of. -/
theorem accept_iff_accept_iff
    {complete : Prop} :
    ((complete ∧ ShapedIfAny size field) ↔
        (complete ∧ HexIfAny size field)) ↔
      ¬ (complete ∧ NotHex size field) := by
  by_cases hShaped : ShapedIfAny size field
  · have hHex := hexIfAny_iff_of_shaped hShaped
    tauto
  · have hNoHex : ¬ HexIfAny size field :=
      fun hHex => hShaped (.of_hex hHex)
    have hHex : ¬ NotHex size field :=
      fun hNotHex => hShaped (.of_notHex hNotHex)
    tauto

theorem endsInZ_not_hasSign
    {expiry : String}
    (hZ : EndsInZ expiry) :
    ¬ HasSign expiry := by
  intro hSign
  have hEnd := hSign.2.1
  rw [hZ.2] at hEnd
  exact Bool.noConfusion hEnd

theorem OfferMessage.agree_iff
    {message : OfferMessage} :
    (Protocol.OfferMessage.validate message = .ok () ↔
        message.validate = .ok ()) ↔
      ¬ message.Disputed := by
  rw [Protocol.OfferMessage.validate_eq_ok_iff,
    OfferMessage.validate_eq_ok_iff]
  unfold OfferMessage.Disputed
  cases hExpiry : message.economicEnvelope.expiry with
  | none =>
      simpa using accept_iff_accept_iff
  | some expiry =>
      have hAgree := @accept_iff_accept_iff 42
        message.coreproverContract message.Complete
      simp only [Option.some.injEq, forall_eq',
        exists_eq_left']
      by_cases hZ : EndsInZ expiry
      · have hSign := endsInZ_not_hasSign hZ
        simpa [hZ, hSign] using hAgree
      · simp only [hZ, and_false, false_or, false_iff]

/- The two validators agree on every message but those. -/
theorem validate_agree_iff
    {message : TGPMessage} :
    (Protocol.TGPMessage.validate message = .ok () ↔
        message.validate = .ok ()) ↔
      ¬ message.Disputed := by
  cases message with
  | query message =>
      simp only [Protocol.TGPMessage.validate,
        TGPMessage.validate, TGPMessage.Disputed,
        Protocol.QueryMessage.validate_eq_ok_iff,
        QueryMessage.validate_eq_ok_iff]
      exact accept_iff_accept_iff
  | offer message =>
      exact OfferMessage.agree_iff
  | settle message =>
      simp only [Protocol.TGPMessage.validate,
        TGPMessage.validate, TGPMessage.Disputed,
        Protocol.SettleMessage.validate_eq_ok_iff,
        SettleMessage.validate_eq_ok_iff]
      exact accept_iff_accept_iff
  | error message =>
      simp only [Protocol.TGPMessage.validate,
        TGPMessage.validate, TGPMessage.Disputed,
        Protocol.ErrorMessage.validate_eq_ok_iff,
        not_false_eq_true]

/- A query whose contract address is `0x` and forty times
   the letter `g`. -/
def queryToG : TGPMessage :=
  .query
    { id := "q-1"
      «from» := "buyer://alice"
      «to» := "seller://bob"
      asset := "USDC"
      amount := 1000
      escrowFrom402 := true
      escrowContractFrom402 :=
        some "0xgggggggggggggggggggggggggggggggggggggggg"
      zkProfile := .optional }

theorem queryToG_disputed :
    Protocol.TGPMessage.validate queryToG = .ok () ∧
      queryToG.validate =
        .error
          ("escrow_contract_from_402 must contain only " ++
            "hexadecimal characters after 0x: " ++
            "0xgggggggggggggggggggggggggggggggggggggggg") := by
  constructor <;> rfl

end Tgp

end BorderController

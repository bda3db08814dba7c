import BorderController.Txip.Value

/-
  The messages of the gateway protocol, and how they are
  turned into JSON values and back.

  Key definitions include:
    * `ZkProfile`, `EconomicEnvelope`, `SettleSource`
    * `QueryMessage`, `OfferMessage`, `SettleMessage`,
      `ErrorMessage`
    * `TGPMessage`
    * `TGPMessage.toValue`, `TGPMessage.ofValue`
-/

------------------------------------------------------------
-- Supporting Types
------------------------------------------------------------

namespace BorderController

namespace Tgp

inductive ZkProfile where
  | none
  | optional
  | required
deriving DecidableEq, Repr

structure EconomicEnvelope where
  maxFeesBps : UInt32
  expiry : Option String
deriving DecidableEq, Repr

inductive SettleSource where
  | buyerNotify
  | controllerWatcher
  | coreproverIndexer
deriving DecidableEq, Repr

end Tgp

end BorderController

------------------------------------------------------------
-- Messages
------------------------------------------------------------

namespace BorderController

namespace Tgp

structure QueryMessage where
  id : String
  «from» : String
  «to» : String
  asset : String
  amount : UInt64
  escrowFrom402 : Bool
  escrowContractFrom402 : Option String
  zkProfile : ZkProfile
deriving DecidableEq, Repr

structure OfferMessage where
  id : String
  queryId : String
  asset : String
  amount : UInt64
  coreproverContract : Option String
  sessionId : Option String
  zkRequired : Bool
  economicEnvelope : EconomicEnvelope
deriving DecidableEq, Repr

structure SettleMessage where
  id : String
  queryOrOfferId : String
  success : Bool
  source : SettleSource
  layer8Tx : Option String
  sessionId : Option String
deriving DecidableEq, Repr

structure ErrorMessage where
  id : String
  code : String
  message : String
  correlationId : Option String
deriving DecidableEq, Repr

inductive TGPMessage where
  | query (message : QueryMessage)
  | offer (message : OfferMessage)
  | settle (message : SettleMessage)
  | error (message : ErrorMessage)
deriving DecidableEq, Repr

end Tgp

end BorderController

------------------------------------------------------------
-- Fields
------------------------------------------------------------

namespace BorderController

namespace Tgp

open Serde

variable {F : Type}

instance : UnitEnum ZkProfile where
  variants := [.none, .optional, .required]
  name
    | .none => "NONE"
    | .optional => "OPTIONAL"
    | .required => "REQUIRED"

instance : UnitEnum SettleSource where
  variants :=
    [.buyerNotify, .controllerWatcher, .coreproverIndexer]
  name
    | .buyerNotify => "buyer-notify"
    | .controllerWatcher => "controller-watcher"
    | .coreproverIndexer => "coreprover-indexer"

instance : Record F EconomicEnvelope where
  names := ["max_fees_bps", "expiry"]
  fields envelope :=
    [("max_fees_bps", some (serialize envelope.maxFeesBps)),
      ("expiry", envelope.expiry.map serialize)]
  ofFields fields := do
    return {
      maxFeesBps := ← required fields "max_fees_bps"
      expiry := ← optional fields "expiry" }

instance : Record F QueryMessage where
  names :=
    ["id", "from", "to", "asset", "amount", "escrow_from_402",
      "escrow_contract_from_402", "zk_profile"]
  fields message :=
    [("id", some (serialize message.id)),
      ("from", some (serialize message.«from»)),
      ("to", some (serialize message.«to»)),
      ("asset", some (serialize message.asset)),
      ("amount", some (serialize message.amount)),
      ("escrow_from_402",
        some (serialize message.escrowFrom402)),
      ("escrow_contract_from_402",
        message.escrowContractFrom402.map serialize),
      ("zk_profile", some (serialize message.zkProfile))]
  ofFields fields := do
    return {
      id := ← required fields "id"
      «from» := ← required fields "from"
      «to» := ← required fields "to"
      asset := ← required fields "asset"
      amount := ← required fields "amount"
      escrowFrom402 := ← required fields "escrow_from_402"
      escrowContractFrom402 :=
        ← optional fields "escrow_contract_from_402"
      zkProfile := ← required fields "zk_profile" }

instance : Record F OfferMessage where
  names :=
    ["id", "query_id", "asset", "amount",
      "coreprover_contract", "session_id", "zk_required",
      "economic_envelope"]
  fields message :=
    [("id", some (serialize message.id)),
      ("query_id", some (serialize message.queryId)),
      ("asset", some (serialize message.asset)),
      ("amount", some (serialize message.amount)),
      ("coreprover_contract",
        message.coreproverContract.map serialize),
      ("session_id", message.sessionId.map serialize),
      ("zk_required", some (serialize message.zkRequired)),
      ("economic_envelope",
        some (serialize message.economicEnvelope))]
  ofFields fields := do
    return {
      id := ← required fields "id"
      queryId := ← required fields "query_id"
      asset := ← required fields "asset"
      amount := ← required fields "amount"
      coreproverContract :=
        ← optional fields "coreprover_contract"
      sessionId := ← optional fields "session_id"
      zkRequired := ← required fields "zk_required"
      economicEnvelope :=
        ← required fields "economic_envelope" }

instance : Record F SettleMessage where
  names :=
    ["id", "query_or_offer_id", "success", "source",
      "layer8_tx", "session_id"]
  fields message :=
    [("id", some (serialize message.id)),
      ("query_or_offer_id",
        some (serialize message.queryOrOfferId)),
      ("success", some (serialize message.success)),
      ("source", some (serialize message.source)),
      ("layer8_tx", message.layer8Tx.map serialize),
      ("session_id", message.sessionId.map serialize)]
  ofFields fields := do
    return {
      id := ← required fields "id"
      queryOrOfferId := ← required fields "query_or_offer_id"
      success := ← required fields "success"
      source := ← required fields "source"
      layer8Tx := ← optional fields "layer8_tx"
      sessionId := ← optional fields "session_id" }

instance : Record F ErrorMessage where
  names := ["id", "code", "message", "correlation_id"]
  fields error :=
    [("id", some (serialize error.id)),
      ("code", some (serialize error.code)),
      ("message", some (serialize error.message)),
      ("correlation_id", error.correlationId.map serialize)]
  ofFields fields := do
    return {
      id := ← required fields "id"
      code := ← required fields "code"
      message := ← required fields "message"
      correlationId := ← optional fields "correlation_id" }

end Tgp

end BorderController

------------------------------------------------------------
-- Values
------------------------------------------------------------

namespace BorderController

namespace Tgp

open Serde

namespace TGPMessage

variable {F : Type}

def serialize : TGPMessage → Json F
  | .query message => serializeTagged "phase" "QUERY" message
  | .offer message => serializeTagged "phase" "OFFER" message
  | .settle message =>
      serializeTagged "phase" "SETTLE" message
  | .error message => serializeTagged "phase" "ERROR" message

def deserializeVariant
    (name : String)
    (item : Json F) :
    Except Error TGPMessage :=
  match name with
  | "QUERY" => (Serde.deserialize item).map .query
  | "OFFER" => (Serde.deserialize item).map .offer
  | "SETTLE" => (Serde.deserialize item).map .settle
  | "ERROR" => (Serde.deserialize item).map .error
  | name => .error (.unknownVariant name)

def deserialize : Json F → Except Error TGPMessage :=
  deserializeTagged "phase" deserializeVariant

/- A message as a JSON value, and back. -/
def toValue (message : TGPMessage) : Txip.Value :=
  .ofJson message.serialize

def ofValue (value : Txip.Value) : Except Error TGPMessage :=
  deserialize value.toJson

end TGPMessage

end Tgp

end BorderController

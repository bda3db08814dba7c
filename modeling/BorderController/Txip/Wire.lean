import BorderController.Txip.Value

/-
  Envelopes on the wire: every field under its name, in the
  order of the text.

  Key definitions include:
    * `ControlPayload.serialize`, `ControlPayload.deserialize`
    * `Payload.serialize`, `Payload.deserialize`
    * `TxipEnvelope.toText`, `TxipEnvelope.fromText`
-/

------------------------------------------------------------
-- Enumerations
------------------------------------------------------------

namespace BorderController

namespace Txip

instance : Serde.UnitEnum Direction where
  variants := [.clientToTbc, .tbcToClient, .tbcToTbc]
  name
    | .clientToTbc => "CLIENT_TO_TBC"
    | .tbcToClient => "TBC_TO_CLIENT"
    | .tbcToTbc => "TBC_TO_TBC"

instance : Serde.UnitEnum Role where
  variants := [.buyerAgent, .sellerAgent, .tbc, .watcher]
  name
    | .buyerAgent => "BUYER_AGENT"
    | .sellerAgent => "SELLER_AGENT"
    | .tbc => "TBC"
    | .watcher => "WATCHER"

instance : Serde.UnitEnum MessageType where
  variants := [.control, .tgp, .error]
  name
    | .control => "CONTROL"
    | .tgp => "TGP"
    | .error => "ERROR"

instance : Serde.UnitEnum TgpPhase where
  variants := [.query, .offer, .settle, .event, .none]
  name
    | .query => "QUERY"
    | .offer => "OFFER"
    | .settle => "SETTLE"
    | .event => "EVENT"
    | .none => "NONE"

instance : Serde.UnitEnum AuthScheme where
  variants := [.bearerJwt, .apiKey, .mtls, .none]
  name
    | .bearerJwt => "BEARER_JWT"
    | .apiKey => "API_KEY"
    | .mtls => "MTLS"
    | .none => "NONE"

instance : Serde.UnitEnum CloseReason where
  variants :=
    [.idleTimeout, .clientShutdown, .protocolError, .other]
  name
    | .idleTimeout => "idle_timeout"
    | .clientShutdown => "client_shutdown"
    | .protocolError => "protocol_error"
    | .other => "other"

instance : Serde.UnitEnum ErrorCode where
  variants :=
    [.txipInvalidEnvelope, .txipUnsupportedVersion,
      .txipUnauthenticated, .txipUnauthorized,
      .txipInternalError, .txipRateLimited,
      .txipUpstreamUnavailable, .txipMalformedTgpPayload]
  name
    | .txipInvalidEnvelope => "TXIP_INVALID_ENVELOPE"
    | .txipUnsupportedVersion => "TXIP_UNSUPPORTED_VERSION"
    | .txipUnauthenticated => "TXIP_UNAUTHENTICATED"
    | .txipUnauthorized => "TXIP_UNAUTHORIZED"
    | .txipInternalError => "TXIP_INTERNAL_ERROR"
    | .txipRateLimited => "TXIP_RATE_LIMITED"
    | .txipUpstreamUnavailable => "TXIP_UPSTREAM_UNAVAILABLE"
    | .txipMalformedTgpPayload =>
        "TXIP_MALFORMED_TGP_PAYLOAD"

end Txip

end BorderController

------------------------------------------------------------
-- Control Payloads
------------------------------------------------------------

namespace BorderController

namespace Txip

open Serde

variable {F : Type}

instance : Record F Features where
  names :=
    ["zk_discount_proofs", "receipt_ownership_proofs",
      "late_discount_support", "cross_chain_support"]
  fields features :=
    [("zk_discount_proofs",
        some (serialize features.zkDiscountProofs)),
      ("receipt_ownership_proofs",
        some (serialize features.receiptOwnershipProofs)),
      ("late_discount_support",
        some (serialize features.lateDiscountSupport)),
      ("cross_chain_support",
        some (serialize features.crossChainSupport))]
  ofFields fields := do
    return {
      zkDiscountProofs :=
        ← required fields "zk_discount_proofs"
      receiptOwnershipProofs :=
        ← required fields "receipt_ownership_proofs"
      lateDiscountSupport :=
        ← required fields "late_discount_support"
      crossChainSupport :=
        ← required fields "cross_chain_support" }

instance : Record F AuthInfo where
  names := ["scheme", "token"]
  fields auth :=
    [("scheme", some (serialize auth.scheme)),
      ("token", auth.token.map serialize)]
  ofFields fields := do
    return {
      scheme := ← required fields "scheme"
      token := ← optional fields "token" }

instance : Record F HelloPayload where
  names :=
    ["agent_id", "supported_tgp_versions",
      "supported_transports", "supported_chains",
      "supported_assets", "features", "auth"]
  fields hello :=
    [("agent_id", some (serialize hello.agentId)),
      ("supported_tgp_versions",
        some (serialize hello.supportedTgpVersions)),
      ("supported_transports",
        some (serialize hello.supportedTransports)),
      ("supported_chains",
        some (serialize hello.supportedChains)),
      ("supported_assets",
        some (serialize hello.supportedAssets)),
      ("features", some (serialize hello.features)),
      ("auth", some (serialize hello.auth))]
  ofFields fields := do
    return {
      agentId := ← required fields "agent_id"
      supportedTgpVersions :=
        ← required fields "supported_tgp_versions"
      supportedTransports :=
        ← required fields "supported_transports"
      supportedChains := ← required fields "supported_chains"
      supportedAssets := ← required fields "supported_assets"
      features := ← required fields "features"
      auth := ← required fields "auth" }

instance : Record F WelcomePayload where
  names :=
    ["tbc_id", "session_id", "negotiated_tgp_version",
      "negotiated_chains", "negotiated_features",
      "heartbeat_interval_sec"]
  fields welcome :=
    [("tbc_id", some (serialize welcome.tbcId)),
      ("session_id", some (serialize welcome.sessionId)),
      ("negotiated_tgp_version",
        some (serialize welcome.negotiatedTgpVersion)),
      ("negotiated_chains",
        some (serialize welcome.negotiatedChains)),
      ("negotiated_features",
        some (serialize welcome.negotiatedFeatures)),
      ("heartbeat_interval_sec",
        some (serialize welcome.heartbeatIntervalSec))]
  ofFields fields := do
    return {
      tbcId := ← required fields "tbc_id"
      sessionId := ← required fields "session_id"
      negotiatedTgpVersion :=
        ← required fields "negotiated_tgp_version"
      negotiatedChains :=
        ← required fields "negotiated_chains"
      negotiatedFeatures :=
        ← required fields "negotiated_features"
      heartbeatIntervalSec :=
        ← required fields "heartbeat_interval_sec" }

instance : Record F HeartbeatPayload where
  names := ["seq"]
  fields heartbeat := [("seq", some (serialize heartbeat.seq))]
  ofFields fields := do
    return { seq := ← required fields "seq" }

instance : Record F ClosePayload where
  names := ["reason"]
  fields close := [("reason", some (serialize close.reason))]
  ofFields fields := do
    return { reason := ← required fields "reason" }

namespace ControlPayload

def serialize : ControlPayload → Json F
  | .hello payload =>
      serializeTagged "control_type" "HELLO" payload
  | .welcome payload =>
      serializeTagged "control_type" "WELCOME" payload
  | .heartbeat payload =>
      serializeTagged "control_type" "HEARTBEAT" payload
  | .close payload =>
      serializeTagged "control_type" "CLOSE" payload

def deserializeVariant
    (name : String)
    (item : Json F) :
    Except Error ControlPayload :=
  match name with
  | "HELLO" => (Serde.deserialize item).map .hello
  | "WELCOME" => (Serde.deserialize item).map .welcome
  | "HEARTBEAT" => (Serde.deserialize item).map .heartbeat
  | "CLOSE" => (Serde.deserialize item).map .close
  | name => .error (.unknownVariant name)

def deserialize : Json F → Except Error ControlPayload :=
  deserializeTagged "control_type" deserializeVariant

end ControlPayload

instance : Serde F ControlPayload where
  serialize := ControlPayload.serialize
  deserialize := ControlPayload.deserialize

end Txip

end BorderController

------------------------------------------------------------
-- Payloads
------------------------------------------------------------

namespace BorderController

namespace Txip

open Serde

instance : Record UInt64 TgpPayload where
  names := ["tgp"]
  fields payload := [("tgp", some (serialize payload.tgp))]
  ofFields fields := do
    return { tgp := ← required fields "tgp" }

instance
    {F : Type} :
    Record F ErrorPayload where
  names :=
    ["error_code", "http_status", "related_msg_id", "details",
      "retryable"]
  fields error :=
    [("error_code", some (serialize error.errorCode)),
      ("http_status", some (serialize error.httpStatus)),
      ("related_msg_id", error.relatedMsgId.map serialize),
      ("details", some (serialize error.details)),
      ("retryable", some (serialize error.retryable))]
  ofFields fields := do
    return {
      errorCode := ← required fields "error_code"
      httpStatus := ← required fields "http_status"
      relatedMsgId := ← optional fields "related_msg_id"
      details := ← required fields "details"
      retryable := ← required fields "retryable" }

namespace Payload

def serialize : Payload → Json UInt64
  | .control payload => Serde.serialize payload
  | .tgp payload => Serde.serialize payload
  | .error payload => Serde.serialize payload

/- The variants are tried in the order of the source. -/
def deserialize : Json UInt64 → Except Error Payload :=
  deserializeUntagged
    [fun item => (Serde.deserialize item).map .control,
      fun item => (Serde.deserialize item).map .tgp,
      fun item => (Serde.deserialize item).map .error]

end Payload

instance : Serde UInt64 Payload where
  serialize := Payload.serialize
  deserialize := Payload.deserialize

end Txip

end BorderController

------------------------------------------------------------
-- Envelopes
------------------------------------------------------------

namespace BorderController

namespace Txip

open Serde

instance : Record UInt64 TxipEnvelope where
  names :=
    ["txip_version", "msg_id", "session_id", "direction",
      "role", "timestamp_mono", "timestamp_unix",
      "timestamp_iso", "message_type", "tgp_phase", "tgp_type",
      "origin_chain_id", "payload"]
  fields envelope :=
    [("txip_version", some (serialize envelope.txipVersion)),
      ("msg_id", some (serialize envelope.msgId)),
      ("session_id", some (serialize envelope.sessionId)),
      ("direction", some (serialize envelope.direction)),
      ("role", some (serialize envelope.role)),
      ("timestamp_mono",
        some (serialize envelope.timestampMono)),
      ("timestamp_unix",
        some (serialize envelope.timestampUnix)),
      ("timestamp_iso",
        some (serialize envelope.timestampIso)),
      ("message_type", some (serialize envelope.messageType)),
      ("tgp_phase", some (serialize envelope.tgpPhase)),
      ("tgp_type", envelope.tgpType.map serialize),
      ("origin_chain_id",
        envelope.originChainId.map serialize),
      ("payload", some (serialize envelope.payload))]
  ofFields fields := do
    return {
      txipVersion := ← required fields "txip_version"
      msgId := ← required fields "msg_id"
      sessionId := ← required fields "session_id"
      direction := ← required fields "direction"
      role := ← required fields "role"
      timestampMono := ← required fields "timestamp_mono"
      timestampUnix := ← required fields "timestamp_unix"
      timestampIso := ← required fields "timestamp_iso"
      messageType := ← required fields "message_type"
      tgpPhase := ← required fields "tgp_phase"
      tgpType := ← optional fields "tgp_type"
      originChainId := ← optional fields "origin_chain_id"
      payload := ← required fields "payload" }

/- Why a text is not an envelope. -/
inductive WireError where
  | text (e : Json.ParseError)
  | data (e : Serde.Error)
deriving DecidableEq, Repr

/-
  The texts of the JSON library, which reads at most 127
  layers.
-/
abbrev JsonLibrary :=
  Json.Format UInt64 127

namespace TxipEnvelope

variable (library : JsonLibrary)

def toText (envelope : TxipEnvelope) : List Char :=
  library.write (serialize envelope)

/-
  By way of a tree of the whole text.  The source skips fields
  that it does not know while it reads, however deep they are; a
  text that `toText` wrote has none.
-/
def fromText
    (text : List Char) :
    Except WireError TxipEnvelope :=
  match library.read text with
  | .error e => .error (.text e)
  | .ok item => (deserialize item).mapError .data

end TxipEnvelope

end Txip

end BorderController

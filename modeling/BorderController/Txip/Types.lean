import Mathlib.Data.UInt

/-
  The TxIP envelope with its payloads and time stamps, and the
  check an envelope has to pass.

  Key definitions include:
    * `TripleTimestamp`
    * `Value`
    * `Payload`
    * `TxipEnvelope`
    * `TxipEnvelope.validate`

  Key theorems include:
    * `TxipEnvelope.validate_ok_iff`
-/

------------------------------------------------------------
-- Time Stamps
------------------------------------------------------------

namespace BorderController

namespace Txip

structure TripleTimestamp where
  mono : UInt64
  unix : UInt64
  iso : String
deriving DecidableEq, Repr

namespace TripleTimestamp

/- A rough format check: a `T`, and a zone or a sign anywhere. -/
def validateIso
    (timestamp : TripleTimestamp) :
    Except String Unit :=
  let iso := timestamp.iso.toList
  if 'T' ∉ iso then
    .error "ISO timestamp must contain 'T' separator"
  else if iso.getLast? ≠ some 'Z' ∧ '+' ∉ iso ∧ '-' ∉ iso then
    .error "ISO timestamp must have timezone (Z or +/-)"
  else
    .ok ()

end TripleTimestamp

end Txip

end BorderController

------------------------------------------------------------
-- JSON Values
------------------------------------------------------------

namespace BorderController

namespace Txip

/- A `serde_json::Number`; a float is its 64 bits. -/
inductive Number where
  | posInt (n : UInt64)
  | negInt (n : Int64)
  | float (bits : UInt64)
deriving DecidableEq

/- A `serde_json::Value`; an object lists its sorted entries. -/
inductive Value where
  | null
  | bool (value : Bool)
  | number (value : Number)
  | string (value : String)
  | array (items : List Value)
  | object (entries : List (String × Value))

end Txip

end BorderController

------------------------------------------------------------
-- Envelope Fields
------------------------------------------------------------

namespace BorderController

namespace Txip

abbrev ChainId := UInt64

inductive Direction where
  | clientToTbc
  | tbcToClient
  | tbcToTbc
deriving DecidableEq, Repr

inductive Role where
  | buyerAgent
  | sellerAgent
  | tbc
  | watcher
deriving DecidableEq, Repr

inductive MessageType where
  | control
  | tgp
  | error
deriving DecidableEq, Repr

inductive TgpPhase where
  | query
  | offer
  | settle
  | event
  | none
deriving DecidableEq, Repr

end Txip

end BorderController

------------------------------------------------------------
-- Payloads
------------------------------------------------------------

namespace BorderController

namespace Txip

structure Features where
  zkDiscountProofs : Bool
  receiptOwnershipProofs : Bool
  lateDiscountSupport : Bool
  crossChainSupport : Bool
deriving DecidableEq, Repr

inductive AuthScheme where
  | bearerJwt
  | apiKey
  | mtls
  | none
deriving DecidableEq, Repr

structure AuthInfo where
  scheme : AuthScheme
  token : Option String
deriving DecidableEq, Repr

structure HelloPayload where
  agentId : String
  supportedTgpVersions : List String
  supportedTransports : List String
  supportedChains : List ChainId
  supportedAssets : List String
  features : Features
  auth : AuthInfo
deriving DecidableEq, Repr

structure WelcomePayload where
  tbcId : String
  sessionId : String
  negotiatedTgpVersion : String
  negotiatedChains : List ChainId
  negotiatedFeatures : Features
  heartbeatIntervalSec : UInt64
deriving DecidableEq, Repr

structure HeartbeatPayload where
  seq : UInt64
deriving DecidableEq, Repr

inductive CloseReason where
  | idleTimeout
  | clientShutdown
  | protocolError
  | other
deriving DecidableEq, Repr

structure ClosePayload where
  reason : CloseReason
deriving DecidableEq, Repr

inductive ControlPayload where
  | hello (hello : HelloPayload)
  | welcome (welcome : WelcomePayload)
  | heartbeat (heartbeat : HeartbeatPayload)
  | close (close : ClosePayload)
deriving DecidableEq, Repr

/- A raw TGP message. -/
structure TgpPayload where
  tgp : Value

inductive ErrorCode where
  | txipInvalidEnvelope
  | txipUnsupportedVersion
  | txipUnauthenticated
  | txipUnauthorized
  | txipInternalError
  | txipRateLimited
  | txipUpstreamUnavailable
  | txipMalformedTgpPayload
deriving DecidableEq, Repr

structure ErrorPayload where
  errorCode : ErrorCode
  httpStatus : UInt16
  relatedMsgId : Option String
  details : String
  retryable : Bool
deriving DecidableEq, Repr

inductive Payload where
  | control (control : ControlPayload)
  | tgp (tgp : TgpPayload)
  | error (error : ErrorPayload)

end Txip

end BorderController

------------------------------------------------------------
-- Envelopes
------------------------------------------------------------

namespace BorderController

namespace Txip

def txipVersion : String := "0.2"

structure TxipEnvelope where
  txipVersion : String
  msgId : String
  sessionId : String
  direction : Direction
  role : Role
  timestampMono : UInt64
  timestampUnix : UInt64
  timestampIso : String
  messageType : MessageType
  tgpPhase : TgpPhase
  tgpType : Option String
  originChainId : Option ChainId
  payload : Payload

namespace TxipEnvelope

def new
    (msgId sessionId : String)
    (direction : Direction)
    (role : Role)
    (messageType : MessageType)
    (tgpPhase : TgpPhase)
    (timestamp : TripleTimestamp)
    (payload : Payload) :
    TxipEnvelope :=
  { txipVersion := Txip.txipVersion
    msgId
    sessionId
    direction
    role
    timestampMono := timestamp.mono
    timestampUnix := timestamp.unix
    timestampIso := timestamp.iso
    messageType
    tgpPhase
    tgpType := none
    originChainId := none
    payload }

def tgp
    (msgId sessionId : String)
    (direction : Direction)
    (role : Role)
    (tgpPhase : TgpPhase)
    (timestamp : TripleTimestamp)
    (tgpMessage : Value) :
    TxipEnvelope :=
  .new msgId sessionId direction role .tgp tgpPhase timestamp
    (.tgp { tgp := tgpMessage })

def error
    (msgId sessionId : String)
    (direction : Direction)
    (errorCode : ErrorCode)
    (httpStatus : UInt16)
    (relatedMsgId : Option String)
    (details : String)
    (retryable : Bool)
    (timestamp : TripleTimestamp) :
    TxipEnvelope :=
  .new msgId sessionId direction .tbc .error .none timestamp
    (.error
      { errorCode, httpStatus, relatedMsgId, details,
        retryable })

def welcome
    (msgId sessionId tbcId negotiatedTgpVersion : String)
    (negotiatedChains : List ChainId)
    (negotiatedFeatures : Features)
    (heartbeatIntervalSec : UInt64)
    (timestamp : TripleTimestamp) :
    TxipEnvelope :=
  .new msgId sessionId .tbcToClient .tbc .control .none
    timestamp
    (.control (.welcome
      { tbcId, sessionId, negotiatedTgpVersion,
        negotiatedChains, negotiatedFeatures,
        heartbeatIntervalSec }))

def timestamp (envelope : TxipEnvelope) : TripleTimestamp :=
  { mono := envelope.timestampMono
    unix := envelope.timestampUnix
    iso := envelope.timestampIso }

def validate
    (envelope : TxipEnvelope) :
    Except String Unit :=
  if envelope.txipVersion ≠ Txip.txipVersion then
    .error
      ("Unsupported TxIP version: " ++ envelope.txipVersion)
  else if envelope.msgId = "" then
    .error "msg_id cannot be empty"
  else if envelope.sessionId = "" then
    .error "session_id cannot be empty"
  else
    match envelope.timestamp.validateIso with
    | .error e => .error e
    | .ok () =>
        match envelope.messageType, envelope.payload with
        | .control, .control _ => .ok ()
        | .tgp, .tgp _ => .ok ()
        | .error, .error _ => .ok ()
        | _, _ => .error "message_type does not match payload"

end TxipEnvelope

end Txip

end BorderController

------------------------------------------------------------
-- Valid Envelopes
------------------------------------------------------------

namespace BorderController

namespace Txip

/- The message type that goes with a payload. -/
def Payload.messageType : Payload → MessageType
  | .control _ => .control
  | .tgp _ => .tgp
  | .error _ => .error

theorem TxipEnvelope.validate_ok_iff
    {envelope : TxipEnvelope} :
    envelope.validate = .ok () ↔
      envelope.txipVersion = Txip.txipVersion ∧
        envelope.msgId ≠ "" ∧
        envelope.sessionId ≠ "" ∧
        envelope.timestamp.validateIso = .ok () ∧
        envelope.messageType = envelope.payload.messageType := by
  unfold TxipEnvelope.validate
  by_cases hVersion :
      envelope.txipVersion = Txip.txipVersion
  · by_cases hMsg : envelope.msgId = ""
    · simp [hVersion, hMsg]
    · by_cases hSession : envelope.sessionId = ""
      · simp [hVersion, hMsg, hSession]
      · cases hIso : envelope.timestamp.validateIso with
        | error e => simp [hVersion, hMsg, hSession]
        | ok u =>
            cases hType : envelope.messageType <;>
              cases hPayload : envelope.payload <;>
              simp [hVersion, hMsg, hSession,
                Payload.messageType]
  · simp [hVersion]

end Txip

end BorderController

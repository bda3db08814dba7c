import BorderController.Txip.Session

/-
  The HTTP handler of TxIP envelopes.

  Handling an envelope gives a response, what was forwarded to
  the TGP routing layer, and the session manager it leaves.

  Key definitions include:
    * `Ambient`
    * `Response`
    * `Handled`
    * `handleTxipMessage`
    * `Handling`

  Key theorems include:
    * `handleTxipMessage_handling`
-/

------------------------------------------------------------
-- Responses
------------------------------------------------------------

namespace BorderController

namespace Txip

structure MessageAcceptedResponse where
  status : String
  msgId : String
deriving DecidableEq, Repr

inductive Body where
  | accepted (response : MessageAcceptedResponse)
  | envelope (envelope : TxipEnvelope)
  | empty

structure Response where
  status : UInt16
  body : Body

structure HttpHandlerState where
  sessionManager : SessionManager
  tbcId : String

/-
  What the handler reads from outside for one envelope: the
  clock as the session manager reads it, the clock as the
  response reads it, and a random number.
-/
structure Ambient where
  sessionClock : TripleTimestamp
  responseClock : TripleTimestamp
  random : UInt64
deriving DecidableEq, Repr

def generateMsgId (ambient : Ambient) : String :=
  "msg-" ++ toString ambient.random

def acceptedResponse (msgId : String) : Response :=
  { status := 200
    body := .accepted { status := "accepted", msgId } }

/- `StatusCode::from_u16`, with 500 for what it rejects. -/
def statusFromU16 (httpStatus : UInt16) : UInt16 :=
  if 100 ≤ httpStatus ∧ httpStatus < 1000 then
    httpStatus
  else
    500

def errorResponse
    (ambient : Ambient)
    (sessionId : String)
    (errorCode : ErrorCode)
    (httpStatus : UInt16)
    (relatedMsgId : Option String)
    (details : String)
    (retryable : Bool) :
    Response :=
  { status := statusFromU16 httpStatus
    body :=
      .envelope
        (.error (generateMsgId ambient) sessionId .tbcToClient
          errorCode httpStatus relatedMsgId details retryable
          ambient.responseClock) }

end Txip

end BorderController

------------------------------------------------------------
-- Handlers
------------------------------------------------------------

namespace BorderController

namespace Txip

structure Handled where
  response : Response
  forwarded : Option TxipEnvelope
  sessionManager : SessionManager

/- A response that forwards nothing and changes nothing. -/
def Handled.reply
    (response : Response)
    (state : HttpHandlerState) :
    Handled :=
  { response
    forwarded := none
    sessionManager := state.sessionManager }

variable (state : HttpHandlerState)
variable (ambient : Ambient)

def handleHello
    (sessionId msgId : String)
    (hello : HelloPayload)
    (role : Role) :
    Handled :=
  match state.sessionManager.handleHello hello sessionId role
      ambient.sessionClock with
  | (.ok sessionInfo, manager) =>
      let welcome :=
        TxipEnvelope.welcome (generateMsgId ambient) sessionId
          state.tbcId sessionInfo.negotiatedTgpVersion
          sessionInfo.negotiatedChains sessionInfo.features
          manager.config.heartbeatIntervalSeconds
          ambient.responseClock
      { response := { status := 200, body := .envelope welcome }
        forwarded := none
        sessionManager :=
          manager.recordMessage sessionId msgId }
  | (.error e, manager) =>
      { response :=
          errorResponse ambient sessionId .txipInternalError
            500 (some msgId)
            ("Failed to create session: " ++ e) true
        forwarded := none
        sessionManager := manager }

def handleHeartbeat (sessionId msgId : String) : Handled :=
  match state.sessionManager.touchSession sessionId
      ambient.sessionClock with
  | (.error e, manager) =>
      { response :=
          errorResponse ambient sessionId .txipInternalError
            500 (some msgId)
            ("Failed to update session: " ++ e) true
        forwarded := none
        sessionManager := manager }
  | (.ok (), manager) =>
      { response := acceptedResponse msgId
        forwarded := none
        sessionManager :=
          manager.recordMessage sessionId msgId }

def handleClose (sessionId : String) : Handled :=
  { response := { status := 200, body := .empty }
    forwarded := none
    sessionManager :=
      state.sessionManager.closeSession sessionId }

def handleControlMessage (envelope : TxipEnvelope) : Handled :=
  match envelope.payload with
  | .control (.hello hello) =>
      handleHello state ambient envelope.sessionId
        envelope.msgId hello envelope.role
  | .control (.heartbeat _) =>
      handleHeartbeat state ambient envelope.sessionId
        envelope.msgId
  | .control (.close _) => handleClose state envelope.sessionId
  | .control (.welcome _) =>
      .reply
        (errorResponse ambient envelope.sessionId
          .txipInvalidEnvelope 400 (some envelope.msgId)
          "WELCOME messages are sent by TBC, not received"
          false)
        state
  | _ =>
      .reply
        (errorResponse ambient envelope.sessionId
          .txipInvalidEnvelope 400 (some envelope.msgId)
          "Invalid payload for CONTROL message" false)
        state

/- The TGP branch marks where the envelope is forwarded. -/
def handleTgpMessage (envelope : TxipEnvelope) : Handled :=
  match state.sessionManager.getSession
      envelope.sessionId with
  | none =>
      .reply
        (errorResponse ambient envelope.sessionId
          .txipUnauthenticated 401 (some envelope.msgId)
          "Session not found. Send HELLO first." false)
        state
  | some _ =>
      let manager :=
        (state.sessionManager.touchSession envelope.sessionId
          ambient.sessionClock).2.recordMessage
            envelope.sessionId envelope.msgId
      match envelope.payload with
      | .tgp _ =>
          { response := acceptedResponse envelope.msgId
            forwarded := some envelope
            sessionManager := manager }
      | _ =>
          { response :=
              errorResponse ambient envelope.sessionId
                .txipInvalidEnvelope 400 (some envelope.msgId)
                "Invalid payload for TGP message" false
            forwarded := none
            sessionManager := manager }

def handleTxipMessage (envelope : TxipEnvelope) : Handled :=
  match envelope.validate with
  | .error e =>
      .reply
        (errorResponse ambient envelope.sessionId
          .txipInvalidEnvelope 400 (some envelope.msgId) e
          false)
        state
  | .ok () =>
      if state.sessionManager.isDuplicateMessage
          envelope.sessionId envelope.msgId then
        .reply (acceptedResponse envelope.msgId) state
      else
        match envelope.messageType with
        | .control =>
            handleControlMessage state ambient envelope
        | .tgp => handleTgpMessage state ambient envelope
        | .error =>
            .reply (acceptedResponse envelope.msgId) state

end Txip

end BorderController

------------------------------------------------------------
-- Outcomes of a Delivery
------------------------------------------------------------

namespace BorderController

namespace Txip

/-
  The ways an envelope can be handled, with the session manager
  before and after.
-/
inductive Handling
    (state : HttpHandlerState)
    (ambient : Ambient)
    (envelope : TxipEnvelope) :
    Handled → Prop
  | replied (response : Response) :
      ¬ (envelope.validate = .ok () ∧
        state.sessionManager.Seen envelope.sessionId
          envelope.msgId) →
      Handling state ambient envelope (.reply response state)
  | duplicate :
      envelope.validate = .ok () →
      state.sessionManager.Seen envelope.sessionId
        envelope.msgId →
      Handling state ambient envelope
        (.reply (acceptedResponse envelope.msgId) state)
  | hello (hello : HelloPayload) (sessionInfo : SessionInfo)
      (manager : SessionManager) (response : Response) :
      envelope.validate = .ok () →
      ¬ state.sessionManager.Seen envelope.sessionId
        envelope.msgId →
      envelope.payload = .control (.hello hello) →
      state.sessionManager.handleHello hello
          envelope.sessionId envelope.role
          ambient.sessionClock =
        (.ok sessionInfo, manager) →
      Handling state ambient envelope
        { response
          forwarded := none
          sessionManager :=
            manager.recordMessage envelope.sessionId
              envelope.msgId }
  | heartbeat (session : SessionInfo) :
      envelope.validate = .ok () →
      ¬ state.sessionManager.Seen envelope.sessionId
        envelope.msgId →
      state.sessionManager.sessions envelope.sessionId =
        some session →
      Handling state ambient envelope
        { response := acceptedResponse envelope.msgId
          forwarded := none
          sessionManager :=
            (state.sessionManager.touchSession
              envelope.sessionId
              ambient.sessionClock).2.recordMessage
                envelope.sessionId envelope.msgId }
  | close (close : ClosePayload) :
      envelope.validate = .ok () →
      ¬ state.sessionManager.Seen envelope.sessionId
        envelope.msgId →
      envelope.payload = .control (.close close) →
      Handling state ambient envelope
        (handleClose state envelope.sessionId)
  | tgp (tgp : TgpPayload) (session : SessionInfo) :
      envelope.validate = .ok () →
      ¬ state.sessionManager.Seen envelope.sessionId
        envelope.msgId →
      envelope.payload = .tgp tgp →
      state.sessionManager.sessions envelope.sessionId =
        some session →
      Handling state ambient envelope
        { response := acceptedResponse envelope.msgId
          forwarded := some envelope
          sessionManager :=
            (state.sessionManager.touchSession
              envelope.sessionId
              ambient.sessionClock).2.recordMessage
                envelope.sessionId envelope.msgId }

variable {state : HttpHandlerState}
variable {ambient : Ambient}
variable {envelope : TxipEnvelope}

private theorem handleHello_handling
    {hello : HelloPayload}
    (hValid : envelope.validate = .ok ())
    (hSeen :
      ¬ state.sessionManager.Seen envelope.sessionId
        envelope.msgId)
    (hPayload : envelope.payload = .control (.hello hello)) :
    Handling state ambient envelope
      (handleHello state ambient envelope.sessionId
        envelope.msgId hello envelope.role) := by
  unfold handleHello
  cases hHello :
      state.sessionManager.handleHello hello
        envelope.sessionId envelope.role
        ambient.sessionClock with
  | mk result manager =>
      rcases SessionManager.handleHello_cases hHello with
        ⟨e, hResult, hSame⟩ | ⟨sessionInfo, hResult, _⟩
      · subst hResult hSame
        exact .replied _ (fun hBoth => hSeen hBoth.2)
      · subst hResult
        exact .hello hello sessionInfo manager _ hValid hSeen
          hPayload hHello

private theorem handleHeartbeat_handling
    (hValid : envelope.validate = .ok ())
    (hSeen :
      ¬ state.sessionManager.Seen envelope.sessionId
        envelope.msgId) :
    Handling state ambient envelope
      (handleHeartbeat state ambient envelope.sessionId
        envelope.msgId) := by
  unfold handleHeartbeat
  cases hSession :
      state.sessionManager.sessions envelope.sessionId with
  | none =>
      unfold SessionManager.touchSession
      rw [hSession]
      exact .replied _ (fun hBoth => hSeen hBoth.2)
  | some session =>
      have hHandling :
          Handling state ambient envelope _ :=
        .heartbeat session hValid hSeen hSession
      unfold SessionManager.touchSession at hHandling ⊢
      rw [hSession] at hHandling ⊢
      exact hHandling

private theorem handleControlMessage_handling
    {control : ControlPayload}
    (hValid : envelope.validate = .ok ())
    (hSeen :
      ¬ state.sessionManager.Seen envelope.sessionId
        envelope.msgId)
    (hPayload : envelope.payload = .control control) :
    Handling state ambient envelope
      (handleControlMessage state ambient envelope) := by
  unfold handleControlMessage
  rw [hPayload]
  cases control with
  | hello hello =>
      exact handleHello_handling hValid hSeen hPayload
  | welcome welcome =>
      exact .replied _ (fun hBoth => hSeen hBoth.2)
  | heartbeat heartbeat =>
      exact handleHeartbeat_handling hValid hSeen
  | close close => exact .close close hValid hSeen hPayload

private theorem handleTgpMessage_handling
    {tgp : TgpPayload}
    (hValid : envelope.validate = .ok ())
    (hSeen :
      ¬ state.sessionManager.Seen envelope.sessionId
        envelope.msgId)
    (hPayload : envelope.payload = .tgp tgp) :
    Handling state ambient envelope
      (handleTgpMessage state ambient envelope) := by
  unfold handleTgpMessage SessionManager.getSession
  cases hSession :
      state.sessionManager.sessions envelope.sessionId with
  | none => exact .replied _ (fun hBoth => hSeen hBoth.2)
  | some session =>
      rw [hPayload]
      exact .tgp tgp session hValid hSeen hPayload hSession

/- A valid envelope that is not a duplicate is routed. -/
theorem handleTxipMessage_of_fresh
    (hValid : envelope.validate = .ok ())
    (hFresh :
      ¬ state.sessionManager.Seen envelope.sessionId
        envelope.msgId) :
    handleTxipMessage state ambient envelope =
      match envelope.payload with
      | .control _ =>
          handleControlMessage state ambient envelope
      | .tgp _ => handleTgpMessage state ambient envelope
      | .error _ =>
          .reply (acceptedResponse envelope.msgId) state := by
  have hNew :
      state.sessionManager.isDuplicateMessage
          envelope.sessionId envelope.msgId =
        false := by
    rw [← Bool.not_eq_true,
      SessionManager.isDuplicateMessage_iff]
    exact hFresh
  have hType :=
    (TxipEnvelope.validate_ok_iff.mp hValid).2.2.2.2
  unfold handleTxipMessage
  rw [hValid]
  simp only [hNew, Bool.false_eq_true, if_false, hType]
  cases envelope.payload <;> rfl

/- Every delivery is handled in one of the ways. -/
theorem handleTxipMessage_handling
    (state : HttpHandlerState)
    (ambient : Ambient)
    (envelope : TxipEnvelope) :
    Handling state ambient envelope
      (handleTxipMessage state ambient envelope) := by
  by_cases hValid : envelope.validate = .ok ()
  · by_cases hSeen :
        state.sessionManager.Seen envelope.sessionId
          envelope.msgId
    · unfold handleTxipMessage
      rw [hValid]
      simp only [SessionManager.isDuplicateMessage_iff.mpr
        hSeen, if_true]
      exact .duplicate hValid hSeen
    · rw [handleTxipMessage_of_fresh hValid hSeen]
      cases hPayload : envelope.payload with
      | control control =>
          exact handleControlMessage_handling hValid hSeen
            hPayload
      | tgp tgp =>
          exact handleTgpMessage_handling hValid hSeen
            hPayload
      | error error =>
          exact .replied _ (fun hBoth => hSeen hBoth.2)
  · unfold handleTxipMessage
    cases hResult : envelope.validate with
    | error e =>
        exact .replied _ (fun hBoth => hValid hBoth.1)
    | ok u => exact absurd hResult hValid

end Txip

end BorderController

import BorderController.Txip.Handler

/-
  Requests in flight, one lock at a time.

  `handleTxipMessage` handles an envelope in one go.  Here a
  request remembers how far it has come, and each of its steps
  calls one method of the session manager, which holds its lock
  for that call only.  Other requests may come in between.

  Key definitions include:
    * `Stage`, `Request`
    * `Request.check`, `Request.route`
    * `Request.greet`, `Request.deliver`
    * `Request.step`

  Key theorems include:
    * `Request.alone_eq_handleTxipMessage`
-/

------------------------------------------------------------
-- Stages
------------------------------------------------------------

namespace BorderController

namespace Txip

/- The method after which the request is waiting. -/
inductive Stage where
  | arrived
  | checked
  | authenticated
  | touched
  | greeted (sessionInfo : SessionInfo)
  | finished
      (response : Response)
      (forwarded : Option TxipEnvelope)

structure Request where
  ambient : Ambient
  envelope : TxipEnvelope
  stage : Stage

end Txip

end BorderController

------------------------------------------------------------
-- Steps
------------------------------------------------------------

namespace BorderController

namespace Txip

namespace Request

variable (request : Request)
variable (state : HttpHandlerState)

def arrive
    (ambient : Ambient)
    (envelope : TxipEnvelope) :
    Request :=
  { ambient, envelope, stage := .arrived }

/- Answer the sender with an error. -/
def refuse
    (errorCode : ErrorCode)
    (httpStatus : UInt16)
    (details : String)
    (retryable : Bool) :
    Stage :=
  .finished
    (errorResponse request.ambient request.envelope.sessionId
      errorCode httpStatus (some request.envelope.msgId)
      details retryable)
    none

def accept (forwarded : Option TxipEnvelope) : Stage :=
  .finished (acceptedResponse request.envelope.msgId) forwarded

/- `validate`, then `is_duplicate_message`. -/
def check : Stage :=
  match request.envelope.validate with
  | .error e => request.refuse .txipInvalidEnvelope 400 e false
  | .ok () =>
      if state.sessionManager.isDuplicateMessage
          request.envelope.sessionId
          request.envelope.msgId then
        request.accept none
      else
        .checked

/- The first method of the handler of the message type. -/
def route : Stage × SessionManager :=
  let manager := state.sessionManager
  let sessionId := request.envelope.sessionId
  match request.envelope.messageType with
  | .control =>
      match request.envelope.payload with
      | .control (.hello hello) =>
          match manager.handleHello hello sessionId
              request.envelope.role
              request.ambient.sessionClock with
          | (.ok sessionInfo, manager) =>
              (.greeted sessionInfo, manager)
          | (.error e, manager) =>
              (request.refuse .txipInternalError 500
                ("Failed to create session: " ++ e) true,
                manager)
      | .control (.heartbeat _) =>
          match manager.touchSession sessionId
              request.ambient.sessionClock with
          | (.error e, manager) =>
              (request.refuse .txipInternalError 500
                ("Failed to update session: " ++ e) true,
                manager)
          | (.ok (), manager) => (.touched, manager)
      | .control (.close _) =>
          (.finished { status := 200, body := .empty } none,
            manager.closeSession sessionId)
      | .control (.welcome _) =>
          (request.refuse .txipInvalidEnvelope 400
            "WELCOME messages are sent by TBC, not received"
            false, manager)
      | _ =>
          (request.refuse .txipInvalidEnvelope 400
            "Invalid payload for CONTROL message" false,
            manager)
  | .tgp =>
      match manager.getSession sessionId with
      | none =>
          (request.refuse .txipUnauthenticated 401
            "Session not found. Send HELLO first." false,
            manager)
      | some _ => (.authenticated, manager)
  | .error => (request.accept none, manager)

/- `record_message` of a HELLO, and the WELCOME. -/
def greet (sessionInfo : SessionInfo) :
    Stage × SessionManager :=
  let welcome :=
    TxipEnvelope.welcome (generateMsgId request.ambient)
      request.envelope.sessionId state.tbcId
      sessionInfo.negotiatedTgpVersion
      sessionInfo.negotiatedChains sessionInfo.features
      state.sessionManager.config.heartbeatIntervalSeconds
      request.ambient.responseClock
  (.finished { status := 200, body := .envelope welcome } none,
    state.sessionManager.recordMessage
      request.envelope.sessionId request.envelope.msgId)

/- `record_message` of the others, and the forwarding point. -/
def deliver : Stage × SessionManager :=
  let manager :=
    state.sessionManager.recordMessage
      request.envelope.sessionId request.envelope.msgId
  match request.envelope.messageType,
      request.envelope.payload with
  | .tgp, .tgp _ =>
      (request.accept (some request.envelope), manager)
  | .tgp, _ =>
      (request.refuse .txipInvalidEnvelope 400
        "Invalid payload for TGP message" false, manager)
  | _, _ => (request.accept none, manager)

/- A finished request stays as it is. -/
def step : Request × SessionManager :=
  match request.stage with
  | .arrived =>
      ({ request with stage := request.check state },
        state.sessionManager)
  | .checked =>
      ({ request with stage := (request.route state).1 },
        (request.route state).2)
  | .authenticated =>
      ({ request with stage := .touched },
        (state.sessionManager.touchSession
          request.envelope.sessionId
          request.ambient.sessionClock).2)
  | .touched =>
      ({ request with stage := (request.deliver state).1 },
        (request.deliver state).2)
  | .greeted sessionInfo =>
      ({ request with
          stage := (request.greet state sessionInfo).1 },
        (request.greet state sessionInfo).2)
  | .finished _ _ => (request, state.sessionManager)

end Request

end Txip

end BorderController

------------------------------------------------------------
-- A Request on Its Own
------------------------------------------------------------

namespace BorderController

namespace Txip

namespace Request

/- `n` steps of the request with none of others in between. -/
def alone
    (n : Nat)
    (request : Request)
    (state : HttpHandlerState) :
    Request × SessionManager :=
  match n with
  | 0 => (request, state.sessionManager)
  | n + 1 =>
      let next := request.step state
      next.1.alone n { state with sessionManager := next.2 }

end Request

/- The request that has been handled. -/
def Handled.request
    (handled : Handled)
    (ambient : Ambient)
    (envelope : TxipEnvelope) :
    Request :=
  { ambient, envelope
    stage := .finished handled.response handled.forwarded }

namespace Request

variable {ambient : Ambient}
variable {envelope : TxipEnvelope}
variable {state : HttpHandlerState}

/- What a request changes of itself is its stage. -/
theorem step_stage
    {request : Request} :
    { request with stage := (request.step state).1.stage } =
      (request.step state).1 := by
  unfold step
  cases request.stage <;> rfl

/- A finished request does nothing more. -/
theorem alone_finished
    {request : Request}
    {response : Response}
    {forwarded : Option TxipEnvelope}
    (n : Nat)
    (hStage : request.stage = .finished response forwarded) :
    request.alone n state =
      (request, state.sessionManager) := by
  induction n with
  | zero => rfl
  | succ n ih =>
      have hStep :
          request.step state =
            (request, state.sessionManager) := by
        unfold step
        rw [hStage]
      unfold alone
      simp only [hStep]
      exact ih

/- A checked request does the rest of its handler. -/
private theorem alone_checked
    (hValid : envelope.validate = .ok ())
    (hNew :
      state.sessionManager.isDuplicateMessage
          envelope.sessionId envelope.msgId = false) :
    alone 3 { ambient, envelope, stage := .checked } state =
      ((handleTxipMessage state ambient envelope).request
          ambient envelope,
        (handleTxipMessage state ambient
          envelope).sessionManager) := by
  unfold handleTxipMessage
  rw [hValid]
  simp only [hNew]
  cases hType : envelope.messageType with
  | control =>
      cases hPayload : envelope.payload with
      | control control =>
          cases control with
          | hello hello =>
              cases hHello :
                  state.sessionManager.handleHello hello
                    envelope.sessionId envelope.role
                    ambient.sessionClock with
              | mk result manager =>
                  cases result <;>
                    simp [alone, step, route, greet, refuse,
                      hType, hPayload, hHello,
                      handleControlMessage, handleHello,
                      Handled.request]
          | heartbeat heartbeat =>
              cases hTouch :
                  state.sessionManager.touchSession
                    envelope.sessionId
                    ambient.sessionClock with
              | mk result manager =>
                  cases result <;>
                    simp [alone, step, route, deliver, accept,
                      refuse, hType, hPayload, hTouch,
                      handleControlMessage, handleHeartbeat,
                      Handled.request]
          | close close =>
              simp [alone, step, route, hType, hPayload,
                handleControlMessage, handleClose,
                Handled.request]
          | welcome welcome =>
              simp [alone, step, route, refuse, hType,
                hPayload, handleControlMessage, Handled.reply,
                Handled.request]
      | tgp tgp =>
          simp [alone, step, route, refuse, hType, hPayload,
            handleControlMessage, Handled.reply,
            Handled.request]
      | error error =>
          simp [alone, step, route, refuse, hType, hPayload,
            handleControlMessage, Handled.reply,
            Handled.request]
  | tgp =>
      cases hSession :
          state.sessionManager.getSession
            envelope.sessionId with
      | none =>
          simp [alone, step, route, refuse, hType, hSession,
            handleTgpMessage, Handled.reply, Handled.request]
      | some session =>
          cases hPayload : envelope.payload <;>
            simp [alone, step, route, deliver, refuse, accept,
              hType, hPayload, hSession, handleTgpMessage,
              Handled.request]
  | error =>
      simp [alone, step, route, accept, hType, Handled.reply,
        Handled.request]

/-
  Four steps with nothing in between are the handler: the
  steps split `handleTxipMessage` and add nothing to it.
-/
theorem alone_eq_handleTxipMessage
    (ambient : Ambient)
    (envelope : TxipEnvelope)
    (state : HttpHandlerState) :
    (arrive ambient envelope).alone 4 state =
      ((handleTxipMessage state ambient envelope).request
          ambient envelope,
        (handleTxipMessage state ambient
          envelope).sessionManager) := by
  have hFirst :
      (arrive ambient envelope).alone 4 state =
        alone 3
          { ambient, envelope
            stage := (arrive ambient envelope).check state }
          state :=
    rfl
  rw [hFirst]
  unfold check arrive
  cases hValid : envelope.validate with
  | error e =>
      rw [alone_finished 3 rfl]
      unfold handleTxipMessage
      rw [hValid]
      rfl
  | ok u =>
      cases hNew :
          state.sessionManager.isDuplicateMessage
            envelope.sessionId envelope.msgId with
      | false =>
          simp only [Bool.false_eq_true, if_false]
          exact alone_checked hValid hNew
      | true =>
          simp only [if_true]
          rw [alone_finished 3 rfl]
          unfold handleTxipMessage
          rw [hValid]
          simp only [hNew, if_true]
          rfl

end Request

end Txip

end BorderController

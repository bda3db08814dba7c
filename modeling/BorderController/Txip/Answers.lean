import BorderController.Txip.Orphans
import BorderController.Tgp.Carriage

/-
  What a server answers, and what it lets through.

  However its requests interleave, an answer that is an envelope
  can be read and validated by the client, and an envelope is
  forwarded only for a session that an accepted HELLO opened.

  Key definitions include:
    * `Answer`
    * `Request.Greets`
    * `Request.Entitled`
    * `Server.Authentic`

  Key theorems include:
    * `Request.answer_of_step`
    * `response_readable`
    * `step_authentic`
    * `forwarded_authenticated`
-/

------------------------------------------------------------
-- Answers
------------------------------------------------------------

namespace BorderController

namespace Txip

/- The ways an envelope is answered, with what is forwarded. -/
inductive Answer
    (ambient : Ambient)
    (envelope : TxipEnvelope) :
    Response → Option TxipEnvelope → Prop
  | refused
      (errorCode : ErrorCode)
      (httpStatus : UInt16)
      (details : String)
      (retryable : Bool) :
      httpStatus ∈ [400, 401, 500] →
      Answer ambient envelope
        (errorResponse ambient envelope.sessionId errorCode
          httpStatus (some envelope.msgId) details retryable)
        none
  | accepted (forwarded : Option TxipEnvelope) :
      Answer ambient envelope
        (acceptedResponse envelope.msgId) forwarded
  | closed :
      Answer ambient envelope
        { status := 200, body := .empty } none
  | welcomed
      (tbcId version : String)
      (chains : List ChainId)
      (features : Features)
      (interval : UInt64) :
      Answer ambient envelope
        { status := 200
          body :=
            .envelope
              (.welcome (generateMsgId ambient)
                envelope.sessionId tbcId version chains
                features interval ambient.responseClock) }
        none

namespace Request

/- A request that is answered is answered in one of the ways. -/
def Answered (request : Request) : Prop :=
  ∀ ⦃response forwarded⦄,
    request.stage = .finished response forwarded →
    Answer request.ambient request.envelope response forwarded

variable {request : Request}
variable {state : HttpHandlerState}
variable {stage : Stage}

/- The stage is an answer if it is an end. -/
private def Ends (request : Request) (stage : Stage) : Prop :=
  ∀ ⦃response forwarded⦄,
    stage = .finished response forwarded →
    Answer request.ambient request.envelope response forwarded

private theorem ends_refuse
    {errorCode : ErrorCode}
    {httpStatus : UInt16}
    {details : String}
    {retryable : Bool}
    (hStatus : httpStatus ∈ [400, 401, 500]) :
    request.Ends
      (request.refuse errorCode httpStatus details
        retryable) := by
  intro response forwarded hStage
  cases hStage
  exact .refused errorCode httpStatus details retryable
    hStatus

private theorem ends_accept
    {forwarded : Option TxipEnvelope} :
    request.Ends (request.accept forwarded) := by
  intro response forwarded' hStage
  cases hStage
  exact .accepted forwarded

private theorem ends_check :
    request.Ends (request.check state) := by
  unfold check
  cases request.envelope.validate with
  | error e => exact ends_refuse (by decide)
  | ok u =>
      simp only
      split_ifs
      · exact ends_accept
      · intro _ _ hStage
        contradiction

private theorem ends_route :
    request.Ends (request.route state).1 := by
  unfold route
  cases request.envelope.messageType with
  | error => exact ends_accept
  | tgp =>
      simp only
      cases state.sessionManager.getSession
          request.envelope.sessionId with
      | none => exact ends_refuse (by decide)
      | some session =>
          intro _ _ hStage
          contradiction
  | control =>
      cases request.envelope.payload with
      | tgp tgp => exact ends_refuse (by decide)
      | error error => exact ends_refuse (by decide)
      | control control =>
          cases control with
          | welcome welcome => exact ends_refuse (by decide)
          | close close =>
              intro _ _ hStage
              cases hStage
              exact .closed
          | heartbeat heartbeat =>
              simp only
              cases state.sessionManager.touchSession
                  request.envelope.sessionId
                  request.ambient.sessionClock with
              | mk result manager =>
                  cases result with
                  | error e => exact ends_refuse (by decide)
                  | ok u =>
                      intro _ _ hStage
                      contradiction
          | hello hello =>
              simp only
              cases state.sessionManager.handleHello hello
                  request.envelope.sessionId
                  request.envelope.role
                  request.ambient.sessionClock with
              | mk result manager =>
                  cases result with
                  | error e => exact ends_refuse (by decide)
                  | ok sessionInfo =>
                      intro _ _ hStage
                      contradiction

private theorem ends_deliver :
    request.Ends (request.deliver state).1 := by
  unfold deliver
  cases request.envelope.messageType with
  | tgp =>
      cases request.envelope.payload with
      | tgp tgp => exact ends_accept
      | control control => exact ends_refuse (by decide)
      | error error => exact ends_refuse (by decide)
  | control => exact ends_accept
  | error => exact ends_accept

theorem answer_of_step
    (hAnswered : request.Answered) :
    (request.step state).1.Answered := by
  have hStep :
      request.Ends (request.step state).1.stage := by
    unfold step
    cases hStage : request.stage with
    | arrived => exact ends_check
    | checked => exact ends_route
    | authenticated =>
        intro _ _ hNext
        contradiction
    | touched => exact ends_deliver
    | greeted sessionInfo =>
        intro _ _ hNext
        cases hNext
        exact .welcomed _ _ _ _ _
    | finished response forwarded =>
        intro response' forwarded' hNext
        exact hAnswered hNext
  intro response forwarded hNext
  have hAnswer := hStep hNext
  have hKept := @step_stage state request
  rw [← hKept]
  exact hAnswer

end Request

end Txip

end BorderController

------------------------------------------------------------
-- Readable Answers
------------------------------------------------------------

namespace BorderController

namespace Txip

variable {config : SessionConfig}
variable {tbcId : String}
variable {es : List (Transition Server Action)}
variable {server : Server}
variable {request : Request}
variable {response : Response}
variable {forwarded : Option TxipEnvelope}
variable {answer : TxipEnvelope}

/- Every answered request of a run is answered in a way. -/
theorem answered_of_path
    (hPath : concurrent.Path (.new config tbcId) es server) :
    ∀ request ∈ server.requests, request.Answered := by
  apply hPath.invariant fun server : Server =>
    ∀ request ∈ server.requests, request.Answered
  · intro request hMem
    exact absurd hMem List.not_mem_nil
  · intro server action server' hAnswered hStep request hMem
    cases action with
    | cleanup now =>
        cases hStep
        exact hAnswered request hMem
    | arrive ambient envelope =>
        cases hStep
        rcases List.mem_append.mp hMem with hOld | hNew
        · exact hAnswered request hOld
        · rw [List.mem_singleton.mp hNew]
          intro response forwarded hStage
          contradiction
    | advance index =>
        rcases step_advance_iff.mp hStep with
          ⟨moving, hGet, hNext⟩
        subst hNext
        rcases List.mem_or_eq_of_mem_set hMem with hOld | hNew
        · exact hAnswered request hOld
        · rw [hNew]
          exact Request.answer_of_step
            (hAnswered moving (List.mem_of_getElem? hGet))

theorem generateMsgId_ne_empty (ambient : Ambient) :
    generateMsgId ambient ≠ "" := by
  intro hEmpty
  have hLength := congrArg String.length hEmpty
  simp [generateMsgId] at hLength

/- A message of the server itself, for a session. -/
private theorem validate_new_iff
    {ambient : Ambient}
    {sessionId : String}
    {direction : Direction}
    {role : Role}
    {messageType : MessageType}
    {tgpPhase : TgpPhase}
    {timestamp : TripleTimestamp}
    {payload : Payload}
    (hType : messageType = payload.messageType) :
    (TxipEnvelope.new (generateMsgId ambient) sessionId
        direction role messageType tgpPhase timestamp
        payload).validate =
        .ok () ↔
      sessionId ≠ "" ∧ timestamp.validateIso = .ok () := by
  rw [TxipEnvelope.validate_ok_iff]
  have hMsgId := generateMsgId_ne_empty ambient
  constructor
  · rintro ⟨_, _, hSession, hIso, _⟩
    exact ⟨hSession, hIso⟩
  · rintro ⟨hSession, hIso⟩
    exact ⟨rfl, hMsgId, hSession, hIso, hType⟩

/- A response that the error path makes, with its envelope. -/
structure Refusal
    (request : Request)
    (response : Response)
    (answer : TxipEnvelope) :
    Prop where
  status : response.status ∈ [400, 401, 500]
  payload :
    ∃ error,
      answer.payload = .error error ∧
        error.httpStatus = response.status ∧
        error.relatedMsgId = some request.envelope.msgId

/-
  An envelope that answers a request is addressed to its
  session, is read back from its text, and is valid if the
  session has a name and the clock gives a proper text.  It is
  a WELCOME, or an error that names the request and the status.
-/
theorem response_readable
    (library : JsonLibrary)
    (hPath : concurrent.Path (.new config tbcId) es server)
    (hMem : request ∈ server.requests)
    (hStage : request.stage = .finished response forwarded)
    (hBody : response.body = .envelope answer) :
    TxipEnvelope.fromText library (answer.toText library) =
        .ok answer ∧
      (answer.validate = .ok () ↔
        request.envelope.sessionId ≠ "" ∧
          request.ambient.responseClock.validateIso =
            .ok ()) ∧
      answer.sessionId = request.envelope.sessionId ∧
      answer.direction = .tbcToClient ∧
      forwarded = none ∧
      (Refusal request response answer ∨
        response.status = 200 ∧
          ∃ welcome,
            answer.payload = .control (.welcome welcome)) := by
  have hRead :
      (∀ tgp, answer.payload ≠ .tgp tgp) →
        TxipEnvelope.fromText library
            (answer.toText library) =
          .ok answer := by
    intro hNotTgp
    have hNesting : answer.payload.nesting = 0 := by
      cases hPayload : answer.payload with
      | tgp tgp => exact absurd hPayload (hNotTgp tgp)
      | _ => rfl
    rw [TxipEnvelope.fromText_toText library
      (fun tgp hTgp => absurd hTgp (hNotTgp tgp))
      (fun tgp hTgp => absurd hTgp (hNotTgp tgp)), hNesting]
    rfl
  cases answered_of_path hPath request hMem hStage with
  | accepted forwarded => contradiction
  | closed => contradiction
  | refused errorCode httpStatus details retryable hStatus =>
      cases hBody
      refine ⟨hRead fun _ hTgp => by contradiction,
        validate_new_iff rfl, rfl, rfl, rfl, Or.inl ?_⟩
      have hKept : statusFromU16 httpStatus = httpStatus := by
        simp only [List.mem_cons, List.not_mem_nil, or_false]
          at hStatus
        rcases hStatus with h | h | h <;> rw [h] <;> rfl
      constructor
      · rw [← hKept] at hStatus
        exact hStatus
      · exact ⟨_, rfl, hKept.symm, rfl⟩
  | welcomed tbcId version chains features interval =>
      cases hBody
      exact ⟨hRead fun _ hTgp => by contradiction,
        validate_new_iff rfl, rfl, rfl, rfl,
        Or.inr ⟨rfl, _, rfl⟩⟩

end Txip

end BorderController

------------------------------------------------------------
-- Accepted HELLOs
------------------------------------------------------------

namespace BorderController

namespace Txip

namespace Request

/- A HELLO that was accepted, answered or about to be. -/
structure Greets (request : Request) : Prop where
  hello :
    ∃ hello,
      request.envelope.payload = .control (.hello hello) ∧
        "2.0" ∈ hello.supportedTgpVersions ∧
        hello.supportedChains ≠ []
  stage :
    (∃ sessionInfo, request.stage = .greeted sessionInfo) ∨
      ∃ answer welcome,
        request.stage =
            .finished
              { status := 200, body := .envelope answer }
              none ∧
          answer.payload = .control (.welcome welcome)

/-
  What a request has shown by its stage, `opened` being the
  sessions that a HELLO has opened so far.
-/
def Entitled
    (opened : String → Prop)
    (request : Request) :
    Prop :=
  match request.stage with
  | .arrived => True
  | .checked => request.envelope.validate = .ok ()
  | .authenticated | .touched =>
      request.envelope.validate = .ok () ∧
        opened request.envelope.sessionId
  | .greeted _ => True
  | .finished _ forwarded =>
      ∀ envelope,
        forwarded = some envelope →
        envelope = request.envelope ∧
          envelope.validate = .ok () ∧
          (∃ tgp, envelope.payload = .tgp tgp) ∧
          opened envelope.sessionId

variable {request : Request}
variable {state : HttpHandlerState}
variable {opened opened' : String → Prop}

theorem Entitled.mono
    (hEntitled : request.Entitled opened)
    (hMore : ∀ sessionId, opened sessionId → opened' sessionId) :
    request.Entitled opened' := by
  unfold Entitled at hEntitled ⊢
  split at hEntitled
  · trivial
  · exact hEntitled
  · exact ⟨hEntitled.1, hMore _ hEntitled.2⟩
  · exact ⟨hEntitled.1, hMore _ hEntitled.2⟩
  · trivial
  · intro envelope hForwarded
    rcases hEntitled envelope hForwarded with
      ⟨hSame, hValid, hTgp, hOpened⟩
    exact ⟨hSame, hValid, hTgp, hMore _ hOpened⟩

theorem Greets.step (hGreets : request.Greets) :
    (request.step state).1.Greets := by
  constructor
  · rw [step_envelope]
    exact hGreets.hello
  · rcases hGreets.stage with
      ⟨sessionInfo, hStage⟩ | ⟨answer, welcome, hStage, hBody⟩
    · have hNext :
          (request.step state).1.stage =
            (request.greet state sessionInfo).1 := by
        unfold Request.step
        rw [hStage]
      exact Or.inr ⟨_, _, hNext, rfl⟩
    · refine Or.inr ⟨answer, welcome, ?_, hBody⟩
      unfold Request.step
      rw [hStage]
      exact hStage

/- An end that forwards nothing. -/
private theorem entitled_end
    {response : Response} :
    { request with
      stage := .finished response none }.Entitled opened := by
  intro envelope hForwarded
  contradiction

/- Touching a session finds it, and makes none. -/
private theorem touchSession_live
    {manager : SessionManager}
    {sessionId other : String}
    {now : TripleTimestamp} :
    ((manager.touchSession sessionId now).1 = .ok () →
        (manager.sessions sessionId).isSome) ∧
      (((manager.touchSession sessionId now).2.sessions
          other).isSome →
        (manager.sessions other).isSome) := by
  unfold SessionManager.touchSession
  cases hSession : manager.sessions sessionId with
  | none => exact ⟨fun hOk => by contradiction, id⟩
  | some session =>
      refine ⟨fun _ => rfl, fun hLive => ?_⟩
      by_cases hSame : other = sessionId
      · rw [hSame, hSession]
        rfl
      · simpa [hSame] using hLive

/-
  Routing finds a session for what it lets pass, and opens one
  for a HELLO only.
-/
private theorem route_entitled
    (hValid : request.envelope.validate = .ok ())
    (hOpened :
      ∀ sessionId,
        (state.sessionManager.sessions sessionId).isSome →
        opened sessionId) :
    { request with stage := (request.route state).1 }.Entitled
        opened ∧
      ∀ sessionId,
        ((request.route state).2.sessions sessionId).isSome →
        opened sessionId ∨
          request.envelope.sessionId = sessionId ∧
            { request with
              stage := (request.route state).1 }.Greets := by
  have hKept :
      ∀ {P : String → Prop} sessionId,
        (state.sessionManager.sessions sessionId).isSome →
        opened sessionId ∨ P sessionId :=
    fun sessionId hLive => Or.inl (hOpened sessionId hLive)
  unfold route
  cases request.envelope.messageType with
  | error => exact ⟨entitled_end, hKept⟩
  | tgp =>
      simp only
      cases hSession :
          state.sessionManager.getSession
            request.envelope.sessionId with
      | none => exact ⟨entitled_end, hKept⟩
      | some session =>
          refine ⟨⟨hValid, hOpened _ ?_⟩, hKept⟩
          exact Option.isSome_of_eq_some hSession
  | control =>
      cases hPayload : request.envelope.payload with
      | tgp tgp => exact ⟨entitled_end, hKept⟩
      | error error => exact ⟨entitled_end, hKept⟩
      | control control =>
          cases control with
          | welcome welcome => exact ⟨entitled_end, hKept⟩
          | close close =>
              refine ⟨entitled_end, fun sessionId hLive => ?_⟩
              apply hKept
              by_cases hSame :
                  sessionId = request.envelope.sessionId
              · simp [SessionManager.closeSession, hSame]
                  at hLive
              · simpa [SessionManager.closeSession, hSame]
                  using hLive
          | heartbeat heartbeat =>
              have hLive := fun other : String =>
                @touchSession_live state.sessionManager
                  request.envelope.sessionId other
                  request.ambient.sessionClock
              simp only
              cases hTouch :
                  state.sessionManager.touchSession
                    request.envelope.sessionId
                    request.ambient.sessionClock with
              | mk result manager =>
                  rw [hTouch] at hLive
                  cases result with
                  | error e =>
                      exact ⟨entitled_end, fun other hHere =>
                        Or.inl
                          (hOpened other
                            ((hLive other).2 hHere))⟩
                  | ok u =>
                      exact ⟨⟨hValid,
                        hOpened _ ((hLive "").1 rfl)⟩,
                        fun other hHere =>
                          Or.inl
                            (hOpened other
                              ((hLive other).2 hHere))⟩
          | hello hello =>
              simp only
              cases hHello :
                  state.sessionManager.handleHello hello
                    request.envelope.sessionId
                    request.envelope.role
                    request.ambient.sessionClock with
              | mk result manager =>
                  rcases SessionManager.handleHello_cases
                      hHello with
                    ⟨e, hError, hSame⟩ |
                      ⟨sessionInfo, hOk, hSessions, _⟩
                  · subst hError hSame
                    exact ⟨entitled_end, hKept⟩
                  · subst hOk
                    refine ⟨trivial, fun other hHere => ?_⟩
                    by_cases hSame :
                        request.envelope.sessionId = other
                    · exact Or.inr ⟨hSame,
                        ⟨hello, hPayload,
                          SessionManager.handleHello_ok
                            hHello⟩,
                        Or.inl ⟨sessionInfo, rfl⟩⟩
                    · apply hKept
                      rw [hSessions, Function.update_of_ne
                        (Ne.symm hSame)] at hHere
                      exact hHere

/- What is delivered is the envelope, if it is a TGP message. -/
private theorem deliver_entitled
    (hValid : request.envelope.validate = .ok ())
    (hOpened : opened request.envelope.sessionId) :
    { request with
      stage := (request.deliver state).1 }.Entitled
        opened := by
  unfold deliver
  cases request.envelope.messageType with
  | control => exact entitled_end
  | error => exact entitled_end
  | tgp =>
      cases hPayload : request.envelope.payload with
      | control control => exact entitled_end
      | error error => exact entitled_end
      | tgp tgp =>
          intro envelope hForwarded
          cases hForwarded
          exact ⟨rfl, hValid, ⟨tgp, hPayload⟩, hOpened⟩

/- One step keeps to what a request has shown. -/
theorem step_entitled
    (hEntitled : request.Entitled opened)
    (hOpened :
      ∀ sessionId,
        (state.sessionManager.sessions sessionId).isSome →
        opened sessionId) :
    (request.step state).1.Entitled opened ∧
      ∀ sessionId,
        ((request.step state).2.sessions sessionId).isSome →
        opened sessionId ∨
          request.envelope.sessionId = sessionId ∧
            (request.step state).1.Greets := by
  have hKept :
      ∀ {P : String → Prop} sessionId,
        (state.sessionManager.sessions sessionId).isSome →
        opened sessionId ∨ P sessionId :=
    fun sessionId hLive => Or.inl (hOpened sessionId hLive)
  unfold Entitled at hEntitled
  unfold step
  cases hStage : request.stage with
  | arrived =>
      refine ⟨?_, hKept⟩
      unfold check
      cases hValid : request.envelope.validate with
      | error e => exact entitled_end
      | ok u =>
          simp only
          split_ifs
          · exact entitled_end
          · exact hValid
  | checked =>
      rw [hStage] at hEntitled
      exact route_entitled hEntitled hOpened
  | authenticated =>
      rw [hStage] at hEntitled
      exact ⟨hEntitled, fun sessionId hLive =>
        Or.inl
          (hOpened sessionId (touchSession_live.2 hLive))⟩
  | touched =>
      rw [hStage] at hEntitled
      refine ⟨?_, fun sessionId hLive => ?_⟩
      · exact deliver_entitled hEntitled.1 hEntitled.2
      · apply hKept
        simp only [deliver_manager] at hLive
        exact hLive
  | greeted sessionInfo =>
      exact ⟨entitled_end, hKept⟩
  | finished response forwarded =>
      refine ⟨?_, hKept⟩
      unfold Entitled
      rw [hStage] at hEntitled ⊢
      exact hEntitled

end Request

end Txip

end BorderController

------------------------------------------------------------
-- Authenticated Forwarding
------------------------------------------------------------

namespace BorderController

namespace Txip

/- A HELLO of the session was accepted. -/
def Server.Opened
    (server : Server)
    (sessionId : String) :
    Prop :=
  ∃ greeter ∈ server.requests,
    greeter.envelope.sessionId = sessionId ∧ greeter.Greets

/- Sessions and requests rest on accepted HELLOs. -/
structure Server.Authentic (server : Server) : Prop where
  sessions :
    ∀ sessionId,
      server.Live sessionId → server.Opened sessionId
  requests :
    ∀ request ∈ server.requests,
      request.Entitled server.Opened

variable {config : SessionConfig}
variable {tbcId : String}
variable {es : List (Transition Server Action)}
variable {server server' : Server}
variable {action : Action}
variable {request : Request}
variable {response : Response}
variable {forwarded : TxipEnvelope}

/- A HELLO that was accepted stays accepted. -/
theorem step_opened
    {sessionId : String}
    (hStep : concurrent.Step server action server')
    (hOpened : server.Opened sessionId) :
    server'.Opened sessionId := by
  rcases hOpened with ⟨greeter, hMem, hSession, hGreets⟩
  cases action with
  | cleanup now =>
      cases hStep
      exact ⟨greeter, hMem, hSession, hGreets⟩
  | arrive ambient envelope =>
      cases hStep
      exact ⟨greeter, List.mem_append_left _ hMem, hSession,
        hGreets⟩
  | advance index =>
      rcases step_advance_iff.mp hStep with
        ⟨moving, hGet, hNext⟩
      subst hNext
      rcases List.mem_iff_getElem?.mp hMem with ⟨n, hAt⟩
      by_cases hSame : index = n
      · subst hSame
        rw [hGet] at hAt
        cases hAt
        have hIndex := (List.getElem?_eq_some_iff.mp hGet).1
        refine ⟨_, List.mem_set hIndex _, ?_, hGreets.step⟩
        rw [Request.step_envelope]
        exact hSession
      · refine ⟨greeter, ?_, hSession, hGreets⟩
        apply List.mem_of_getElem? (i := n)
        unfold Server.advance
        rw [List.getElem?_set_ne hSame]
        exact hAt

theorem step_authentic
    (hStep : concurrent.Step server action server')
    (hAuthentic : server.Authentic) :
    server'.Authentic := by
  have hMore := fun sessionId : String =>
    @step_opened server server' action sessionId hStep
  cases action with
  | cleanup now =>
      cases hStep
      refine ⟨fun sessionId hLive => ?_,
        hAuthentic.requests⟩
      apply hAuthentic.sessions
      unfold HttpHandlerState.Live at hLive ⊢
      unfold SessionManager.cleanupExpired at hLive
      exact Option.isSome_of_isSome_filter _ _ hLive
  | arrive ambient envelope =>
      cases hStep
      refine ⟨fun sessionId hLive =>
        hMore sessionId (hAuthentic.sessions sessionId hLive),
        fun request hMem => ?_⟩
      rcases List.mem_append.mp hMem with hOld | hNew
      · exact (hAuthentic.requests request hOld).mono hMore
      · rw [List.mem_singleton.mp hNew]
        trivial
  | advance index =>
      rcases step_advance_iff.mp hStep with
        ⟨moving, hGet, hNext⟩
      subst hNext
      rcases Request.step_entitled
          (hAuthentic.requests moving
            (List.mem_of_getElem? hGet))
          hAuthentic.sessions with
        ⟨hEntitled, hOpens⟩
      refine ⟨fun sessionId hLive => ?_,
        fun request hMem => ?_⟩
      · rcases hOpens sessionId hLive with
          hOpened | ⟨hSession, hGreets⟩
        · exact hMore sessionId hOpened
        · have hIndex := (List.getElem?_eq_some_iff.mp hGet).1
          refine ⟨_, List.mem_set hIndex _, ?_, hGreets⟩
          rw [Request.step_envelope]
          exact hSession
      · rcases List.mem_or_eq_of_mem_set hMem with
          hOld | hNew
        · exact (hAuthentic.requests request hOld).mono hMore
        · rw [hNew]
          exact hEntitled.mono hMore

/-
  What is forwarded is an envelope that arrived, a valid TGP
  message, for a session that an accepted HELLO has opened.
-/
theorem forwarded_authenticated
    (hPath : concurrent.Path (.new config tbcId) es server)
    (hMem : request ∈ server.requests)
    (hStage :
      request.stage =
        .finished response (some forwarded)) :
    forwarded = request.envelope ∧
      forwarded.validate = .ok () ∧
      (∃ tgp, forwarded.payload = .tgp tgp) ∧
      ∃ greeter ∈ server.requests,
        greeter.envelope.sessionId = forwarded.sessionId ∧
          greeter.Greets := by
  have hAuthentic : server.Authentic := by
    apply hPath.invariant Server.Authentic
    · constructor
      · intro sessionId hLive
        contradiction
      · intro request hNone
        exact absurd hNone List.not_mem_nil
    · intro _ _ _ hAuthentic hStep
      exact step_authentic hStep hAuthentic
  have hEntitled := hAuthentic.requests request hMem
  unfold Request.Entitled at hEntitled
  rw [hStage] at hEntitled
  exact hEntitled forwarded rfl

end Txip

end BorderController

------------------------------------------------------------
-- A HELLO and a Query
------------------------------------------------------------

namespace BorderController

namespace Txip

/- A query is sent once the HELLO is answered. -/
def queryActions : List Action :=
  [ (helloArrives "msg-1").action,
    .advance 0, .advance 0, .advance 0,
    (tgpArrives "msg-2").action,
    .advance 1, .advance 1, .advance 1, .advance 1 ]

/- The WELCOME is read back from its text. -/
theorem response_readable_welcome :
    ∃ es server answer,
      perform queryActions (.new .default "tbc://test") =
          some (es, server) ∧
        TxipEnvelope.fromText Tgp.compactTexts
            (answer.toText Tgp.compactTexts) =
          .ok answer ∧
        answer.sessionId = "sess-123" := by
  have hPerform :
      perform queryActions (.new .default "tbc://test") =
        some (_, _) :=
    rfl
  have hAnswer :=
    response_readable Tgp.compactTexts (perform_path hPerform)
      List.mem_cons_self rfl rfl
  exact ⟨_, _, _, hPerform, hAnswer.1, hAnswer.2.2.1⟩

/- The query is forwarded on the strength of the HELLO. -/
theorem forwarded_authenticated_query :
    ∃ es server,
      perform queryActions (.new .default "tbc://test") =
          some (es, server) ∧
        ∃ greeter ∈ server.requests,
          greeter.envelope.sessionId = "sess-123" ∧
            greeter.Greets := by
  have hPerform :
      perform queryActions (.new .default "tbc://test") =
        some (_, _) :=
    rfl
  have hForwarded :=
    forwarded_authenticated (perform_path hPerform)
      (List.mem_cons_of_mem _ List.mem_cons_self) rfl
  exact ⟨_, _, hPerform, hForwarded.2.2.2⟩

end Txip

end BorderController

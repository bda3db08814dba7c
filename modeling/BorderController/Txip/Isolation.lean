import BorderController.Txip.Concurrent
import BorderController.Library.KeyedList

/-
  Sessions of one server do not see each other.

  Cut down to one session, a server with requests in flight is
  again a server, on which only the requests of that session
  and the sweeps have been.

  Key definitions include:
    * `SessionManager.only`, `Server.only`
    * `Action.input`

  Key theorems include:
    * `Request.step_only`
    * `Request.step_only_of_ne`
    * `step_only`
    * `session_isolated`
-/

------------------------------------------------------------
-- Tables Cut Down to a Session
------------------------------------------------------------

namespace BorderController

namespace Txip

variable {α : Type}
variable {sessionId other : String}

/- The table without the entries of other sessions. -/
def cut
    (sessionId : String)
    (table : String → Option α) :
    String → Option α :=
  fun other =>
    if other = sessionId then table other else none

@[simp] theorem cut_self
    (table : String → Option α) :
    cut sessionId table sessionId = table sessionId :=
  if_pos rfl

@[simp] theorem cut_update_self
    (table : String → Option α)
    (entry : Option α) :
    cut sessionId (Function.update table sessionId entry) =
      Function.update (cut sessionId table) sessionId entry := by
  funext other
  by_cases hSame : other = sessionId
  · subst hSame
    simp
  · simp [cut, hSame]

theorem cut_update_of_ne
    (hOther : other ≠ sessionId)
    (table : String → Option α)
    (entry : Option α) :
    cut sessionId (Function.update table other entry) =
      cut sessionId table := by
  funext key
  by_cases hSame : key = sessionId
  · subst hSame
    simp [hOther.symm]
  · simp [cut, hSame]

namespace SessionManager

/- The manager as if there were no other session. -/
def only
    (sessionId : String)
    (manager : SessionManager) :
    SessionManager :=
  { manager with
    sessions := cut sessionId manager.sessions
    messageCache := cut sessionId manager.messageCache }

end SessionManager

end Txip

end BorderController

------------------------------------------------------------
-- Methods on the Session
------------------------------------------------------------

namespace BorderController

namespace Txip

namespace SessionManager

variable {manager : SessionManager}
variable {sessionId msgId : String}
variable {now : TripleTimestamp}

@[simp] theorem config_only :
    (manager.only sessionId).config = manager.config :=
  rfl

@[simp] theorem isDuplicateMessage_only :
    (manager.only sessionId).isDuplicateMessage sessionId
        msgId =
      manager.isDuplicateMessage sessionId msgId := by
  simp [isDuplicateMessage, only]

@[simp] theorem getSession_only :
    (manager.only sessionId).getSession sessionId =
      manager.getSession sessionId := by
  simp [getSession, only]

@[simp] theorem recordMessage_only :
    (manager.only sessionId).recordMessage sessionId msgId =
      (manager.recordMessage sessionId msgId).only
        sessionId := by
  simp [recordMessage, only]

@[simp] theorem touchSession_only :
    (manager.only sessionId).touchSession sessionId now =
      ((manager.touchSession sessionId now).1,
        (manager.touchSession sessionId now).2.only
          sessionId) := by
  unfold touchSession
  cases hSession : manager.sessions sessionId <;>
    simp [only, hSession]

@[simp] theorem handleHello_only
    {hello : HelloPayload}
    {role : Role} :
    (manager.only sessionId).handleHello hello sessionId role
        now =
      ((manager.handleHello hello sessionId role now).1,
        (manager.handleHello hello sessionId role
          now).2.only sessionId) := by
  unfold handleHello
  cases negotiateTgpVersion hello.supportedTgpVersions with
  | error e => rfl
  | ok version =>
      cases negotiateChains hello.supportedChains with
      | error e => rfl
      | ok chains => simp [only]

@[simp] theorem closeSession_only :
    (manager.only sessionId).closeSession sessionId =
      (manager.closeSession sessionId).only sessionId := by
  simp [closeSession, only]

@[simp] theorem cleanupExpired_only :
    (manager.only sessionId).cleanupExpired now =
      (manager.cleanupExpired now).only sessionId := by
  simp only [cleanupExpired, only, mk.injEq, and_true]
  constructor
  · funext other
    by_cases hSame : other = sessionId <;> simp [cut, hSame]
  · funext other
    by_cases hSame : other = sessionId <;> simp [cut, hSame]

/- What other sessions do leaves the session alone. -/
theorem recordMessage_only_of_ne
    {other : String}
    (hOther : other ≠ sessionId) :
    (manager.recordMessage other msgId).only sessionId =
      manager.only sessionId := by
  simp [recordMessage, only, cut_update_of_ne hOther]

theorem touchSession_only_of_ne
    {other : String}
    (hOther : other ≠ sessionId) :
    (manager.touchSession other now).2.only sessionId =
      manager.only sessionId := by
  unfold touchSession
  cases manager.sessions other with
  | none => rfl
  | some session => simp [only, cut_update_of_ne hOther]

theorem handleHello_only_of_ne
    {other : String}
    {hello : HelloPayload}
    {role : Role}
    {result : Except String SessionInfo}
    {manager' : SessionManager}
    (hHello :
      manager.handleHello hello other role now =
        (result, manager'))
    (hOther : other ≠ sessionId) :
    manager'.only sessionId = manager.only sessionId := by
  have hManager := congrArg Prod.snd hHello
  subst hManager
  unfold handleHello
  cases negotiateTgpVersion hello.supportedTgpVersions with
  | error e => rfl
  | ok version =>
      cases negotiateChains hello.supportedChains with
      | error e => rfl
      | ok chains => simp [only, cut_update_of_ne hOther]

theorem closeSession_only_of_ne
    {other : String}
    (hOther : other ≠ sessionId) :
    (manager.closeSession other).only sessionId =
      manager.only sessionId := by
  simp [closeSession, only, cut_update_of_ne hOther]

end SessionManager

end Txip

end BorderController

------------------------------------------------------------
-- Steps of a Request
------------------------------------------------------------

namespace BorderController

namespace Txip

def HttpHandlerState.only
    (sessionId : String)
    (state : HttpHandlerState) :
    HttpHandlerState :=
  { state with
    sessionManager := state.sessionManager.only sessionId }

namespace Request

variable {request : Request}
variable {state : HttpHandlerState}
variable {sessionId : String}

private theorem check_only
    (hSession : request.envelope.sessionId = sessionId) :
    request.check (state.only sessionId) =
      request.check state := by
  subst hSession
  unfold check
  simp [HttpHandlerState.only]

private theorem route_only
    (hSession : request.envelope.sessionId = sessionId) :
    request.route (state.only sessionId) =
      ((request.route state).1,
        (request.route state).2.only sessionId) := by
  subst hSession
  unfold route
  simp only [HttpHandlerState.only]
  cases request.envelope.messageType with
  | error => rfl
  | tgp =>
      rw [SessionManager.getSession_only]
      cases state.sessionManager.getSession
          request.envelope.sessionId <;> rfl
  | control =>
      cases request.envelope.payload with
      | tgp tgp => rfl
      | error error => rfl
      | control control =>
          cases control with
          | welcome welcome => rfl
          | close close =>
              rw [SessionManager.closeSession_only]
          | heartbeat heartbeat =>
              simp only [SessionManager.touchSession_only]
              cases state.sessionManager.touchSession
                  request.envelope.sessionId
                  request.ambient.sessionClock with
              | mk result manager => cases result <;> rfl
          | hello hello =>
              simp only [SessionManager.handleHello_only]
              cases state.sessionManager.handleHello hello
                  request.envelope.sessionId
                  request.envelope.role
                  request.ambient.sessionClock with
              | mk result manager => cases result <;> rfl

private theorem deliver_stage
    (state state' : HttpHandlerState) :
    (request.deliver state).1 =
      (request.deliver state').1 := by
  unfold deliver
  cases request.envelope.messageType <;>
    cases request.envelope.payload <;> rfl

/- A step of a request of the session needs no other session. -/
theorem step_only
    (hSession : request.envelope.sessionId = sessionId) :
    request.step (state.only sessionId) =
      ((request.step state).1,
        (request.step state).2.only sessionId) := by
  unfold step
  cases request.stage with
  | arrived => simp only [check_only hSession]; rfl
  | checked => simp only [route_only hSession]
  | authenticated =>
      subst hSession
      simp [HttpHandlerState.only]
  | touched =>
      subst hSession
      rw [deliver_stage (state.only _) state]
      simp [deliver_manager, HttpHandlerState.only]
  | greeted sessionInfo =>
      subst hSession
      simp [greet, HttpHandlerState.only]
  | finished response forwarded => rfl

/- A step of a request of another session does not show. -/
theorem step_only_of_ne
    (hOther : request.envelope.sessionId ≠ sessionId) :
    (request.step state).2.only sessionId =
      state.sessionManager.only sessionId := by
  unfold step
  cases request.stage with
  | arrived => rfl
  | checked =>
      rcases @route_cases request state with
        hSame | hTouched | ⟨_, _, hClosed⟩ |
          ⟨hello, result, _, hHello⟩
      · simp only [hSame]
      · simp only [hTouched]
        exact SessionManager.touchSession_only_of_ne hOther
      · simp only [hClosed]
        exact SessionManager.closeSession_only_of_ne hOther
      · exact SessionManager.handleHello_only_of_ne hHello
          hOther
  | authenticated =>
      exact SessionManager.touchSession_only_of_ne hOther
  | touched =>
      simp only [deliver_manager]
      exact SessionManager.recordMessage_only_of_ne hOther
  | greeted sessionInfo =>
      exact SessionManager.recordMessage_only_of_ne hOther
  | finished response forwarded => rfl

end Request

end Txip

end BorderController

------------------------------------------------------------
-- Servers Cut Down to a Session
------------------------------------------------------------

namespace BorderController

namespace Txip

def Request.sessionId (request : Request) : String :=
  request.envelope.sessionId

/- The server as if only one session had requests. -/
def Server.only
    (sessionId : String)
    (server : Server) :
    Server :=
  { sessionManager := server.sessionManager.only sessionId
    tbcId := server.tbcId
    requests :=
      KeyedList.withKey Request.sessionId sessionId
        server.requests }

/- What an action brings in that concerns the session. -/
def Action.input
    (sessionId : String) :
    Action → Option Action
  | .arrive ambient envelope =>
      if envelope.sessionId = sessionId then
        some (.arrive ambient envelope)
      else
        none
  | .advance _ => none
  | .cleanup now => some (.cleanup now)

variable {server server' : Server}
variable {action : Action}
variable {sessionId : String}

private theorem advance_only
    {index : Nat}
    {request : Request}
    (hGet : server.requests[index]? = some request)
    (hSession : request.sessionId = sessionId) :
    ∃ position,
      concurrent.Step (server.only sessionId)
        (.advance position)
        ((server.advance index request).only sessionId) := by
  have hStep :=
    @Request.step_only request server.toHttpHandlerState
      sessionId hSession
  have hNext :
      (request.step server.toHttpHandlerState).1.sessionId =
        sessionId := by
    unfold Request.sessionId
    rw [Request.step_envelope]
    exact hSession
  rcases KeyedList.withKey_set hGet hSession hNext with
    ⟨position, hBefore, hAfter⟩
  refine ⟨position,
    step_advance_iff.mpr ⟨request, hBefore, ?_⟩⟩
  have hCut :
      (server.only sessionId).toHttpHandlerState =
        server.toHttpHandlerState.only sessionId :=
    rfl
  unfold Server.advance
  simp only [hCut, hStep]
  simp only [Server.only, hAfter]
  rfl

/- A step of the server shows as a step, or not at all. -/
theorem step_only
    (sessionId : String)
    (hStep : concurrent.Step server action server') :
    (server'.only sessionId = server.only sessionId ∧
        action.input sessionId = none) ∨
      ∃ action',
        concurrent.Step (server.only sessionId) action'
            (server'.only sessionId) ∧
          action'.input sessionId =
            action.input sessionId := by
  cases action with
  | cleanup now =>
      cases hStep
      refine Or.inr ⟨.cleanup now, ?_, rfl⟩
      unfold concurrent Server.act Server.only
      simp
  | arrive ambient envelope =>
      cases hStep
      by_cases hSession : envelope.sessionId = sessionId
      · refine Or.inr ⟨.arrive ambient envelope, ?_, rfl⟩
        unfold concurrent Server.act Server.only
        simp only [KeyedList.withKey_append_singleton]
        rw [if_pos (show (Request.arrive ambient
          envelope).sessionId = sessionId from hSession)]
      · refine Or.inl ⟨?_, if_neg hSession⟩
        unfold Server.only
        simp only [KeyedList.withKey_append_singleton]
        rw [if_neg (show ¬ (Request.arrive ambient
          envelope).sessionId = sessionId from hSession),
          List.append_nil]
  | advance index =>
      rcases step_advance_iff.mp hStep with
        ⟨request, hGet, hNext⟩
      subst hNext
      by_cases hSession : request.sessionId = sessionId
      · rcases advance_only hGet hSession with
          ⟨position, hAdvance⟩
        exact Or.inr ⟨.advance position, hAdvance, rfl⟩
      · refine Or.inl ⟨?_, rfl⟩
        have hKept :=
          KeyedList.withKey_set_of_ne hGet
            (congrArg TxipEnvelope.sessionId
              Request.step_envelope :
              (request.step
                server.toHttpHandlerState).1.sessionId =
                request.sessionId)
            hSession
        have hManager :=
          @Request.step_only_of_ne request
            server.toHttpHandlerState sessionId hSession
        unfold Server.advance Server.only
        simp only [hKept, hManager]

/-
  However the requests of a server interleave, those of one
  session, their answers and the tables of the session are those
  of a server on which nothing else arrives but the sweeps.
-/
theorem session_isolated
    {es : List (Transition Server Action)}
    (sessionId : String)
    (hPath : concurrent.Path server es server') :
    ∃ fs,
      concurrent.Path (server.only sessionId) fs
          (server'.only sessionId) ∧
        (fs.filterMap fun tr =>
            tr.label.input sessionId) =
          es.filterMap fun tr =>
            tr.label.input sessionId := by
  induction hPath with
  | nil server => exact ⟨[], .nil _, rfl⟩
  | @cons server middle server' action es hStep _ ih =>
      rcases ih with ⟨fs, hRest, hInputs⟩
      rcases step_only sessionId hStep with
        ⟨hSame, hNone⟩ | ⟨action', hHere, hInput⟩
      · rw [hSame] at hRest
        refine ⟨fs, hRest, ?_⟩
        simp only [List.filterMap_cons, hNone, hInputs]
      · refine ⟨⟨_, action', _⟩ :: fs, .cons hHere hRest, ?_⟩
        simp only [List.filterMap_cons, hInput, hInputs]

end Txip

end BorderController

------------------------------------------------------------
-- Two Agents
------------------------------------------------------------

namespace BorderController

namespace Txip

/- A HELLO for another session. -/
def neighbourArrives : Action :=
  .arrive
    { sessionClock := sampleClock
      responseClock := sampleClock
      random := 9 }
    (.new "msg-1" "sess-456" .clientToTbc .sellerAgent .control
      .none sampleClock (.control (.hello sampleHello)))

def idleServer : Server :=
  { sessionManager := .new .default
    tbcId := "tbc://test"
    requests := [] }

/- The HELLOs of two sessions and a query, interleaved. -/
def mixedActions : List Action :=
  [ (helloArrives "msg-1").action, neighbourArrives,
    .advance 0, .advance 1, .advance 1, .advance 0,
    (tgpArrives "msg-2").action,
    .advance 0, .advance 2, .advance 1, .advance 2,
    .advance 2, .advance 2 ]

theorem session_isolated_mixed :
    ∃ es server,
      perform mixedActions idleServer = some (es, server) ∧
        ∃ fs,
          concurrent.Path (idleServer.only "sess-123") fs
            (server.only "sess-123") := by
  have hPerform :
      perform mixedActions idleServer = some (_, _) :=
    rfl
  rcases session_isolated "sess-123"
      (perform_path hPerform) with
    ⟨fs, hAlone, _⟩
  exact ⟨_, _, hPerform, fs, hAlone⟩

end Txip

end BorderController

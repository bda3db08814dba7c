import BorderController.Txip.Requests
import BorderController.Txip.Replay

/-
  A server that handles many requests at once.

  Requests arrive at any time and their steps interleave in any
  order with each other and with sweeps of expired sessions.

  Key definitions include:
    * `Server`, `Action`, `concurrent`
    * `SessionManager.Keeps`
    * `Disturbs`
    * `perform`

  Key theorems include:
    * `Request.step_keeps`
    * `step_keeps`
    * `calm_of_tgp`
-/

------------------------------------------------------------
-- Servers
------------------------------------------------------------

namespace BorderController

namespace Txip

/- Finished requests stay in the list. -/
structure Server extends HttpHandlerState where
  requests : List Request

inductive Action where
  | arrive (ambient : Ambient) (envelope : TxipEnvelope)
  | advance (index : Nat)
  | cleanup (now : TripleTimestamp)

/- The server after the request at an index has stepped. -/
def Server.advance
    (index : Nat)
    (request : Request)
    (server : Server) :
    Server :=
  let next := request.step server.toHttpHandlerState
  { server with
    sessionManager := next.2
    requests := server.requests.set index next.1 }

def Server.act
    (action : Action)
    (server : Server) :
    Option Server :=
  match action with
  | .arrive ambient envelope =>
      some
        { server with
          requests :=
            server.requests ++ [.arrive ambient envelope] }
  | .advance index =>
      server.requests[index]?.map fun request =>
        server.advance index request
  | .cleanup now =>
      some
        { server with
          sessionManager :=
            server.sessionManager.cleanupExpired now }

def concurrent : TransitionSystem Server Action where
  Step server action server' :=
    server.act action = some server'

variable {server server' : Server}
variable {index : Nat}

theorem step_advance_iff
    {index : Nat} :
    concurrent.Step server (.advance index) server' ↔
      ∃ request,
        server.requests[index]? = some request ∧
          server.advance index request = server' :=
  Option.map_eq_some_iff

end Txip

end BorderController

------------------------------------------------------------
-- What a Step Keeps of a Session
------------------------------------------------------------

namespace BorderController

namespace Txip

namespace SessionManager

variable {manager manager' : SessionManager}
variable {sessionId other : String}

/- The session stays in the table, and its cache only grows. -/
structure Keeps
    (sessionId : String)
    (manager manager' : SessionManager) :
    Prop where
  live :
    (manager.sessions sessionId).isSome →
    (manager'.sessions sessionId).isSome
  seen :
    ∀ {msgId},
      manager.Seen sessionId msgId →
      manager'.Seen sessionId msgId

theorem Keeps.refl
    (sessionId : String)
    (manager : SessionManager) :
    Keeps sessionId manager manager :=
  ⟨id, id⟩

theorem keeps_recordMessage
    (msgId : String) :
    Keeps sessionId manager
      (manager.recordMessage other msgId) :=
  ⟨id, Seen.recordMessage⟩

theorem keeps_touchSession
    (now : TripleTimestamp) :
    Keeps sessionId manager
      (manager.touchSession other now).2 := by
  constructor
  · intro hLive
    unfold touchSession
    cases hSession : manager.sessions other with
    | none => exact hLive
    | some session =>
        by_cases hSame : sessionId = other
        · subst hSame
          simp
        · simpa [hSame] using hLive
  · intro msgId hSeen
    unfold Seen
    rw [touchSession_messageCache]
    exact hSeen

/- Tables that agree on the session. -/
theorem keeps_of_eq
    (hSessions :
      manager'.sessions sessionId = manager.sessions sessionId)
    (hCache :
      manager'.messageCache sessionId =
        manager.messageCache sessionId) :
    Keeps sessionId manager manager' := by
  constructor
  · rw [hSessions]
    exact id
  · intro msgId hSeen
    unfold Seen
    rw [hCache]
    exact hSeen

theorem keeps_closeSession
    (hOther : sessionId ≠ other) :
    Keeps sessionId manager (manager.closeSession other) :=
  keeps_of_eq (Function.update_of_ne hOther ..)
    (Function.update_of_ne hOther ..)

theorem keeps_handleHello
    {hello : HelloPayload}
    {role : Role}
    {now : TripleTimestamp}
    {result : Except String SessionInfo}
    (hHello :
      manager.handleHello hello other role now =
        (result, manager'))
    (hOther : sessionId ≠ other) :
    Keeps sessionId manager manager' := by
  rcases handleHello_cases hHello with
    ⟨_, _, hSame⟩ | ⟨_, _, hSessions, hCache⟩
  · rw [hSame]
    exact Keeps.refl sessionId manager
  · apply keeps_of_eq
    · rw [hSessions, Function.update_of_ne hOther]
    · rw [hCache, Function.update_of_ne hOther]

theorem keeps_cleanupExpired
    {now : TripleTimestamp}
    (hLive :
      ((manager.cleanupExpired now).sessions
        sessionId).isSome) :
    Keeps sessionId manager (manager.cleanupExpired now) := by
  constructor
  · intro _
    exact hLive
  · rintro msgId ⟨msgIds, hCache, hMem⟩
    refine ⟨msgIds, ?_, hMem⟩
    unfold cleanupExpired at hLive ⊢
    simp only at hLive ⊢
    rw [if_pos hLive, hCache]

end SessionManager

namespace Request

variable {request : Request}
variable {state : HttpHandlerState}
variable {sessionId : String}

/- The next step routes a HELLO or a CLOSE for the session. -/
def Disturbing
    (sessionId : String)
    (request : Request) :
    Prop :=
  request.envelope.sessionId = sessionId ∧
    request.stage = .checked ∧
    ((∃ hello,
        request.envelope.payload = .control (.hello hello)) ∨
      ∃ close,
        request.envelope.payload = .control (.close close))

/- A step takes the request no further than its envelope. -/
@[simp] theorem step_envelope :
    (request.step state).1.envelope = request.envelope := by
  unfold step
  cases request.stage <;> rfl

/- Routing calls at most one method of the session manager. -/
theorem route_cases :
    (request.route state).2 = state.sessionManager ∨
      (request.route state).2 =
          (state.sessionManager.touchSession
            request.envelope.sessionId
            request.ambient.sessionClock).2 ∨
        (∃ close,
          request.envelope.payload =
              .control (.close close) ∧
            (request.route state).2 =
              state.sessionManager.closeSession
                request.envelope.sessionId) ∨
          ∃ hello result,
            request.envelope.payload =
                .control (.hello hello) ∧
              state.sessionManager.handleHello hello
                  request.envelope.sessionId
                  request.envelope.role
                  request.ambient.sessionClock =
                (result, (request.route state).2) := by
  unfold route
  cases request.envelope.messageType with
  | error => exact Or.inl rfl
  | tgp =>
      simp only
      cases state.sessionManager.getSession
        request.envelope.sessionId <;> exact Or.inl rfl
  | control =>
      cases hPayload : request.envelope.payload with
      | tgp tgp => exact Or.inl rfl
      | error error => exact Or.inl rfl
      | control control =>
          cases control with
          | welcome welcome => exact Or.inl rfl
          | heartbeat heartbeat =>
              refine Or.inr (Or.inl ?_)
              simp only
              cases state.sessionManager.touchSession
                  request.envelope.sessionId
                  request.ambient.sessionClock with
              | mk result manager => cases result <;> rfl
          | close close =>
              exact Or.inr (Or.inr (Or.inl ⟨close, rfl, rfl⟩))
          | hello hello =>
              refine Or.inr (Or.inr (Or.inr ?_))
              simp only
              cases hHello :
                  state.sessionManager.handleHello hello
                    request.envelope.sessionId
                    request.envelope.role
                    request.ambient.sessionClock with
              | mk result manager =>
                  refine ⟨hello, result, rfl, ?_⟩
                  rw [hHello]
                  cases result <;> rfl

/- Routing keeps every session that it does not address. -/
private theorem route_keeps
    (hStage : request.stage = .checked)
    (hNot : ¬ request.Disturbing sessionId) :
    SessionManager.Keeps sessionId state.sessionManager
      (request.route state).2 := by
  rcases @route_cases request state with
    hSame | hTouched | ⟨close, hPayload, hClosed⟩ |
      ⟨hello, result, hPayload, hHello⟩
  · rw [hSame]
    exact SessionManager.Keeps.refl _ _
  · rw [hTouched]
    exact SessionManager.keeps_touchSession _
  · rw [hClosed]
    apply SessionManager.keeps_closeSession
    intro hSession
    exact hNot
      ⟨hSession.symm, hStage, Or.inr ⟨close, hPayload⟩⟩
  · apply SessionManager.keeps_handleHello hHello
    intro hSession
    exact hNot
      ⟨hSession.symm, hStage, Or.inl ⟨hello, hPayload⟩⟩

/- The manager after a delivery has the message recorded. -/
theorem deliver_manager :
    (request.deliver state).2 =
      state.sessionManager.recordMessage
        request.envelope.sessionId request.envelope.msgId := by
  unfold deliver
  cases request.envelope.messageType <;>
    cases request.envelope.payload <;> rfl

theorem step_keeps
    (hNot : ¬ request.Disturbing sessionId) :
    SessionManager.Keeps sessionId state.sessionManager
      (request.step state).2 := by
  unfold step
  cases hStage : request.stage with
  | arrived => exact SessionManager.Keeps.refl _ _
  | checked => exact route_keeps hStage hNot
  | authenticated =>
      exact SessionManager.keeps_touchSession _
  | touched =>
      simp only [deliver_manager]
      exact SessionManager.keeps_recordMessage _
  | greeted sessionInfo =>
      exact SessionManager.keeps_recordMessage _
  | finished response forwarded =>
      exact SessionManager.Keeps.refl _ _

end Request

variable {server server' : Server}
variable {action : Action}
variable {sessionId : String}

/-
  The step lets a session go: a HELLO or a CLOSE for it is
  routed, or a sweep drops it.
-/
def Disturbs
    (sessionId : String)
    (tr : Transition Server Action) :
    Prop :=
  match tr.label with
  | .arrive _ _ => False
  | .advance index =>
      ∃ request,
        tr.source.requests[index]? = some request ∧
          request.Disturbing sessionId
  | .cleanup _ => ¬ tr.target.Live sessionId

/- A step that does not disturb the session keeps it. -/
theorem step_keeps
    (hStep : concurrent.Step server action server')
    (hNot : ¬ Disturbs sessionId ⟨server, action, server'⟩) :
    SessionManager.Keeps sessionId server.sessionManager
      server'.sessionManager := by
  cases action with
  | arrive ambient envelope =>
      cases hStep
      exact SessionManager.Keeps.refl _ _
  | cleanup now =>
      cases hStep
      apply SessionManager.keeps_cleanupExpired
      exact not_not.mp hNot
  | advance index =>
      rcases step_advance_iff.mp hStep with
        ⟨request, hGet, hNext⟩
      subst hNext
      apply Request.step_keeps
      intro hDisturbing
      exact hNot ⟨request, hGet, hDisturbing⟩

end Txip

end BorderController

------------------------------------------------------------
-- Recorded Runs
------------------------------------------------------------

namespace BorderController

namespace Txip

def Event.action : Event → Action
  | .deliver ambient envelope => .arrive ambient envelope
  | .cleanup now => .cleanup now

/- Record the steps of a list of actions. -/
def perform :
    List Action → Server →
      Option (List (Transition Server Action) × Server)
  | [], server => some ([], server)
  | action :: actions, server =>
      (server.act action).bind fun next =>
        (perform actions next).map fun rest =>
          (⟨server, action, next⟩ :: rest.1, rest.2)

theorem perform_path
    {actions : List Action}
    {start server : Server}
    {es : List (Transition Server Action)}
    (hPerform : perform actions start = some (es, server)) :
    concurrent.Path start es server := by
  induction actions generalizing start es with
  | nil =>
      cases hPerform
      exact .nil _
  | cons action actions ih =>
      unfold perform at hPerform
      rcases Option.bind_eq_some_iff.mp hPerform with
        ⟨next, hAct, hRest⟩
      rcases Option.map_eq_some_iff.mp hRest with
        ⟨⟨fs, last⟩, hTail, hSame⟩
      cases hSame
      exact .cons hAct (ih hTail)

/- The labels recorded are the actions. -/
private theorem perform_labels
    {actions : List Action}
    {start server : Server}
    {es : List (Transition Server Action)}
    (hPerform : perform actions start = some (es, server)) :
    es.map Transition.label = actions := by
  induction actions generalizing start es with
  | nil =>
      cases hPerform
      rfl
  | cons action actions ih =>
      unfold perform at hPerform
      rcases Option.bind_eq_some_iff.mp hPerform with
        ⟨next, hAct, hRest⟩
      rcases Option.map_eq_some_iff.mp hRest with
        ⟨⟨fs, last⟩, hTail, hSame⟩
      cases hSame
      simp [ih hTail]

/- Nothing but TGP messages arrives, and nothing is swept. -/
def Action.Tgp : Action → Prop
  | .arrive _ envelope => ∃ tgp, envelope.payload = .tgp tgp
  | .advance _ => True
  | .cleanup _ => False

private theorem step_tgp
    {server server' : Server}
    {action : Action}
    (hStep : concurrent.Step server action server')
    (hTgp : action.Tgp)
    (hRequests :
      ∀ request ∈ server.requests,
        ∃ tgp, request.envelope.payload = .tgp tgp) :
    ∀ request ∈ server'.requests,
      ∃ tgp, request.envelope.payload = .tgp tgp := by
  intro request hMem
  cases action with
  | cleanup now => exact absurd hTgp id
  | arrive ambient envelope =>
      cases hStep
      rcases List.mem_append.mp hMem with hOld | hNew
      · exact hRequests request hOld
      · rw [List.mem_singleton.mp hNew]
        exact hTgp
  | advance index =>
      rcases step_advance_iff.mp hStep with
        ⟨moved, hGet, hNext⟩
      subst hNext
      rcases List.mem_or_eq_of_mem_set hMem with
        hOld | hMoved
      · exact hRequests request hOld
      · rw [hMoved, Request.step_envelope]
        exact hRequests moved (List.mem_of_getElem? hGet)

/- TGP messages alone let no session go. -/
theorem calm_of_tgp
    {start server : Server}
    {es : List (Transition Server Action)}
    (sessionId : String)
    (hPath : concurrent.Path start es server)
    (hIdle : start.requests = [])
    (hTgp : ∀ tr ∈ es, tr.label.Tgp) :
    ∀ tr ∈ es, ¬ Disturbs sessionId tr := by
  intro tr hMem hDisturbs
  rcases hPath.exists_of_mem hMem with
    ⟨before, after, hEs, hBefore, hStep, _⟩
  have hRequests :
      ∀ request ∈ tr.source.requests,
        ∃ tgp, request.envelope.payload = .tgp tgp := by
    apply hBefore.stable (fun tr => tr.label.Tgp)
      (fun server =>
        ∀ request ∈ server.requests,
          ∃ tgp, request.envelope.payload = .tgp tgp)
      (fun hTgp hAll hStep => step_tgp hStep hTgp hAll)
    · intro e hEarlier
      exact hTgp e (by simp [hEs, hEarlier])
    · simp [hIdle]
  have hLabel := hTgp tr hMem
  unfold Disturbs at hDisturbs
  cases hAction : tr.label with
  | arrive ambient envelope => simp [hAction] at hDisturbs
  | cleanup now =>
      rw [hAction] at hLabel
      exact hLabel
  | advance index =>
      rw [hAction] at hDisturbs
      rcases hDisturbs with
        ⟨request, hGet, _, _, ⟨_, hHello⟩ | ⟨_, hClose⟩⟩
      · rcases hRequests request (List.mem_of_getElem? hGet)
          with ⟨tgp, hPayload⟩
        rw [hPayload] at hHello
        contradiction
      · rcases hRequests request (List.mem_of_getElem? hGet)
          with ⟨tgp, hPayload⟩
        rw [hPayload] at hClose
        contradiction

theorem perform_tgp
    {actions : List Action}
    {start server : Server}
    {es : List (Transition Server Action)}
    (hPerform : perform actions start = some (es, server))
    (hTgp : ∀ action ∈ actions, action.Tgp) :
    ∀ tr ∈ es, tr.label.Tgp := by
  intro tr hMem
  apply hTgp
  rw [← perform_labels hPerform]
  exact List.mem_map_of_mem hMem

end Txip

end BorderController

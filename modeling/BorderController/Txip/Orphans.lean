import BorderController.Txip.Concurrent

/-
  Replay caches and sessions of a server with requests in
  flight.

  Sessions and caches come and go together, except that a
  message is recorded in a step of its own: the session may be
  gone by then, and the cache is made anew.

  Key definitions include:
    * `SessionManager.Matched`
    * `Orphans`
    * `Server.Quiescent`

  Key theorems include:
    * `Request.step_matched`
    * `step_matched`
    * `matched_of_not_orphans`
-/

------------------------------------------------------------
-- Matching Tables
------------------------------------------------------------

namespace BorderController

namespace Txip

/- The cached ids are the ids of the sessions. -/
def SessionManager.Matched (manager : SessionManager) : Prop :=
  ∀ sessionId,
    (manager.messageCache sessionId).isSome ↔
      (manager.sessions sessionId).isSome

/- The next step of the request records its message. -/
def Request.isRecording (request : Request) : Bool :=
  match request.stage with
  | .touched => true
  | .greeted _ => true
  | _ => false

/- A message is recorded for a session that is gone. -/
def Orphans (tr : Transition Server Action) : Prop :=
  ∃ index request,
    tr.label = .advance index ∧
      tr.source.requests[index]? = some request ∧
      request.isRecording = true ∧
      ¬ tr.source.Live request.envelope.sessionId

/- No request is in flight. -/
def Server.Quiescent (server : Server) : Prop :=
  ∀ request ∈ server.requests,
    ∃ response forwarded,
      request.stage = .finished response forwarded

/- A server that has not seen any request. -/
def Server.new
    (config : SessionConfig)
    (tbcId : String) :
    Server :=
  { sessionManager := .new config
    tbcId
    requests := [] }

end Txip

end BorderController

------------------------------------------------------------
-- Methods of the Session Manager
------------------------------------------------------------

namespace BorderController

namespace Txip

namespace SessionManager

variable {manager manager' : SessionManager}
variable {sessionId msgId : String}

theorem new_matched (config : SessionConfig) :
    (new config).Matched :=
  fun _ => Iff.rfl

/- Writing an entry, or none, to both tables. -/
private theorem Matched.update
    {session : Option SessionInfo}
    {msgIds : Option (Finset String)}
    (hMatched : manager.Matched)
    (hSessions :
      manager'.sessions =
        Function.update manager.sessions sessionId session)
    (hCache :
      manager'.messageCache =
        Function.update manager.messageCache sessionId msgIds)
    (hBoth : msgIds.isSome ↔ session.isSome) :
    manager'.Matched := by
  intro other
  rw [hSessions, hCache]
  by_cases hSame : other = sessionId
  · subst hSame
    rw [Function.update_self, Function.update_self]
    exact hBoth
  · rw [Function.update_of_ne hSame,
      Function.update_of_ne hSame]
    exact hMatched other

theorem Matched.touchSession
    (hMatched : manager.Matched)
    (now : TripleTimestamp) :
    (manager.touchSession sessionId now).2.Matched := by
  cases hSession : manager.sessions sessionId with
  | none =>
      unfold SessionManager.touchSession
      rw [hSession]
      exact hMatched
  | some session =>
      have hCache :
          (manager.touchSession sessionId now).2.messageCache =
            Function.update manager.messageCache sessionId
              (manager.messageCache sessionId) := by
        rw [touchSession_messageCache,
          Function.update_eq_self]
      apply hMatched.update (touchSession_sessions hSession)
        hCache
      rw [hMatched sessionId, hSession]
      simp

theorem Matched.closeSession (hMatched : manager.Matched) :
    (manager.closeSession sessionId).Matched :=
  hMatched.update rfl rfl Iff.rfl

theorem Matched.handleHello
    {hello : HelloPayload}
    {role : Role}
    {now : TripleTimestamp}
    {result : Except String SessionInfo}
    (hMatched : manager.Matched)
    (hHello :
      manager.handleHello hello sessionId role now =
        (result, manager')) :
    manager'.Matched := by
  rcases handleHello_cases hHello with
    ⟨_, _, hSame⟩ | ⟨_, _, hSessions, hCache⟩
  · rw [hSame]
    exact hMatched
  · exact hMatched.update hSessions hCache (by simp)

theorem Matched.cleanupExpired
    (hMatched : manager.Matched)
    (now : TripleTimestamp) :
    (manager.cleanupExpired now).Matched := by
  intro sessionId
  unfold SessionManager.cleanupExpired
  simp only
  by_cases hLive :
      ((manager.sessions sessionId).filter fun session =>
        !session.isTimedOut now.mono
          manager.config.sessionTimeoutSeconds).isSome
  · rw [if_pos hLive, hMatched sessionId]
    constructor
    · intro _
      exact hLive
    · intro _
      cases hSession : manager.sessions sessionId with
      | none =>
          rw [hSession] at hLive
          contradiction
      | some session => rfl
  · rw [if_neg hLive]
    exact iff_of_false (by simp) hLive

/- What is recorded has a cache from then on. -/
theorem recordMessage_isSome :
    ((manager.recordMessage sessionId msgId).messageCache
      sessionId).isSome := by
  rcases
      @recordMessage_seen manager sessionId msgId with
    ⟨msgIds, hCache, _⟩
  rw [hCache]
  rfl

/- Recording for a live session keeps the tables matched. -/
theorem Matched.recordMessage
    (hMatched : manager.Matched)
    (hLive : (manager.sessions sessionId).isSome) :
    (manager.recordMessage sessionId msgId).Matched := by
  have hSessions :
      (manager.recordMessage sessionId msgId).sessions =
        Function.update manager.sessions sessionId
          (manager.sessions sessionId) := by
    rw [Function.update_eq_self]
    rfl
  exact hMatched.update hSessions rfl (iff_of_true rfl hLive)

/- Recording for a session that is gone breaks the match. -/
theorem not_matched_recordMessage
    (hGone : manager.sessions sessionId = none) :
    ¬ (manager.recordMessage sessionId msgId).Matched := by
  intro hAfter
  have hLive := (hAfter sessionId).mp recordMessage_isSome
  have hSame :
      (manager.recordMessage sessionId msgId).sessions =
        manager.sessions := rfl
  rw [hSame, hGone] at hLive
  contradiction

end SessionManager

end Txip

end BorderController

------------------------------------------------------------
-- Steps
------------------------------------------------------------

namespace BorderController

namespace Txip

namespace Request

variable {request : Request}
variable {state : HttpHandlerState}

/- Every method that routing calls keeps the tables matched. -/
private theorem route_matched
    (hMatched : state.sessionManager.Matched) :
    (request.route state).2.Matched := by
  rcases @route_cases request state with
    hSame | hTouched | ⟨_, _, hClosed⟩ | ⟨_, _, _, hHello⟩
  · rw [hSame]
    exact hMatched
  · rw [hTouched]
    exact hMatched.touchSession _
  · rw [hClosed]
    exact hMatched.closeSession
  · exact hMatched.handleHello hHello

/- A step that records calls nothing but `record_message`. -/
theorem step_manager_of_isRecording
    (hRecords : request.isRecording = true) :
    (request.step state).2 =
      state.sessionManager.recordMessage
        request.envelope.sessionId request.envelope.msgId := by
  unfold isRecording at hRecords
  unfold step
  cases hStage : request.stage with
  | touched => exact deliver_manager
  | greeted sessionInfo => rfl
  | _ => simp [hStage] at hRecords

/- A step keeps the tables unless it records an orphan. -/
theorem step_matched
    (hMatched : state.sessionManager.Matched)
    (hNot :
      request.isRecording = true →
      state.Live request.envelope.sessionId) :
    (request.step state).2.Matched := by
  by_cases hRecords : request.isRecording = true
  · rw [step_manager_of_isRecording hRecords]
    exact hMatched.recordMessage (hNot hRecords)
  · unfold isRecording at hRecords
    unfold step
    cases hStage : request.stage with
    | arrived => exact hMatched
    | checked => exact route_matched hMatched
    | authenticated => exact hMatched.touchSession _
    | touched => simp [hStage] at hRecords
    | greeted sessionInfo => simp [hStage] at hRecords
    | finished response forwarded => exact hMatched

end Request

variable {server server' : Server}
variable {action : Action}

theorem step_matched
    (hStep : concurrent.Step server action server')
    (hMatched : server.sessionManager.Matched)
    (hNot : ¬ Orphans ⟨server, action, server'⟩) :
    server'.sessionManager.Matched := by
  cases action with
  | arrive ambient envelope =>
      cases hStep
      exact hMatched
  | cleanup now =>
      cases hStep
      exact hMatched.cleanupExpired now
  | advance index =>
      rcases step_advance_iff.mp hStep with
        ⟨request, hGet, hNext⟩
      subst hNext
      apply Request.step_matched hMatched
      intro hRecords
      by_contra hGone
      exact hNot ⟨index, request, rfl, hGet, hRecords, hGone⟩

/- A step that records an orphan leaves a cache too many. -/
theorem not_matched_of_orphans
    (hStep : concurrent.Step server action server')
    (hOrphans : Orphans ⟨server, action, server'⟩) :
    ¬ server'.sessionManager.Matched := by
  rcases hOrphans with
    ⟨index, request, hLabel, hGet, hRecords, hGone⟩
  simp only at hLabel hGet hGone
  subst hLabel
  rcases step_advance_iff.mp hStep with
    ⟨moved, hMoved, hNext⟩
  rw [hGet] at hMoved
  cases hMoved
  subst hNext
  have hManager :
      (server.advance index request).sessionManager =
        server.sessionManager.recordMessage
          request.envelope.sessionId
          request.envelope.msgId :=
    Request.step_manager_of_isRecording hRecords
  rw [hManager]
  apply SessionManager.not_matched_recordMessage
  unfold HttpHandlerState.Live at hGone
  exact Option.not_isSome_iff_eq_none.mp hGone

end Txip

end BorderController

------------------------------------------------------------
-- Runs
------------------------------------------------------------

namespace BorderController

namespace Txip

/-
  As long as no message is recorded for a session that is gone,
  caches and sessions match in every state, also while requests
  are in flight; the step that records one breaks the match.
-/
theorem matched_of_not_orphans
    {config : SessionConfig}
    {tbcId : String}
    {server : Server}
    {es : List (Transition Server Action)}
    (hPath : concurrent.Path (.new config tbcId) es server) :
    ((∀ tr ∈ es, ¬ Orphans tr) →
      server.sessionManager.Matched) ∧
    ∀ before tr,
      es = before ++ [tr] →
      Orphans tr →
      ¬ server.sessionManager.Matched := by
  constructor
  · intro hNot
    exact hPath.stable (fun tr => ¬ Orphans tr)
      (fun server => server.sessionManager.Matched)
      (fun hOther hMatched hStep =>
        step_matched hStep hMatched hOther)
      hNot (SessionManager.new_matched config)
  · intro before tr hEs hOrphans
    subst hEs
    rcases hPath.split with ⟨_, hStep, hEnd⟩
    cases hEnd
    exact not_matched_of_orphans hStep hOrphans

end Txip

end BorderController

------------------------------------------------------------
-- A Session Closed Too Early
------------------------------------------------------------

namespace BorderController

namespace Txip

/- The sample agent closes its session. -/
def closeArrives (msgId : String) : Event :=
  .deliver
    { sessionClock := sampleClock
      responseClock := sampleClock
      random := 7 }
    (.new msgId "sess-123" .clientToTbc .buyerAgent .control
      .none sampleClock (.control (.close { reason := .clientShutdown })))

/- A session is closed before its query is recorded. -/
def closedActions : List Action :=
  [ (helloArrives "msg-1").action,
    .advance 0, .advance 0, .advance 0,
    (tgpArrives "msg-2").action,
    .advance 1, .advance 1, .advance 1,
    (closeArrives "msg-3").action,
    .advance 2, .advance 2,
    .advance 1 ]

/- A session is closed once its query is recorded, and then
   opened again. -/
def orderlyActions : List Action :=
  [ (helloArrives "msg-1").action,
    .advance 0, .advance 0, .advance 0,
    (tgpArrives "msg-2").action,
    .advance 1, .advance 1, .advance 1, .advance 1,
    (closeArrives "msg-3").action,
    .advance 2, .advance 2,
    (helloArrives "msg-4").action,
    .advance 3, .advance 3, .advance 3 ]

/- The query leaves a cache without a session. -/
theorem closed_not_matched :
    ∃ config tbcId es server,
      concurrent.Path (.new config tbcId) es server ∧
        server.Quiescent ∧
        ¬ server.sessionManager.Matched := by
  have hPerform :
      perform closedActions (.new .default "tbc://test") =
        some (_, _) :=
    rfl
  refine ⟨.default, "tbc://test", _, _,
    perform_path hPerform, ?_, ?_⟩
  · intro request hMem
    rcases List.mem_cons.mp hMem with hHello | hMem
    · exact ⟨_, _, congrArg Request.stage hHello⟩
    rcases List.mem_cons.mp hMem with hTgp | hMem
    · exact ⟨_, _, congrArg Request.stage hTgp⟩
    · exact ⟨_, _,
        congrArg Request.stage (List.mem_singleton.mp hMem)⟩
  · intro hMatched
    have hLive := (hMatched "sess-123").mp rfl
    contradiction

/- In order, the session that is live has a cache and no other
   has. -/
theorem orderly_matched :
    ∃ es server,
      perform orderlyActions (.new .default "tbc://test") =
          some (es, server) ∧
        server.Live "sess-123" ∧
        server.sessionManager.Matched := by
  have hPerform :
      perform orderlyActions (.new .default "tbc://test") =
        some (_, _) :=
    rfl
  refine ⟨_, _, hPerform, rfl, ?_⟩
  apply (matched_of_not_orphans (perform_path hPerform)).1
  rintro tr hMem ⟨index, request, _, hGet, hRecords, hGone⟩
  have hLive :=
    List.all_eq_true.mp
      (by rfl :
        List.all _ (fun tr : Transition Server Action =>
          tr.source.requests.all fun request =>
            !request.isRecording ||
              (tr.source.sessionManager.sessions
                request.envelope.sessionId).isSome) =
          true)
      tr hMem
  have hHere :=
    List.all_eq_true.mp hLive request
      (List.mem_of_getElem? hGet)
  rw [hRecords] at hHere
  exact hGone hHere

end Txip

end BorderController

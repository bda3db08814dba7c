import BorderController.Txip.Concurrent
import BorderController.Library.AtMostOne

/-
  Idempotency of TGP deliveries under concurrency.

  The duplicate check and the recording of a message id are
  two steps: a retransmission that is checked in between is
  processed as well.

  Key definitions include:
    * `Request.Pending`, `Request.Delivered`
    * `Overlaps`
    * `Once`

  Key theorems include:
    * `step_once`
    * `completes_of_pending`
    * `deliveredOnce_of_not_overlaps`
-/

------------------------------------------------------------
-- Pending and Delivered Requests
------------------------------------------------------------

namespace BorderController

namespace Txip

namespace Request

/- The envelope carries a TGP message under the pair of ids. -/
def Carries
    (sessionId msgId : String)
    (request : Request) :
    Prop :=
  request.envelope.sessionId = sessionId ∧
    request.envelope.msgId = msgId ∧
    request.envelope.messageType = .tgp ∧
    ∃ tgp, request.envelope.payload = .tgp tgp

/- The request is past its check and not yet recorded. -/
def Pending
    (sessionId msgId : String)
    (request : Request) :
    Prop :=
  request.Carries sessionId msgId ∧
    match request.stage with
    | .checked => True
    | .authenticated => True
    | .touched => True
    | _ => False

/- The request has reached the forwarding point. -/
def Delivered
    (sessionId msgId : String)
    (request : Request) :
    Prop :=
  match request.stage with
  | .finished _ (some forwarded) =>
      forwarded.sessionId = sessionId ∧
        forwarded.msgId = msgId
  | _ => False

end Request

/-
  The step is the duplicate check of a TGP envelope with the
  pair of ids, it finds none, and another request with the
  pair is pending.
-/
def Overlaps
    (sessionId msgId : String)
    (tr : Transition Server Action) :
    Prop :=
  ∃ index request other,
    tr.label = .advance index ∧
      tr.source.requests[index]? = some request ∧
      request.stage = .arrived ∧
      request.Carries sessionId msgId ∧
      request.envelope.validate = .ok () ∧
      ¬ tr.source.sessionManager.Seen sessionId msgId ∧
      other ∈ tr.source.requests ∧
      other.Pending sessionId msgId

end Txip

end BorderController

------------------------------------------------------------
-- One Step of a Request
------------------------------------------------------------

namespace BorderController

namespace Txip

namespace Request

variable {request : Request}
variable {state : HttpHandlerState}
variable {sessionId msgId : String}

/- A request becomes pending by its duplicate check. -/
theorem pending_of_step
    (hNext : (request.step state).1.Pending sessionId msgId) :
    request.Pending sessionId msgId ∨
      request.stage = .arrived ∧
        request.Carries sessionId msgId ∧
        request.envelope.validate = .ok () ∧
        ¬ state.sessionManager.Seen sessionId msgId := by
  rcases hNext with ⟨hCarries, hNextStage⟩
  have hCarries : request.Carries sessionId msgId := by
    unfold Carries at hCarries ⊢
    rwa [step_envelope] at hCarries
  unfold step at hNextStage
  unfold Pending
  cases hStage : request.stage with
  | checked => exact Or.inl ⟨hCarries, trivial⟩
  | authenticated => exact Or.inl ⟨hCarries, trivial⟩
  | touched => exact Or.inl ⟨hCarries, trivial⟩
  | greeted sessionInfo =>
      rw [hStage] at hNextStage
      exact absurd hNextStage id
  | finished response forwarded =>
      simp only [hStage] at hNextStage
  | arrived =>
      right
      refine ⟨rfl, hCarries, ?_⟩
      simp only [hStage] at hNextStage
      unfold check at hNextStage
      cases hValid : request.envelope.validate with
      | error e =>
          simp [hValid, refuse] at hNextStage
      | ok u =>
          refine ⟨rfl, ?_⟩
          intro hSeen
          rcases hCarries with ⟨hSession, hMsg, _⟩
          subst hSession hMsg
          rw [← SessionManager.isDuplicateMessage_iff]
            at hSeen
          simp [hValid, hSeen, accept] at hNextStage

/- Neither the duplicate check nor the routing forwards. -/
private theorem not_delivered_of_early
    (hStage :
      request.stage = .arrived ∨ request.stage = .checked) :
    ¬ (request.step state).1.Delivered sessionId msgId := by
  unfold step Delivered
  rcases hStage with hStage | hStage
  · simp only [hStage]
    unfold check
    cases request.envelope.validate with
    | error e => exact id
    | ok u => simp only; split_ifs <;> exact id
  · simp only [hStage]
    unfold route
    cases request.envelope.messageType with
    | error => exact id
    | tgp =>
        simp only
        cases state.sessionManager.getSession
          request.envelope.sessionId <;> exact id
    | control =>
        cases request.envelope.payload with
        | tgp tgp => exact id
        | error error => exact id
        | control control =>
            cases control with
            | welcome welcome => exact id
            | close close => exact id
            | heartbeat heartbeat =>
                simp only
                cases state.sessionManager.touchSession
                    request.envelope.sessionId
                    request.ambient.sessionClock with
                | mk result manager =>
                    cases result <;> exact id
            | hello hello =>
                simp only
                cases state.sessionManager.handleHello hello
                    request.envelope.sessionId
                    request.envelope.role
                    request.ambient.sessionClock with
                | mk result manager =>
                    cases result <;> exact id

/- A request is delivered by the recording of its id. -/
theorem delivered_of_step
    (hNext :
      (request.step state).1.Delivered sessionId msgId) :
    request.Delivered sessionId msgId ∨
      request.Pending sessionId msgId ∧
        (request.step state).2.Seen sessionId msgId := by
  cases hStage : request.stage with
  | arrived =>
      exact absurd hNext
        (not_delivered_of_early (Or.inl hStage))
  | checked =>
      exact absurd hNext
        (not_delivered_of_early (Or.inr hStage))
  | authenticated =>
      unfold step Delivered at hNext
      simp only [hStage] at hNext
  | greeted sessionInfo =>
      unfold step Delivered at hNext
      simp only [hStage, greet] at hNext
  | finished response forwarded =>
      left
      unfold step at hNext
      simp only [hStage] at hNext
      exact hNext
  | touched =>
      right
      unfold step Delivered at hNext
      simp only [hStage] at hNext
      unfold Pending Carries step
      rw [hStage]
      simp only [deliver_manager, and_true]
      unfold deliver at hNext
      cases hType : request.envelope.messageType with
      | control => simp [hType, accept] at hNext
      | error => simp [hType, accept] at hNext
      | tgp =>
          cases hPayload : request.envelope.payload with
          | control control =>
              simp [hType, hPayload, refuse] at hNext
          | error error =>
              simp [hType, hPayload, refuse] at hNext
          | tgp tgp =>
              simp only [hType, hPayload, accept] at hNext
              rcases hNext with ⟨hSession, hMsg⟩
              subst hSession hMsg
              exact ⟨⟨rfl, rfl, rfl, tgp, rfl⟩,
                SessionManager.recordMessage_seen⟩

end Request

end Txip

end BorderController

------------------------------------------------------------
-- One Step of the Server
------------------------------------------------------------

namespace BorderController

namespace Txip

variable {server server' : Server}
variable {action : Action}
variable {sessionId msgId : String}

/-
  At most one request with the pair of ids is past its check,
  and the pair is recorded once one is delivered.
-/
structure Once
    (sessionId msgId : String)
    (server : Server) :
    Prop where
  one :
    AtMostOne
      (fun request =>
        request.Pending sessionId msgId ∨
          request.Delivered sessionId msgId)
      server.requests
  seen :
    ∀ request ∈ server.requests,
      request.Delivered sessionId msgId →
      server.sessionManager.Seen sessionId msgId

/- A request that has just arrived is not past its check. -/
private theorem not_engaged_of_arrived
    {request : Request}
    (hStage : request.stage = .arrived) :
    ¬ (request.Pending sessionId msgId ∨
      request.Delivered sessionId msgId) := by
  unfold Request.Pending Request.Delivered
  rw [hStage]
  simp

private theorem Once.advance
    {index : Nat}
    {request : Request}
    (hOnce : Once sessionId msgId server)
    (hGet : server.requests[index]? = some request)
    (hKeeps :
      SessionManager.Keeps sessionId server.sessionManager
        (server.advance index request).sessionManager)
    (hAlone :
      ¬ Overlaps sessionId msgId
        ⟨server, .advance index,
          server.advance index request⟩) :
    Once sessionId msgId (server.advance index request) := by
  constructor
  · by_cases hEngaged :
        request.Pending sessionId msgId ∨
          request.Delivered sessionId msgId
    · exact hOnce.one.set hGet (fun _ => hEngaged)
    by_cases hNext :
        (request.step server.toHttpHandlerState).1.Pending
          sessionId msgId
    · rcases Request.pending_of_step hNext with
        hPending | ⟨hStage, hCarries, hValid, hFresh⟩
      · exact absurd (Or.inl hPending) hEngaged
      · apply AtMostOne.set_of_none
        rintro other hMem (hPending | hDelivered)
        · exact hAlone
            ⟨index, request, other, rfl, hGet, hStage,
              hCarries, hValid, hFresh, hMem, hPending⟩
        · exact hFresh (hOnce.seen other hMem hDelivered)
    · apply hOnce.one.set hGet
      rintro (hPending | hDelivered)
      · exact absurd hPending hNext
      · rcases Request.delivered_of_step hDelivered with
          hDelivered | ⟨hPending, _⟩
        · exact Or.inr hDelivered
        · exact Or.inl hPending
  · intro other hMem hDelivered
    rcases List.mem_or_eq_of_mem_set hMem with hOld | hNew
    · exact hKeeps.seen (hOnce.seen other hOld hDelivered)
    · subst hNew
      rcases Request.delivered_of_step hDelivered with
        hBefore | ⟨_, hSeen⟩
      · apply hKeeps.seen
        exact hOnce.seen request
          (List.mem_of_getElem? hGet) hBefore
      · exact hSeen

theorem step_once
    (hStep : concurrent.Step server action server')
    (hOnce : Once sessionId msgId server)
    (hNot : ¬ Disturbs sessionId ⟨server, action, server'⟩)
    (hAlone :
      ¬ Overlaps sessionId msgId
        ⟨server, action, server'⟩) :
    Once sessionId msgId server' := by
  have hKeeps := step_keeps hStep hNot
  cases action with
  | arrive ambient envelope =>
      cases hStep
      constructor
      · exact hOnce.one.append_singleton
          (not_engaged_of_arrived rfl)
      · intro request hMem hDelivered
        rcases List.mem_append.mp hMem with hOld | hNew
        · exact hOnce.seen request hOld hDelivered
        · rw [List.mem_singleton.mp hNew] at hDelivered
          exact absurd (Or.inr hDelivered)
            (not_engaged_of_arrived rfl)
  | cleanup now =>
      cases hStep
      refine ⟨hOnce.one, ?_⟩
      intro request hMem hDelivered
      exact hKeeps.seen (hOnce.seen request hMem hDelivered)
  | advance index =>
      rcases step_advance_iff.mp hStep with
        ⟨request, hGet, hNext⟩
      subst hNext
      exact hOnce.advance hGet hKeeps hAlone

end Txip

end BorderController

------------------------------------------------------------
-- Completing a Pending Request
------------------------------------------------------------

namespace BorderController

namespace Txip

variable {server server' : Server}
variable {sessionId msgId : String}
variable {index : Nat}
variable {request : Request}

/- A calm path, on which only one request moves, delivers it. -/
def Completes
    (sessionId msgId : String)
    (index : Nat)
    (server : Server) :
    Prop :=
  ∃ es server' request,
    concurrent.Path server es server' ∧
      (∀ tr ∈ es, ¬ Disturbs sessionId tr) ∧
      server'.Live sessionId ∧
      server'.requests[index]? = some request ∧
      request.Delivered sessionId msgId ∧
      ∀ other, other ≠ index →
        server'.requests[other]? = server.requests[other]?

/- A TGP request lets no session go. -/
theorem not_disturbing_of_carries
    (hCarries : request.Carries sessionId msgId) :
    ¬ request.Disturbing sessionId := by
  rintro ⟨_, _, hHello | hClose⟩
  · rcases hCarries with ⟨_, _, _, tgp, hTgp⟩
    rcases hHello with ⟨hello, hHello⟩
    rw [hTgp] at hHello
    contradiction
  · rcases hCarries with ⟨_, _, _, tgp, hTgp⟩
    rcases hClose with ⟨close, hClose⟩
    rw [hTgp] at hClose
    contradiction

private theorem Completes.after
    (hGet : server.requests[index]? = some request)
    (hCarries : request.Carries sessionId msgId)
    (hRest :
      Completes sessionId msgId index
        (server.advance index request)) :
    Completes sessionId msgId index server := by
  rcases hRest with
    ⟨es, server', delivered, hPath, hCalm, hLive, hFound,
      hDelivered, hOthers⟩
  refine ⟨_, server', delivered,
    .cons (step_advance_iff.mpr ⟨request, hGet, rfl⟩) hPath,
    ?_, hLive, hFound, hDelivered, ?_⟩
  · intro tr hMem
    rcases List.mem_cons.mp hMem with hFirst | hRest
    · rw [hFirst]
      rintro ⟨moved, hMoved, hDisturbing⟩
      simp only at hMoved
      rw [hGet] at hMoved
      cases hMoved
      exact not_disturbing_of_carries hCarries hDisturbing
    · exact hCalm tr hRest
  · intro other hOther
    rw [hOthers other hOther]
    exact List.getElem?_set_ne (fun hSame => hOther hSame.symm)

/- The request that has stepped, at its index. -/
private theorem advance_get
    (hGet : server.requests[index]? = some request) :
    (server.advance index request).requests[index]? =
      some (request.step server.toHttpHandlerState).1 :=
  List.getElem?_set_self
    (List.getElem?_eq_some_iff.mp hGet).1

/- A step of a TGP request keeps the session live. -/
private theorem advance_live
    (hCarries : request.Carries sessionId msgId)
    (hLive : server.Live sessionId) :
    (server.advance index request).Live sessionId :=
  (Request.step_keeps
    (not_disturbing_of_carries hCarries)).live hLive

/- The request in the next stage still carries the message. -/
private theorem step_carries
    {state : HttpHandlerState}
    (hCarries : request.Carries sessionId msgId) :
    (request.step state).1.Carries sessionId msgId := by
  unfold Request.Carries at hCarries ⊢
  rwa [Request.step_envelope]

private theorem completes_of_delivered
    (hGet : server.requests[index]? = some request)
    (hLive : server.Live sessionId)
    (hDelivered : request.Delivered sessionId msgId) :
    Completes sessionId msgId index server :=
  ⟨[], server, request, .nil server, by simp, hLive, hGet,
    hDelivered, fun _ _ => rfl⟩

private theorem completes_of_touched
    (hGet : server.requests[index]? = some request)
    (hLive : server.Live sessionId)
    (hCarries : request.Carries sessionId msgId)
    (hStage : request.stage = .touched) :
    Completes sessionId msgId index server := by
  apply Completes.after hGet hCarries
  apply completes_of_delivered (advance_get hGet)
    (advance_live hCarries hLive)
  rcases hCarries with ⟨hSession, hMsg, hType, tgp, hTgp⟩
  unfold Request.Delivered Request.step Request.deliver
  simp only [hStage, hType, hTgp]
  exact ⟨hSession, hMsg⟩

private theorem completes_of_authenticated
    (hGet : server.requests[index]? = some request)
    (hLive : server.Live sessionId)
    (hCarries : request.Carries sessionId msgId)
    (hStage : request.stage = .authenticated) :
    Completes sessionId msgId index server := by
  apply Completes.after hGet hCarries
  apply completes_of_touched (advance_get hGet)
    (advance_live hCarries hLive) (step_carries hCarries)
  unfold Request.step
  rw [hStage]

private theorem completes_of_checked
    (hGet : server.requests[index]? = some request)
    (hLive : server.Live sessionId)
    (hCarries : request.Carries sessionId msgId)
    (hStage : request.stage = .checked) :
    Completes sessionId msgId index server := by
  apply Completes.after hGet hCarries
  apply completes_of_authenticated (advance_get hGet)
    (advance_live hCarries hLive) (step_carries hCarries)
  rcases hCarries with ⟨hSession, _, hType, _⟩
  unfold Request.step Request.route
  simp only [hStage, hType]
  rw [HttpHandlerState.Live, Option.isSome_iff_exists]
    at hLive
  rcases hLive with ⟨session, hFound⟩
  rw [← hSession] at hFound
  unfold SessionManager.getSession
  rw [hFound]

/- A pending request of a live session can be delivered. -/
theorem completes_of_pending
    (hGet : server.requests[index]? = some request)
    (hLive : server.Live sessionId)
    (hPending : request.Pending sessionId msgId) :
    Completes sessionId msgId index server := by
  rcases hPending with ⟨hCarries, hStages⟩
  cases hStage : request.stage with
  | checked =>
      exact completes_of_checked hGet hLive hCarries hStage
  | authenticated =>
      exact completes_of_authenticated hGet hLive hCarries
        hStage
  | touched =>
      exact completes_of_touched hGet hLive hCarries hStage
  | arrived => simp only [hStage] at hStages
  | greeted sessionInfo => simp only [hStage] at hStages
  | finished response forwarded =>
      simp only [hStage] at hStages

/- Two pending requests can both be delivered. -/
theorem exists_twice_delivered
    {other : Nat}
    {second : Request}
    (hLive : server.Live sessionId)
    (hGet : server.requests[index]? = some request)
    (hPending : request.Pending sessionId msgId)
    (hSecond : server.requests[other]? = some second)
    (hSecondPending : second.Pending sessionId msgId)
    (hDistinct : other ≠ index) :
    ∃ es server',
      concurrent.Path server es server' ∧
        (∀ tr ∈ es, ¬ Disturbs sessionId tr) ∧
        ¬ AtMostOne (Request.Delivered sessionId msgId)
          server'.requests := by
  rcases completes_of_pending hGet hLive hPending with
    ⟨es, middle, first, hPath, hCalm, hLive', hFirst,
      hFirstDelivered, hOthers⟩
  rw [← hOthers other hDistinct] at hSecond
  rcases completes_of_pending hSecond hLive' hSecondPending
    with
    ⟨es', server', last, hPath', hCalm', _, hLast,
      hLastDelivered, hOthers'⟩
  rw [← hOthers' index (fun hSame => hDistinct hSame.symm)]
    at hFirst
  refine ⟨es ++ es', server', hPath.append hPath', ?_, ?_⟩
  · intro tr hMem
    rcases List.mem_append.mp hMem with hBefore | hAfter
    · exact hCalm tr hBefore
    · exact hCalm' tr hAfter
  · intro hOne
    exact hDistinct
      (hOne other index last first hLast hFirst
        hLastDelivered hFirstDelivered)

end Txip

end BorderController

------------------------------------------------------------
-- Delivering Once
------------------------------------------------------------

namespace BorderController

namespace Txip

variable {start server : Server}
variable {es : List (Transition Server Action)}
variable {sessionId msgId : String}

/- The states of a calm path on an established session. -/
private theorem path_keeps
    (hPath : concurrent.Path start es server)
    (hLive : start.Live sessionId)
    (hCalm : ∀ tr ∈ es, ¬ Disturbs sessionId tr) :
    server.Live sessionId :=
  hPath.stable (fun tr => ¬ Disturbs sessionId tr)
    (fun server => server.Live sessionId)
    (fun hNot hLive hStep => (step_keeps hStep hNot).live hLive)
    hCalm hLive

private theorem path_once
    (hPath : concurrent.Path start es server)
    (hIdle : start.requests = [])
    (hSteps :
      ∀ tr ∈ es,
        ¬ Disturbs sessionId tr ∧
          ¬ Overlaps sessionId msgId tr) :
    Once sessionId msgId server := by
  apply hPath.stable
    (fun tr =>
      ¬ Disturbs sessionId tr ∧
        ¬ Overlaps sessionId msgId tr)
    (fun server => Once sessionId msgId server)
    (fun hNot hOnce hStep =>
      step_once hStep hOnce hNot.1 hNot.2)
    hSteps
  constructor
  · rw [hIdle]
    exact AtMostOne.nil
  · rw [hIdle]
    simp

/- After an overlapping check two requests are pending. -/
private theorem exists_of_overlaps
    {tr : Transition Server Action}
    (hStep : concurrent.Step tr.source tr.label tr.target)
    (hOverlaps : Overlaps sessionId msgId tr) :
    ∃ (index other : Nat) (request second : Request),
      tr.target.requests[index]? = some request ∧
        request.Pending sessionId msgId ∧
        tr.target.requests[other]? = some second ∧
        second.Pending sessionId msgId ∧
        other ≠ index := by
  rcases hOverlaps with
    ⟨index, request, second, hLabel, hGet, hStage, hCarries,
      hValid, hFresh, hMem, hPending⟩
  rw [hLabel] at hStep
  rcases step_advance_iff.mp hStep with
    ⟨moved, hMoved, hTarget⟩
  rw [hGet] at hMoved
  cases hMoved
  rcases List.mem_iff_getElem?.mp hMem with ⟨other, hOther⟩
  have hDistinct : other ≠ index := by
    intro hSame
    rw [hSame, hGet] at hOther
    cases hOther
    exact not_engaged_of_arrived hStage (Or.inl hPending)
  refine ⟨index, other,
    (request.step tr.source.toHttpHandlerState).1, second,
    ?_, ?_, ?_, hPending, hDistinct⟩
  · rw [← hTarget]
    exact advance_get hGet
  · refine ⟨step_carries hCarries, ?_⟩
    rcases hCarries with ⟨hSession, hMsg, _⟩
    subst hSession hMsg
    rw [← SessionManager.isDuplicateMessage_iff] at hFresh
    unfold Request.step Request.check
    simp [hStage, hValid, hFresh]
  · rw [← hTarget]
    exact (List.getElem?_set_ne
      (fun hSame => hDistinct hSame.symm)).trans hOther

theorem deliveredOnce_of_not_overlaps
    (hPath : concurrent.Path start es server)
    (hLive : start.Live sessionId)
    (hIdle : start.requests = [])
    (hCalm : ∀ tr ∈ es, ¬ Disturbs sessionId tr) :
    ((∀ tr ∈ es, ¬ Overlaps sessionId msgId tr) →
      AtMostOne (Request.Delivered sessionId msgId)
        server.requests) ∧
    ∀ before tr,
      es = before ++ [tr] →
      Overlaps sessionId msgId tr →
      ∃ after server',
        concurrent.Path server after server' ∧
          (∀ e ∈ after, ¬ Disturbs sessionId e) ∧
          ¬ AtMostOne (Request.Delivered sessionId msgId)
            server'.requests := by
  constructor
  · intro hAlone
    have hOnce : Once sessionId msgId server :=
      path_once hPath hIdle
        (fun tr hMem => ⟨hCalm tr hMem, hAlone tr hMem⟩)
    exact hOnce.one.mono (fun _ _ => Or.inr)
  · intro before tr hEs hOverlaps
    have hLive' := path_keeps hPath hLive hCalm
    subst hEs
    rcases hPath.split with ⟨_, hStep, hEnd⟩
    cases hEnd
    rcases exists_of_overlaps hStep hOverlaps with
      ⟨index, other, request, second, hGet, hPending, hSecond,
        hSecondPending, hDistinct⟩
    exact exists_twice_delivered hLive' hGet hPending hSecond
      hSecondPending hDistinct

end Txip

end BorderController

------------------------------------------------------------
-- A Retransmission in Between
------------------------------------------------------------

namespace BorderController

namespace Txip

/- The server after the HELLO of the sample agent. -/
def greetedServer : Server :=
  { (play [helloArrives "msg-1"] freshState).2 with
    requests := [] }

/- The query arrives twice, and both are checked first. -/
def raceActions : List Action :=
  [ (tgpArrives "msg-2").action, (tgpArrives "msg-2").action,
    .advance 0, .advance 1,
    .advance 0, .advance 0, .advance 0,
    .advance 1, .advance 1, .advance 1 ]

/- The first query is handled before the second is checked. -/
def sequentialActions : List Action :=
  [ (tgpArrives "msg-2").action, (tgpArrives "msg-2").action,
    .advance 0, .advance 0, .advance 0, .advance 0,
    .advance 1 ]

theorem raceActions_tgp :
    ∀ action ∈ raceActions, action.Tgp := by
  simp [raceActions, Action.Tgp, Event.action, tgpArrives,
    TxipEnvelope.tgp, TxipEnvelope.new]

theorem sequentialActions_tgp :
    ∀ action ∈ sequentialActions, action.Tgp := by
  simp [sequentialActions, Action.Tgp, Event.action,
    tgpArrives, TxipEnvelope.tgp, TxipEnvelope.new]

/- The race processes the query twice. -/
theorem race_not_deliveredOnce :
    ∃ run start es server,
      IsRun run start.toHttpHandlerState ∧
        start.Live "sess-123" ∧
        start.requests = [] ∧
        concurrent.Path start es server ∧
        (∀ tr ∈ es, ¬ Disturbs "sess-123" tr) ∧
        ¬ AtMostOne (Request.Delivered "sess-123" "msg-2")
          server.requests := by
  have hPerform :
      perform raceActions greetedServer = some (_, _) :=
    rfl
  have hPath := perform_path hPerform
  refine ⟨_, greetedServer, _, _,
    play_isRun [helloArrives "msg-1"], rfl, rfl, hPath, ?_,
    ?_⟩
  · exact calm_of_tgp "sess-123" hPath rfl
      (perform_tgp hPerform raceActions_tgp)
  · intro hOne
    have hSame := hOne 0 1 _ _ rfl rfl ⟨rfl, rfl⟩ ⟨rfl, rfl⟩
    contradiction

/- Handled one after the other, it is processed once. -/
theorem sequential_deliveredOnce :
    ∃ es server,
      perform sequentialActions greetedServer =
          some (es, server) ∧
        AtMostOne (Request.Delivered "sess-123" "msg-2")
          server.requests := by
  have hPerform :
      perform sequentialActions greetedServer =
        some (_, _) :=
    rfl
  refine ⟨_, _, hPerform, ?_⟩
  have hPath := perform_path hPerform
  apply
    (deliveredOnce_of_not_overlaps hPath
      (by rfl : greetedServer.Live "sess-123") rfl
      (calm_of_tgp "sess-123" hPath rfl
        (perform_tgp hPerform sequentialActions_tgp))).1
  intro tr hMem
  rintro ⟨index, request, other, hLabel, hGet, hStage, _, _,
    hFresh, hOther, hPending⟩
  -- two arrivals, one check, three steps of the checked
  -- request, and the check of the recorded id
  rcases List.mem_cons.mp hMem with hTr | hMem
  · subst hTr
    cases hLabel
  rcases List.mem_cons.mp hMem with hTr | hMem
  · subst hTr
    cases hLabel
  rcases List.mem_cons.mp hMem with hTr | hMem
  · subst hTr
    rcases List.mem_cons.mp hOther with hSame | hOther
    · exact not_engaged_of_arrived
        (congrArg Request.stage hSame) (Or.inl hPending)
    · exact not_engaged_of_arrived
        (congrArg Request.stage (List.mem_singleton.mp hOther))
        (Or.inl hPending)
  rcases List.mem_cons.mp hMem with hTr | hMem
  · subst hTr
    cases hLabel
    cases hGet
    cases hStage
  rcases List.mem_cons.mp hMem with hTr | hMem
  · subst hTr
    cases hLabel
    cases hGet
    cases hStage
  rcases List.mem_cons.mp hMem with hTr | hMem
  · subst hTr
    cases hLabel
    cases hGet
    cases hStage
  · rw [List.mem_singleton.mp hMem] at hFresh
    exact hFresh
      (SessionManager.isDuplicateMessage_iff.mp rfl)

end Txip

end BorderController

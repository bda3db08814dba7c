import BorderController.Txip.Handler
import BorderController.Library.Transition

/-
  Idempotency of TGP deliveries within the life of a session.

  A forwarded envelope stays in the replay cache as long as the
  session lives and no HELLO is accepted for it: an accepted
  HELLO empties the cache of a live session.

  Key definitions include:
    * `Event`, `Exchange`
    * `system`, `IsRun`
    * `Forwards`, `Delivers`, `Resumes`
    * `ProcessedOnce`

  Key theorems include:
    * `step_seen`
    * `processedOnce_of_not_resumed`
-/

------------------------------------------------------------
-- Exchanges
------------------------------------------------------------

namespace BorderController

namespace Txip

/- An envelope arrives, or expired sessions are swept. -/
inductive Event where
  | deliver (ambient : Ambient) (envelope : TxipEnvelope)
  | cleanup (now : TripleTimestamp)

/- An event with its response and what it forwarded. -/
structure Exchange where
  event : Event
  response : Option Response
  forwarded : Option TxipEnvelope

def exchange
    (event : Event)
    (state : HttpHandlerState) :
    Exchange × HttpHandlerState :=
  match event with
  | .deliver ambient envelope =>
      let handled := handleTxipMessage state ambient envelope
      ({ event
         response := some handled.response
         forwarded := handled.forwarded },
        { state with
          sessionManager := handled.sessionManager })
  | .cleanup now =>
      ({ event, response := none, forwarded := none },
        { state with
          sessionManager :=
            state.sessionManager.cleanupExpired now })

def system : TransitionSystem HttpHandlerState Exchange where
  Step state label state' :=
    exchange label.event state = (label, state')

/- The exchanges `es`, one after another on a fresh manager. -/
def IsRun
    (es : List (Transition HttpHandlerState Exchange))
    (state : HttpHandlerState) :
    Prop :=
  ∃ config tbcId,
    system.Path
      { sessionManager := .new config, tbcId } es state

end Txip

end BorderController

------------------------------------------------------------
-- Deliveries and Forwardings
------------------------------------------------------------

namespace BorderController

namespace Txip

/- A valid envelope with the pair of ids arrives. -/
def Delivers
    (sessionId msgId : String)
    (tr : Transition HttpHandlerState Exchange) :
    Prop :=
  ∃ ambient envelope,
    tr.label.event = .deliver ambient envelope ∧
      envelope.validate = .ok () ∧
      envelope.sessionId = sessionId ∧
      envelope.msgId = msgId

/- An envelope with the pair of ids is forwarded. -/
def Forwards
    (sessionId msgId : String)
    (tr : Transition HttpHandlerState Exchange) :
    Prop :=
  ∃ envelope,
    tr.label.forwarded = some envelope ∧
      envelope.sessionId = sessionId ∧
      envelope.msgId = msgId

/- A HELLO for the session arrives and is accepted. -/
def Resumes
    (sessionId : String)
    (tr : Transition HttpHandlerState Exchange) :
    Prop :=
  ∃ ambient envelope hello,
    tr.label.event = .deliver ambient envelope ∧
      envelope.validate = .ok () ∧
      envelope.sessionId = sessionId ∧
      envelope.payload = .control (.hello hello) ∧
      ¬ tr.source.sessionManager.Seen sessionId
        envelope.msgId ∧
      "2.0" ∈ hello.supportedTgpVersions ∧
      hello.supportedChains ≠ []

/- The session is in the session table. -/
def HttpHandlerState.Live
    (sessionId : String)
    (state : HttpHandlerState) :
    Prop :=
  (state.sessionManager.sessions sessionId).isSome

/-
  Once an envelope with the pair of ids is forwarded, every
  later delivery of the pair in the life of the session only
  gets the accepted response.
-/
def ProcessedOnce
    (sessionId msgId : String)
    (es : List (Transition HttpHandlerState Exchange)) :
    Prop :=
  ∀ before tr between tr' after,
    es = before ++ tr :: (between ++ tr' :: after) →
    Forwards sessionId msgId tr →
    (∀ e ∈ between, e.target.Live sessionId) →
    Delivers sessionId msgId tr' →
    tr'.label.response = some (acceptedResponse msgId) ∧
      tr'.label.forwarded = none

end Txip

end BorderController

------------------------------------------------------------
-- The Replay Cache Along a Step
------------------------------------------------------------

namespace BorderController

namespace Txip

variable {state state' : HttpHandlerState}
variable {label : Exchange}
variable {sessionId msgId : String}

/- A HELLO is accepted if a version and a chain are offered. -/
theorem SessionManager.handleHello_ok
    {hello : HelloPayload}
    {role : Role}
    {now : TripleTimestamp}
    {sessionInfo : SessionInfo}
    {manager manager' : SessionManager}
    (hHello :
      manager.handleHello hello sessionId role now =
        (.ok sessionInfo, manager')) :
    "2.0" ∈ hello.supportedTgpVersions ∧
      hello.supportedChains ≠ [] := by
  unfold SessionManager.handleHello negotiateTgpVersion
    negotiateChains at hHello
  by_cases hVersion : "2.0" ∈ hello.supportedTgpVersions
  · by_cases hChains : hello.supportedChains = []
    · simp [hVersion, hChains] at hHello
    · exact ⟨hVersion, hChains⟩
  · simp [hVersion] at hHello

/- A delivery, with the way it was handled. -/
theorem step_deliver
    {ambient : Ambient}
    {envelope : TxipEnvelope}
    (hStep : system.Step state label state')
    (hEvent : label.event = .deliver ambient envelope) :
    ∃ handled,
      Handling state ambient envelope handled ∧
        handled = handleTxipMessage state ambient envelope ∧
        label.response = some handled.response ∧
        label.forwarded = handled.forwarded ∧
        state'.sessionManager = handled.sessionManager := by
  refine ⟨handleTxipMessage state ambient envelope,
    handleTxipMessage_handling state ambient envelope, rfl,
    ?_⟩
  have hExchange :
      exchange label.event state = (label, state') := hStep
  rw [hEvent] at hExchange
  have hLabel := congrArg Prod.fst hExchange
  have hState := congrArg Prod.snd hExchange
  simp only [exchange] at hLabel hState
  rw [← hLabel, ← hState]
  exact ⟨rfl, rfl, rfl⟩

/-
  A seen message id stays seen while the session lives and is
  not resumed.
-/
theorem step_seen
    (hStep : system.Step state label state')
    (hSeen : state.sessionManager.Seen sessionId msgId)
    (hLive : state'.Live sessionId)
    (hNot : ¬ Resumes sessionId ⟨state, label, state'⟩) :
    state'.sessionManager.Seen sessionId msgId := by
  cases hEvent : label.event with
  | cleanup now =>
      have hExchange :
          exchange label.event state = (label, state') :=
        hStep
      rw [hEvent] at hExchange
      have hState := congrArg Prod.snd hExchange
      simp only [exchange] at hState
      rcases hSeen with ⟨msgIds, hCache, hMem⟩
      refine ⟨msgIds, ?_, hMem⟩
      unfold HttpHandlerState.Live at hLive
      rw [← hState] at hLive ⊢
      simp only [SessionManager.cleanupExpired] at hLive ⊢
      rw [if_pos hLive, hCache]
  | deliver ambient envelope =>
      rcases step_deliver hStep hEvent with
        ⟨handled, hHandling, _, _, _, hManager⟩
      unfold HttpHandlerState.Live at hLive
      rw [hManager] at hLive ⊢
      cases hHandling with
      | replied response hFresh => exact hSeen
      | duplicate hValid hDuplicate => exact hSeen
      | heartbeat session hValid hFresh hSession =>
          apply SessionManager.Seen.recordMessage
          unfold SessionManager.Seen
          rw [SessionManager.touchSession_messageCache]
          exact hSeen
      | tgp tgp session hValid hFresh hPayload hSession =>
          apply SessionManager.Seen.recordMessage
          unfold SessionManager.Seen
          rw [SessionManager.touchSession_messageCache]
          exact hSeen
      | hello hello sessionInfo manager response hValid
          hFresh hPayload hHello =>
          have hOther : sessionId ≠ envelope.sessionId := by
            intro hSame
            subst hSame
            exact hNot
              ⟨ambient, envelope, hello, hEvent, hValid, rfl,
                hPayload, hFresh,
                SessionManager.handleHello_ok hHello⟩
          apply SessionManager.Seen.recordMessage
          rcases SessionManager.handleHello_cases hHello with
            ⟨_, hResult, _⟩ | ⟨_, _, _, hCache⟩
          · contradiction
          · unfold SessionManager.Seen
            rw [hCache, Function.update_of_ne hOther]
            exact hSeen
      | close close hValid hFresh hPayload =>
          have hOther : sessionId ≠ envelope.sessionId := by
            intro hSame
            subst hSame
            simp [handleClose, SessionManager.closeSession]
              at hLive
          unfold handleClose SessionManager.closeSession
            SessionManager.Seen
          simp only [Function.update_of_ne hOther]
          exact hSeen

/- A forwarded pair of ids is seen, and its session is live. -/
theorem step_forwarded
    (hStep : system.Step state label state')
    (hForwards :
      Forwards sessionId msgId ⟨state, label, state'⟩) :
    state'.sessionManager.Seen sessionId msgId := by
  rcases hForwards with
    ⟨forwarded, hForwarded, hSession, hMsg⟩
  cases hEvent : label.event with
  | cleanup now =>
      have hExchange :
          exchange label.event state = (label, state') :=
        hStep
      rw [hEvent] at hExchange
      have hLabel := congrArg Prod.fst hExchange
      simp only [exchange] at hLabel
      rw [← hLabel] at hForwarded
      contradiction
  | deliver ambient envelope =>
      rcases step_deliver hStep hEvent with
        ⟨handled, hHandling, _, _, hSame, hManager⟩
      simp only at hForwarded
      rw [hManager]
      rw [hSame] at hForwarded
      cases hHandling with
      | tgp tgp session hValid hFresh hPayload hLive =>
          cases hForwarded
          subst hSession hMsg
          exact SessionManager.recordMessage_seen
      | _ => contradiction

/- A seen pair of ids is only answered. -/
theorem step_duplicate
    (hStep : system.Step state label state')
    (hSeen : state.sessionManager.Seen sessionId msgId)
    (hDelivers :
      Delivers sessionId msgId ⟨state, label, state'⟩) :
    label.response = some (acceptedResponse msgId) ∧
      label.forwarded = none := by
  rcases hDelivers with
    ⟨ambient, envelope, hEvent, hValid, hSession, hMsg⟩
  subst hSession hMsg
  rcases step_deliver hStep hEvent with
    ⟨handled, hHandling, _, hResponse, hForwarded, _⟩
  cases hHandling with
  | replied response hFresh =>
      exact absurd ⟨hValid, hSeen⟩ hFresh
  | duplicate => exact ⟨hResponse, hForwarded⟩
  | hello _ _ _ _ _ hFresh => exact absurd hSeen hFresh
  | heartbeat _ _ hFresh => exact absurd hSeen hFresh
  | close _ _ hFresh => exact absurd hSeen hFresh
  | tgp _ _ _ hFresh => exact absurd hSeen hFresh

end Txip

end BorderController

------------------------------------------------------------
-- Processing Once
------------------------------------------------------------

namespace BorderController

namespace Txip

variable {es : List (Transition HttpHandlerState Exchange)}
variable {state state' : HttpHandlerState}
variable {sessionId msgId : String}

/-
  The session is not resumed in its life after the pair of ids
  has been forwarded.
-/
def NotResumed
    (sessionId msgId : String)
    (es : List (Transition HttpHandlerState Exchange)) :
    Prop :=
  ∀ before tr between e after,
    es = before ++ tr :: (between ++ e :: after) →
    Forwards sessionId msgId tr →
    (∀ e ∈ between, e.target.Live sessionId) →
    ¬ Resumes sessionId e

/- A path through a live session keeps what was seen. -/
private theorem path_seen
    (hPath : system.Path state es state')
    (hSeen : state.sessionManager.Seen sessionId msgId)
    (hSteps :
      ∀ e ∈ es,
        e.target.Live sessionId ∧ ¬ Resumes sessionId e) :
    state'.sessionManager.Seen sessionId msgId :=
  hPath.stable
    (fun e =>
      e.target.Live sessionId ∧ ¬ Resumes sessionId e)
    (fun state => state.sessionManager.Seen sessionId msgId)
    (fun hStep hSeen hNext =>
      step_seen hNext hSeen hStep.1 hStep.2)
    hSteps hSeen

/- Right after an accepted HELLO a seen pair is forgotten. -/
private theorem handleTxipMessage_of_resumed
    {label : Exchange}
    (hStep : system.Step state label state')
    (hSeen : state.sessionManager.Seen sessionId msgId)
    (hResumes : Resumes sessionId ⟨state, label, state'⟩)
    {ambient : Ambient}
    {envelope : TxipEnvelope}
    {tgp : TgpPayload}
    (hValid : envelope.validate = .ok ())
    (hSession : envelope.sessionId = sessionId)
    (hMsg : envelope.msgId = msgId)
    (hPayload : envelope.payload = .tgp tgp) :
    (handleTxipMessage state' ambient envelope).forwarded =
      some envelope := by
  subst hSession hMsg
  rcases hResumes with
    ⟨ambient', greeting, hello, hEvent, hValid', hSession,
      hPayload', hFresh, hVersion, hChains⟩
  simp only at hEvent hSession hFresh
  rcases step_deliver hStep hEvent with
    ⟨handled, _, hHandled, _, _, hManager⟩
  rw [← hSession] at hFresh
  rw [handleTxipMessage_of_fresh hValid' hFresh, hPayload']
    at hHandled
  have hMsg : greeting.msgId ≠ envelope.msgId := by
    intro hSame
    rw [hSession, hSame] at hFresh
    exact hFresh hSeen
  have hTables :
      (∃ sessionInfo,
          state'.sessionManager.sessions envelope.sessionId =
            some sessionInfo) ∧
        state'.sessionManager.messageCache envelope.sessionId =
          some {greeting.msgId} := by
    rw [hManager, hHandled]
    simp [handleControlMessage, hPayload', handleHello,
      SessionManager.handleHello, negotiateTgpVersion,
      negotiateChains, hVersion, hChains, hSession,
      SessionManager.recordMessage]
  rcases hTables with ⟨⟨sessionInfo, hLive⟩, hCache⟩
  have hForgotten :
      ¬ state'.sessionManager.Seen envelope.sessionId
        envelope.msgId := by
    rintro ⟨msgIds, hCache', hMem⟩
    rw [hCache] at hCache'
    cases hCache'
    exact hMsg (Finset.mem_singleton.mp hMem).symm
  rw [handleTxipMessage_of_fresh hValid hForgotten, hPayload]
  simp only [handleTgpMessage, SessionManager.getSession,
    hLive, hPayload]

theorem processedOnce_of_not_resumed
    (hRun : IsRun es state)
    (sessionId msgId : String) :
    (NotResumed sessionId msgId es →
      ProcessedOnce sessionId msgId es) ∧
    ∀ before tr between e after,
      es = before ++ tr :: (between ++ e :: after) →
      Forwards sessionId msgId tr →
      (∀ e ∈ between,
        e.target.Live sessionId ∧ ¬ Resumes sessionId e) →
      Resumes sessionId e →
      ∀ ambient envelope tgp,
        envelope.validate = .ok () →
        envelope.sessionId = sessionId →
        envelope.msgId = msgId →
        envelope.payload = .tgp tgp →
        (handleTxipMessage e.target ambient
            envelope).forwarded =
          some envelope := by
  rcases hRun with ⟨config, tbcId, hPath⟩
  constructor
  · intro hNot before tr between tr' after hEs hForwards
      hLive hDelivers
    subst hEs
    rcases hPath.split with ⟨_, hStep, hRest⟩
    rcases hRest.split with ⟨hBetween, hStep', _⟩
    refine step_duplicate hStep' ?_ hDelivers
    apply path_seen hBetween (step_forwarded hStep hForwards)
    intro e hMem
    refine ⟨hLive e hMem, ?_⟩
    rcases List.append_of_mem hMem with
      ⟨first, second, hSplit⟩
    apply hNot before tr first e (second ++ tr' :: after)
      (by simp [hSplit]) hForwards
    intro e' hMem'
    exact hLive e' (by simp [hSplit, hMem'])
  · intro before tr between e after hEs hForwards hLive
      hResumes ambient envelope tgp hValid hSession hMsg
      hPayload
    subst hEs
    rcases hPath.split with ⟨_, hStep, hRest⟩
    rcases hRest.split with ⟨hBetween, hStep', _⟩
    have hSeen :=
      path_seen hBetween (step_forwarded hStep hForwards)
        hLive
    exact handleTxipMessage_of_resumed hStep' hSeen hResumes
      hValid hSession hMsg hPayload

end Txip

end BorderController

------------------------------------------------------------
-- A TGP Message Processed Twice
------------------------------------------------------------

namespace BorderController

namespace Txip

/- Record the exchanges of a list of events. -/
def play :
    List Event → HttpHandlerState →
      List (Transition HttpHandlerState Exchange) ×
        HttpHandlerState
  | [], state => ([], state)
  | event :: events, state =>
      let next := exchange event state
      let rest := play events next.2
      (⟨state, next.1, next.2⟩ :: rest.1, rest.2)

theorem play_path
    (events : List Event)
    (state : HttpHandlerState) :
    system.Path state (play events state).1
      (play events state).2 := by
  induction events generalizing state with
  | nil => exact .nil state
  | cons event events ih =>
      refine .cons ?_ (ih (exchange event state).2)
      have hEvent : (exchange event state).1.event = event := by
        cases event <;> rfl
      unfold system
      simp only [hEvent]

def freshState : HttpHandlerState :=
  { sessionManager := .new .default, tbcId := "tbc://test" }

theorem play_isRun
    (events : List Event) :
    IsRun (play events freshState).1
      (play events freshState).2 :=
  ⟨.default, "tbc://test", play_path events freshState⟩

def sampleClock : TripleTimestamp :=
  { mono := 1000
    unix := 1731600000
    iso := "2024-11-14T12:00:00Z" }

def sampleHello : HelloPayload :=
  { agentId := "buyer://alice"
    supportedTgpVersions := ["2.0"]
    supportedTransports := ["HTTP"]
    supportedChains := [1, 369]
    supportedAssets := ["USDC"]
    features :=
      { zkDiscountProofs := true
        receiptOwnershipProofs := true
        lateDiscountSupport := true
        crossChainSupport := true }
    auth := { scheme := .none, token := none } }

/- A HELLO of the sample agent arrives. -/
def helloArrives (msgId : String) : Event :=
  .deliver
    { sessionClock := sampleClock
      responseClock := sampleClock
      random := 7 }
    (.new msgId "sess-123" .clientToTbc .buyerAgent .control
      .none sampleClock (.control (.hello sampleHello)))

/- A TGP query of the sample agent arrives. -/
def tgpArrives (msgId : String) : Event :=
  .deliver
    { sessionClock := sampleClock
      responseClock := sampleClock
      random := 7 }
    (.tgp msgId "sess-123" .clientToTbc .buyerAgent .query
      sampleClock (.object [("phase", .string "QUERY")]))

/- A second HELLO of the agent makes the query new again. -/
theorem resumed_not_processedOnce :
    ∃ es state,
      IsRun es state ∧
        ¬ ProcessedOnce "sess-123" "msg-2" es := by
  refine ⟨_, _,
    play_isRun
      [ helloArrives "msg-1", tgpArrives "msg-2",
        helloArrives "msg-3", tgpArrives "msg-2" ], ?_⟩
  intro hOnce
  have hForwarded :=
    (hOnce (play [helloArrives "msg-1"] freshState).1 _
      [_] _ [] rfl ⟨_, rfl, rfl, rfl⟩
      (by
        intro e hMem
        rw [List.mem_singleton] at hMem
        subst hMem
        rfl)
      ⟨_, _, rfl, rfl, rfl, rfl⟩).2
  contradiction

theorem not_resumes_tgpArrives
    {sessionId msgId : String}
    {tr : Transition HttpHandlerState Exchange}
    (hEvent : tr.label.event = tgpArrives msgId) :
    ¬ Resumes sessionId tr := by
  rintro ⟨_, _, _, hHello, _, _, hPayload, _⟩
  rw [hEvent] at hHello
  cases hHello
  contradiction

/- Without it, the repeated query is processed once. -/
theorem repeated_processedOnce :
    ProcessedOnce "sess-123" "msg-2"
      (play
        [ helloArrives "msg-1", tgpArrives "msg-2",
          tgpArrives "msg-2" ] freshState).1 := by
  apply
    (processedOnce_of_not_resumed
      (play_isRun
        [ helloArrives "msg-1", tgpArrives "msg-2",
          tgpArrives "msg-2" ]) "sess-123" "msg-2").1
  intro before tr between e after hEs _ _
  have hTail :
      e ∈ (play
        [ helloArrives "msg-1", tgpArrives "msg-2",
          tgpArrives "msg-2" ] freshState).1.tail := by
    rw [hEs]
    cases before <;> simp
  rcases List.mem_cons.mp hTail with hSecond | hRest
  · exact not_resumes_tgpArrives (by rw [hSecond]; rfl)
  · rcases List.mem_cons.mp hRest with hThird | hNone
    · exact not_resumes_tgpArrives (by rw [hThird]; rfl)
    · contradiction

end Txip

end BorderController

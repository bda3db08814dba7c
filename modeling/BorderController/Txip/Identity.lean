import BorderController.Txip.Replay

/-
  Identity of a session within its life: who opened it, when,
  and what was negotiated.

  A HELLO for a live session is handled like one for a new
  session, and puts what it says in the place of what the
  table holds.

  Key definitions include:
    * `SessionInfo.opened`
    * `Greets`
    * `Rewrites`
    * `SameIdentity`

  Key theorems include:
    * `step_session`
    * `step_sameIdentity`
    * `sameIdentity_iff`
-/

------------------------------------------------------------
-- Opening a Session
------------------------------------------------------------

namespace BorderController

namespace Txip

/- The session that a HELLO sets up. -/
def SessionInfo.opened
    (hello : HelloPayload)
    (sessionId : String)
    (role : Role)
    (now : TripleTimestamp) :
    SessionInfo :=
  { sessionId
    agentId := hello.agentId
    role
    createdMono := now.mono
    createdUnix := now.unix
    createdIso := now.iso
    lastActivityMono := now.mono
    lastActivityUnix := now.unix
    lastActivityIso := now.iso
    negotiatedTgpVersion := "2.0"
    negotiatedChains := hello.supportedChains
    features := hello.features }

/- A HELLO that offers enough sets the session up. -/
theorem SessionManager.handleHello_of_offers
    {hello : HelloPayload}
    {sessionId : String}
    {role : Role}
    {now : TripleTimestamp}
    {manager : SessionManager}
    (hVersion : "2.0" ∈ hello.supportedTgpVersions)
    (hChains : hello.supportedChains ≠ []) :
    manager.handleHello hello sessionId role now =
      (.ok (.opened hello sessionId role now),
        { manager with
          sessions :=
            Function.update manager.sessions sessionId
              (some (.opened hello sessionId role now))
          messageCache :=
            Function.update manager.messageCache sessionId
              (some ∅) }) := by
  unfold SessionManager.handleHello negotiateTgpVersion
    negotiateChains
  rw [if_pos hVersion, if_neg hChains]
  rfl

end Txip

end BorderController

------------------------------------------------------------
-- Identity
------------------------------------------------------------

namespace BorderController

namespace Txip

/- A HELLO for the session arrives and is accepted. -/
structure Greets
    (sessionId : String)
    (ambient : Ambient)
    (envelope : TxipEnvelope)
    (hello : HelloPayload)
    (tr : Transition HttpHandlerState Exchange) :
    Prop where
  event : tr.label.event = .deliver ambient envelope
  valid : envelope.validate = .ok ()
  session : envelope.sessionId = sessionId
  payload : envelope.payload = .control (.hello hello)
  fresh :
    ¬ tr.source.sessionManager.Seen sessionId envelope.msgId
  version : "2.0" ∈ hello.supportedTgpVersions
  chains : hello.supportedChains ≠ []

/- The HELLO says of the session what is known of it. -/
structure SessionInfo.IdentifiedBy
    (hello : HelloPayload)
    (role : Role)
    (now : TripleTimestamp)
    (session : SessionInfo) :
    Prop where
  agentId : hello.agentId = session.agentId
  role : role = session.role
  createdMono : now.mono = session.createdMono
  createdUnix : now.unix = session.createdUnix
  createdIso : now.iso = session.createdIso
  negotiatedChains :
    hello.supportedChains = session.negotiatedChains
  features : hello.features = session.features

/-
  A HELLO is accepted for a live session of which it says
  something else: it comes from another agent, in another
  role, at another time, or offers something else.
-/
def Rewrites
    (sessionId : String)
    (tr : Transition HttpHandlerState Exchange) :
    Prop :=
  ∃ ambient envelope hello session,
    Greets sessionId ambient envelope hello tr ∧
      tr.source.sessionManager.sessions sessionId =
        some session ∧
      ¬ session.IdentifiedBy hello envelope.role
        ambient.sessionClock

/-
  From any moment of the session's life on, as long as it is
  live, only its last activity is refreshed.
-/
def SameIdentity
    (sessionId : String)
    (es : List (Transition HttpHandlerState Exchange)) :
    Prop :=
  ∀ before tr between tr' after session session',
    es = before ++ tr :: (between ++ tr' :: after) →
    tr.target.sessionManager.sessions sessionId =
      some session →
    (∀ e ∈ between, e.target.Live sessionId) →
    tr'.target.sessionManager.sessions sessionId =
      some session' →
    ∃ now, session' = session.touch now

/- Every entry stands under its own id, at version 2.0. -/
def SessionManager.Keyed (manager : SessionManager) : Prop :=
  ∀ (sessionId : String) (session : SessionInfo),
    manager.sessions sessionId = some session →
    session.sessionId = sessionId ∧
      session.negotiatedTgpVersion = "2.0"

namespace SessionInfo

variable {session : SessionInfo}

/- A session is as if just touched at its last activity. -/
theorem exists_touch_eq (session : SessionInfo) :
    ∃ now, session = session.touch now :=
  ⟨{ mono := session.lastActivityMono
     unix := session.lastActivityUnix
     iso := session.lastActivityIso }, rfl⟩

/-
  The session set up by a HELLO is the known one, refreshed,
  exactly if the HELLO says of it what is known.
-/
theorem exists_opened_eq_touch_iff
    {hello : HelloPayload}
    {sessionId : String}
    {role : Role}
    {now : TripleTimestamp}
    (hId : session.sessionId = sessionId)
    (hVersion : session.negotiatedTgpVersion = "2.0") :
    (∃ touched,
        opened hello sessionId role now =
          session.touch touched) ↔
      session.IdentifiedBy hello role now := by
  constructor
  · rintro ⟨touched, hSame⟩
    simp only [opened, touch, SessionInfo.mk.injEq] at hSame
    rcases hSame with
      ⟨_, hAgent, hRole, hMono, hUnix, hIso, _, _, _, _,
        hChains, hFeatures⟩
    exact ⟨hAgent, hRole, hMono, hUnix, hIso, hChains,
      hFeatures⟩
  · intro hKnown
    refine ⟨now, ?_⟩
    simp only [opened, touch, SessionInfo.mk.injEq]
    exact ⟨hId.symm, hKnown.agentId, hKnown.role,
      hKnown.createdMono, hKnown.createdUnix,
      hKnown.createdIso, trivial, trivial, trivial,
      hVersion.symm,
      hKnown.negotiatedChains, hKnown.features⟩

end SessionInfo

end Txip

end BorderController

------------------------------------------------------------
-- Sessions Along a Step
------------------------------------------------------------

namespace BorderController

namespace Txip

variable {state state' : HttpHandlerState}
variable {label : Exchange}

/-
  A delivery leaves all sessions alone, or its own is removed,
  touched, or set up by a HELLO.
-/
private theorem step_delivered
    {ambient : Ambient}
    {envelope : TxipEnvelope}
    (hStep : system.Step state label state')
    (hEvent : label.event = .deliver ambient envelope) :
    state'.sessionManager.sessions =
        state.sessionManager.sessions ∨
      ∃ entry,
        state'.sessionManager.sessions =
            Function.update state.sessionManager.sessions
              envelope.sessionId entry ∧
          (entry = none ∨
            (∃ session,
              state.sessionManager.sessions
                    envelope.sessionId =
                  some session ∧
                entry =
                  some (session.touch ambient.sessionClock)) ∨
            ∃ hello,
              Greets envelope.sessionId ambient envelope hello
                  ⟨state, label, state'⟩ ∧
                entry =
                  some
                    (.opened hello envelope.sessionId
                      envelope.role ambient.sessionClock)) := by
  rcases step_deliver hStep hEvent with
    ⟨handled, hHandling, _, _, _, hManager⟩
  rw [hManager]
  cases hHandling with
  | replied response hFresh => exact Or.inl rfl
  | duplicate hValid hDuplicate => exact Or.inl rfl
  | heartbeat session hValid hFresh hSession =>
      exact Or.inr
        ⟨_, SessionManager.touchSession_sessions hSession,
          Or.inr (Or.inl ⟨session, hSession, rfl⟩)⟩
  | tgp tgp session hValid hFresh hPayload hSession =>
      exact Or.inr
        ⟨_, SessionManager.touchSession_sessions hSession,
          Or.inr (Or.inl ⟨session, hSession, rfl⟩)⟩
  | hello hello sessionInfo manager response hValid hFresh
      hPayload hHello =>
      rcases SessionManager.handleHello_ok hHello with
        ⟨hVersion, hChains⟩
      rw [SessionManager.handleHello_of_offers hVersion
        hChains, Prod.mk.injEq] at hHello
      have hGreets :
          Greets envelope.sessionId ambient envelope hello
            ⟨state, label, state'⟩ :=
        { event := hEvent
          valid := hValid
          session := rfl
          payload := hPayload
          fresh := hFresh
          version := hVersion
          chains := hChains }
      refine Or.inr
        ⟨_, ?_, Or.inr (Or.inr ⟨hello, hGreets, rfl⟩)⟩
      rw [← hHello.2]
      rfl
  | close close hValid hFresh hPayload =>
      exact Or.inr ⟨none, rfl, Or.inl rfl⟩

/-
  A session is left alone, removed, touched, or set up by a
  HELLO.
-/
theorem step_session
    (hStep : system.Step state label state')
    (sessionId : String) :
    state'.sessionManager.sessions sessionId =
        state.sessionManager.sessions sessionId ∨
      state'.sessionManager.sessions sessionId = none ∨
      (∃ session now,
        state.sessionManager.sessions sessionId =
            some session ∧
          state'.sessionManager.sessions sessionId =
            some (session.touch now)) ∨
      ∃ ambient envelope hello,
        Greets sessionId ambient envelope hello
            ⟨state, label, state'⟩ ∧
          state'.sessionManager.sessions sessionId =
            some
              (.opened hello sessionId envelope.role
                ambient.sessionClock) := by
  cases hEvent : label.event with
  | cleanup now =>
      have hExchange :
          exchange label.event state = (label, state') :=
        hStep
      rw [hEvent] at hExchange
      have hState := congrArg Prod.snd hExchange
      simp only [exchange] at hState
      rw [← hState]
      simp only [SessionManager.cleanupExpired]
      cases state.sessionManager.sessions sessionId with
      | none => exact Or.inl rfl
      | some session =>
          rw [Option.filter_some]
          split
          · exact Or.inl rfl
          · exact Or.inr (Or.inl rfl)
  | deliver ambient envelope =>
      rcases step_delivered hStep hEvent with
        hKept | ⟨entry, hEntry, hCase⟩
      · exact Or.inl (congrFun hKept sessionId)
      · rw [hEntry]
        by_cases hSame : sessionId = envelope.sessionId
        · subst hSame
          rw [Function.update_self]
          rcases hCase with
            hRemoved | ⟨session, hSession, hTouched⟩ |
              ⟨hello, hGreets, hOpened⟩
          · exact Or.inr (Or.inl hRemoved)
          · exact Or.inr (Or.inr (Or.inl
              ⟨session, _, hSession, hTouched⟩))
          · exact Or.inr (Or.inr (Or.inr
              ⟨ambient, envelope, hello, hGreets, hOpened⟩))
        · exact Or.inl (Function.update_of_ne hSame ..)

/- An accepted HELLO sets the session up. -/
theorem step_greets
    {sessionId : String}
    {ambient : Ambient}
    {envelope : TxipEnvelope}
    {hello : HelloPayload}
    (hStep : system.Step state label state')
    (hGreets :
      Greets sessionId ambient envelope hello
        ⟨state, label, state'⟩) :
    state'.sessionManager.sessions sessionId =
      some
        (.opened hello sessionId envelope.role
          ambient.sessionClock) := by
  rcases hGreets with
    ⟨hEvent, hValid, hSession, hPayload, hFresh, hVersion,
      hChains⟩
  simp only at hEvent hFresh
  subst hSession
  rcases step_deliver hStep hEvent with
    ⟨handled, _, hHandled, _, _, hManager⟩
  rw [handleTxipMessage_of_fresh hValid hFresh, hPayload]
    at hHandled
  rw [hManager, hHandled]
  simp only [handleControlMessage, hPayload, handleHello,
    SessionManager.handleHello_of_offers hVersion hChains]
  exact Function.update_self ..

/- Entries stay under their ids, at version 2.0. -/
theorem step_keyed
    (hStep : system.Step state label state')
    (hKeyed : state.sessionManager.Keyed) :
    state'.sessionManager.Keyed := by
  intro sessionId session' hSession'
  rcases step_session hStep sessionId with
    hKept | hRemoved | ⟨session, now, hSession, hTouched⟩ |
      ⟨_, _, _, _, hOpened⟩
  · rw [hKept] at hSession'
    exact hKeyed sessionId session' hSession'
  · rw [hRemoved] at hSession'
    contradiction
  · rw [hTouched] at hSession'
    cases hSession'
    exact hKeyed sessionId session hSession
  · rw [hOpened] at hSession'
    cases hSession'
    exact ⟨rfl, rfl⟩

/-
  As long as a session lives and no HELLO rewrites it, it is
  the session of before, refreshed.
-/
theorem step_sameIdentity
    {sessionId : String}
    {session : SessionInfo}
    (hStep : system.Step state label state')
    (hKeyed : state.sessionManager.Keyed)
    (hSession :
      ∃ now,
        state.sessionManager.sessions sessionId =
          some (session.touch now))
    (hLive : state'.Live sessionId)
    (hNot : ¬ Rewrites sessionId ⟨state, label, state'⟩) :
    ∃ now,
      state'.sessionManager.sessions sessionId =
        some (session.touch now) := by
  rcases hSession with ⟨before, hBefore⟩
  rcases step_session hStep sessionId with
    hKept | hRemoved | ⟨found, now, hFound, hTouched⟩ |
      ⟨ambient, envelope, hello, hGreets, hOpened⟩
  · exact ⟨before, hKept.trans hBefore⟩
  · unfold HttpHandlerState.Live at hLive
    rw [hRemoved] at hLive
    contradiction
  · rw [hBefore] at hFound
    cases hFound
    exact ⟨now, hTouched⟩
  · rcases hKeyed sessionId _ hBefore with ⟨hId, hVersion⟩
    have hKnown :
        (session.touch before).IdentifiedBy hello
          envelope.role ambient.sessionClock := by
      by_contra hOther
      exact hNot
        ⟨ambient, envelope, hello, _, hGreets, hBefore, hOther⟩
    rcases (SessionInfo.exists_opened_eq_touch_iff hId
        hVersion).mpr hKnown with
      ⟨now, hSame⟩
    refine ⟨now, ?_⟩
    rw [hOpened, hSame]
    rfl

end Txip

end BorderController

------------------------------------------------------------
-- Identity Along a Run
------------------------------------------------------------

namespace BorderController

namespace Txip

variable {es : List (Transition HttpHandlerState Exchange)}
variable {state : HttpHandlerState}

theorem IsRun.keyed
    (hRun : IsRun es state) :
    state.sessionManager.Keyed := by
  rcases hRun with ⟨config, tbcId, hPath⟩
  refine hPath.invariant
    (fun state => state.sessionManager.Keyed) ?_ ?_
  · intro sessionId session hSession
    contradiction
  · intro state label state' hKeyed hStep
    exact step_keyed hStep hKeyed

/- A session that lives on is only touched. -/
private theorem path_touches
    {state' : HttpHandlerState}
    {sessionId : String}
    {session : SessionInfo}
    (hPath : system.Path state es state')
    (hKeyed : state.sessionManager.Keyed)
    (hAll :
      ∀ e ∈ es,
        e.target.Live sessionId ∧ ¬ Rewrites sessionId e)
    (hSession :
      state.sessionManager.sessions sessionId =
        some session) :
    ∃ now,
      state'.sessionManager.sessions sessionId =
        some (session.touch now) := by
  have hBoth :=
    hPath.stable
      (fun e =>
        e.target.Live sessionId ∧ ¬ Rewrites sessionId e)
      (fun state =>
        state.sessionManager.Keyed ∧
          ∃ now,
            state.sessionManager.sessions sessionId =
              some (session.touch now))
      (fun hCond hBefore hNext =>
        ⟨step_keyed hNext hBefore.1,
          step_sameIdentity hNext hBefore.1 hBefore.2
            hCond.1 hCond.2⟩)
      hAll
      ⟨hKeyed, by
        rcases session.exists_touch_eq with ⟨now, hTouch⟩
        exact ⟨now, by rw [hSession, ← hTouch]⟩⟩
  exact hBoth.2

/-
  The identity of a session is stable in a run exactly if no
  HELLO of the run rewrites the live session.
-/
theorem sameIdentity_iff
    (hRun : IsRun es state)
    (sessionId : String) :
    SameIdentity sessionId es ↔
      ∀ tr ∈ es, ¬ Rewrites sessionId tr := by
  have hKeyed :
      ∀ {before tr after},
        es = before ++ tr :: after →
        tr.source.sessionManager.Keyed ∧
          tr.target.sessionManager.Keyed := by
    intro before tr after hEs
    rcases hRun with ⟨config, tbcId, hPath⟩
    rw [hEs] at hPath
    rcases hPath.split with ⟨hBefore, hStep, _⟩
    have hSource :=
      IsRun.keyed ⟨config, tbcId, hBefore⟩
    exact ⟨hSource, step_keyed hStep hSource⟩
  constructor
  · rintro hStable tr hMem
      ⟨ambient, envelope, hello, session, hGreets, hSession,
        hOther⟩
    rcases List.append_of_mem hMem with ⟨front, after, hEs⟩
    rcases hRun with ⟨config, tbcId, hPath⟩
    rw [hEs] at hPath
    rcases hPath.split with ⟨hFront, hStep, _⟩
    -- A fresh table is empty, so some step came before.
    rcases hFront.last with
      ⟨_, hFresh⟩ | ⟨before, e, hLast, hTarget⟩
    · rw [← hFresh] at hSession
      contradiction
    · have hEntry :
          e.target.sessionManager.sessions sessionId =
            some session := by
        rw [hTarget]
        exact hSession
      rcases hStable before e [] tr after session _
          (by rw [hEs, hLast]; simp) hEntry (by simp)
          (step_greets hStep hGreets) with
        ⟨now, hSame⟩
      rcases (hKeyed hEs).1 sessionId session hSession with
        ⟨hId, hVersion⟩
      exact hOther
        ((SessionInfo.exists_opened_eq_touch_iff hId
          hVersion).mp ⟨now, hSame⟩)
  · intro hRight before tr between tr' after session session'
      hEs hSession hLive hSession'
    subst hEs
    have hStart := (hKeyed rfl).2
    rcases hRun with ⟨config, tbcId, hPath⟩
    rcases hPath.split with ⟨_, _, hRest⟩
    rcases hRest.split with ⟨hBetween, hStep', _⟩
    have hPath' := hBetween.snoc hStep'
    have hAll :
        ∀ e ∈ between ++ [tr'],
          e.target.Live sessionId ∧ ¬ Rewrites sessionId e := by
      intro e hMem
      rcases List.mem_append.mp hMem with hHere | hLast
      · exact ⟨hLive e hHere, hRight e (by simp [hHere])⟩
      · rw [List.mem_singleton.mp hLast]
        refine ⟨?_, hRight tr' (by simp)⟩
        unfold HttpHandlerState.Live
        rw [hSession']
        rfl
    rcases path_touches hPath' hStart hAll hSession with
      ⟨now, hFinal⟩
    rw [hSession'] at hFinal
    exact ⟨now, Option.some.inj hFinal⟩

end Txip

end BorderController

------------------------------------------------------------
-- A Session Taken Over
------------------------------------------------------------

namespace BorderController

namespace Txip

/- Another agent says HELLO for the same session. -/
def strangerArrives (msgId : String) : Event :=
  .deliver
    { sessionClock := sampleClock
      responseClock := sampleClock
      random := 7 }
    (.new msgId "sess-123" .clientToTbc .sellerAgent .control
      .none sampleClock
      (.control
        (.hello
          { sampleHello with agentId := "seller://mallory" })))

/- The session of the buyer becomes the stranger's. -/
theorem stranger_not_sameIdentity :
    ∃ es state,
      IsRun es state ∧ ¬ SameIdentity "sess-123" es := by
  refine ⟨_, _,
    play_isRun
      [helloArrives "msg-1", strangerArrives "msg-2"], ?_⟩
  intro hStable
  rcases hStable [] _ [] _ [] _ _ rfl rfl (by simp) rfl with
    ⟨now, hSame⟩
  have hAgent : "seller://mallory" = "buyer://alice" :=
    congrArg SessionInfo.agentId hSame
  exact absurd hAgent (by decide)

/- The agent itself may say HELLO again at the same time. -/
theorem resumed_sameIdentity :
    SameIdentity "sess-123"
      (play
        [ helloArrives "msg-1", tgpArrives "msg-2",
          helloArrives "msg-3" ] freshState).1 := by
  apply
    (sameIdentity_iff
      (play_isRun
        [ helloArrives "msg-1", tgpArrives "msg-2",
          helloArrives "msg-3" ]) "sess-123").mpr
  rintro tr hMem
    ⟨ambient, envelope, hello, session, hGreets, hSession,
      hOther⟩
  rcases List.mem_cons.mp hMem with hFirst | hRest
  · rw [hFirst] at hSession
    contradiction
  rcases List.mem_cons.mp hRest with hSecond | hRest
  · rw [hSecond] at hGreets
    cases hGreets.event
    have hPayload := hGreets.payload
    contradiction
  rcases List.mem_cons.mp hRest with hThird | hNone
  · rw [hThird] at hGreets hSession
    cases hGreets.event
    cases hGreets.payload
    cases hSession
    exact hOther ⟨rfl, rfl, rfl, rfl, rfl, rfl, rfl⟩
  · contradiction

end Txip

end BorderController

import BorderController.Txip.Replay

/-
  Expiry of sessions, with and without a sweep.

  Only the sweep looks at the time-out.  Handling a message
  looks the session up in the table, so a timed-out session
  that has not been swept is taken for a live one, and the
  message revives it.

  Key definitions include:
    * `SessionManager.LiveAt`, `SessionManager.Overdue`
    * `HttpHandlerState.swept`
    * `SweepFree`

  Key theorems include:
    * `handleTxipMessage_activity`
    * `sweepFree_iff`
-/

------------------------------------------------------------
-- Live and Overdue Sessions
------------------------------------------------------------

namespace BorderController

namespace Txip

namespace SessionManager

variable {manager : SessionManager}
variable {now : TripleTimestamp}
variable {sessionId other msgId : String}

/- The session is in the table and has not timed out. -/
def LiveAt
    (now : TripleTimestamp)
    (sessionId : String)
    (manager : SessionManager) :
    Prop :=
  ∃ session,
    manager.sessions sessionId = some session ∧
      session.isTimedOut now.mono
        manager.config.sessionTimeoutSeconds = false

/- The session is in the table although it has timed out. -/
def Overdue
    (now : TripleTimestamp)
    (sessionId : String)
    (manager : SessionManager) :
    Prop :=
  ∃ session,
    manager.sessions sessionId = some session ∧
      session.isTimedOut now.mono
        manager.config.sessionTimeoutSeconds = true

/- A sweep leaves the sessions that are live. -/
theorem sessions_cleanupExpired :
    (manager.cleanupExpired now).sessions sessionId =
      (manager.sessions sessionId).filter fun session =>
        !session.isTimedOut now.mono
          manager.config.sessionTimeoutSeconds :=
  rfl

theorem liveAt_cleanupExpired :
    (manager.cleanupExpired now).LiveAt now sessionId ↔
      manager.LiveAt now sessionId := by
  unfold LiveAt
  rw [sessions_cleanupExpired]
  constructor
  · rintro ⟨session, hFound, hLive⟩
    rw [Option.filter_eq_some_iff] at hFound
    exact ⟨session, hFound.1, hLive⟩
  · rintro ⟨session, hFound, hLive⟩
    refine ⟨session, ?_, hLive⟩
    rw [Option.filter_eq_some_iff]
    exact ⟨hFound, by rw [hLive]; rfl⟩

/- A sweep forgets message ids and recalls none. -/
theorem not_seen_cleanupExpired
    (hFresh : ¬ manager.Seen sessionId msgId) :
    ¬ (manager.cleanupExpired now).Seen sessionId msgId := by
  rintro ⟨msgIds, hCache, hMem⟩
  unfold cleanupExpired at hCache
  simp only at hCache
  split_ifs at hCache
  exact hFresh ⟨msgIds, hCache, hMem⟩

/- What is left of a session that has not timed out. -/
theorem sessions_cleanupExpired_of_not_overdue
    (hNot : ¬ manager.Overdue now sessionId) :
    (manager.cleanupExpired now).sessions sessionId =
      manager.sessions sessionId := by
  rw [sessions_cleanupExpired]
  cases hFound : manager.sessions sessionId with
  | none => rfl
  | some session =>
      apply Option.filter_some_pos
      cases hTimedOut :
          session.isTimedOut now.mono
            manager.config.sessionTimeoutSeconds with
      | false => rfl
      | true => exact absurd ⟨session, hFound, hTimedOut⟩ hNot

/- The manager after a message of a session in the table. -/
def active
    (now : TripleTimestamp)
    (sessionId msgId : String)
    (manager : SessionManager) :
    SessionManager :=
  (manager.touchSession sessionId now).2.recordMessage
    sessionId msgId

/- A message is activity of its own session only. -/
theorem liveAt_active
    {session : SessionInfo}
    (hFound : manager.sessions sessionId = some session) :
    (manager.active now sessionId msgId).LiveAt now other ↔
      if other = sessionId then
        now.mono ≤
          now.mono + manager.config.sessionTimeoutSeconds
      else
        manager.LiveAt now other := by
  unfold LiveAt active recordMessage touchSession
  rw [hFound]
  simp only
  split_ifs with hSame
  · subst hSame
    simp [SessionInfo.isTimedOut, SessionInfo.touch]
  · rw [Function.update_of_ne hSame]

end SessionManager

end Txip

end BorderController

------------------------------------------------------------
-- Messages That Are Activity
------------------------------------------------------------

namespace BorderController

namespace Txip

variable {state : HttpHandlerState}
variable {ambient : Ambient}
variable {envelope : TxipEnvelope}

/- The payload of a TGP message or of a HEARTBEAT. -/
def Payload.IsActivity (payload : Payload) : Prop :=
  (∃ tgp, payload = .tgp tgp) ∨
    ∃ heartbeat, payload = .control (.heartbeat heartbeat)

/- The sender is told that its message was accepted. -/
def Response.Accepted (response : Response) : Prop :=
  ∃ msgId, response = acceptedResponse msgId

theorem not_accepted_errorResponse
    {sessionId details : String}
    {errorCode : ErrorCode}
    {httpStatus : UInt16}
    {relatedMsgId : Option String}
    {retryable : Bool} :
    ¬ (errorResponse ambient sessionId errorCode httpStatus
        relatedMsgId details retryable).Accepted := by
  rintro ⟨msgId, hSame⟩
  unfold errorResponse acceptedResponse at hSame
  simp at hSame

/-
  A new message is accepted, as activity of its session, if
  the session is in the table, and else refused.
-/
theorem handleTxipMessage_activity
    (hValid : envelope.validate = .ok ())
    (hActivity : envelope.payload.IsActivity)
    (hFresh :
      ¬ state.sessionManager.Seen envelope.sessionId
        envelope.msgId) :
    (∃ session,
        state.sessionManager.sessions envelope.sessionId =
          some session ∧
        (handleTxipMessage state ambient
          envelope).response.Accepted ∧
        (handleTxipMessage state ambient
            envelope).sessionManager =
          state.sessionManager.active ambient.sessionClock
            envelope.sessionId envelope.msgId) ∨
      state.sessionManager.sessions envelope.sessionId =
          none ∧
        ¬ (handleTxipMessage state ambient
          envelope).response.Accepted ∧
        (handleTxipMessage state ambient
            envelope).sessionManager =
          state.sessionManager := by
  rw [handleTxipMessage_of_fresh hValid hFresh]
  unfold SessionManager.active SessionManager.touchSession
  rcases hActivity with ⟨tgp, hTgp⟩ | ⟨heartbeat, hBeat⟩
  · simp only [hTgp]
    unfold handleTgpMessage SessionManager.getSession
      SessionManager.touchSession
    cases hFound :
        state.sessionManager.sessions envelope.sessionId with
    | none =>
        exact Or.inr
          ⟨rfl, not_accepted_errorResponse, rfl⟩
    | some session =>
        simp only [hTgp]
        exact Or.inl ⟨session, rfl, ⟨_, rfl⟩, trivial⟩
  · simp only [hBeat]
    unfold handleControlMessage handleHeartbeat
      SessionManager.touchSession
    simp only [hBeat]
    cases hFound :
        state.sessionManager.sessions envelope.sessionId with
    | none =>
        exact Or.inr
          ⟨rfl, not_accepted_errorResponse, rfl⟩
    | some session =>
        exact Or.inl ⟨session, rfl, ⟨_, rfl⟩, rfl⟩

end Txip

end BorderController

------------------------------------------------------------
-- Handling With and Without a Sweep
------------------------------------------------------------

namespace BorderController

namespace Txip

variable {state : HttpHandlerState}
variable {ambient : Ambient}
variable {envelope : TxipEnvelope}

/- The state after a sweep at the time of the message. -/
def HttpHandlerState.swept
    (ambient : Ambient)
    (state : HttpHandlerState) :
    HttpHandlerState :=
  { state with
    sessionManager :=
      state.sessionManager.cleanupExpired
        ambient.sessionClock }

/-
  It makes no difference to the message whether a sweep comes
  right before it; a timed-out session takes no message and is
  not revived by one.
-/
structure SweepFree
    (state : HttpHandlerState)
    (ambient : Ambient)
    (envelope : TxipEnvelope) :
    Prop where
  kind :
    (handleTxipMessage state ambient
        envelope).response.Accepted ↔
      (handleTxipMessage (state.swept ambient) ambient
        envelope).response.Accepted
  live :
    ∀ sessionId,
      (handleTxipMessage state ambient
          envelope).sessionManager.LiveAt
            ambient.sessionClock sessionId ↔
        (handleTxipMessage (state.swept ambient) ambient
          envelope).sessionManager.LiveAt
            ambient.sessionClock sessionId
  refused :
    state.sessionManager.Overdue ambient.sessionClock
      envelope.sessionId →
    ¬ (handleTxipMessage state ambient
        envelope).response.Accepted ∧
      ¬ (handleTxipMessage state ambient
          envelope).sessionManager.LiveAt
            ambient.sessionClock envelope.sessionId

/- An overdue session takes the message. -/
private theorem accepted_of_overdue
    (hValid : envelope.validate = .ok ())
    (hActivity : envelope.payload.IsActivity)
    (hFresh :
      ¬ state.sessionManager.Seen envelope.sessionId
        envelope.msgId)
    (hOverdue :
      state.sessionManager.Overdue ambient.sessionClock
        envelope.sessionId) :
    (handleTxipMessage state ambient
      envelope).response.Accepted := by
  rcases hOverdue with ⟨session, hFound, _⟩
  rcases handleTxipMessage_activity hValid hActivity hFresh
    with ⟨_, _, hAccepted, _⟩ | ⟨hNone, _⟩
  · exact hAccepted
  · rw [hNone] at hFound
    contradiction

private theorem sweepFree_of_not_overdue
    (hValid : envelope.validate = .ok ())
    (hActivity : envelope.payload.IsActivity)
    (hFresh :
      ¬ state.sessionManager.Seen envelope.sessionId
        envelope.msgId)
    (hNot :
      ¬ state.sessionManager.Overdue ambient.sessionClock
        envelope.sessionId) :
    SweepFree state ambient envelope := by
  have hSwept :
      (state.swept ambient).sessionManager.sessions
          envelope.sessionId =
        state.sessionManager.sessions envelope.sessionId :=
    SessionManager.sessions_cleanupExpired_of_not_overdue
      hNot
  have hFresh' :
      ¬ (state.swept ambient).sessionManager.Seen
        envelope.sessionId envelope.msgId :=
    SessionManager.not_seen_cleanupExpired hFresh
  rcases @handleTxipMessage_activity state ambient envelope
      hValid hActivity hFresh with
    ⟨session, hFound, hAccepted, hManager⟩ |
      ⟨hNone, hRefused, hManager⟩
  · rcases @handleTxipMessage_activity
        (state.swept ambient) ambient envelope hValid
        hActivity hFresh' with
      ⟨session', hFound', hAccepted', hManager'⟩ | ⟨hNone, _⟩
    · refine ⟨iff_of_true hAccepted hAccepted', ?_,
        fun hOverdue => absurd hOverdue hNot⟩
      intro sessionId
      rw [hManager, hManager',
        SessionManager.liveAt_active hFound,
        SessionManager.liveAt_active hFound']
      unfold HttpHandlerState.swept
      rw [SessionManager.liveAt_cleanupExpired]
      rfl
    · rw [hSwept, hFound] at hNone
      contradiction
  · rcases @handleTxipMessage_activity
        (state.swept ambient) ambient envelope hValid
        hActivity hFresh' with
      ⟨session', hFound', _⟩ | ⟨_, hRefused', hManager'⟩
    · rw [hSwept, hNone] at hFound'
      contradiction
    · refine ⟨iff_of_false hRefused hRefused', ?_,
        fun hOverdue => absurd hOverdue hNot⟩
      intro sessionId
      rw [hManager, hManager']
      unfold HttpHandlerState.swept
      rw [SessionManager.liveAt_cleanupExpired]

theorem sweepFree_iff
    (hValid : envelope.validate = .ok ())
    (hActivity : envelope.payload.IsActivity)
    (hFresh :
      ¬ state.sessionManager.Seen envelope.sessionId
        envelope.msgId) :
    SweepFree state ambient envelope ↔
      ¬ state.sessionManager.Overdue ambient.sessionClock
        envelope.sessionId := by
  constructor
  · intro hFree hOverdue
    exact (hFree.refused hOverdue).1
      (accepted_of_overdue hValid hActivity hFresh hOverdue)
  · intro hNot
    exact sweepFree_of_not_overdue hValid hActivity hFresh
      hNot

end Txip

end BorderController

------------------------------------------------------------
-- A Session Past Its Time-Out
------------------------------------------------------------

namespace BorderController

namespace Txip

/- What is read when the clock of the manager shows `mono`. -/
def ambientAt (mono : UInt64) : Ambient :=
  { sessionClock := { sampleClock with mono }
    responseClock := { sampleClock with mono }
    random := 7 }

def sampleQuery (msgId : String) : TxipEnvelope :=
  .tgp msgId "sess-123" .clientToTbc .buyerAgent .query
    sampleClock (.object [("phase", .string "QUERY")])

/- The time-out is 300 seconds and the HELLO came at 1000. -/
theorem overdue_not_sweepFree :
    ∃ es state ambient envelope,
      IsRun es state ∧
        envelope.validate = .ok () ∧
        envelope.payload.IsActivity ∧
        ¬ state.sessionManager.Seen envelope.sessionId
          envelope.msgId ∧
        ¬ SweepFree state ambient envelope := by
  refine ⟨_, _, ambientAt 1301, sampleQuery "msg-2",
    play_isRun [helloArrives "msg-1"], rfl,
    Or.inl ⟨_, rfl⟩, ?_, ?_⟩
  · rw [← SessionManager.isDuplicateMessage_iff]
    decide
  · intro hFree
    exact (hFree.refused ⟨_, rfl, rfl⟩).1 ⟨_, rfl⟩

theorem punctual_sweepFree :
    SweepFree (play [helloArrives "msg-1"] freshState).2
      (ambientAt 1300) (sampleQuery "msg-2") := by
  apply
    (sweepFree_iff rfl (Or.inl ⟨_, rfl⟩)
      (by
        rw [← SessionManager.isDuplicateMessage_iff]
        decide)).mpr
  rintro ⟨session, hFound, hTimedOut⟩
  cases hFound
  contradiction

end Txip

end BorderController

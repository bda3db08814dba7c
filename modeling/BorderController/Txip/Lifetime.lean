import BorderController.Library.Lease
import BorderController.Txip.Expiry
import BorderController.Txip.Identity

/-
  How long a session lives.

  A session is a lease: an accepted HELLO grants it, HEARTBEATs
  and TGP messages renew it, CLOSE revokes it, and every sweep
  checks it.  So whether a session is live can be told from what
  has arrived, and keeping it alive needs no more than one new
  message of it within the time-out before each sweep.

  Key definitions include:
    * `Payload.lease`
    * `lease`
    * `Clocked`

  Key theorems include:
    * `step_lease`
    * `live_iff_held`
    * `liveAt_of_keptAlive`
-/

------------------------------------------------------------
-- Exchanges as Events of a Lease
------------------------------------------------------------

namespace BorderController

namespace Txip

/- What a new message says about the lease of its session. -/
def Payload.lease (time : Nat) : Payload → Lease.Event Nat
  | .control (.hello hello) =>
      if "2.0" ∈ hello.supportedTgpVersions ∧
          hello.supportedChains ≠ [] then
        .grant time
      else
        .idle
  | .control (.heartbeat _) => .renew time
  | .control (.close _) => .revoke
  | .tgp _ => .renew time
  | _ => .idle

/- The clock as the session manager reads it for an event. -/
def Event.reading : Event → UInt64
  | .deliver ambient _ => ambient.sessionClock.mono
  | .cleanup now => now.mono

/-
  What an exchange means for the lease of a session; invalid
  envelopes and repeated message ids mean nothing.
-/
def lease
    (sessionId : String)
    (tr : Transition HttpHandlerState Exchange) :
    Lease.Event Nat :=
  match tr.label.event with
  | .cleanup now => .check now.mono.toNat
  | .deliver ambient envelope =>
      if envelope.validate = .ok () ∧
          envelope.sessionId = sessionId ∧
          tr.source.sessionManager.isDuplicateMessage sessionId
              envelope.msgId =
            false then
        envelope.payload.lease ambient.sessionClock.mono.toNat
      else
        .idle

/- Until when a session may go without another message. -/
def SessionConfig.due
    (config : SessionConfig)
    (last : Nat) :
    Nat :=
  last + config.sessionTimeoutSeconds.toNat

/- The clock runs forward, and its end is a time-out away. -/
structure Clocked
    (config : SessionConfig)
    (es : List (Transition HttpHandlerState Exchange)) :
    Prop where
  ordered :
    es.Pairwise fun earlier later =>
      earlier.label.event.reading ≤ later.label.event.reading
  fits :
    ∀ tr ∈ es, config.due tr.label.event.reading.toNat < 2 ^ 64

/- When a session was last active, if it is in the table. -/
def SessionManager.lastActivity
    (sessionId : String)
    (manager : SessionManager) :
    Option Nat :=
  (manager.sessions sessionId).map fun session =>
    session.lastActivityMono.toNat

end Txip

end BorderController

------------------------------------------------------------
-- The Lease Along a Step
------------------------------------------------------------

namespace BorderController

namespace Txip

variable {state state' : HttpHandlerState}
variable {label : Exchange}
variable {ambient : Ambient}
variable {envelope : TxipEnvelope}
variable {sessionId : String}
variable {due : Nat → Nat}

/- A message leaves the sessions of others alone. -/
theorem sessions_handleTxipMessage_of_ne
    (hOther : sessionId ≠ envelope.sessionId) :
    (handleTxipMessage state ambient
        envelope).sessionManager.sessions sessionId =
      state.sessionManager.sessions sessionId := by
  have hHandling :=
    handleTxipMessage_handling state ambient envelope
  generalize handleTxipMessage state ambient envelope = handled
    at hHandling ⊢
  cases hHandling with
  | replied response hFresh => rfl
  | duplicate hValid hSeen => rfl
  | hello hello sessionInfo manager response hValid hFresh
      hPayload hHello =>
      rcases SessionManager.handleHello_cases hHello with
        ⟨_, hResult, _⟩ | ⟨_, _, hSessions, _⟩
      · contradiction
      · change manager.sessions sessionId = _
        rw [hSessions, Function.update_of_ne hOther]
  | heartbeat session hValid hFresh hSession =>
      change (state.sessionManager.touchSession _ _).2.sessions
        sessionId = _
      rw [SessionManager.touchSession_sessions hSession,
        Function.update_of_ne hOther]
  | close close hValid hFresh hPayload =>
      exact Function.update_of_ne hOther ..
  | tgp tgp session hValid hFresh hPayload hSession =>
      change (state.sessionManager.touchSession _ _).2.sessions
        sessionId = _
      rw [SessionManager.touchSession_sessions hSession,
        Function.update_of_ne hOther]

/- Touching a session renews it, if there is one. -/
theorem SessionManager.lastActivity_touchSession
    {manager : SessionManager}
    {now : TripleTimestamp} :
    (manager.touchSession sessionId now).2.lastActivity
        sessionId =
      (manager.lastActivity sessionId).map fun _ =>
        now.mono.toNat := by
  unfold touchSession lastActivity
  cases hFound : manager.sessions sessionId with
  | none => simp [hFound]
  | some session => simp [SessionInfo.touch]

/- A HELLO grants the lease if it offers enough. -/
theorem lastActivity_handleHello
    {msgId : String}
    {hello : HelloPayload}
    {role : Role} :
    (handleHello state ambient sessionId msgId hello
        role).sessionManager.lastActivity sessionId =
      Lease.after due
        (state.sessionManager.lastActivity sessionId)
        (Payload.lease ambient.sessionClock.mono.toNat
          (.control (.hello hello))) := by
  unfold handleHello
  by_cases hOffers :
      "2.0" ∈ hello.supportedTgpVersions ∧
        hello.supportedChains ≠ []
  · rw [Payload.lease, if_pos hOffers,
      SessionManager.handleHello_of_offers hOffers.1
        hOffers.2,
      Lease.after_grant]
    simp [SessionManager.lastActivity,
      SessionManager.recordMessage, SessionInfo.opened]
  · rw [Payload.lease, if_neg hOffers, Lease.after_idle]
    cases hHello :
        state.sessionManager.handleHello hello sessionId role
          ambient.sessionClock with
    | mk result manager =>
        rcases SessionManager.handleHello_cases hHello with
          ⟨e, hResult, hSame⟩ | ⟨sessionInfo, hResult, _⟩
        · subst hResult hSame
          rfl
        · subst hResult
          exact absurd (SessionManager.handleHello_ok hHello)
            hOffers

/- A new message of the session does what its payload says. -/
theorem lastActivity_handleTxipMessage
    (hValid : envelope.validate = .ok ())
    (hFresh :
      ¬ state.sessionManager.Seen envelope.sessionId
        envelope.msgId) :
    (handleTxipMessage state ambient
        envelope).sessionManager.lastActivity
          envelope.sessionId =
      Lease.after due
        (state.sessionManager.lastActivity envelope.sessionId)
        (envelope.payload.lease
          ambient.sessionClock.mono.toNat) := by
  rw [handleTxipMessage_of_fresh hValid hFresh]
  cases hPayload : envelope.payload with
  | error error => exact Lease.after_idle.symm
  | tgp tgp =>
      simp only [handleTgpMessage, SessionManager.getSession,
        hPayload, Payload.lease, Lease.after_renew]
      rw [← SessionManager.lastActivity_touchSession]
      cases hFound :
          state.sessionManager.sessions envelope.sessionId with
      | none =>
          simp [Handled.reply, SessionManager.touchSession,
            hFound]
      | some session => rfl
  | control control =>
      simp only [handleControlMessage, hPayload]
      cases control with
      | hello hello => exact lastActivity_handleHello
      | welcome welcome => exact Lease.after_idle.symm
      | heartbeat heartbeat =>
          rw [Payload.lease, Lease.after_renew,
            ← SessionManager.lastActivity_touchSession]
          unfold handleHeartbeat
          cases state.sessionManager.touchSession
            envelope.sessionId ambient.sessionClock with
          | mk result manager => cases result <;> rfl
      | close close =>
          rw [Payload.lease, Lease.after_revoke]
          simp [handleClose, SessionManager.closeSession,
            SessionManager.lastActivity]

/- Before the end of the clock the deadline does not wrap. -/
theorem SessionInfo.isTimedOut_eq_false_iff
    {session : SessionInfo}
    {timeoutSeconds : UInt64}
    (currentMono : UInt64)
    (hFits :
      session.lastActivityMono.toNat + timeoutSeconds.toNat <
        2 ^ 64) :
    session.isTimedOut currentMono timeoutSeconds = false ↔
      currentMono.toNat ≤
        session.lastActivityMono.toNat +
          timeoutSeconds.toNat := by
  have hSum :
      (session.lastActivityMono + timeoutSeconds).toNat =
        session.lastActivityMono.toNat +
          timeoutSeconds.toNat := by
    rw [UInt64.toNat_add, Nat.mod_eq_of_lt hFits]
  unfold isTimedOut
  rw [decide_eq_false_iff_not, UInt64.not_lt,
    UInt64.le_iff_toNat_le, hSum]

/- A sweep checks the lease. -/
theorem lastActivity_cleanupExpired
    {manager : SessionManager}
    {now : TripleTimestamp}
    (hFits :
      ∀ last ∈ manager.lastActivity sessionId,
        manager.config.due last < 2 ^ 64) :
    (manager.cleanupExpired now).lastActivity sessionId =
      Lease.after manager.config.due
        (manager.lastActivity sessionId)
        (.check now.mono.toNat) := by
  rw [Lease.after_check]
  unfold SessionManager.lastActivity at hFits ⊢
  rw [SessionManager.sessions_cleanupExpired]
  cases hFound : manager.sessions sessionId with
  | none => rfl
  | some session =>
      rw [hFound] at hFits
      have hTimedOut :=
        SessionInfo.isTimedOut_eq_false_iff now.mono
          (hFits _ rfl)
      rw [Option.map_some, Option.filter_some,
        Option.filter_some]
      cases hExpired :
          session.isTimedOut now.mono
            manager.config.sessionTimeoutSeconds with
      | false =>
          have hInTime :
              now.mono.toNat ≤
                manager.config.due
                  session.lastActivityMono.toNat :=
            hTimedOut.mp hExpired
          simp [hInTime]
      | true =>
          have hLate :
              ¬ now.mono.toNat ≤
                manager.config.due
                  session.lastActivityMono.toNat := by
            intro hInTime
            rw [hTimedOut.mpr hInTime] at hExpired
            contradiction
          simp [hLate]

/- A session is alive if it would survive a sweep. -/
theorem SessionManager.liveAt_iff
    {manager : SessionManager}
    {now : TripleTimestamp} :
    manager.LiveAt now sessionId ↔
      ((manager.cleanupExpired now).lastActivity
        sessionId).isSome := by
  unfold LiveAt lastActivity
  rw [sessions_cleanupExpired]
  cases manager.sessions sessionId with
  | none => simp
  | some session => simp [Option.filter_some]

/- Other messages change no session. -/
theorem sessionManager_of_not_fresh
    (hNot :
      ¬ (envelope.validate = .ok () ∧
        ¬ state.sessionManager.Seen envelope.sessionId
          envelope.msgId)) :
    (handleTxipMessage state ambient
        envelope).sessionManager =
      state.sessionManager := by
  have hHandling :=
    handleTxipMessage_handling state ambient envelope
  generalize handleTxipMessage state ambient envelope = handled
    at hHandling ⊢
  cases hHandling with
  | replied response hFresh => rfl
  | duplicate hValid hSeen => rfl
  | hello hello sessionInfo manager response hValid hFresh =>
      exact absurd ⟨hValid, hFresh⟩ hNot
  | heartbeat session hValid hFresh =>
      exact absurd ⟨hValid, hFresh⟩ hNot
  | close close hValid hFresh =>
      exact absurd ⟨hValid, hFresh⟩ hNot
  | tgp tgp session hValid hFresh =>
      exact absurd ⟨hValid, hFresh⟩ hNot

theorem handleTxipMessage_config :
    (handleTxipMessage state ambient
        envelope).sessionManager.config =
      state.sessionManager.config := by
  have hHandling :=
    handleTxipMessage_handling state ambient envelope
  generalize handleTxipMessage state ambient envelope = handled
    at hHandling ⊢
  cases hHandling with
  | replied response hFresh => rfl
  | duplicate hValid hSeen => rfl
  | hello hello sessionInfo manager response hValid hFresh
      hPayload hHello =>
      have hConfig := congrArg (fun p => p.2.config) hHello
      exact hConfig.symm.trans
        SessionManager.handleHello_config
  | heartbeat session hValid hFresh hSession =>
      exact SessionManager.touchSession_config
  | close close hValid hFresh hPayload => rfl
  | tgp tgp session hValid hFresh hPayload hSession =>
      exact SessionManager.touchSession_config

/-
  An exchange does to a session what it means for the lease,
  and leaves the configuration.
-/
theorem step_lease
    (hStep : system.Step state label state')
    (hFits :
      ∀ last ∈ state.sessionManager.lastActivity sessionId,
        state.sessionManager.config.due last < 2 ^ 64) :
    state'.sessionManager.lastActivity sessionId =
        Lease.after state.sessionManager.config.due
          (state.sessionManager.lastActivity sessionId)
          (lease sessionId ⟨state, label, state'⟩) ∧
      state'.sessionManager.config =
        state.sessionManager.config := by
  cases hEvent : label.event with
  | cleanup now =>
      have hExchange :
          exchange label.event state = (label, state') :=
        hStep
      rw [hEvent] at hExchange
      have hState := congrArg Prod.snd hExchange
      simp only [exchange] at hState
      simp only [lease, hEvent]
      rw [← hState]
      exact ⟨lastActivity_cleanupExpired hFits, rfl⟩
  | deliver ambient envelope =>
      rcases step_deliver hStep hEvent with
        ⟨handled, _, hHandled, _, _, hManager⟩
      simp only [lease, hEvent]
      rw [hManager, hHandled]
      refine ⟨?_, handleTxipMessage_config⟩
      split_ifs with hNew
      · rcases hNew with ⟨hValid, hSame, hFresh⟩
        subst hSame
        refine lastActivity_handleTxipMessage hValid ?_
        rw [← SessionManager.isDuplicateMessage_iff,
          Bool.not_eq_true]
        exact hFresh
      · rw [Lease.after_idle]
        unfold SessionManager.lastActivity
        refine congrArg _ ?_
        by_cases hSame : envelope.sessionId = sessionId
        · rw [sessionManager_of_not_fresh]
          rintro ⟨hValid, hFresh⟩
          rw [← SessionManager.isDuplicateMessage_iff,
            Bool.not_eq_true] at hFresh
          subst hSame
          exact hNew ⟨hValid, rfl, hFresh⟩
        · exact sessions_handleTxipMessage_of_ne
            (Ne.symm hSame)

end Txip

end BorderController

------------------------------------------------------------
-- Lifetimes
------------------------------------------------------------

namespace BorderController

namespace Txip

variable {es : List (Transition HttpHandlerState Exchange)}
variable {tr : Transition HttpHandlerState Exchange}
variable {config : SessionConfig}
variable {tbcId : String}
variable {state : HttpHandlerState}

theorem Payload.lease_time
    {payload : Payload}
    {reading time : Nat}
    (hTime : time ∈ (payload.lease reading).time) :
    time = reading := by
  unfold Payload.lease at hTime
  split at hTime
  · split_ifs at hTime
    · exact (Option.some.inj hTime).symm
    · cases hTime
  · exact (Option.some.inj hTime).symm
  · cases hTime
  · exact (Option.some.inj hTime).symm
  · cases hTime

/- Events of a lease take place when the clock was read. -/
theorem lease_time
    {sessionId : String}
    {time : Nat}
    (hTime : time ∈ (lease sessionId tr).time) :
    time = tr.label.event.reading.toNat := by
  unfold lease at hTime
  cases hEvent : tr.label.event with
  | cleanup now =>
      simp only [hEvent] at hTime
      exact (Option.some.inj hTime).symm
  | deliver ambient envelope =>
      simp only [hEvent] at hTime
      split_ifs at hTime with hNew
      · exact Payload.lease_time hTime
      · cases hTime

theorem ordered_lease
    (hClocked : Clocked config es)
    (sessionId : String) :
    Lease.Ordered (es.map (lease sessionId)) := by
  unfold Lease.Ordered
  rw [List.pairwise_filterMap, List.pairwise_map]
  refine hClocked.ordered.imp ?_
  intro earlier later hReading time hTime time' hTime'
  rw [lease_time hTime, lease_time hTime']
  exact UInt64.le_iff_toNat_le.mp hReading

/- No deadline of a lease wraps. -/
theorem fits_of_run
    (hClocked : Clocked config es)
    (sessionId : String) :
    ∀ last ∈ Lease.run config.due (es.map (lease sessionId)),
      config.due last < 2 ^ 64 := by
  intro last hLast
  have hTimed :=
    Lease.mem_times_of_renewals
      (Lease.mem_renewals_of_run hLast)
  rcases List.mem_filterMap.mp hTimed with
    ⟨event, hEvent, hTime⟩
  rcases List.mem_map.mp hEvent with ⟨tr, hMem, hSame⟩
  subst hSame
  rw [lease_time hTime]
  exact hClocked.fits tr hMem

/- The table of sessions keeps the record of every lease. -/
theorem lastActivity_of_path
    (hPath :
      system.Path { sessionManager := .new config, tbcId } es
        state)
    (hClocked : Clocked config es)
    (sessionId : String) :
    state.sessionManager.lastActivity sessionId =
        Lease.run config.due (es.map (lease sessionId)) ∧
      state.sessionManager.config = config := by
  revert hClocked
  refine hPath.historyInvariant
    (fun es state =>
      Clocked config es →
        state.sessionManager.lastActivity sessionId =
            Lease.run config.due (es.map (lease sessionId)) ∧
          state.sessionManager.config = config)
    (fun _ => ⟨rfl, rfl⟩) ?_
  intro es before label after hBefore hRecord hStep hClocked
  have hEarlier : Clocked config es :=
    ⟨(List.pairwise_append.mp hClocked.ordered).1,
      fun tr hMem =>
        hClocked.fits tr (List.mem_append_left _ hMem)⟩
  rcases hRecord hEarlier with ⟨hActivity, hConfig⟩
  have hFits := fits_of_run hEarlier sessionId
  rw [← hActivity, ← hConfig] at hFits
  rcases step_lease hStep hFits with ⟨hNext, hKept⟩
  rw [hConfig] at hNext hKept
  refine ⟨?_, hKept⟩
  rw [hNext, hActivity, List.map_append, List.map_singleton,
    Lease.run_concat]

theorem SessionConfig.monotone_due : Monotone config.due :=
  fun _ _ hLe => Nat.add_le_add_right hLe _

/- So the table tells whether the lease is held. -/
theorem isSome_lastActivity_iff
    (hPath :
      system.Path { sessionManager := .new config, tbcId } es
        state)
    (hClocked : Clocked config es)
    (sessionId : String) :
    (state.sessionManager.lastActivity sessionId).isSome ↔
      Lease.Held config.due (es.map (lease sessionId)) := by
  rw [(lastActivity_of_path hPath hClocked sessionId).1]
  exact Lease.isSome_run_iff SessionConfig.monotone_due
    (ordered_lease hClocked sessionId)

/- A check that is yet to come is in order as well. -/
theorem ordered_lease_check
    {now : TripleTimestamp}
    (hClocked : Clocked config es)
    (hNow : ∀ tr ∈ es, tr.label.event.reading ≤ now.mono)
    (sessionId : String) :
    Lease.Ordered
      (es.map (lease sessionId) ++
        [.check now.mono.toNat]) := by
  refine (ordered_lease hClocked sessionId).concat rfl ?_
  intro earlier hEarlier
  rcases List.mem_filterMap.mp hEarlier with
    ⟨event, hEvent, hTime⟩
  rcases List.mem_map.mp hEvent with ⟨tr, hMem, hSame⟩
  subst hSame
  rw [lease_time hTime]
  exact UInt64.le_iff_toNat_le.mp (hNow tr hMem)

/- A session that is not timed out would stand a check. -/
theorem SessionManager.liveAt_iff_held
    {now : TripleTimestamp}
    (hPath :
      system.Path { sessionManager := .new config, tbcId } es
        state)
    (hClocked : Clocked config es)
    (hNow : ∀ tr ∈ es, tr.label.event.reading ≤ now.mono)
    (sessionId : String) :
    state.sessionManager.LiveAt now sessionId ↔
      Lease.Held config.due
        (es.map (lease sessionId) ++
          [.check now.mono.toNat]) := by
  rcases lastActivity_of_path hPath hClocked sessionId with
    ⟨hActivity, hConfig⟩
  have hFits := fits_of_run hClocked sessionId
  rw [← hActivity, ← hConfig] at hFits
  rw [← Lease.isSome_run_iff SessionConfig.monotone_due
      (ordered_lease_check hClocked hNow sessionId),
    Lease.run_concat, ← hActivity, liveAt_iff,
    lastActivity_cleanupExpired hFits, hConfig]

/-
  A session is never dropped while its messages keep coming
  within the time-out and none closes it, whatever else arrives
  and however often the server sweeps.
-/
theorem liveAt_of_keptAlive
    {sessionId : String}
    {now : TripleTimestamp}
    {before later : List (Lease.Event Nat)}
    {start : Nat}
    (hPath :
      system.Path { sessionManager := .new config, tbcId } es
        state)
    (hClocked : Clocked config es)
    (hNow : ∀ tr ∈ es, tr.label.event.reading ≤ now.mono)
    (hEvents :
      es.map (lease sessionId) =
        before ++ .grant start :: later)
    (hAlive :
      Lease.KeptAlive config.due start now.mono.toNat later) :
    state.sessionManager.LiveAt now sessionId := by
  have hOrdered := ordered_lease_check hClocked hNow sessionId
  rw [hEvents, List.append_assoc, List.cons_append]
    at hOrdered
  have hLater :
      Lease.Ordered (later ++ [.check now.mono.toNat]) :=
    hOrdered.of_sublist
      ((List.sublist_cons_self _ _).trans
        (List.sublist_append_right _ _))
  rw [SessionManager.liveAt_iff_held hPath hClocked hNow,
    hEvents, List.append_assoc, List.cons_append]
  exact ⟨before, start, _, rfl,
    hAlive.heldSince_check hLater⟩

end Txip

end BorderController

------------------------------------------------------------
-- A Session Kept Alive
------------------------------------------------------------

namespace BorderController

namespace Txip

def heartbeatArrives (mono : UInt64) (msgId : String) : Event :=
  .deliver (ambientAt mono)
    (.new msgId "sess-123" .clientToTbc .buyerAgent .control
      .none sampleClock (.control (.heartbeat { seq := 1 })))

/- The sweep comes 450 seconds after the HELLO. -/
def keptAliveEvents : List Event :=
  [ helloArrives "msg-1", heartbeatArrives 1200 "msg-2",
    .cleanup { sampleClock with mono := 1450 } ]

theorem clocked_keptAliveEvents :
    Clocked .default (play keptAliveEvents freshState).1 := by
  constructor <;> decide

/- It is live for 300 seconds after the HEARTBEAT. -/
example :
    (play keptAliveEvents freshState).2.sessionManager.LiveAt
      { sampleClock with mono := 1500 } "sess-123" := by
  have hAlive :
      Lease.KeptAlive SessionConfig.default.due 1000 1500
        [.renew 1200, .check 1450] := by
    constructor <;> decide
  exact liveAt_of_keptAlive
    (play_path keptAliveEvents freshState)
    clocked_keptAliveEvents (by decide)
    (show _ = [] ++ _ from rfl) hAlive

end Txip

end BorderController

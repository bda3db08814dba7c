import BorderController.Tgp.Session

/-
  What a settled TGP session has been through: the whole
  handshake, each step within the time-out of the one before.

  Key definitions include:
    * `hops`
    * `Operation.ReadsOnce`
    * `Hops`
    * `OnTrack`

  Key theorems include:
    * `step_failed`
    * `step_onTrack`
    * `Hops.handshake`
    * `handshake_of_settled`
-/

------------------------------------------------------------
-- Successful Transitions
------------------------------------------------------------

namespace BorderController

namespace Tgp

/- The state that the call entered, and when. -/
def Call.hop? : Call → Option (TGPState × UInt64)
  | ⟨.transition newState _ now, .ok ()⟩ =>
      some (newState, now)
  | _ => none

/- The successful transitions of a run. -/
def hops
    (es : List (Transition TGPSession Call)) :
    List (TGPState × UInt64) :=
  es.filterMap fun tr => tr.label.hop?

/-
  A transition that sees one clock reading, or a forced error.
-/
def Operation.ReadsOnce : Operation → Prop
  | .transition _ checkedAt now => checkedAt = now
  | .forceError _ => True
  | _ => False

/-
  `Hops state last entered`: a session in `state`, entered at
  `last`, has entered these states, one after another as the
  table of transitions allows and within its time-outs.
-/
inductive Hops :
    TGPState → UInt64 → List (TGPState × UInt64) → Prop
  | query (t : UInt64) :
      Hops .querySent t [(.querySent, t)]
  | hop
      {state target : TGPState} {last t : UInt64}
      {entered : List (TGPState × UInt64)} :
      Hops state last entered →
      state.canTransitionTo target = true →
      target ≠ .errored →
      (∀ seconds,
        state.timeoutSeconds = some seconds →
        t.toNat ≤ last.toNat + seconds.toNat) →
      Hops target t (entered ++ [(target, t)])

/-
  A session that has not failed is idle, or has come to its
  state by hops, and times out when that state does.
-/
inductive OnTrack
    (es : List (Transition TGPSession Call)) :
    TGPSession → Prop
  | errored {session : TGPSession} :
      session.state = .errored →
      OnTrack es session
  | idle {session : TGPSession} :
      session.state = .idle →
      session.timeoutAt = none →
      hops es = [] →
      OnTrack es session
  | reached {session : TGPSession} {last : UInt64} :
      Hops session.state last (hops es) →
      session.timeoutAt =
        session.state.timeoutSeconds.map (last + ·) →
      OnTrack es session

end Tgp

end BorderController

------------------------------------------------------------
-- Steps of a Handshake
------------------------------------------------------------

namespace BorderController

namespace Tgp

variable {es : List (Transition TGPSession Call)}
variable {session session' : TGPSession}
variable {target : TGPState}
variable {call : Call}
variable {last t : UInt64}

theorem hops_snoc
    {tr : Transition TGPSession Call} :
    hops (es ++ [tr]) = hops es ++ tr.label.hop?.toList := by
  unfold hops
  rw [List.filterMap_append, List.filterMap_cons]
  cases tr.label.hop? <;> rfl

/- A call that fails leaves the session as it was. -/
theorem step_failed
    {e : TGPStateError}
    (hStep : system.Step session call session')
    (hFailed : call.result = .error e) :
    session' = session := by
  have hPerform :
      call.operation.perform session =
        (call.result, session') := hStep
  rw [hFailed] at hPerform
  cases hOperation : call.operation with
  | transition newState checkedAt now =>
      rw [hOperation] at hPerform
      have hTransition :
          session.transition newState checkedAt now =
            (.error e, session') := hPerform
      rcases session.transition_cases newState checkedAt now
        with ⟨e', hError, _⟩ | ⟨_, _, hEnter⟩
      · rw [hError] at hTransition
        exact (congrArg Prod.snd hTransition).symm
      · rw [hEnter] at hTransition
        cases hTransition
  | setTimeout seconds now =>
      rw [hOperation] at hPerform
      cases hPerform
  | clearTimeout =>
      rw [hOperation] at hPerform
      cases hPerform
  | forceError now =>
      rw [hOperation] at hPerform
      cases hPerform

/- What an entered state sets as its time-out. -/
theorem TGPSession.enter_timeoutAt :
    (session.enter target t).timeoutAt =
      target.timeoutSeconds.map (t + ·) := by
  unfold TGPSession.enter
  cases target.timeoutSeconds <;> rfl

/-
  A reading that is not timed out is within the time-out.  A
  sum that has wrapped is only smaller.
-/
theorem toNat_le_of_not_timedOut
    {seconds : UInt64}
    (hTimeout : session.timeoutAt = some (last + seconds))
    (hTime : session.isTimedOut t = false) :
    t.toNat ≤ last.toNat + seconds.toNat := by
  unfold TGPSession.isTimedOut at hTime
  rw [hTimeout] at hTime
  have hNot : ¬ last + seconds < t :=
    of_decide_eq_false hTime
  rw [UInt64.lt_iff_toNat_lt, UInt64.toNat_add] at hNot
  have hMod :=
    Nat.mod_le (last.toNat + seconds.toNat) (2 ^ 64)
  omega

/- Only the query leads out of the idle state. -/
theorem TGPState.eq_querySent_of_idle
    (hCan : TGPState.idle.canTransitionTo target = true)
    (hNot : target ≠ .errored) :
    target = .querySent := by
  cases target <;> first | rfl | contradiction

/- A successful transition is a hop, or the session fails. -/
theorem OnTrack.enter
    (hTrack : OnTrack es session)
    (hTime : session.isTimedOut t = false)
    (hCan : session.state.canTransitionTo target = true) :
    OnTrack
      (es ++
        [⟨session, ⟨.transition target t t, .ok ()⟩,
          session.enter target t⟩])
      (session.enter target t) := by
  by_cases hErrored : target = .errored
  · exact .errored hErrored
  cases hTrack with
  | errored hState =>
      rw [hState] at hCan
      contradiction
  | idle hState hNone hFirst =>
      rw [hState] at hCan
      have hQuery :=
        TGPState.eq_querySent_of_idle hCan hErrored
      subst hQuery
      refine .reached ?_ TGPSession.enter_timeoutAt
      rw [hops_snoc, hFirst]
      exact .query t
  | @reached last hEntered hTimeout =>
      refine .reached ?_ TGPSession.enter_timeoutAt
      rw [hops_snoc]
      refine .hop hEntered hCan hErrored ?_
      intro seconds hSeconds
      rw [hSeconds] at hTimeout
      exact toNat_le_of_not_timedOut hTimeout hTime

/- A call without effect keeps the session on track. -/
theorem OnTrack.same
    (hTrack : OnTrack es session)
    (hNone : call.hop? = none) :
    OnTrack (es ++ [⟨session, call, session'⟩]) session := by
  have hHops :
      hops (es ++ [⟨session, call, session'⟩]) = hops es := by
    rw [hops_snoc, hNone]
    exact List.append_nil _
  cases hTrack with
  | errored hState => exact .errored hState
  | idle hState hTimeout hFirst =>
      exact .idle hState hTimeout (hHops.trans hFirst)
  | reached hEntered hTimeout =>
      refine .reached ?_ hTimeout
      rw [hHops]
      exact hEntered

/- A call that reads the clock once keeps it on track. -/
theorem step_onTrack
    (hStep : system.Step session call session')
    (hReads : call.operation.ReadsOnce)
    (hTrack : OnTrack es session) :
    OnTrack (es ++ [⟨session, call, session'⟩]) session' := by
  rcases call with ⟨operation, result⟩
  cases operation with
  | setTimeout seconds now => exact hReads.elim
  | clearTimeout => exact hReads.elim
  | forceError now =>
      cases hStep
      exact .errored rfl
  | transition target checkedAt now =>
      have hOnce : checkedAt = now := hReads
      subst hOnce
      have hTransition :
          session.transition target checkedAt checkedAt =
            (result, session') := hStep
      rcases session.transition_cases target checkedAt
          checkedAt with
        ⟨e, hError, _⟩ | ⟨hTime, hCan, hEnter⟩
      · rw [hError] at hTransition
        cases hTransition
        exact hTrack.same rfl
      · rw [hEnter] at hTransition
        cases hTransition
        exact hTrack.enter hTime hCan

end Tgp

end BorderController

------------------------------------------------------------
-- The Whole Handshake
------------------------------------------------------------

namespace BorderController

namespace Tgp

variable {es : List (Transition TGPSession Call)}
variable {session : TGPSession}
variable {state target : TGPState}
variable {last t : UInt64}
variable {entered : List (TGPState × UInt64)}

/- No hop leads to the idle state. -/
theorem Hops.ne_idle
    (hHops : Hops state last entered) :
    state ≠ .idle := by
  rintro rfl
  cases hHops with
  | @hop state _ last _ _ hBefore hCan =>
      cases state <;> contradiction

/- The query is the first hop. -/
theorem Hops.of_querySent
    (hHops : Hops .querySent t entered) :
    entered = [(.querySent, t)] := by
  cases hHops with
  | query => rfl
  | @hop state _ last _ _ hBefore hCan =>
      cases state with
      | idle => exact absurd rfl hBefore.ne_idle
      | _ => contradiction

/- A hop by its own, out of the one state that leads there. -/
theorem Hops.exists_front
    {seconds : UInt64}
    (hHops : Hops target t entered)
    (hNotQuery : target ≠ .querySent)
    (hOnly :
      ∀ {before : TGPState},
        before.canTransitionTo target = true →
        before = state)
    (hSeconds : state.timeoutSeconds = some seconds) :
    ∃ last front,
      Hops state last front ∧
        entered = front ++ [(target, t)] ∧
        t.toNat ≤ last.toNat + seconds.toNat := by
  cases hHops with
  | query => exact absurd rfl hNotQuery
  | @hop before _ last _ front hBefore hCan _ hTime =>
      cases hOnly hCan
      exact ⟨last, front, hBefore, rfl,
        hTime seconds hSeconds⟩

theorem Hops.handshake
    (hHops : Hops .settled t entered) :
    ∃ queried offered accepted finalized,
      entered =
          [ (.querySent, queried), (.offerReceived, offered),
            (.acceptSent, accepted), (.finalizing, finalized),
            (.settled, t) ] ∧
        offered.toNat ≤ queried.toNat + 30 ∧
        accepted.toNat ≤ offered.toNat + 300 ∧
        finalized.toNat ≤ accepted.toNat + 60 ∧
        t.toNat ≤ finalized.toNat + 600 := by
  rcases hHops.exists_front (by simp)
      (fun {before} hCan => by
        cases before <;> first | rfl | contradiction)
      (rfl : TGPState.finalizing.timeoutSeconds = _) with
    ⟨finalized, _, hFinalizing, hEntered, hSettle⟩
  rcases hFinalizing.exists_front (by simp)
      (fun {before} hCan => by
        cases before <;> first | rfl | contradiction)
      (rfl : TGPState.acceptSent.timeoutSeconds = _) with
    ⟨accepted, _, hAcceptSent, hFront, hFinalize⟩
  rcases hAcceptSent.exists_front (by simp)
      (fun {before} hCan => by
        cases before <;> first | rfl | contradiction)
      (rfl : TGPState.offerReceived.timeoutSeconds = _) with
    ⟨offered, _, hOffer, hFront', hAccept⟩
  rcases hOffer.exists_front (by simp)
      (fun {before} hCan => by
        cases before <;> first | rfl | contradiction)
      (rfl : TGPState.querySent.timeoutSeconds = _) with
    ⟨queried, _, hQuery, hFront'', hOffered⟩
  rw [hQuery.of_querySent] at hFront''
  subst hEntered hFront hFront' hFront''
  exact ⟨queried, offered, accepted, finalized, rfl, hOffered,
    hAccept, hFinalize, hSettle⟩

/- A run that reads the clock once a call stays on track. -/
theorem onTrack_of_path
    {sessionId : String}
    {now : UInt64}
    (hPath : system.Path (.new sessionId now) es session)
    (hReads : ∀ tr ∈ es, tr.label.operation.ReadsOnce) :
    OnTrack es session := by
  revert hReads
  refine hPath.historyInvariant
    (fun es session =>
      (∀ tr ∈ es, tr.label.operation.ReadsOnce) →
        OnTrack es session) ?_ ?_
  · intro _
    exact .idle rfl rfl rfl
  · intro es session call session' _ hTrack hStep hReads
    have hLast : call.operation.ReadsOnce :=
      hReads ⟨session, call, session'⟩ (by simp)
    apply step_onTrack hStep hLast
    apply hTrack
    intro tr hMem
    exact hReads tr (List.mem_append_left _ hMem)

/-
  A session that ends settled has gone through the handshake,
  each step within the time-out of the one before, and calls
  that failed have left it as it was.
-/
theorem handshake_of_settled
    {sessionId : String}
    {now : UInt64}
    (hPath : system.Path (.new sessionId now) es session)
    (hReads : ∀ tr ∈ es, tr.label.operation.ReadsOnce)
    (hSettled : session.state = .settled) :
    (∃ queried offered accepted finalized settled,
      hops es =
          [ (.querySent, queried), (.offerReceived, offered),
            (.acceptSent, accepted), (.finalizing, finalized),
            (.settled, settled) ] ∧
        offered.toNat ≤ queried.toNat + 30 ∧
        accepted.toNat ≤ offered.toNat + 300 ∧
        finalized.toNat ≤ accepted.toNat + 60 ∧
        settled.toNat ≤ finalized.toNat + 600 ∧
        settled.toNat ≤ queried.toNat + 990) ∧
      ∀ tr ∈ es, ∀ e,
        tr.label.result = .error e →
        tr.target = tr.source := by
  constructor
  · have hTrack := onTrack_of_path hPath hReads
    cases hTrack with
    | errored hState =>
        rw [hSettled] at hState
        contradiction
    | idle hState =>
        rw [hSettled] at hState
        contradiction
    | reached hEntered =>
        rw [hSettled] at hEntered
        rcases hEntered.handshake with
          ⟨queried, offered, accepted, finalized, hHops,
            hOffer, hAccept, hFinalize, hSettle⟩
        exact ⟨queried, offered, accepted, finalized, _, hHops,
          hOffer, hAccept, hFinalize, hSettle, by omega⟩
  · intro tr hMem e hFailed
    rcases List.append_of_mem hMem with
      ⟨before, after, hEs⟩
    subst hEs
    exact step_failed hPath.split.2.1 hFailed

/- The operations recorded are the operations played. -/
theorem play_operations
    (operations : List Operation)
    (session : TGPSession) :
    (play operations session).1.map
        (fun tr => tr.label.operation) =
      operations := by
  induction operations generalizing session with
  | nil => rfl
  | cons operation operations ih =>
      exact congrArg (operation :: ·) (ih _)

/- A handshake with a premature settlement in between. -/
def eagerHandshake : List Operation :=
  [ .transition .querySent 0 0,
    .transition .offerReceived 30 30,
    .transition .settled 31 31,
    .transition .acceptSent 330 330,
    .transition .finalizing 390 390,
    .transition .settled 990 990 ]

/- The longest time a settled handshake can take. -/
theorem eager_handshake :
    ∃ queried settled,
      (hops (play eagerHandshake (.new "sess-123" 0)).1).head? =
          some (.querySent, queried) ∧
        (hops
          (play eagerHandshake
            (.new "sess-123" 0)).1).getLast? =
          some (.settled, settled) ∧
        settled.toNat ≤ queried.toNat + 990 := by
  have hReads :
      ∀ tr ∈ (play eagerHandshake (.new "sess-123" 0)).1,
        tr.label.operation.ReadsOnce := by
    have hAll :
        ∀ operation ∈ eagerHandshake,
          operation.ReadsOnce := by
      simp [eagerHandshake, Operation.ReadsOnce]
    intro tr hMem
    apply hAll
    rw [← play_operations eagerHandshake (.new "sess-123" 0)]
    exact List.mem_map_of_mem hMem
  rcases
      (handshake_of_settled
        (play_path eagerHandshake (.new "sess-123" 0)) hReads
        rfl).1 with
    ⟨queried, _, _, _, settled, hHops, _, _, _, _, hTotal⟩
  rw [hHops]
  exact ⟨queried, settled, rfl, rfl, hTotal⟩

end Tgp

end BorderController

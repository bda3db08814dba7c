import BorderController.Tgp.State
import BorderController.Library.Transition

/-
  Runs of a TGP session, and how they end.

  A session past its time-out can only be failed by force, and
  force fails a settled session as well.

  Key definitions include:
    * `Operation`, `Call`
    * `system`, `IsRun`
    * `Fails`
    * `Call.Forces`

  Key theorems include:
    * `step_errored`, `step_settled`
    * `fails_iff`
    * `terminal_of_path`
-/

------------------------------------------------------------
-- Operations
------------------------------------------------------------

namespace BorderController

namespace Tgp

/- The operations, with the clock readings they make. -/
inductive Operation where
  | transition (newState : TGPState) (checkedAt now : UInt64)
  | setTimeout (seconds now : UInt64)
  | clearTimeout
  | forceError (now : UInt64)
deriving DecidableEq, Repr

/- An operation with what it returned. -/
structure Call where
  operation : Operation
  result : Except TGPStateError Unit

def Operation.perform
    (operation : Operation)
    (session : TGPSession) :
    Except TGPStateError Unit × TGPSession :=
  match operation with
  | .transition newState checkedAt now =>
      session.transition newState checkedAt now
  | .setTimeout seconds now =>
      (.ok (), session.setTimeout seconds now)
  | .clearTimeout => (.ok (), session.clearTimeout)
  | .forceError now => (.ok (), session.forceError now)

def system : TransitionSystem TGPSession Call where
  Step session call session' :=
    call.operation.perform session = (call.result, session')

/- The calls `es`, one after another on a new session. -/
def IsRun
    (es : List (Transition TGPSession Call))
    (session : TGPSession) :
    Prop :=
  ∃ sessionId now,
    system.Path (.new sessionId now) es session

/- Record the calls of a list of operations. -/
def play :
    List Operation → TGPSession →
      List (Transition TGPSession Call) × TGPSession
  | [], session => ([], session)
  | operation :: operations, session =>
      let next := operation.perform session
      let rest := play operations next.2
      (⟨session, { operation, result := next.1 }, next.2⟩ ::
          rest.1, rest.2)

theorem play_path
    (operations : List Operation)
    (session : TGPSession) :
    system.Path session (play operations session).1
      (play operations session).2 := by
  induction operations generalizing session with
  | nil => exact .nil session
  | cons operation operations ih => exact .cons rfl (ih _)

theorem play_isRun
    (operations : List Operation)
    (sessionId : String)
    (now : UInt64) :
    IsRun (play operations (.new sessionId now)).1
      (play operations (.new sessionId now)).2 :=
  ⟨sessionId, now, play_path operations _⟩

end Tgp

end BorderController

------------------------------------------------------------
-- Failing Through the Protocol
------------------------------------------------------------

namespace BorderController

namespace Tgp

/-
  The transition to `errored` succeeds and leaves the session
  errored, without a time-out.
-/
def Fails
    (checkedAt now : UInt64)
    (session : TGPSession) :
    Prop :=
  ∃ after,
    session.transition .errored checkedAt now =
        (.ok (), after) ∧
      after.state = .errored ∧
      after.timeoutAt = none

/- The query is sent at time zero. -/
def queried : List Operation :=
  [.transition .querySent 0 0]

theorem fails_iff
    {session : TGPSession}
    (hActive : session.state.isTerminal = false)
    (checkedAt now : UInt64) :
    Fails checkedAt now session ↔
      session.isTimedOut checkedAt = false := by
  constructor
  · rintro ⟨after, hOk, _, _⟩
    exact (TGPSession.transition_eq_ok_iff.mp hOk).1
  · intro hTime
    refine ⟨session.enter .errored now, ?_, rfl, rfl⟩
    apply TGPSession.transition_eq_ok_iff.mpr
    refine ⟨hTime, ?_, rfl⟩
    rw [TGPState.canTransitionTo_errored, hActive]
    rfl

/- A query that times out after 30 seconds is still pending. -/
theorem overdue_not_fails :
    ∃ es session,
      IsRun es session ∧
        session.state.isTerminal = false ∧
        ¬ Fails 31 31 session := by
  refine ⟨_, _, play_isRun queried "sess-123" 0, rfl, ?_⟩
  rintro ⟨after, hOk, _⟩
  have hTime := (TGPSession.transition_eq_ok_iff.mp hOk).1
  contradiction

theorem punctual_fails :
    Fails 30 30 (play queried (.new "sess-123" 0)).2 :=
  (fails_iff rfl 30 30).mpr rfl

end Tgp

end BorderController

------------------------------------------------------------
-- Terminal States
------------------------------------------------------------

namespace BorderController

namespace Tgp

variable {session session' : TGPSession}
variable {call : Call}

/- The call is a forced error. -/
def Call.Forces (call : Call) : Prop :=
  ∃ now, call.operation = .forceError now

/- The session that the operation of the call leaves. -/
theorem step_target
    (hStep : system.Step session call session') :
    (call.operation.perform session).2 = session' :=
  congrArg Prod.snd hStep

/- No call leads out of the error. -/
theorem step_errored
    (hStep : system.Step session call session')
    (hErrored : session.state = .errored) :
    session'.state = .errored := by
  have hAfter := step_target hStep
  cases hOperation : call.operation with
  | transition newState checkedAt now =>
      rw [hOperation] at hAfter
      have hSame :=
        @TGPSession.transition_of_terminal session newState
          checkedAt now (by rw [hErrored]; rfl)
      rw [← hAfter]
      exact (congrArg TGPSession.state hSame).trans hErrored
  | setTimeout seconds now =>
      rw [hOperation] at hAfter
      rw [← hAfter]
      exact hErrored
  | clearTimeout =>
      rw [hOperation] at hAfter
      rw [← hAfter]
      exact hErrored
  | forceError now =>
      rw [hOperation] at hAfter
      rw [← hAfter]
      rfl

/- Only force leads out of a settlement. -/
theorem step_settled
    (hStep : system.Step session call session')
    (hSettled : session.state = .settled) :
    (¬ call.Forces ∧ session'.state = .settled) ∨
      call.Forces ∧ session'.state = .errored := by
  have hAfter := step_target hStep
  unfold Call.Forces
  cases hOperation : call.operation with
  | transition newState checkedAt now =>
      rw [hOperation] at hAfter
      have hSame :=
        @TGPSession.transition_of_terminal session newState
          checkedAt now (by rw [hSettled]; rfl)
      left
      refine ⟨by simp, ?_⟩
      rw [← hAfter]
      exact (congrArg TGPSession.state hSame).trans hSettled
  | setTimeout seconds now =>
      rw [hOperation] at hAfter
      rw [← hAfter]
      exact Or.inl ⟨by simp, hSettled⟩
  | clearTimeout =>
      rw [hOperation] at hAfter
      rw [← hAfter]
      exact Or.inl ⟨by simp, hSettled⟩
  | forceError now =>
      rw [hOperation] at hAfter
      rw [← hAfter]
      exact Or.inr ⟨⟨now, rfl⟩, rfl⟩

theorem errored_of_path
    {es : List (Transition TGPSession Call)}
    (hPath : system.Path session es session')
    (hErrored : session.state = .errored) :
    session'.state = .errored :=
  hPath.invariant (fun session => session.state = .errored)
    hErrored (fun hBefore hStep => step_errored hStep hBefore)

/- A settlement lasts until the first forced error. -/
theorem settled_of_path
    {es : List (Transition TGPSession Call)}
    (hPath : system.Path session es session')
    (hSettled : session.state = .settled) :
    ((∀ tr ∈ es, ¬ tr.label.Forces) ∧
        session'.state = .settled) ∨
      (∃ tr ∈ es, tr.label.Forces) ∧
        session'.state = .errored := by
  induction hPath with
  | nil session => exact Or.inl ⟨by simp, hSettled⟩
  | @cons before middle after call es hStep hRest ih =>
      rcases step_settled hStep hSettled with
        ⟨hNot, hMiddle⟩ | ⟨hForces, hMiddle⟩
      · rcases ih hMiddle with
          ⟨hNone, hAfter⟩ | ⟨⟨tr, hMem, hForces⟩, hAfter⟩
        · left
          refine ⟨?_, hAfter⟩
          intro tr hMem
          rcases List.mem_cons.mp hMem with hFirst | hLater
          · rw [hFirst]
            exact hNot
          · exact hNone tr hLater
        · exact Or.inr
            ⟨⟨tr, List.mem_cons_of_mem _ hMem, hForces⟩,
              hAfter⟩
      · right
        refine ⟨⟨_, List.mem_cons_self, hForces⟩, ?_⟩
        exact errored_of_path hRest hMiddle

theorem terminal_of_path
    {es : List (Transition TGPSession Call)}
    (hPath : system.Path session es session') :
    (session.state = .errored →
        session'.state = .errored) ∧
      (session.state = .settled →
        (session'.state = .settled ↔
            ∀ tr ∈ es, ¬ tr.label.Forces) ∧
          (session'.state = .errored ↔
            ∃ tr ∈ es, tr.label.Forces)) := by
  refine ⟨errored_of_path hPath, ?_⟩
  intro hSettled
  rcases settled_of_path hPath hSettled with
    ⟨hNone, hAfter⟩ | ⟨⟨tr, hMem, hForces⟩, hAfter⟩
  · rw [hAfter]
    refine ⟨iff_of_true rfl hNone, iff_of_false (by simp) ?_⟩
    rintro ⟨tr, hMem, hForces⟩
    exact hNone tr hMem hForces
  · rw [hAfter]
    refine ⟨iff_of_false (by simp) ?_,
      iff_of_true rfl ⟨tr, hMem, hForces⟩⟩
    intro hNone
    exact hNone tr hMem hForces

/- The whole handshake, in time. -/
def handshake : List Operation :=
  [ .transition .querySent 0 0,
    .transition .offerReceived 1 1,
    .transition .acceptSent 2 2,
    .transition .finalizing 3 3,
    .transition .settled 4 4 ]

/- A settled session that is reported as failed. -/
theorem forced_after_settled :
    ∃ es session es' session',
      IsRun es session ∧
        session.state = .settled ∧
        system.Path session es' session' ∧
        session'.state ≠ .settled := by
  refine ⟨_, _, _, _, play_isRun handshake "sess-123" 0, rfl,
    play_path [.forceError 5] _, ?_⟩
  decide

theorem settled_handshake :
    (play [.setTimeout 10 5, .transition .errored 6 6]
        (play handshake (.new "sess-123" 0)).2).2.state =
      .settled := by
  apply
    (((terminal_of_path (play_path _ _)).2 rfl).1).mpr
  intro tr hMem
  rintro ⟨now, hForce⟩
  rcases List.mem_cons.mp hMem with hFirst | hRest
  · rw [hFirst] at hForce
    contradiction
  · rw [List.mem_singleton.mp hRest] at hForce
    contradiction

end Tgp

end BorderController

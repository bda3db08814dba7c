import BorderController.Tgp.Session
import Mathlib.Algebra.Group.Nat.Defs

/-
  Which TGP sessions can still settle.

  By transitions alone, and with a clock that does not go back,
  a session can settle as long as it is neither terminal nor
  timed out.  Once timed out it stays as it is for good.

  Key definitions include:
    * `TGPState.next`
    * `TransitionsFrom`
    * `CanSettle`

  Key theorems include:
    * `stuck_of_path`
    * `exists_settling`
    * `canSettle_iff`
-/

------------------------------------------------------------
-- Transitions From a Moment On
------------------------------------------------------------

namespace BorderController

namespace Tgp

/-
  The calls are transitions.  Each reads the clock twice, and
  reads no time before `now`.
-/
def TransitionsFrom
    (now : UInt64)
    (es : List (Transition TGPSession Call)) :
    Prop :=
  ∀ tr ∈ es,
    ∃ newState checkedAt enteredAt,
      now ≤ checkedAt ∧
        checkedAt ≤ enteredAt ∧
        tr.label.operation =
          .transition newState checkedAt enteredAt

/- Some transitions from `now` on settle the session. -/
def CanSettle (now : UInt64) (session : TGPSession) : Prop :=
  ∃ es settled,
    system.Path session es settled ∧
      TransitionsFrom now es ∧
      settled.state = .settled

/- The next state of the handshake. -/
def TGPState.next : TGPState → TGPState
  | .idle => .querySent
  | .querySent => .offerReceived
  | .offerReceived => .acceptSent
  | .acceptSent => .finalizing
  | .finalizing => .settled
  | .settled => .settled
  | .errored => .errored

/- How many transitions the handshake still takes. -/
def TGPState.remaining : TGPState → Nat
  | .idle => 5
  | .querySent => 4
  | .offerReceived => 3
  | .acceptSent => 2
  | .finalizing => 1
  | .settled => 0
  | .errored => 0

end Tgp

end BorderController

------------------------------------------------------------
-- Sessions That Are Stuck
------------------------------------------------------------

namespace BorderController

namespace Tgp

variable {session session' : TGPSession}
variable {now t : UInt64}
variable {newState : TGPState}
variable {es : List (Transition TGPSession Call)}

/- What has timed out stays timed out. -/
theorem isTimedOut_of_le
    (hTimedOut : session.isTimedOut now = true)
    (hLater : now ≤ t) :
    session.isTimedOut t = true := by
  unfold TGPSession.isTimedOut at hTimedOut ⊢
  cases hTimeout : session.timeoutAt with
  | none =>
      rw [hTimeout] at hTimedOut
      contradiction
  | some timeout =>
      rw [hTimeout] at hTimedOut
      simp only [decide_eq_true_eq, gt_iff_lt] at hTimedOut ⊢
      exact UInt64.lt_of_lt_of_le hTimedOut hLater

/- A session that is terminal or timed out stays as it is. -/
theorem stuck_of_path
    (hPath : system.Path session es session')
    (hCalls : TransitionsFrom now es)
    (hStuck :
      session.state.isTerminal = true ∨
        session.isTimedOut now = true) :
    session' = session := by
  have hKept :
      session' = session ∧
        (session'.state.isTerminal = true ∨
          session'.isTimedOut now = true) := by
    refine hPath.stable
      (fun tr : Transition TGPSession Call =>
        ∃ newState checkedAt enteredAt,
          now ≤ checkedAt ∧
            checkedAt ≤ enteredAt ∧
            tr.label.operation =
              .transition newState checkedAt enteredAt)
      (fun other =>
        other = session ∧
          (other.state.isTerminal = true ∨
            other.isTimedOut now = true))
      ?_ hCalls ⟨rfl, hStuck⟩
    rintro before call after
      ⟨newState, checkedAt, enteredAt, hLater, _, hOperation⟩
      ⟨hSame, hEnd⟩ hStep
    have hAfter :
        (before.transition newState checkedAt enteredAt).2 =
          after := by
      have hPerform :
          call.operation.perform before =
            (call.result, after) := hStep
      simp only at hOperation
      rw [hOperation] at hPerform
      exact congrArg Prod.snd hPerform
    have hNone : after = before := by
      rw [← hAfter]
      rcases hEnd with hTerminal | hTimedOut
      · exact TGPSession.transition_of_terminal hTerminal
      · rcases
          before.transition_cases newState checkedAt enteredAt
          with ⟨e, hError, _⟩ | ⟨hTime, _⟩
        · exact congrArg Prod.snd hError
        · rw [isTimedOut_of_le hTimedOut hLater] at hTime
          contradiction
    rw [hNone]
    exact ⟨hSame, hEnd⟩
  exact hKept.1

end Tgp

end BorderController

------------------------------------------------------------
-- Sessions That Go On
------------------------------------------------------------

namespace BorderController

namespace Tgp

variable {session : TGPSession}
variable {now : UInt64}

/- A state just entered has not timed out. -/
theorem not_timedOut_enter
    (hClock : now.toNat + 600 < 2 ^ 64)
    (newState : TGPState) :
    (session.enter newState now).isTimedOut now = false := by
  have hAdd :
      ∀ seconds : UInt64,
        seconds.toNat ≤ 600 → ¬ now + seconds < now := by
    intro seconds hSeconds hOver
    rw [UInt64.lt_iff_toNat_lt, UInt64.toNat_add,
      Nat.mod_eq_of_lt (by omega)] at hOver
    omega
  unfold TGPSession.isTimedOut TGPSession.enter
  cases newState <;>
    simp [TGPState.timeoutSeconds] <;>
    exact UInt64.not_lt.mp (hAdd _ (by decide))

theorem TGPState.canTransitionTo_next
    {state : TGPState}
    (hActive : state.isTerminal = false) :
    state.canTransitionTo state.next = true := by
  cases state <;> first | rfl | contradiction

/- The steps left are taken, all at the same moment. -/
theorem exists_settling
    (hClock : now.toNat + 600 < 2 ^ 64)
    (n : Nat)
    (hRemaining : session.state.remaining = n)
    (hGood : session.state ≠ .errored)
    (hTime : session.isTimedOut now = false) :
    ∃ es settled,
      system.Path session es settled ∧
        TransitionsFrom now es ∧
        settled.state = .settled := by
  induction n generalizing session with
  | zero =>
      refine ⟨[], session, .nil session, ?_, ?_⟩
      · intro tr hMem
        exact absurd hMem List.not_mem_nil
      · cases hState : session.state <;>
          simp [hState, TGPState.remaining]
            at hRemaining hGood ⊢
  | succ n ih =>
      have hActive : session.state.isTerminal = false := by
        cases hState : session.state <;>
          simp [hState, TGPState.remaining]
            at hRemaining hGood <;> rfl
      have hNext :
          session.state.next.remaining = n ∧
            session.state.next ≠ .errored := by
        cases hState : session.state <;>
          simp [hState, TGPState.remaining, TGPState.next]
            at hRemaining hGood ⊢ <;> omega
      have hStep :
          session.transition session.state.next now now =
            (.ok (), session.enter session.state.next now) :=
        TGPSession.transition_eq_ok_iff.mpr
          ⟨hTime, TGPState.canTransitionTo_next hActive, rfl⟩
      rcases @ih (session.enter session.state.next now)
          hNext.1 hNext.2
          (not_timedOut_enter hClock _) with
        ⟨es, settled, hPath, hCalls, hSettled⟩
      refine
        ⟨⟨session,
            { operation := .transition session.state.next now now
              result := .ok () },
            session.enter session.state.next now⟩ :: es,
          settled, .cons hStep hPath, ?_, hSettled⟩
      intro tr hMem
      rcases List.mem_cons.mp hMem with hHere | hLater
      · subst hHere
        exact
          ⟨_, now, now, UInt64.le_refl now,
            UInt64.le_refl now, rfl⟩
      · exact hCalls tr hLater

end Tgp

end BorderController

------------------------------------------------------------
-- What Can Settle
------------------------------------------------------------

namespace BorderController

namespace Tgp

/-
  Settled sessions have settled.  Of the others just those that
  are active and in time can still get there.
-/
theorem canSettle_iff
    {session : TGPSession}
    {now : UInt64}
    (hClock : now.toNat + 600 < 2 ^ 64) :
    CanSettle now session ↔
      session.state = .settled ∨
        session.state.isTerminal = false ∧
          session.isTimedOut now = false := by
  constructor
  · rintro ⟨es, settled, hPath, hCalls, hSettled⟩
    by_cases hStuck :
        session.state.isTerminal = true ∨
          session.isTimedOut now = true
    · left
      rw [← hSettled, stuck_of_path hPath hCalls hStuck]
    · right
      simpa using hStuck
  · rintro (hSettled | ⟨hActive, hTime⟩)
    · refine ⟨[], session, .nil session, ?_, hSettled⟩
      intro tr hMem
      exact absurd hMem List.not_mem_nil
    · have hGood : session.state ≠ .errored := by
        intro hErrored
        rw [hErrored] at hActive
        contradiction
      exact exists_settling hClock _ rfl hGood hTime

/- A query sent at zero is in time for thirty seconds. -/
theorem canSettle_queried :
    (30 : UInt64).toNat + 600 < 2 ^ 64 ∧
      CanSettle 30 (play queried (.new "session" 0)).2 :=
  ⟨by decide,
    (canSettle_iff (by decide)).mpr
      (.inr ⟨by decide, by decide⟩)⟩

end Tgp

end BorderController

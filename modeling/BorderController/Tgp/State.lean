import Mathlib.Logic.Basic

/-
  The TGP session state machine.

  The clock is read by the caller: every method takes the
  readings it makes.  `transition` makes two, one for the
  time-out check and one for the time stamps.

  Key definitions include:
    * `TGPState`
    * `TGPState.canTransitionTo`
    * `TGPSession`
    * `TGPSession.transition`
    * `TGPSession.remainingTimeout`
    * `TGPSession.forceError`
    * `TGPSession.TimeoutsAgree`

  Key theorems include:
    * `TGPSession.transition_cases`
    * `TGPSession.transition_eq_ok_iff`
    * `TGPSession.timeoutsAgree_iff`
-/

------------------------------------------------------------
-- States
------------------------------------------------------------

namespace BorderController

namespace Tgp

inductive TGPState where
  | idle
  | querySent
  | offerReceived
  | acceptSent
  | finalizing
  | settled
  | errored
deriving DecidableEq, Repr

namespace TGPState

def isTerminal : TGPState → Bool
  | settled => true
  | errored => true
  | _ => false

def canTransitionTo
    (state target : TGPState) :
    Bool :=
  if state.isTerminal then
    false
  else
    match state, target with
    | idle, querySent => true
    | querySent, offerReceived => true
    | querySent, errored => true
    | offerReceived, acceptSent => true
    | offerReceived, errored => true
    | acceptSent, finalizing => true
    | acceptSent, errored => true
    | finalizing, settled => true
    | finalizing, errored => true
    | _, errored => true
    | _, _ => false

def timeoutSeconds : TGPState → Option UInt64
  | querySent => some 30
  | offerReceived => some 300
  | finalizing => some 600
  | idle => none
  | acceptSent => some 60
  | settled => none
  | errored => none

end TGPState

inductive TGPStateError where
  | invalidTransition (oldState newState : TGPState)
  | sessionTimeout (timeout : UInt64)
  | terminalState (state : TGPState)
  | alreadyInState (state : TGPState)
deriving DecidableEq, Repr

end Tgp

end BorderController

------------------------------------------------------------
-- Sessions
------------------------------------------------------------

namespace BorderController

namespace Tgp

structure TGPSession where
  sessionId : String
  state : TGPState
  queryId : Option String
  offerId : Option String
  createdAt : UInt64
  updatedAt : UInt64
  timeoutAt : Option UInt64
deriving DecidableEq, Repr

namespace TGPSession

def new (sessionId : String) (now : UInt64) : TGPSession :=
  { sessionId
    state := .idle
    queryId := none
    offerId := none
    createdAt := now
    updatedAt := now
    timeoutAt := none }

def isTimedOut (now : UInt64) (session : TGPSession) : Bool :=
  match session.timeoutAt with
  | some timeout => now > timeout
  | none => false

/- The session in a new state, with its time-out. -/
def enter
    (newState : TGPState)
    (now : UInt64)
    (session : TGPSession) :
    TGPSession :=
  { session with
    state := newState
    updatedAt := now
    timeoutAt :=
      match newState.timeoutSeconds with
      | some timeoutSeconds => some (now + timeoutSeconds)
      | none => none }

/- The time-out comes before the other checks. -/
def transition
    (newState : TGPState)
    (checkedAt now : UInt64)
    (session : TGPSession) :
    Except TGPStateError Unit × TGPSession :=
  if session.isTimedOut checkedAt then
    (.error (.sessionTimeout (session.timeoutAt.getD 0)),
      session)
  else if session.state = newState then
    (.error (.alreadyInState newState), session)
  else if session.state.isTerminal then
    (.error (.terminalState session.state), session)
  else if ¬ session.state.canTransitionTo newState then
    (.error (.invalidTransition session.state newState),
      session)
  else
    (.ok (), session.enter newState now)

def setTimeout
    (seconds now : UInt64)
    (session : TGPSession) :
    TGPSession :=
  { session with timeoutAt := some (now + seconds) }

def clearTimeout (session : TGPSession) : TGPSession :=
  { session with timeoutAt := none }

/- The seconds left; nothing once they are over. -/
def remainingTimeout
    (now : UInt64)
    (session : TGPSession) :
    Option UInt64 :=
  match session.timeoutAt with
  | some timeout =>
      if now < timeout then some (timeout - now) else none
  | none => none

/- No check at all. -/
def forceError
    (now : UInt64)
    (session : TGPSession) :
    TGPSession :=
  { session with
    state := .errored
    updatedAt := now
    timeoutAt := none }

end TGPSession

end Tgp

end BorderController

------------------------------------------------------------
-- Outcomes of a Transition
------------------------------------------------------------

namespace BorderController

namespace Tgp

/- Every state that is not terminal may fail. -/
theorem TGPState.canTransitionTo_errored
    {state : TGPState} :
    state.canTransitionTo .errored = !state.isTerminal := by
  cases state <;> rfl

theorem TGPState.not_terminal_of_canTransitionTo
    {state target : TGPState}
    (hCan : state.canTransitionTo target = true) :
    state.isTerminal = false := by
  unfold canTransitionTo at hCan
  split at hCan
  · contradiction
  · rename_i hTerminal
    simpa using hTerminal

/- No state may be entered from itself. -/
theorem TGPState.ne_of_canTransitionTo
    {state target : TGPState}
    (hCan : state.canTransitionTo target = true) :
    state ≠ target := by
  intro hSame
  subst hSame
  cases state <;> contradiction

namespace TGPSession

variable {session : TGPSession}
variable {newState : TGPState}
variable {checkedAt now : UInt64}

/- A transition fails without a trace, or enters the state. -/
theorem transition_cases
    (newState : TGPState)
    (checkedAt now : UInt64)
    (session : TGPSession) :
    (∃ e,
        session.transition newState checkedAt now =
            (.error e, session) ∧
          ((∃ timeout, e = .sessionTimeout timeout) ↔
            session.isTimedOut checkedAt = true)) ∨
      session.isTimedOut checkedAt = false ∧
        session.state.canTransitionTo newState = true ∧
        session.transition newState checkedAt now =
          (.ok (), session.enter newState now) := by
  unfold transition
  by_cases hTimedOut : session.isTimedOut checkedAt = true
  · rw [if_pos hTimedOut]
    exact Or.inl ⟨_, rfl, by simp [hTimedOut]⟩
  rw [if_neg hTimedOut]
  by_cases hSame : session.state = newState
  · rw [if_pos hSame]
    exact Or.inl ⟨_, rfl, by simp [hTimedOut]⟩
  rw [if_neg hSame]
  by_cases hTerminal : session.state.isTerminal = true
  · rw [if_pos hTerminal]
    exact Or.inl ⟨_, rfl, by simp [hTimedOut]⟩
  rw [if_neg hTerminal]
  by_cases hCan :
      session.state.canTransitionTo newState = true
  · rw [if_neg (not_not.mpr hCan)]
    exact Or.inr ⟨by simpa using hTimedOut, hCan, rfl⟩
  · rw [if_pos hCan]
    exact Or.inl ⟨_, rfl, by simp [hTimedOut]⟩

/- When a transition succeeds, and what it leaves. -/
theorem transition_eq_ok_iff
    {after : TGPSession} :
    session.transition newState checkedAt now =
        (.ok (), after) ↔
      session.isTimedOut checkedAt = false ∧
        session.state.canTransitionTo newState = true ∧
        session.enter newState now = after := by
  constructor
  · intro hOk
    rcases session.transition_cases newState checkedAt now
      with ⟨e, hError, _⟩ | ⟨hTime, hCan, hEnter⟩
    · rw [hError] at hOk
      cases hOk
    · rw [hEnter] at hOk
      cases hOk
      exact ⟨hTime, hCan, rfl⟩
  · rintro ⟨hTime, hCan, hEnter⟩
    subst hEnter
    have hNotTerminal :=
      TGPState.not_terminal_of_canTransitionTo hCan
    unfold transition
    rw [if_neg (by simp [hTime]),
      if_neg (TGPState.ne_of_canTransitionTo hCan),
      if_neg (by simp [hNotTerminal]),
      if_neg (not_not.mpr hCan)]

/- A terminal session makes no transition. -/
theorem transition_of_terminal
    (hTerminal : session.state.isTerminal = true) :
    (session.transition newState checkedAt now).2 =
      session := by
  rcases session.transition_cases newState checkedAt now with
    ⟨e, hError, _⟩ | ⟨_, hCan, _⟩
  · rw [hError]
  · rw [TGPState.not_terminal_of_canTransitionTo hCan]
      at hTerminal
    contradiction

end TGPSession

end Tgp

end BorderController

------------------------------------------------------------
-- The Time-Out Queries
------------------------------------------------------------

namespace BorderController

namespace Tgp

namespace TGPSession

variable {session : TGPSession}
variable {newState : TGPState}
variable {checkedAt now : UInt64}

theorem isTimedOut_eq_true_iff :
    session.isTimedOut now = true ↔
      ∃ timeout,
        session.timeoutAt = some timeout ∧ timeout < now := by
  unfold isTimedOut
  cases session.timeoutAt with
  | none => simp
  | some timeout => simp

theorem remainingTimeout_eq_none_iff :
    session.remainingTimeout now = none ↔
      ∀ timeout,
        session.timeoutAt = some timeout →
          timeout ≤ now := by
  unfold remainingTimeout
  cases session.timeoutAt with
  | none => simp
  | some timeout => simp

/- The time-out check is the only source of its error. -/
theorem transition_sessionTimeout_iff :
    (∃ timeout,
        (session.transition newState checkedAt now).1 =
          .error (.sessionTimeout timeout)) ↔
      session.isTimedOut checkedAt = true := by
  rcases session.transition_cases newState checkedAt now with
    ⟨e, hError, hTimeout⟩ | ⟨hTime, _, hEnter⟩
  · rw [hError, ← hTimeout]
    simp only [Except.error.injEq]
  · rw [hEnter]
    simp [hTime]

/-
  Nothing remains exactly when there is no time-out or it has
  passed, and the allowed transitions time out accordingly.
-/
def TimeoutsAgree
    (now : UInt64)
    (session : TGPSession) :
    Prop :=
  (session.remainingTimeout now = none ↔
      session.timeoutAt = none ∨
        session.isTimedOut now = true) ∧
    ∀ newState stamp,
      session.state.canTransitionTo newState = true →
        ((∃ timeout,
            (session.transition newState now stamp).1 =
              .error (.sessionTimeout timeout)) ↔
          session.timeoutAt.isSome = true ∧
            session.remainingTimeout now = none)

/- Only at the time-out itself do the comparisons differ. -/
theorem remainingTimeout_eq_none_iff_isTimedOut
    (hNow : session.timeoutAt ≠ some now) :
    session.remainingTimeout now = none ↔
      session.timeoutAt = none ∨
        session.isTimedOut now = true := by
  rw [remainingTimeout_eq_none_iff, isTimedOut_eq_true_iff]
  cases hTimeout : session.timeoutAt with
  | none => simp
  | some timeout =>
      have hNe : timeout ≠ now :=
        fun hSame => hNow (by rw [hTimeout, hSame])
      simp only [Option.some.injEq, forall_eq', reduceCtorEq,
        exists_eq_left', false_or]
      rw [UInt64.le_iff_toNat_le, UInt64.lt_iff_toNat_lt]
      have hValues : timeout.toNat ≠ now.toNat :=
        fun hSame => hNe (UInt64.toNat_inj.mp hSame)
      omega

theorem timeoutsAgree_iff
    (session : TGPSession)
    (now : UInt64) :
    session.TimeoutsAgree now ↔
      session.timeoutAt ≠ some now := by
  constructor
  · intro hAgree hNow
    have hNone : session.remainingTimeout now = none := by
      rw [remainingTimeout_eq_none_iff, hNow]
      rintro timeout ⟨⟩
      exact UInt64.le_refl now
    rcases hAgree.1.mp hNone with hUnset | hPassed
    · rw [hNow] at hUnset
      contradiction
    · rcases isTimedOut_eq_true_iff.mp hPassed with
        ⟨timeout, hTimeout, hLt⟩
      rw [hNow] at hTimeout
      cases hTimeout
      exact UInt64.lt_irrefl now hLt
  · intro hNow
    have hQueries :=
      remainingTimeout_eq_none_iff_isTimedOut hNow
    refine ⟨hQueries, ?_⟩
    intro newState stamp _
    rw [transition_sessionTimeout_iff, hQueries]
    constructor
    · intro hPassed
      rcases isTimedOut_eq_true_iff.mp hPassed with
        ⟨timeout, hTimeout, _⟩
      exact ⟨by rw [hTimeout]; rfl, Or.inr hPassed⟩
    · rintro ⟨hSome, hUnset | hPassed⟩
      · rw [hUnset] at hSome
        contradiction
      · exact hPassed

/-
  A query sent at time zero has nothing left at second 30, and
  the offer still arrives in time.
-/
theorem not_timeoutsAgree_at_timeout :
    let session :=
      ((new "sess-123" 0).transition .querySent 0 0).2
    session.timeoutAt = some 30 ∧
      session.remainingTimeout 30 = none ∧
      session.isTimedOut 30 = false ∧
      (session.transition .offerReceived 30 30).1 = .ok () ∧
      ¬ session.TimeoutsAgree 30 := by
  refine ⟨rfl, rfl, rfl, rfl, ?_⟩
  intro hAgree
  rcases hAgree.1.mp rfl with hUnset | hPassed
  · contradiction
  · contradiction

end TGPSession

end Tgp

end BorderController

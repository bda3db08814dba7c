import BorderController.CoreProverEscrow.Spec
import BorderController.Library.Transition

/-
  The contract on a chain: messages from anybody, block after
  block, with recipients that call back as they like.

  Key definitions include:
    * `Transaction`
    * `system`
    * `Reachable`, `Observable`
    * `replay`
    * `Kept`

  Key theorems include:
    * `Kept.reachable`, `Kept.observable`
    * `Reachable.call`, `Reachable.replay`
-/

------------------------------------------------------------
-- Transactions
------------------------------------------------------------

namespace BorderController

namespace CoreProverEscrow

/- A call that does not revert, or ether forced on the account. -/
inductive Transaction where
  | call (timestamp : Nat) (msg : Message)
  | force (amount : Nat)
deriving DecidableEq, Repr

inductive Transaction.Applies :
    World → Transaction → World → Prop
  | call
      {world world' : World} {timestamp : Nat}
      {msg : Message} :
      world.timestamp ≤ timestamp →
      Reentrancy.Runs contract
        (contract.entry msg { world with timestamp }) world' →
      Applies world (.call timestamp msg) world'
  | force {world : World} (amount : Nat) :
      Applies world (.force amount) (world.force amount)

def system : TransitionSystem World Transaction where
  Step := Transaction.Applies

/- A world that some transactions lead to after deployment. -/
def Reachable (world : World) : Prop :=
  ∃ timestamp balance es,
    system.Path (.deployed timestamp balance) es world

/-
  A world that anybody can find: between transactions, or as
  the recipient of a payment in the middle of one.
-/
def Observable (world : World) : Prop :=
  Reachable world ∨
    ∃ before timestamp msg,
      Reachable before ∧
        before.timestamp ≤ timestamp ∧
          Reentrancy.Sees contract
            (contract.entry msg { before with timestamp })
            world

/- Every recipient accepts ether. -/
def accepting : Payment → Bool :=
  fun _ => true

/-
  Make calls in turn, each at its block time, with recipients
  that call nobody back; `none` is a revert.
-/
def replay
    (accepts : Payment → Bool) :
    List (Nat × Message) → World → Option World
  | [], world => some world
  | (timestamp, msg) :: calls, world =>
      if world.timestamp ≤ timestamp then
        match call accepts timestamp msg world with
        | none => none
        | some (after, _) => replay accepts calls after
      else
        none

end CoreProverEscrow

end BorderController

------------------------------------------------------------
-- Invariants of the Contract
------------------------------------------------------------

namespace BorderController

namespace CoreProverEscrow

/-
  A property that holds after deployment and that every body
  keeps, whatever the recipients do.
-/
structure Kept (I : World → Prop) : Prop where
  deployed : ∀ timestamp balance, I (.deployed timestamp balance)
  later :
    ∀ world timestamp, I world → I { world with timestamp }
  force : ∀ world amount, I world → I (world.force amount)
  entry :
    ∀ msg world,
      I world → (contract.entry msg world).Keeps contract I

variable {world world' : World}
variable {I : World → Prop}

theorem Kept.drift
    (hKept : Kept I)
    (hDrift : contract.drift world world')
    (hWorld : I world) :
    I world' := by
  rcases hDrift with ⟨amount, hForced⟩
  rw [hForced]
  exact hKept.force world amount hWorld

theorem Kept.reachable
    (hKept : Kept I)
    (hReach : Reachable world) :
    I world := by
  rcases hReach with ⟨timestamp, balance, es, hPath⟩
  apply hPath.invariant I (hKept.deployed timestamp balance)
  intro before tx after hBefore hStep
  cases hStep with
  | @call _ time msg hLater hRuns =>
      apply Reentrancy.Runs.keeps hKept.entry
        (fun _ _ => hKept.drift) hRuns
      exact hKept.entry msg _ (hKept.later before time hBefore)
  | force amount => exact hKept.force before amount hBefore

theorem Kept.observable
    (hKept : Kept I)
    (hObservable : Observable world) :
    I world := by
  rcases hObservable with
    hReach | ⟨before, time, msg, hReach, _, hSees⟩
  · exact hKept.reachable hReach
  · apply hSees.keeps hKept.entry (fun _ _ => hKept.drift)
    apply hKept.entry
    apply hKept.later
    exact hKept.reachable hReach

theorem Reachable.observable
    (hReach : Reachable world) :
    Observable world :=
  .inl hReach

/- A call to quiet recipients leads to a reachable world. -/
theorem Reachable.call
    {accepts : Payment → Bool}
    {timestamp : Nat}
    {msg : Message}
    {result : Returned}
    (hReach : Reachable world)
    (hLater : world.timestamp ≤ timestamp)
    (hCall :
      CoreProverEscrow.call accepts timestamp msg world =
        some (world', result)) :
    Reachable world' := by
  rcases hReach with ⟨start, balance, es, hPath⟩
  have hRuns := Reentrancy.runs_of_settle hCall
  exact ⟨start, balance, _,
    hPath.snoc (Transaction.Applies.call hLater hRuns)⟩

theorem Reachable.deployed (timestamp balance : Nat) :
    Reachable (.deployed timestamp balance) :=
  ⟨timestamp, balance, [], .nil _⟩

theorem replay_cons
    {accepts : Payment → Bool}
    {timestamp : Nat}
    {msg : Message}
    {calls : List (Nat × Message)}
    (hReplay :
      replay accepts ((timestamp, msg) :: calls) world =
        some world') :
    world.timestamp ≤ timestamp ∧
      ∃ after result,
        call accepts timestamp msg world =
            some (after, result) ∧
          replay accepts calls after = some world' := by
  unfold replay at hReplay
  split at hReplay
  · split at hReplay
    · contradiction
    · exact ⟨‹_›, _, _, ‹_›, hReplay⟩
  · contradiction

theorem Reachable.replay
    {accepts : Payment → Bool}
    {calls : List (Nat × Message)}
    (hReach : Reachable world)
    (hReplay :
      CoreProverEscrow.replay accepts calls world =
        some world') :
    Reachable world' := by
  induction calls generalizing world with
  | nil =>
      cases hReplay
      exact hReach
  | cons first calls ih =>
      rcases first with ⟨timestamp, msg⟩
      rcases replay_cons hReplay with
        ⟨hLater, after, result, hCall, hRest⟩
      exact ih (hReach.call hLater hCall) hRest

end CoreProverEscrow

end BorderController

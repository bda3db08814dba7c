import BorderController.CoreProverEscrow.Lifecycle
import BorderController.Library.CallbackFree
import Mathlib.Data.List.Perm.Basic

/-
  Calling back the contract gains nobody anything.

  A function of the contract writes before it pays, and emits
  its events afterwards.  So the calls made while it pays lead
  to what they would lead to as transactions of their own after
  it, and only the events come in another order.

  Key definitions include:
    * `World.Matches`
    * `World.OnTerms`
    * `serialSystem`

  Key theorems include:
    * `Message.leads`, `contract_paysLast`
    * `path_serial`
    * `callback_free`
-/

------------------------------------------------------------
-- Worlds But for Their Events
------------------------------------------------------------

namespace BorderController

namespace CoreProverEscrow

/-
  The serial world differs in its events alone, and those are
  the events of the other world with the owed ones.
-/
def World.Matches
    (owed : List Event)
    (world serial : World) :
    Prop :=
  ∃ events,
    serial = { world with events } ∧
      (world.events ++ owed).Perm events

namespace World.Matches

variable {world serial : World}
variable {owed : List Event}

theorem refl (world : World) : world.Matches [] world :=
  ⟨world.events, rfl, by rw [List.append_nil]⟩

theorem emit
    (hMatches : world.Matches owed serial)
    (event : Event) :
    (world.emit event).Matches owed (serial.emit event) := by
  rcases hMatches with ⟨events, rfl, hPerm⟩
  refine ⟨events ++ [event], rfl, ?_⟩
  calc
    (world.events ++ [event] ++ owed).Perm
        (world.events ++ (owed ++ [event])) := by
      rw [List.append_assoc]
      exact List.perm_append_comm.append_left _
    _ = world.events ++ owed ++ [event] :=
      (List.append_assoc ..).symm
    List.Perm _ (events ++ [event]) := hPerm.append_right _

theorem enter
    (hMatches : world.Matches owed serial)
    (msg : Message) :
    (world.enter msg).Matches owed (serial.enter msg) := by
  rcases hMatches with ⟨events, rfl, hPerm⟩
  exact ⟨events, rfl, hPerm⟩

theorem force
    (hMatches : world.Matches owed serial)
    (amount : Nat) :
    (world.force amount).Matches owed (serial.force amount) := by
  rcases hMatches with ⟨events, rfl, hPerm⟩
  exact ⟨events, rfl, hPerm⟩

theorem later
    (hMatches : world.Matches owed serial)
    (timestamp : Nat) :
    World.Matches owed { world with timestamp }
      { serial with timestamp } := by
  rcases hMatches with ⟨events, rfl, hPerm⟩
  exact ⟨events, rfl, hPerm⟩

end World.Matches

end CoreProverEscrow

end BorderController

------------------------------------------------------------
-- Terms of an Order
------------------------------------------------------------

namespace BorderController

namespace CoreProverEscrow

/- The parties of an order and its price. -/
structure Escrow.SameTerms (escrow escrow' : Escrow) : Prop where
  buyer : escrow'.buyer = escrow.buyer
  seller : escrow'.seller = escrow.seller
  buyerAmount : escrow'.buyerAmount = escrow.buyerAmount

/- The order has been created, on the terms of the record. -/
structure World.OnTerms
    (orderId : Bytes32)
    (escrow : Escrow)
    (world : World) :
    Prop where
  created : (world.escrows orderId).state ≠ .none
  terms : escrow.SameTerms (world.escrows orderId)

variable {world after : World}
variable {msg : Message}
variable {orderId other : Bytes32}
variable {escrow record : Escrow}

theorem World.OnTerms.sameFunds
    (hTerms : world.OnTerms orderId escrow)
    (hSame : World.SameFunds world after) :
    after.OnTerms orderId escrow := by
  constructor
  · rw [hSame.escrows]
    exact hTerms.created
  · rw [hSame.escrows]
    exact hTerms.terms

theorem onTerms_setEscrow
    (hCreated : escrow.state ≠ .none) :
    (world.setEscrow orderId escrow).OnTerms orderId escrow := by
  constructor
  · rw [World.escrows_setEscrow_self]
    exact hCreated
  · rw [World.escrows_setEscrow_self]
    exact ⟨rfl, rfl, rfl⟩

/- Whoever writes the order has to leave its terms alone. -/
theorem World.OnTerms.write
    (hTerms : world.OnTerms orderId escrow)
    (hRecord :
      other = orderId →
      record.state ≠ .none ∧
        (world.escrows orderId).SameTerms record) :
    (world.setEscrow other record).OnTerms orderId escrow := by
  by_cases hOther : orderId = other
  · subst hOther
    rcases hRecord rfl with ⟨hCreated, hRecord⟩
    constructor
    · rw [World.escrows_setEscrow_self]
      exact hCreated
    · rw [World.escrows_setEscrow_self]
      exact
        ⟨hRecord.buyer.trans hTerms.terms.buyer,
          hRecord.seller.trans hTerms.terms.seller,
          hRecord.buyerAmount.trans hTerms.terms.buyerAmount⟩
  · constructor
    · rw [World.escrows_setEscrow_of_ne hOther]
      exact hTerms.created
    · rw [World.escrows_setEscrow_of_ne hOther]
      exact hTerms.terms

theorem World.OnTerms.entry
    (hTerms : world.OnTerms orderId escrow) :
    (contract.entry msg world).Keeps contract
      (World.OnTerms orderId escrow) := by
  have hShape := msg.shape (world.enter msg)
  show (msg.body (world.enter msg)).Keeps contract _
  have hEntered : (world.enter msg).OnTerms orderId escrow :=
    ⟨hTerms.created, hTerms.terms⟩
  generalize msg.body (world.enter msg) = proc at hShape
  cases hShape with
  | reverts reason => trivial
  | @creates other record after result _ hFresh _ _ _ _ hSame =>
      refine World.OnTerms.sameFunds (hEntered.write ?_) hSame
      intro hOther
      rw [hOther] at hFresh
      exact absurd hFresh hEntered.created
  | @deposits other after result _ _ _ _ hSame =>
      refine World.OnTerms.sameFunds (hEntered.write ?_) hSame
      rintro rfl
      exact ⟨nofun, rfl, rfl, rfl⟩
  | @signs other after result _ _ _ _ _ hSame =>
      refine World.OnTerms.sameFunds (hEntered.write ?_) hSame
      rintro rfl
      exact ⟨nofun, rfl, rfl, rfl⟩
  | @pays other payment record resume _ _ _ hPays hResume =>
      have hWritten :
          ((world.enter msg).setEscrow other record).OnTerms
            orderId escrow := by
        apply hEntered.write
        rintro rfl
        cases hPays <;> exact ⟨nofun, rfl, rfl, rfl⟩
      constructor
      · intro paid hPay
        rcases World.pay_eq_some hPay with ⟨_, hPaid⟩
        rw [hPaid]
        exact ⟨hWritten.created, hWritten.terms⟩
      · intro resumed hResumed
        rcases hResume resumed with
          ⟨after, result, hFinish, hSame⟩
        rw [hFinish]
        exact hResumed.sameFunds hSame

/- Recipients of payments cannot change the terms. -/
theorem World.OnTerms.interlude
    (hTerms : world.OnTerms orderId escrow)
    (hBetween : Reentrancy.Interlude contract world after) :
    after.OnTerms orderId escrow := by
  refine hBetween.keeps
    (fun msg world hTerms => hTerms.entry) ?_ hTerms
  rintro world _ ⟨amount, rfl⟩ hTerms
  exact ⟨hTerms.created, hTerms.terms⟩

end CoreProverEscrow

end BorderController

------------------------------------------------------------
-- Every Function Pays Last
------------------------------------------------------------

namespace BorderController

namespace CoreProverEscrow

variable {world serial before : World}
variable {msg : Message}
variable {owed events : List Event}
variable {escrow : Escrow}
variable {payment : Payment}
variable {result : Returned}

private theorem leads_finish
    {after after' : World}
    (hMatches : after.Matches owed after') :
    (Reentrancy.Proc.finish after result : Proc).Leads contract
      World.Matches owed (.finish after' result) :=
  ⟨after', ⟨result, rfl⟩, hMatches⟩

/-
  What a function emits after its payment depends on nothing
  that recipients could have changed, so that it is as well
  emitted before they are called.
-/
private theorem leads_transfer
    {resume : World → Proc}
    (tail : Escrow → List Event)
    (result : Returned)
    (hPerm : (before.events ++ owed).Perm events)
    (hTerms : before.OnTerms payment.orderId escrow)
    (hTail :
      ∀ record, escrow.SameTerms record →
        tail record = tail escrow)
    (hResume :
      ∀ world, resume world =
        .finish
          { world with
            events :=
              world.events ++
                tail (world.escrows payment.orderId) }
          result) :
    (Reentrancy.Proc.transfer before payment resume : Proc).Leads
      contract World.Matches owed
      (.transfer { before with events } payment resume) := by
  intro paid hPay
  rcases World.pay_eq_some hPay with ⟨hCovered, hPaid⟩
  have hTermsPaid : paid.OnTerms payment.orderId escrow := by
    rw [hPaid]
    exact ⟨hTerms.created, hTerms.terms⟩
  have hEvents : paid.events = before.events := by
    rw [hPaid]
  have hPay' :
      contract.pay payment { before with events } =
        some { paid with events } := by
    rw [hPaid]
    exact if_pos hCovered
  refine ⟨owed ++ tail escrow,
    { paid with events := events ++ tail escrow }, ?_, ?_, ?_⟩
  · refine ⟨result, ?_⟩
    unfold Reentrancy.Proc.settle
    simp only [if_true, hPay', hResume]
    unfold Reentrancy.Proc.settle
    simp only [hTail _ hTermsPaid.terms]
  · refine ⟨_, rfl, ?_⟩
    rw [hEvents, ← List.append_assoc]
    exact hPerm.append_right _
  · rintro resumed _ hBetween ⟨events', rfl, hPerm'⟩
    have hTermsResumed := hTermsPaid.interlude hBetween
    refine ⟨_, result, hResume resumed, events', rfl, ?_⟩
    rw [hTail _ hTermsResumed.terms]
    refine List.Perm.trans ?_ hPerm'
    rw [List.append_assoc]
    exact List.perm_append_comm.append_left _

/- Two worlds that match are left matching by any function. -/
theorem Message.leads
    (msg : Message)
    (hMatches : world.Matches owed serial) :
    (msg.body world).Leads contract World.Matches owed
      (msg.body serial) := by
  rcases hMatches with ⟨events, rfl, hPerm⟩
  unfold Message.body
  cases msg.function with
  | createEscrow orderId seller commitmentWindow claimWindow
      allowsTimedRelease timedReleaseDelay =>
      refine .unless fun _ => .unless fun _ => .unless fun _ => ?_
      dsimp only
      cases checkedAdd world.timestamp commitmentWindow with
      | none => trivial
      | some commitmentDeadline =>
          dsimp only
          cases checkedAdd commitmentDeadline claimWindow with
          | none => trivial
          | some claimDeadline =>
              dsimp only
              split
              · trivial
              · apply leads_finish
                refine World.Matches.emit ?_ _
                exact ⟨events, rfl, hPerm⟩
  | sellerCommitEscrow orderId =>
      refine .unless fun _ => .unless fun _ => .unless fun _ => ?_
      apply leads_finish
      refine World.Matches.emit ?_ _
      exact ⟨events, rfl, hPerm⟩
  | sellerCommitSignature orderId signature businessName
      businessLicense documentHash =>
      refine .unless fun _ => .unless fun _ =>
        .unless fun _ => .unless fun _ => ?_
      apply leads_finish
      refine World.Matches.emit ?_ _
      exact ⟨events, rfl, hPerm⟩
  | sellerClaimPayment orderId =>
      refine .unless fun _ => .unless fun _ =>
        .unless fun _ => .unless fun _ => ?_
      refine leads_transfer
        (fun escrow =>
          [.paymentClaimed orderId escrow.seller orderId.toNat])
        (.uint256 orderId.toNat) hPerm (onTerms_setEscrow nofun)
        ?_ fun _ => rfl
      intro record hSame
      rw [hSame.seller]
  | buyerClaimCounterEscrow orderId =>
      refine .unless fun _ => .unless fun _ =>
        .unless fun _ => .unless fun _ => .unless fun _ => ?_
      refine leads_transfer
        (fun escrow =>
          [.counterEscrowClaimed orderId escrow.buyer
            (world.escrows orderId).sellerAmount])
        (.uint256 (world.escrows orderId).sellerAmount) hPerm
        (onTerms_setEscrow ?_) ?_ fun _ => rfl
      · dsimp only
        split <;> exact nofun
      · intro record hSame
        rw [hSame.buyer]
  | triggerTimedRelease orderId =>
      refine .unless fun _ => .unless fun _ =>
        .unless fun _ => .unless fun _ => ?_
      refine leads_transfer
        (fun escrow =>
          [.timedReleaseTriggered orderId,
            .paymentClaimed orderId escrow.seller
              orderId.toNat])
        .nothing hPerm (onTerms_setEscrow nofun) ?_ ?_
      · intro record hSame
        rw [hSame.seller]
      · intro world
        simp [World.emit]
  | refundBuyerTimeout orderId =>
      refine .unless fun _ => .unless fun _ => .unless fun _ => ?_
      refine leads_transfer
        (fun escrow =>
          [.refundProcessed orderId escrow.buyer
            escrow.buyerAmount])
        .nothing hPerm (onTerms_setEscrow nofun) ?_ fun _ => rfl
      intro record hSame
      rw [hSame.buyer, hSame.buyerAmount]

end CoreProverEscrow

end BorderController

------------------------------------------------------------
-- Transactions One After Another
------------------------------------------------------------

namespace BorderController

namespace CoreProverEscrow

/-
  The contract on a chain where every recipient accepts its
  ether and calls nobody back.
-/
def serialSystem : TransitionSystem World Transaction where
  Step world tx after :=
    match tx with
    | .call timestamp msg =>
        world.timestamp ≤ timestamp ∧
          ∃ result,
            call accepting timestamp msg world =
              some (after, result)
    | .force amount => after = world.force amount

variable {world start serial before after : World}
variable {es : List (Transition World Transaction)}

/- Calls at the present time are transactions. -/
theorem path_of_serial
    (hSerial : Reentrancy.Serial contract world after) :
    ∃ fs, serialSystem.Path world fs after := by
  induction hSerial with
  | done world => exact ⟨[], .nil world⟩
  | @drift world middle after hDrift _ ih =>
      rcases hDrift with ⟨amount, hForced⟩
      rcases ih with ⟨fs, hPath⟩
      have hStep :
          serialSystem.Step world (.force amount) middle :=
        hForced
      exact ⟨_, .cons hStep hPath⟩
  | @call world middle after msg hCall _ ih =>
      rcases ih with ⟨fs, hPath⟩
      have hStep :
          serialSystem.Step world
            (.call world.timestamp msg) middle :=
        ⟨le_refl _, hCall⟩
      exact ⟨_, .cons hStep hPath⟩

theorem contract_paysLast :
    Reentrancy.PaysLast contract World.Matches := by
  constructor
  · intro owed msg world serial hMatches
    exact msg.leads (hMatches.enter msg)
  · rintro owed world _ serial ⟨amount, rfl⟩ hMatches
    exact ⟨serial.force amount, ⟨amount, rfl⟩,
      hMatches.force amount⟩

/-
  The transactions of a run, each followed by the calls that
  were made in it, lead to the world of the run.
-/
theorem path_serial
    (hPath : system.Path start es world)
    (hMatches : start.Matches [] before) :
    ∃ fs serial,
      serialSystem.Path before fs serial ∧
        (es.map Transition.label).Sublist
          (fs.map Transition.label) ∧
          world.Matches [] serial := by
  induction hPath generalizing before with
  | nil world =>
      exact ⟨[], before, .nil before, .slnil, hMatches⟩
  | @cons start middle world tx es hStep _ ih =>
      cases hStep with
      | force amount =>
          rcases ih (hMatches.force amount) with
            ⟨fs, serial, hRest, hLabels, hLast⟩
          have hForce :
              serialSystem.Step before (.force amount)
                (before.force amount) := rfl
          exact ⟨_, serial, .cons hForce hRest,
            hLabels.cons_cons _, hLast⟩
      | @call _ timestamp msg hLater hRuns =>
          rcases hRuns.serial contract_paysLast
              (contract_paysLast.entry _ msg _ _
                (hMatches.later timestamp))
            with ⟨called, settled, hCall, hSerial, hMiddle⟩
          rcases path_of_serial hSerial with ⟨gs, hCalls⟩
          rcases ih hMiddle with
            ⟨fs, serial, hRest, hLabels, hLast⟩
          have hTime : before.timestamp = start.timestamp := by
            rcases hMatches with ⟨events, rfl, _⟩
            rfl
          have hFirst :
              serialSystem.Step before
                (.call timestamp msg) called :=
            ⟨hTime ▸ hLater, hCall⟩
          refine ⟨_, serial,
            .cons hFirst (hCalls.append hRest), ?_, hLast⟩
          rw [List.map_cons, List.map_cons, List.map_append]
          exact (hLabels.trans
            (List.sublist_append_right _ _)).cons_cons _

end CoreProverEscrow

end BorderController

------------------------------------------------------------
-- Runs Without Callbacks
------------------------------------------------------------

namespace BorderController

namespace CoreProverEscrow

variable {world : World}
variable {timestamp balance : Nat}
variable {es : List (Transition World Transaction)}

/-
  Every run has a run without callbacks that makes the same
  transactions, and more in between, with the same storage,
  balance and history and the same events, if in another order.
  What a recipient sees in the middle of a payment is, but for
  events still to come, what such a run leads to as well.
-/
theorem callback_free
    (hPath : system.Path (.deployed timestamp balance) es world) :
    ∃ fs serial,
      serialSystem.Path (.deployed timestamp balance) fs
          serial ∧
        (es.map Transition.label).Sublist
          (fs.map Transition.label) ∧
          world.Matches [] serial ∧
            ∀ time msg seen,
              world.timestamp ≤ time →
              Reentrancy.Sees contract
                (contract.entry msg
                  { world with timestamp := time })
                seen →
              ∃ gs owed serial',
                serialSystem.Path serial gs serial' ∧
                  seen.Matches owed serial' := by
  rcases path_serial hPath (.refl _) with
    ⟨fs, serial, hSerial, hLabels, hMatches⟩
  refine ⟨fs, serial, hSerial, hLabels, hMatches, ?_⟩
  intro time msg seen hLater hSees
  rcases hSees.serial contract_paysLast
      (contract_paysLast.entry _ msg _ _
        (hMatches.later time)) with
    ⟨owed, called, settled, hCall, hCalls, hSeen⟩
  rcases path_of_serial hCalls with ⟨gs, hRest⟩
  have hTime : serial.timestamp = world.timestamp := by
    rcases hMatches with ⟨events, rfl, _⟩
    rfl
  have hFirst :
      serialSystem.Step serial (.call time msg) called :=
    ⟨hTime ▸ hLater, hCall⟩
  exact ⟨_, owed, settled, .cons hFirst hRest, hSeen⟩

/- The buyer takes the 40 while the seller is paid the 500. -/
theorem callback_free_meanwhile :
    ∃ es world,
      system.Path (.deployed 1000 0) es world ∧
        world.events =
          [ .escrowCreated 7 0xB0B 0x5E11 500,
            .bothCommitted 7,
            .counterEscrowClaimed 7 0xB0B 40,
            .paymentClaimed 7 0x5E11 7 ] ∧
          ∃ fs serial,
            serialSystem.Path (.deployed 1000 0) fs serial ∧
              world.Matches [] serial := by
  have hPath :
      system.Path (.deployed 1000 0)
        [ ⟨_, .call 1000
              ⟨0xB0B, 500,
                .createEscrow 7 0x5E11 86400 604800 false 0⟩,
            _⟩,
          ⟨_, .call 2000 ⟨0x5E11, 40, .sellerCommitEscrow 7⟩,
            _⟩,
          ⟨_, .call 3000 ⟨0x5E11, 0, .sellerClaimPayment 7⟩,
            _⟩ ]
        _ :=
    .cons (.call (le_refl _) (.finish _ _))
      (.cons (.call (by decide) (.finish _ _))
        (.cons
          (.call (by decide)
            (.transfer rfl
              (.call ⟨0xB0B, 0, .buyerClaimCounterEscrow 7⟩
                (.transfer rfl (.quiet _) (.finish _ _))
                (.quiet _))
              (.finish _ _)))
          (.nil _)))
  rcases callback_free hPath with
    ⟨fs, serial, hSerial, _, hMatches, _⟩
  exact ⟨_, _, hPath, rfl, fs, serial, hSerial, hMatches⟩

end CoreProverEscrow

end BorderController

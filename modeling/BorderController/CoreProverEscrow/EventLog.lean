import BorderController.CoreProverEscrow.Lifecycle
import Mathlib.Data.List.Perm.Basic

/-
  The event log as seen from outside: it tells what became of
  every order, in whatever order the events were emitted.

  A function that pays emits its events after the payment, so
  the recipient can have emitted others in between.  While it
  is paid, the event is owed.

  Key definitions include:
    * `told`, `stateTold`
    * `Moment.announcement`
    * `World.Announced`

  Key theorems include:
    * `Message.notes`
    * `World.Announced.entry`
    * `events_tell`
-/

------------------------------------------------------------
-- Events of an Order
------------------------------------------------------------

namespace BorderController

namespace CoreProverEscrow

def Event.orderId : Event → Bytes32
  | .escrowCreated orderId _ _ _ => orderId
  | .bothCommitted orderId => orderId
  | .paymentClaimed orderId _ _ => orderId
  | .counterEscrowClaimed orderId _ _ => orderId
  | .timedReleaseTriggered orderId => orderId
  | .refundProcessed orderId _ _ => orderId

/- The event that a payment is released by its time. -/
def Event.isRelease : Event → Bool
  | .timedReleaseTriggered _ => true
  | _ => false

/- The events of an order that tell of ether or a commitment. -/
def told
    (orderId : Bytes32)
    (events : List Event) :
    List Event :=
  events.filter fun event =>
    event.orderId = orderId && !event.isRelease

/- The event that goes with a moment of an order's history. -/
def Moment.announcement
    (orderId : Bytes32)
    (escrow : Escrow) :
    Moment → Event
  | .created sender amount _ =>
      .escrowCreated orderId sender escrow.seller amount
  | .committed _ _ _ => .bothCommitted orderId
  | .sent .payment recipient _ _ =>
      .paymentClaimed orderId recipient orderId.toNat
  | .sent .counterEscrow recipient amount _ =>
      .counterEscrowClaimed orderId recipient amount
  | .sent .refund recipient amount _ =>
      .refundProcessed orderId recipient amount

/-
  The events emitted and those still owed are, up to order, the
  announcements of what happened to the orders.
-/
def World.Announced (owed : List Event) (world : World) : Prop :=
  ∀ orderId,
    (told orderId (world.events ++ owed)).Perm
      ((history orderId world.trace).map
        (Moment.announcement orderId
          (world.escrows orderId)))

variable {orderId : Bytes32}
variable {event : Event}
variable {events owed : List Event}

theorem told_append
    (orderId : Bytes32)
    (events events' : List Event) :
    told orderId (events ++ events') =
      told orderId events ++ told orderId events' :=
  List.filter_append ..

theorem told_singleton
    (hOrder : event.orderId = orderId)
    (hTells : event.isRelease = false) :
    told orderId [event] = [event] := by
  simp [told, hOrder, hTells]

theorem told_singleton_of_ne
    (hOther : event.orderId ≠ orderId) :
    told orderId [event] = [] := by
  simp [told, hOther]

theorem told_of_releases
    (hReleases : ∀ event ∈ events, event.isRelease = true) :
    told orderId events = [] := by
  unfold told
  rw [List.filter_eq_nil_iff]
  intro event hMem
  simp [hReleases event hMem]

/- It does not matter where an event was inserted. -/
theorem told_insert_perm
    (orderId : Bytes32)
    (events owed : List Event)
    (event : Event) :
    (told orderId (events ++ [event] ++ owed)).Perm
      (told orderId (events ++ owed) ++
        told orderId [event]) := by
  simp only [told_append, List.append_assoc]
  exact (List.perm_append_comm).append_left _

end CoreProverEscrow

end BorderController

------------------------------------------------------------
-- What a Body Emits
------------------------------------------------------------

namespace BorderController

namespace CoreProverEscrow

/- The event of a deposit or a commitment. -/
def Message.notice (msg : Message) (escrow : Escrow) : Event :=
  match msg.function with
  | .createEscrow orderId _ _ _ _ _ =>
      .escrowCreated orderId msg.sender escrow.seller msg.value
  | function => .bothCommitted function.orderId

/- The event of a payment, read off the record. -/
def Payment.notice
    (payment : Payment)
    (escrow : Escrow) :
    Event :=
  match payment.purpose with
  | .payment =>
      .paymentClaimed payment.orderId escrow.seller
        payment.orderId.toNat
  | .counterEscrow =>
      .counterEscrowClaimed payment.orderId escrow.buyer
        payment.amount
  | .refund =>
      .refundProcessed payment.orderId escrow.buyer
        escrow.buyerAmount

@[simp] theorem Payment.notice_orderId
    (payment : Payment)
    (escrow : Escrow) :
    (payment.notice escrow).orderId = payment.orderId := by
  unfold Payment.notice
  cases payment.purpose <;> rfl

@[simp] theorem Payment.notice_isRelease
    (payment : Payment)
    (escrow : Escrow) :
    (payment.notice escrow).isRelease = false := by
  unfold Payment.notice
  cases payment.purpose <;> rfl

/-
  What a body emits: its one event at the end, and before it at
  most that of a timed release.
-/
def Notes (msg : Message) (world : World) : Proc → Prop
  | .revert _ => True
  | .finish after _ =>
      after.events =
        world.events ++
          [msg.notice (after.escrows msg.function.orderId)]
  | .transfer before payment resume =>
      before.events = world.events ∧
        ∀ world', ∃ after result extra,
          resume world' = .finish after result ∧
            World.SameFunds world' after ∧
              (∀ event ∈ extra, event.isRelease = true) ∧
                after.events =
                  world'.events ++ extra ++
                    [payment.notice
                      (world'.escrows payment.orderId)]

variable {msg : Message}
variable {world : World}
variable {orderId : Bytes32}

theorem Notes.unless
    {P : Prop}
    [Decidable P]
    {reason : String}
    {body : Proc}
    (hNotes : Notes msg world body) :
    Notes msg world (if P then .revert reason else body) := by
  split
  · trivial
  · exact hNotes

private theorem createEscrow_notes
    {seller : Address}
    {commitmentWindow claimWindow timedReleaseDelay : Nat}
    {allowsTimedRelease : Bool}
    (hFunction :
      msg.function =
        .createEscrow orderId seller commitmentWindow
          claimWindow allowsTimedRelease timedReleaseDelay) :
    Notes msg world
      (createEscrow orderId seller commitmentWindow claimWindow
        allowsTimedRelease timedReleaseDelay msg world) := by
  refine .unless (.unless (.unless ?_))
  split
  · trivial
  · split
    · trivial
    · split
      · trivial
      · unfold Notes Message.notice
        rw [hFunction]
        simp [World.emit, World.setEscrow,
          ExternalFunction.orderId]

/- Either way of committing emits the same. -/
private theorem commit_notes
    {escrow : Escrow}
    {result : Returned}
    (hFunction :
      msg.function = .sellerCommitEscrow orderId ∨
        ∃ signature businessName businessLicense documentHash,
          msg.function =
            .sellerCommitSignature orderId signature
              businessName businessLicense documentHash)
    (before : World)
    (hEvents : before.events = world.events) :
    Notes msg world
      (.finish
        ((before.setEscrow orderId escrow).emit
          (.bothCommitted orderId))
        result) := by
  unfold Notes Message.notice
  rcases hFunction with hFunction | ⟨_, _, _, _, hFunction⟩ <;>
  · rw [hFunction]
    simp [World.emit, World.setEscrow,
      ExternalFunction.orderId, hEvents]

/- Every body emits what belongs to it. -/
theorem Message.notes
    (msg : Message)
    (world : World) :
    Notes msg world (msg.body world) := by
  unfold Message.body
  cases hFunction : msg.function with
  | createEscrow orderId seller commitmentWindow claimWindow
      allowsTimedRelease timedReleaseDelay =>
      exact createEscrow_notes hFunction
  | sellerCommitEscrow orderId =>
      refine .unless (.unless (.unless ?_))
      exact commit_notes (.inl hFunction) world rfl
  | sellerCommitSignature orderId signature businessName
      businessLicense documentHash =>
      refine .unless (.unless (.unless (.unless ?_)))
      exact commit_notes (.inr ⟨_, _, _, _, hFunction⟩) _ rfl
  | sellerClaimPayment orderId =>
      refine .unless (.unless (.unless (.unless ?_)))
      exact ⟨rfl, fun world' => ⟨_, _, [], rfl,
        .emit (.refl world') _, by simp, by simp [World.emit,
          Payment.notice]⟩⟩
  | buyerClaimCounterEscrow orderId =>
      refine .unless (.unless (.unless (.unless (.unless ?_))))
      exact ⟨rfl, fun world' => ⟨_, _, [], rfl,
        .emit (.refl world') _, by simp, by simp [World.emit,
          Payment.notice]⟩⟩
  | triggerTimedRelease orderId =>
      refine .unless (.unless (.unless (.unless ?_)))
      exact ⟨rfl, fun world' => ⟨_, _,
        [.timedReleaseTriggered orderId], rfl,
        .emit (.emit (.refl world') _) _,
        by simp [Event.isRelease], by simp [World.emit,
          Payment.notice]⟩⟩
  | refundBuyerTimeout orderId =>
      refine .unless (.unless (.unless ?_))
      exact ⟨rfl, fun world' => ⟨_, _, [], rfl,
        .emit (.refl world') _, by simp, by simp [World.emit,
          Payment.notice]⟩⟩

end CoreProverEscrow

end BorderController

------------------------------------------------------------
-- Notices and Announcements
------------------------------------------------------------

namespace BorderController

namespace CoreProverEscrow

variable {world world' after : World}
variable {orderId : Bytes32}
variable {escrow escrow' : Escrow}
variable {payment : Payment}
variable {owed : List Event}

/- Whom an order has paid, and what it has refunded. -/
theorem Escrow.Lifecycle.sent
    {moments : List Moment}
    {purpose : Purpose}
    {recipient : Address}
    {amount time : Nat}
    (hLife : escrow.Lifecycle moments)
    (hMem :
      Moment.sent purpose recipient amount time ∈ moments) :
    (purpose = .payment → recipient = escrow.seller) ∧
      (purpose = .counterEscrow → recipient = escrow.buyer) ∧
        (purpose = .refund →
          recipient = escrow.buyer ∧
            amount = escrow.buyerAmount) := by
  cases hLife with
  | bothClaimed t u v w a _ _ _ _ =>
      simp only [List.mem_cons, Moment.sent.injEq,
        reduceCtorEq, List.not_mem_nil, or_false,
        false_or] at hMem
      rcases hMem with ⟨rfl, rfl, _⟩ | ⟨rfl, rfl, _⟩ <;> simp
  | _ => simp_all

/- A payment is announced by the notice read off its record. -/
theorem Escrow.Pays.notice
    {sender : Address}
    {time : Nat}
    (hPays :
      Escrow.Pays orderId sender time escrow payment escrow') :
    Moment.announcement orderId escrow'
        (.sent payment.purpose payment.recipient
          payment.amount time) =
      payment.notice escrow' := by
  cases hPays <;> rfl

/-
  A notice that is owed does not change while its recipient is
  called.
-/
theorem World.Announced.notice_eq
    (hConsistent : world.Consistent)
    (hAnnounced :
      world.Announced (owed ++ [payment.notice escrow])) :
    payment.notice (world.escrows payment.orderId) =
      payment.notice escrow := by
  have hTold :
      payment.notice escrow ∈
        told payment.orderId
          (world.events ++
            (owed ++ [payment.notice escrow])) := by
    simp [told]
  rw [(hAnnounced payment.orderId).mem_iff, List.mem_map]
    at hTold
  rcases hTold with ⟨moment, hMem, hEq⟩
  have hLife := hConsistent payment.orderId
  unfold Payment.notice at hEq ⊢
  cases moment with
  | created sender amount time =>
      cases hPurpose : payment.purpose <;>
        simp [Moment.announcement, hPurpose] at hEq
  | committed sender amount time =>
      cases hPurpose : payment.purpose <;>
        simp [Moment.announcement, hPurpose] at hEq
  | sent purpose recipient amount time =>
      have hSent := hLife.sent hMem
      cases hPurpose : payment.purpose <;>
        cases purpose <;>
          simp_all [Moment.announcement]

end CoreProverEscrow

end BorderController

------------------------------------------------------------
-- Announced Worlds
------------------------------------------------------------

namespace BorderController

namespace CoreProverEscrow

variable {world world' after : World}
variable {orderId : Bytes32}
variable {escrow : Escrow}
variable {event : Event}
variable {owed : List Event}

/- An order without a history has announced nothing. -/
private theorem announcement_congr
    {escrow escrow' : Escrow}
    {moments : List Moment}
    (hParties :
      moments = [] ∨ escrow'.seller = escrow.seller) :
    moments.map (Moment.announcement orderId escrow') =
      moments.map (Moment.announcement orderId escrow) := by
  rcases hParties with rfl | hSeller
  · rfl
  · apply List.map_congr_left
    intro moment _
    cases moment with
    | created sender amount time =>
        simp [Moment.announcement, hSeller]
    | committed sender amount time => rfl
    | sent purpose recipient amount time =>
        cases purpose <;> rfl

/-
  One moment of one order, and one event for it, emitted or
  owed.
-/
theorem World.Announced.write
    {entries : List Entry}
    {moment : Moment}
    {owed' : List Event}
    (hAnnounced : world.Announced owed)
    (hEvents :
      ∀ other,
        (told other (after.events ++ owed')).Perm
          (told other (world.events ++ owed) ++
            told other [event]))
    (hEscrows :
      after.escrows =
        Function.update world.escrows orderId escrow)
    (hTrace : after.trace = world.trace ++ entries)
    (hKey : history orderId entries = [moment])
    (hOther :
      ∀ other, other ≠ orderId → history other entries = [])
    (hParties :
      history orderId world.trace = [] ∨
        escrow.seller = (world.escrows orderId).seller)
    (hEvent :
      Moment.announcement orderId escrow moment = event)
    (hOrder : event.orderId = orderId)
    (hTells : event.isRelease = false) :
    after.Announced owed' := by
  intro other
  refine (hEvents other).trans ?_
  rw [hEscrows, hTrace, history_append, List.map_append]
  by_cases hSame : other = orderId
  · subst hSame
    rw [Function.update_self, hKey, told_singleton hOrder
      hTells, announcement_congr hParties, ← hEvent]
    exact (hAnnounced other).append_right _
  · have hNe : event.orderId ≠ other := by
      rw [hOrder]
      exact Ne.symm hSame
    rw [Function.update_of_ne hSame, hOther other hSame,
      told_singleton_of_ne hNe, List.append_nil]
    exact (hAnnounced other).trans (by simp)

end CoreProverEscrow

end BorderController

------------------------------------------------------------
-- Announcements Under Callbacks
------------------------------------------------------------

namespace BorderController

namespace CoreProverEscrow

variable {world world' after : World}
variable {msg : Message}
variable {orderId : Bytes32}
variable {escrow : Escrow}
variable {payment : Payment}
variable {owed : List Event}

/- A deposit or a commitment is announced where it is made. -/
private theorem announced_of_notes
    {moment : Moment}
    {result : Returned}
    (hAnnounced : world.Announced owed)
    (hNotes :
      Notes msg (world.enter msg) (.finish after result))
    (hOrder : msg.function.orderId = orderId)
    (hSame :
      World.SameFunds
        ((world.enter msg).setEscrow orderId escrow) after)
    (hMoment :
      msg.moment? orderId world.timestamp = some moment)
    (hParties :
      history orderId world.trace = [] ∨
        escrow.seller = (world.escrows orderId).seller)
    (hEvent :
      Moment.announcement orderId escrow moment =
        msg.notice escrow) :
    after.Announced owed := by
  have hNotice : (msg.notice escrow).orderId = orderId := by
    rw [← hEvent]
    cases moment with
    | created sender amount time => rfl
    | committed sender amount time => rfl
    | sent purpose recipient amount time =>
        cases purpose <;> rfl
  have hTells : (msg.notice escrow).isRelease = false := by
    unfold Message.notice
    cases msg.function <;> rfl
  have hRecord : after.escrows orderId = escrow := by
    rw [hSame.escrows]
    exact World.escrows_setEscrow_self _ _ _
  have hEvents : after.events = _ ++ [_] := hNotes
  rw [hOrder, hRecord] at hEvents
  refine hAnnounced.write ?_ hSame.escrows hSame.trace
    (history_called hMoment) ?_ hParties hEvent hNotice hTells
  · intro other
    rw [hEvents]
    exact told_insert_perm other world.events owed _
  · intro other hOther
    apply history_called_of_none
    apply Message.moment?_of_ne
    rw [hOrder]
    exact Ne.symm hOther

/- A payment owes its announcement until it has been made. -/
private theorem announced_of_pay
    {sender : Address}
    {paid : World}
    (hAnnounced : world.Announced owed)
    (hOrder : msg.function.orderId = orderId)
    (hOpens : msg.function.opens = false)
    (hPays :
      Escrow.Pays orderId sender world.timestamp
        (world.escrows orderId) payment escrow)
    (hPay :
      ((world.enter msg).setEscrow orderId escrow).pay
        payment = some paid) :
    paid.Announced (owed ++ [payment.notice escrow]) := by
  rcases World.pay_eq_some hPay with ⟨_, hPaid⟩
  subst hPaid
  have hSeller :
      escrow.seller = (world.escrows orderId).seller := by
    cases hPays <;> rfl
  have hPayment := hPays.orderId_eq
  refine hAnnounced.write ?_ rfl (List.append_assoc _ _ _) ?_
    ?_ (.inr hSeller) hPays.notice ?_ ?_
  · intro other
    rw [← told_append, List.append_assoc]
    exact List.Perm.refl _
  · rw [history_append,
      history_called_of_none
        (Message.moment?_of_not_opens hOpens),
      history_sent hPayment]
    rfl
  · intro other hOther
    have hNe : msg.function.orderId ≠ other := by
      rw [hOrder]
      exact Ne.symm hOther
    rw [history_append,
      history_called_of_none (Message.moment?_of_ne hNe),
      history_sent_of_ne (hPayment ▸ hOther.symm)]
    rfl
  · rw [Payment.notice_orderId, hPayment]
  · exact Payment.notice_isRelease _ _

/- The announcement that was owed is made. -/
private theorem announced_of_resume
    {extra : List Event}
    (hConsistent : world.Consistent)
    (hAnnounced :
      world.Announced (owed ++ [payment.notice escrow]))
    (hSame : World.SameFunds world after)
    (hExtra : ∀ event ∈ extra, event.isRelease = true)
    (hEvents :
      after.events =
        world.events ++ extra ++
          [payment.notice
            (world.escrows payment.orderId)]) :
    after.Announced owed := by
  rw [hAnnounced.notice_eq hConsistent] at hEvents
  intro orderId
  rw [hSame.escrows, hSame.trace]
  refine List.Perm.trans ?_ (hAnnounced orderId)
  rw [hEvents]
  refine (told_insert_perm orderId _ owed _).trans ?_
  simp only [told_append, told_of_releases hExtra,
    List.append_assoc]
  exact List.Perm.refl _

/-
  Every body makes its own announcements, and those that are
  owed when it is called stay owed.
-/
theorem World.Announced.entry
    (hConsistent : world.Consistent)
    (hAnnounced : world.Announced owed) :
    (contract.entry msg world).Discharges contract
      (fun owed world =>
        world.Consistent ∧ world.Announced owed)
      owed := by
  have hShape := msg.shape (world.enter msg)
  have hNotes := msg.notes (world.enter msg)
  have hKeeps :
      (msg.body (world.enter msg)).Keeps contract
        World.Consistent :=
    hConsistent.entry
  show (msg.body (world.enter msg)).Discharges contract _ owed
  generalize msg.body (world.enter msg) = proc
    at hShape hNotes hKeeps
  cases hShape with
  | reverts reason => trivial
  | @creates orderId escrow after result hFunction hFresh _
      _ _ _ hSame =>
      rcases hFunction with ⟨_, _, _, _, _, hFunction⟩
      refine ⟨hKeeps, ?_⟩
      refine announced_of_notes hAnnounced hNotes
        (by rw [hFunction]; rfl) hSame
        (msg.moment?_createEscrow hFunction _)
        (.inl ((hConsistent orderId).of_none hFresh)) ?_
      unfold Message.notice
      rw [hFunction]
      rfl
  | @deposits orderId after result hFunction _ _ _ hSame =>
      have hOrder : msg.function.orderId = orderId := by
        rw [hFunction]
        rfl
      refine ⟨hKeeps, ?_⟩
      refine announced_of_notes hAnnounced hNotes hOrder hSame
        (msg.moment?_of_commits hOrder (by rw [hFunction]; rfl)
          _)
        (.inr rfl) ?_
      unfold Message.notice
      rw [hFunction]
      rfl
  | @signs orderId after result hFunction _ _ _ _ hSame =>
      rcases hFunction with ⟨_, _, _, _, hFunction⟩
      have hOrder : msg.function.orderId = orderId := by
        rw [hFunction]
        rfl
      refine ⟨hKeeps, ?_⟩
      refine announced_of_notes hAnnounced hNotes hOrder hSame
        (msg.moment?_of_commits hOrder (by rw [hFunction]; rfl)
          _)
        (.inr rfl) ?_
      unfold Message.notice
      rw [hFunction]
      rfl
  | @pays orderId payment escrow resume hOrder hOpens _
      hPays _ =>
      refine ⟨owed ++ [payment.notice escrow], ?_, ?_⟩
      · intro paid hPay
        exact ⟨hKeeps.1 paid hPay,
          announced_of_pay hAnnounced hOrder hOpens hPays
            hPay⟩
      · rintro resumed ⟨hResumed, hOwed⟩
        rcases hNotes.2 resumed with
          ⟨after, result, extra, hFinish, hSame, hExtra,
            hEvents⟩
        rw [hFinish]
        exact ⟨hResumed.sameFunds hSame,
          announced_of_resume hResumed hOwed hSame hExtra
            hEvents⟩

/- Between transactions nothing is owed. -/
theorem Reachable.announced
    (hReach : Reachable world) :
    world.Announced [] := by
  rcases hReach with ⟨timestamp, balance, es, hPath⟩
  have hBoth :
      world.Consistent ∧ world.Announced [] := by
    refine hPath.invariant
      (fun world => world.Consistent ∧ world.Announced [])
      ⟨fun _ => .fresh rfl, fun _ => List.Perm.refl _⟩ ?_
    rintro before tx after ⟨hConsistent, hAnnounced⟩ hStep
    cases hStep with
    | force amount => exact ⟨hConsistent, hAnnounced⟩
    | call hLater hRuns =>
        refine hRuns.discharges ?_ ?_ []
          (World.Announced.entry hConsistent hAnnounced)
        · rintro owed msg world ⟨hConsistent, hAnnounced⟩
          exact hAnnounced.entry hConsistent
        · rintro owed world _ ⟨amount, rfl⟩ hWorld
          exact hWorld
  exact hBoth.2

end CoreProverEscrow

end BorderController

------------------------------------------------------------
-- What the Log Tells
------------------------------------------------------------

namespace BorderController

namespace CoreProverEscrow

/- The state of an order, from the kinds of its events. -/
def stateTold (events : List Event) : EscrowState :=
  let created :=
    events.any fun
      | .escrowCreated _ _ _ _ => true
      | _ => false
  let committed :=
    events.any fun
      | .bothCommitted _ => true
      | _ => false
  let paid :=
    events.any fun
      | .paymentClaimed _ _ _ => true
      | _ => false
  let returned :=
    events.any fun
      | .counterEscrowClaimed _ _ _ => true
      | _ => false
  let refunded :=
    events.any fun
      | .refundProcessed _ _ _ => true
      | _ => false
  if refunded then
    .expired
  else if paid && returned then
    .bothClaimed
  else if paid then
    .sellerClaimed
  else if returned then
    .buyerClaimed
  else if committed then
    .bothCommitted
  else if created then
    .buyerCommitted
  else
    .none

variable {world : World}
variable {orderId : Bytes32}
variable {escrow : Escrow}
variable {events events' : List Event}
variable {moments : List Moment}

/- The order of the events does not matter. -/
theorem stateTold_perm (hPerm : events.Perm events') :
    stateTold events = stateTold events' := by
  unfold stateTold
  simp only [hPerm.any_eq]

/- The announcements of a life tell its state. -/
theorem Escrow.Lifecycle.stateTold
    (hLife : escrow.Lifecycle moments) :
    CoreProverEscrow.stateTold
        (moments.map (Moment.announcement orderId escrow)) =
      escrow.state := by
  cases hLife with
  | fresh hState => exact hState.symm
  | created t hState _ => exact hState.symm
  | committed t u hState _ => exact hState.symm
  | sellerClaimed t u v hState _ => exact hState.symm
  | buyerClaimed t u w amount hState _ _ _ =>
      exact hState.symm
  | bothClaimed t u v w amount hState _ _ _ =>
      exact hState.symm
  | expired t v hState _ _ => exact hState.symm

/- Nothing is announced twice. -/
theorem Escrow.Lifecycle.nodup_announcements
    (hLife : escrow.Lifecycle moments) :
    (moments.map
      (Moment.announcement orderId escrow)).Nodup := by
  cases hLife <;> simp [Moment.announcement]

theorem Escrow.Lifecycle.created_announced
    {buyer seller : Address}
    {amount : Nat}
    (hLife : escrow.Lifecycle moments)
    (hMem :
      Event.escrowCreated orderId buyer seller amount ∈
        moments.map (Moment.announcement orderId escrow)) :
    buyer = escrow.buyer ∧
      seller = escrow.seller ∧
        amount = escrow.buyerAmount := by
  cases hLife <;> simp_all [Moment.announcement]

/-
  Between transactions the log tells the state of every order,
  whatever callbacks there were.  Its events, apart from those
  of a timed release, are the announcements of the ether that
  moved and of the commitment, each made once, and the event of
  a creation names the parties and the price.
-/
theorem events_tell
    (hReach : Reachable world)
    (orderId : Bytes32) :
    (told orderId world.events).Perm
        ((history orderId world.trace).map
          (Moment.announcement orderId
            (world.escrows orderId))) ∧
      stateTold (told orderId world.events) =
        (world.escrows orderId).state ∧
      (told orderId world.events).Nodup ∧
      ∀ buyer seller amount,
        .escrowCreated orderId buyer seller amount ∈
            world.events →
        buyer = (world.escrows orderId).buyer ∧
          seller = (world.escrows orderId).seller ∧
            amount = (world.escrows orderId).buyerAmount := by
  have hLife := hReach.observable.consistent orderId
  have hPerm := hReach.announced orderId
  rw [List.append_nil] at hPerm
  refine ⟨hPerm, ?_, ?_, ?_⟩
  · rw [stateTold_perm hPerm]
    exact hLife.stateTold
  · exact hPerm.nodup_iff.mpr hLife.nodup_announcements
  · intro buyer seller amount hMem
    apply hLife.created_announced
    rw [← hPerm.mem_iff]
    simp [told, hMem, Event.orderId, Event.isRelease]

end CoreProverEscrow

end BorderController

------------------------------------------------------------
-- A Log
------------------------------------------------------------

namespace BorderController

namespace CoreProverEscrow

/- An order that is paid when its time has come. -/
def timedOrder : List (Nat × Message) :=
  [(1000,
      ⟨0xB0B, 500,
        .createEscrow 7 0x5E11 86400 604800 true 60⟩),
    (2000, ⟨0x5E11, 40, .sellerCommitEscrow 7⟩),
    (90000, ⟨0xCA11, 0, .triggerTimedRelease 7⟩)]

/- Its events tell that the seller has been paid. -/
theorem events_tell_timedRelease :
    ∃ world,
      replay accepting timedOrder (.deployed 1000 0) =
          some world ∧
        world.events.length = 4 ∧
          stateTold (told 7 world.events) = .sellerClaimed ∧
            (told 7 world.events).Nodup := by
  have hTell :=
    events_tell
      (@Reachable.replay _ _ accepting timedOrder
        (.deployed 1000 0) rfl) 7
  exact ⟨_, rfl, rfl, hTell.2.1, hTell.2.2.1⟩

end CoreProverEscrow

end BorderController

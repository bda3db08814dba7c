import BorderController.CoreProverEscrow.System

/-
  The life of an order: the state of its escrow record tells
  exactly which ether moved and who committed.

  Key definitions include:
    * `Moment`, `history`
    * `Escrow.Lifecycle`
    * `World.Consistent`

  Key theorems include:
    * `Escrow.Pays.lifecycle`
    * `Observable.consistent`
-/

------------------------------------------------------------
-- The History of an Order
------------------------------------------------------------

namespace BorderController

namespace CoreProverEscrow

/- A deposit, a commitment or a payment of one order. -/
inductive Moment where
  | created (sender : Address) (amount time : Nat)
  | committed (sender : Address) (amount time : Nat)
  | sent
      (purpose : Purpose) (recipient : Address)
      (amount time : Nat)
deriving DecidableEq, Repr

def Message.moment?
    (orderId : Bytes32)
    (time : Nat)
    (msg : Message) :
    Option Moment :=
  if msg.function.orderId = orderId then
    match msg.function with
    | .createEscrow .. =>
        some (.created msg.sender msg.value time)
    | .sellerCommitEscrow _ =>
        some (.committed msg.sender msg.value time)
    | .sellerCommitSignature .. =>
        some (.committed msg.sender msg.value time)
    | _ => none
  else
    none

def Payment.moment?
    (orderId : Bytes32)
    (time : Nat)
    (payment : Payment) :
    Option Moment :=
  if payment.orderId = orderId then
    some
      (.sent payment.purpose payment.recipient payment.amount
        time)
  else
    none

def Entry.moment? (orderId : Bytes32) : Entry → Option Moment
  | .called msg time => msg.moment? orderId time
  | .sent payment time => payment.moment? orderId time

/- What happened to an order, in order of time. -/
def history
    (orderId : Bytes32)
    (trace : List Entry) :
    List Moment :=
  trace.filterMap (Entry.moment? orderId)

/- The histories that go with an escrow record. -/
inductive Escrow.Lifecycle : Escrow → List Moment → Prop
  | fresh {escrow : Escrow} :
      escrow.state = .none →
      Lifecycle escrow []
  | created {escrow : Escrow} (t : Nat) :
      escrow.state = .buyerCommitted →
      escrow.sellerAmount = 0 →
      Lifecycle escrow
        [.created escrow.buyer escrow.buyerAmount t]
  | committed {escrow : Escrow} (t u : Nat) :
      escrow.state = .bothCommitted →
      u ≤ escrow.commitmentDeadline →
      Lifecycle escrow
        [.created escrow.buyer escrow.buyerAmount t,
          .committed escrow.seller escrow.sellerAmount u]
  | sellerClaimed {escrow : Escrow} (t u v : Nat) :
      escrow.state = .sellerClaimed →
      u ≤ escrow.commitmentDeadline →
      Lifecycle escrow
        [.created escrow.buyer escrow.buyerAmount t,
          .committed escrow.seller escrow.sellerAmount u,
          .sent .payment escrow.seller escrow.buyerAmount v]
  | buyerClaimed {escrow : Escrow} (t u w amount : Nat) :
      escrow.state = .buyerClaimed →
      u ≤ escrow.commitmentDeadline →
      escrow.sellerAmount = 0 →
      0 < amount →
      Lifecycle escrow
        [.created escrow.buyer escrow.buyerAmount t,
          .committed escrow.seller amount u,
          .sent .counterEscrow escrow.buyer amount w]
  | bothClaimed {escrow : Escrow} (t u v w amount : Nat) :
      escrow.state = .bothClaimed →
      u ≤ escrow.commitmentDeadline →
      escrow.sellerAmount = 0 →
      0 < amount →
      Lifecycle escrow
        [.created escrow.buyer escrow.buyerAmount t,
          .committed escrow.seller amount u,
          .sent .payment escrow.seller escrow.buyerAmount v,
          .sent .counterEscrow escrow.buyer amount w]
  | expired {escrow : Escrow} (t v : Nat) :
      escrow.state = .expired →
      escrow.sellerAmount = 0 →
      escrow.commitmentDeadline < v →
      Lifecycle escrow
        [.created escrow.buyer escrow.buyerAmount t,
          .sent .refund escrow.buyer escrow.buyerAmount v]

end CoreProverEscrow

end BorderController

------------------------------------------------------------
-- Reading a Lifecycle
------------------------------------------------------------

namespace BorderController

namespace CoreProverEscrow

namespace Escrow.Lifecycle

variable {escrow : Escrow}
variable {moments : List Moment}

theorem of_none
    (hLife : escrow.Lifecycle moments)
    (hState : escrow.state = .none) :
    moments = [] := by
  cases hLife with
  | fresh _ => rfl
  | _ => simp_all

theorem of_buyerCommitted
    (hLife : escrow.Lifecycle moments)
    (hState : escrow.state = .buyerCommitted) :
    escrow.sellerAmount = 0 ∧
      ∃ t,
        moments =
          [.created escrow.buyer escrow.buyerAmount t] := by
  cases hLife with
  | created t _ hAmount => exact ⟨hAmount, t, rfl⟩
  | _ => simp_all

theorem of_bothCommitted
    (hLife : escrow.Lifecycle moments)
    (hState : escrow.state = .bothCommitted) :
    ∃ t u,
      u ≤ escrow.commitmentDeadline ∧
        moments =
          [.created escrow.buyer escrow.buyerAmount t,
            .committed escrow.seller escrow.sellerAmount
              u] := by
  cases hLife with
  | committed t u _ hTime => exact ⟨t, u, hTime, rfl⟩
  | _ => simp_all

theorem of_sellerClaimed
    (hLife : escrow.Lifecycle moments)
    (hState : escrow.state = .sellerClaimed) :
    ∃ t u v,
      u ≤ escrow.commitmentDeadline ∧
        moments =
          [.created escrow.buyer escrow.buyerAmount t,
            .committed escrow.seller escrow.sellerAmount u,
            .sent .payment escrow.seller escrow.buyerAmount
              v] := by
  cases hLife with
  | sellerClaimed t u v _ hTime =>
      exact ⟨t, u, v, hTime, rfl⟩
  | _ => simp_all

end Escrow.Lifecycle

/- A payment takes one lifecycle to the next. -/
theorem Escrow.Pays.lifecycle
    {orderId : Bytes32}
    {sender : Address}
    {time : Nat}
    {escrow escrow' : Escrow}
    {payment : Payment}
    {moments : List Moment}
    (hPays :
      Escrow.Pays orderId sender time escrow payment escrow')
    (hLife : escrow.Lifecycle moments) :
    escrow'.Lifecycle
      (moments ++
        [.sent payment.purpose payment.recipient
          payment.amount time]) := by
  cases hPays with
  | sellerClaim hState _ _ =>
      rcases hLife.of_bothCommitted hState with
        ⟨t, u, hTime, hMoments⟩
      subst hMoments
      exact .sellerClaimed t u time rfl hTime
  | timedRelease hState _ _ =>
      rcases hLife.of_bothCommitted hState with
        ⟨t, u, hTime, hMoments⟩
      subst hMoments
      exact .sellerClaimed t u time rfl hTime
  | buyerClaimFirst hState _ hAmount _ =>
      rcases hLife.of_bothCommitted hState with
        ⟨t, u, hTime, hMoments⟩
      subst hMoments
      exact .buyerClaimed t u time _ rfl hTime rfl hAmount
  | buyerClaimSecond hState _ hAmount _ =>
      rcases hLife.of_sellerClaimed hState with
        ⟨t, u, v, hTime, hMoments⟩
      subst hMoments
      exact .bothClaimed t u v time _ rfl hTime rfl hAmount
  | refund hState hLate =>
      rcases hLife.of_buyerCommitted hState with
        ⟨hAmount, t, hMoments⟩
      subst hMoments
      exact .expired t time rfl hAmount hLate

end CoreProverEscrow

end BorderController

------------------------------------------------------------
-- Consistent Worlds
------------------------------------------------------------

namespace BorderController

namespace CoreProverEscrow

/- Every escrow record matches the history of its order. -/
def World.Consistent (world : World) : Prop :=
  ∀ orderId,
    (world.escrows orderId).Lifecycle
      (history orderId world.trace)

variable {world world' after paid : World}
variable {msg : Message}
variable {payment : Payment}
variable {orderId : Bytes32}
variable {escrow : Escrow}

@[simp]
theorem history_append
    (orderId : Bytes32)
    (trace entries : List Entry) :
    history orderId (trace ++ entries) =
      history orderId trace ++ history orderId entries :=
  List.filterMap_append

theorem history_called
    {time : Nat}
    {moment : Moment}
    (hMoment : msg.moment? orderId time = some moment) :
    history orderId [.called msg time] = [moment] :=
  List.filterMap_cons_some hMoment

theorem history_called_of_none
    {time : Nat}
    (hMoment : msg.moment? orderId time = none) :
    history orderId [.called msg time] = [] :=
  List.filterMap_cons_none hMoment

theorem history_sent
    {time : Nat}
    (hOrder : payment.orderId = orderId) :
    history orderId [.sent payment time] =
      [.sent payment.purpose payment.recipient payment.amount
        time] :=
  List.filterMap_cons_some (if_pos hOrder)

theorem history_sent_of_ne
    {time : Nat}
    (hOther : payment.orderId ≠ orderId) :
    history orderId [.sent payment time] = [] :=
  List.filterMap_cons_none (if_neg hOther)

theorem Message.moment?_createEscrow
    {seller : Address}
    {commitmentWindow claimWindow timedReleaseDelay : Nat}
    {allowsTimedRelease : Bool}
    (hFunction :
      msg.function =
        .createEscrow orderId seller commitmentWindow
          claimWindow allowsTimedRelease timedReleaseDelay)
    (time : Nat) :
    msg.moment? orderId time =
      some (.created msg.sender msg.value time) := by
  unfold Message.moment?
  rw [hFunction]
  exact if_pos rfl

theorem Message.moment?_of_commits
    (hOrder : msg.function.orderId = orderId)
    (hCommits : msg.function.commits = true)
    (time : Nat) :
    msg.moment? orderId time =
      some (.committed msg.sender msg.value time) := by
  unfold Message.moment?
  rw [if_pos hOrder]
  cases hFunction : msg.function with
  | sellerCommitEscrow _ => rfl
  | sellerCommitSignature _ _ _ _ _ => rfl
  | _ =>
      rw [hFunction] at hCommits
      contradiction

theorem Message.moment?_of_ne
    {time : Nat}
    (hOther : msg.function.orderId ≠ orderId) :
    msg.moment? orderId time = none :=
  if_neg hOther

theorem Message.moment?_of_not_opens
    {time : Nat}
    (hOpens : msg.function.opens = false) :
    msg.moment? orderId time = none := by
  unfold Message.moment?
  split
  · cases hFunction : msg.function with
    | createEscrow _ _ _ _ _ _ =>
        rw [hFunction] at hOpens
        contradiction
    | sellerCommitEscrow _ =>
        rw [hFunction] at hOpens
        contradiction
    | sellerCommitSignature _ _ _ _ _ =>
        rw [hFunction] at hOpens
        contradiction
    | _ => rfl
  · rfl

theorem Escrow.Pays.orderId_eq
    {sender : Address}
    {time : Nat}
    {escrow' : Escrow}
    (hPays :
      Escrow.Pays orderId sender time escrow payment
        escrow') :
    payment.orderId = orderId := by
  cases hPays <;> rfl

/- A payment that is made is covered, and is booked. -/
theorem World.pay_eq_some
    (hPay : world.pay payment = some paid) :
    payment.amount ≤ world.balance ∧
      paid =
        { world with
          balance := world.balance - payment.amount
          trace :=
            world.trace ++ [.sent payment world.timestamp] } := by
  unfold World.pay at hPay
  split at hPay
  · cases hPay
    exact ⟨‹_›, rfl⟩
  · contradiction

theorem World.Consistent.sameFunds
    (hConsistent : world.Consistent)
    (hSame : World.SameFunds world world') :
    world'.Consistent := by
  intro orderId
  rw [hSame.escrows, hSame.trace]
  exact hConsistent orderId

/-
  Writing one record keeps the worlds consistent if the new
  record goes with the longer history of its order.
-/
theorem World.Consistent.write
    {entries : List Entry}
    (hConsistent : world.Consistent)
    (hEscrows :
      after.escrows =
        Function.update world.escrows orderId escrow)
    (hTrace : after.trace = world.trace ++ entries)
    (hKey :
      escrow.Lifecycle
        (history orderId world.trace ++
          history orderId entries))
    (hOther :
      ∀ other, other ≠ orderId →
        history other entries = []) :
    after.Consistent := by
  intro other
  rw [hEscrows, hTrace, history_append]
  by_cases hSame : other = orderId
  · subst hSame
    rw [Function.update_self]
    exact hKey
  · rw [Function.update_of_ne hSame, hOther other hSame,
      List.append_nil]
    exact hConsistent other

/- A body keeps the worlds consistent. -/
theorem World.Consistent.entry
    (hConsistent : world.Consistent) :
    (contract.entry msg world).Keeps contract
      World.Consistent := by
  have hShape := msg.shape (world.enter msg)
  have hCalled :
      ∀ {other},
        other ≠ msg.function.orderId →
        history other [.called msg world.timestamp] = [] := by
    intro other hOther
    exact history_called_of_none
      (Message.moment?_of_ne hOther.symm)
  show (msg.body (world.enter msg)).Keeps contract _
  generalize msg.body (world.enter msg) = proc at hShape
  cases hShape with
  | reverts reason => trivial
  | @creates orderId escrow after result hFunction hFresh
      hState hBuyer hAmount hSeller hSame =>
      rcases hFunction with ⟨_, _, _, _, _, hFunction⟩
      rw [hFunction] at hCalled
      have hEmpty := (hConsistent orderId).of_none hFresh
      refine World.Consistent.sameFunds ?_ hSame
      refine hConsistent.write rfl rfl ?_ fun _ => hCalled
      rw [hEmpty, history_called
        (msg.moment?_createEscrow hFunction _), ← hBuyer,
        ← hAmount]
      exact .created _ hState hSeller
  | @deposits orderId after result hFunction hState hSender
      hTime hSame =>
      rw [hFunction] at hCalled
      rcases (hConsistent orderId).of_buyerCommitted hState
        with ⟨_, t, hMoments⟩
      refine World.Consistent.sameFunds ?_ hSame
      refine hConsistent.write rfl rfl ?_ fun _ => hCalled
      have hOrder : msg.function.orderId = orderId := by
        rw [hFunction]
        rfl
      have hCommits : msg.function.commits = true := by
        rw [hFunction]
        rfl
      rw [hMoments, history_called
        (msg.moment?_of_commits hOrder hCommits _), hSender]
      exact .committed t _ rfl hTime
  | @signs orderId after result hFunction hValue hState
      hSender hTime hSame =>
      rcases hFunction with ⟨_, _, _, _, hFunction⟩
      rw [hFunction] at hCalled
      rcases (hConsistent orderId).of_buyerCommitted hState
        with ⟨hAmount, t, hMoments⟩
      refine World.Consistent.sameFunds ?_ hSame
      refine hConsistent.write rfl rfl ?_ fun _ => hCalled
      have hOrder : msg.function.orderId = orderId := by
        rw [hFunction]
        rfl
      have hCommits : msg.function.commits = true := by
        rw [hFunction]
        rfl
      rw [hMoments, history_called
        (msg.moment?_of_commits hOrder hCommits _), hSender,
        hValue, ← hAmount]
      exact .committed t _ rfl hTime
  | @pays orderId payment escrow resume hOrder hOpens hValue
      hPays hResume =>
      subst hOrder
      refine ⟨?_, ?_⟩
      · intro paid hPay
        rcases World.pay_eq_some hPay with ⟨_, hPaid⟩
        subst hPaid
        apply hConsistent.write rfl
          (List.append_assoc _ _ _)
        · rw [history_append, history_called_of_none
            (Message.moment?_of_not_opens hOpens),
            history_sent hPays.orderId_eq]
          exact hPays.lifecycle (hConsistent _)
        · intro other hOther
          have hOrder := hPays.orderId_eq
          rw [history_append, hCalled hOther,
            history_sent_of_ne (hOrder ▸ hOther.symm)]
          rfl
      · intro resumed hResumed
        rcases hResume resumed with
          ⟨after, result, hResult, hSame⟩
        rw [hResult]
        exact hResumed.sameFunds hSame

theorem consistent_kept : Kept World.Consistent where
  deployed _ _ _ := .fresh rfl
  later _ _ hConsistent := hConsistent
  force _ _ hConsistent := hConsistent
  entry _ _ hConsistent := hConsistent.entry

/- Every world that can be found is consistent. -/
theorem Observable.consistent
    (hWorld : Observable world) :
    world.Consistent :=
  consistent_kept.observable hWorld

end CoreProverEscrow

end BorderController

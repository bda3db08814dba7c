import BorderController.CoreProverEscrow.Calls

/-
  The gate of dual commitment: ether of an order leaves only
  once both parties have committed, or when time is up.

  Key definitions include:
    * `CommittedBySeller`, `NeverCommitted`
    * `Gated`
    * `CanCommit`
    * `DualCommitment`

  Key theorems include:
    * `dualCommitment`
    * `refund_passes_gate`
-/

------------------------------------------------------------
-- Commitments
------------------------------------------------------------

namespace BorderController

namespace CoreProverEscrow

/- The seller of the order committed in time. -/
def CommittedBySeller
    (orderId : Bytes32)
    (escrow : Escrow)
    (entries : List Entry) :
    Prop :=
  ∃ msg time,
    Entry.called msg time ∈ entries ∧
      msg.sender = escrow.seller ∧
        msg.function.orderId = orderId ∧
          msg.function.commits = true ∧
            time ≤ escrow.commitmentDeadline

/- Nobody committed to the order. -/
def NeverCommitted
    (orderId : Bytes32)
    (entries : List Entry) :
    Prop :=
  ∀ msg time,
    Entry.called msg time ∈ entries →
      msg.function.orderId = orderId →
        msg.function.commits = false

/-
  Who is paid at `time`, and who committed before or at all, by
  the way in which the ether leaves.
-/
def Gated
    (escrow : Escrow)
    (before after : List Entry)
    (payment : Payment)
    (time : Nat) :
    Prop :=
  match payment.purpose with
  | .payment =>
      payment.recipient = escrow.seller ∧
        payment.amount = escrow.buyerAmount ∧
          CommittedBySeller payment.orderId escrow before
  | .counterEscrow =>
      payment.recipient = escrow.buyer ∧
        CommittedBySeller payment.orderId escrow before
  | .refund =>
      payment.recipient = escrow.buyer ∧
        payment.amount = escrow.buyerAmount ∧
          NeverCommitted payment.orderId (before ++ after) ∧
            escrow.commitmentDeadline < time

end CoreProverEscrow

end BorderController

------------------------------------------------------------
-- Histories and Traces
------------------------------------------------------------

namespace BorderController

namespace CoreProverEscrow

variable {orderId : Bytes32}
variable {escrow : Escrow}
variable {before after : List Moment}
variable {purpose : Purpose}
variable {recipient : Address}
variable {amount time : Nat}

/- What is sent after a commitment comes after it. -/
private theorem committed_mem_before
    {buyer seller : Address}
    {payment deposit t u : Nat}
    {rest : List Moment}
    (hMoments :
      before ++ .sent purpose recipient amount time :: after =
        .created buyer payment t ::
          .committed seller deposit u :: rest) :
    Moment.committed seller deposit u ∈ before ∧
      Moment.sent purpose recipient amount time ∈ rest := by
  match before with
  | [] => exact absurd hMoments nofun
  | [_] =>
      have hTail := List.tail_eq_of_cons_eq hMoments
      exact absurd hTail nofun
  | first :: second :: before =>
      have hTail := List.tail_eq_of_cons_eq hMoments
      have hSecond := List.head_eq_of_cons_eq hTail
      have hRest := List.tail_eq_of_cons_eq hTail
      rw [hSecond, ← hRest]
      exact ⟨by simp, by simp⟩

/- Who is paid in the life of an order, and what came before. -/
theorem Escrow.Lifecycle.of_sent
    (hLife :
      escrow.Lifecycle
        (before ++
          .sent purpose recipient amount time :: after)) :
    (purpose = .payment ∧
        recipient = escrow.seller ∧
          amount = escrow.buyerAmount ∧
            ∃ deposit u,
              .committed escrow.seller deposit u ∈ before ∧
                u ≤ escrow.commitmentDeadline) ∨
      (purpose = .counterEscrow ∧
        recipient = escrow.buyer ∧
          ∃ deposit u,
            .committed escrow.seller deposit u ∈ before ∧
              u ≤ escrow.commitmentDeadline) ∨
        (purpose = .refund ∧
          recipient = escrow.buyer ∧
            amount = escrow.buyerAmount ∧
              (∀ sender deposit u,
                .committed sender deposit u ∉
                  before ++ after) ∧
                escrow.commitmentDeadline < time) := by
  generalize hMoments :
    before ++ .sent purpose recipient amount time :: after =
      moments at hLife
  have hSent :
      Moment.sent purpose recipient amount time ∈ moments := by
    rw [← hMoments]
    simp
  cases hLife with
  | fresh hState => simp at hSent
  | created t hState hAmount => simp at hSent
  | committed t u hState hTime => simp at hSent
  | sellerClaimed t u v hState hTime =>
      rcases committed_mem_before hMoments with ⟨hMem, hSent⟩
      simp at hSent
      rcases hSent with ⟨hPurpose, hRecipient, hAmount, _⟩
      exact .inl ⟨hPurpose, hRecipient, hAmount, _, u, hMem,
        hTime⟩
  | buyerClaimed t u w deposit hState hTime =>
      rcases committed_mem_before hMoments with ⟨hMem, hSent⟩
      simp at hSent
      rcases hSent with ⟨hPurpose, hRecipient, _⟩
      exact .inr (.inl ⟨hPurpose, hRecipient, _, u, hMem,
        hTime⟩)
  | bothClaimed t u v w deposit hState hTime =>
      rcases committed_mem_before hMoments with ⟨hMem, hSent⟩
      simp at hSent
      rcases hSent with hPaid | hReturned
      · rcases hPaid with ⟨hPurpose, hRecipient, hAmount, _⟩
        exact .inl ⟨hPurpose, hRecipient, hAmount, _, u, hMem,
          hTime⟩
      · rcases hReturned with ⟨hPurpose, hRecipient, _⟩
        exact .inr (.inl ⟨hPurpose, hRecipient, _, u, hMem,
          hTime⟩)
  | expired t v hState _ hLate =>
      simp at hSent
      rcases hSent with
        ⟨hPurpose, hRecipient, hAmount, hTime⟩
      refine .inr (.inr ⟨hPurpose, hRecipient, hAmount, ?_,
        hTime ▸ hLate⟩)
      intro sender deposit u hMem
      have hAll :
          Moment.committed sender deposit u ∈
            before ++
              .sent purpose recipient amount time ::
                after := by
        rcases List.mem_append.mp hMem with hLeft | hRight
        · exact List.mem_append_left _ hLeft
        · exact List.mem_append_right _
            (List.mem_cons_of_mem _ hRight)
      rw [hMoments] at hAll
      simp at hAll

end CoreProverEscrow

end BorderController

------------------------------------------------------------
-- Payments Behind the Gate
------------------------------------------------------------

namespace BorderController

namespace CoreProverEscrow

variable {world : World}
variable {orderId : Bytes32}
variable {msg : Message}
variable {payment : Payment}
variable {escrow : Escrow}
variable {entries before after : List Entry}
variable {sender : Address}
variable {deposit time : Nat}

/- A commitment in the history is a call that committed. -/
theorem Message.moment?_eq_committed
    {u : Nat}
    (hMoment :
      msg.moment? orderId time =
        some (.committed sender deposit u)) :
    msg.sender = sender ∧
      time = u ∧
        msg.function.orderId = orderId ∧
          msg.function.commits = true := by
  unfold Message.moment? at hMoment
  split at hMoment
  · rename_i hOrder
    cases hFunction : msg.function with
    | sellerCommitEscrow id =>
        rw [hFunction] at hMoment hOrder
        cases hMoment
        exact ⟨rfl, rfl, hOrder, rfl⟩
    | sellerCommitSignature id _ _ _ _ =>
        rw [hFunction] at hMoment hOrder
        cases hMoment
        exact ⟨rfl, rfl, hOrder, rfl⟩
    | _ =>
        rw [hFunction] at hMoment
        cases hMoment
  · contradiction

theorem called_of_committed_mem
    (hMem :
      Moment.committed sender deposit time ∈
        history orderId entries) :
    ∃ msg,
      Entry.called msg time ∈ entries ∧
        msg.sender = sender ∧
          msg.function.orderId = orderId ∧
            msg.function.commits = true := by
  rcases List.mem_filterMap.mp hMem with
    ⟨entry, hEntry, hMoment⟩
  cases entry with
  | called msg u =>
      rcases Message.moment?_eq_committed hMoment with
        ⟨hSender, hTime, hOrder, hCommits⟩
      subst hTime
      exact ⟨msg, hEntry, hSender, hOrder, hCommits⟩
  | sent payment u =>
      change payment.moment? orderId u = _ at hMoment
      unfold Payment.moment? at hMoment
      split at hMoment <;> cases hMoment

theorem committed_mem_of_called
    (hMem : Entry.called msg time ∈ entries)
    (hOrder : msg.function.orderId = orderId)
    (hCommits : msg.function.commits = true) :
    Moment.committed msg.sender msg.value time ∈
      history orderId entries :=
  List.mem_filterMap.mpr
    ⟨_, hMem, msg.moment?_of_commits hOrder hCommits time⟩

theorem committedBySeller_of_mem
    (hMem :
      Moment.committed escrow.seller deposit time ∈
        history orderId entries)
    (hTime : time ≤ escrow.commitmentDeadline) :
    CommittedBySeller orderId escrow entries := by
  rcases called_of_committed_mem hMem with
    ⟨msg, hCalled, hSender, hOrder, hCommits⟩
  exact ⟨msg, time, hCalled, hSender, hOrder, hCommits, hTime⟩

theorem neverCommitted_of_not_mem
    (hNone :
      ∀ sender deposit u,
        Moment.committed sender deposit u ∉
          history orderId entries) :
    NeverCommitted orderId entries := by
  intro msg time hMem hOrder
  cases hCommits : msg.function.commits with
  | false => rfl
  | true =>
      exact absurd
        (committed_mem_of_called hMem hOrder hCommits)
        (hNone _ _ _)

/- Every payment passes the gate. -/
theorem Observable.gated
    (hWorld : Observable world)
    (hTrace :
      world.trace = before ++ .sent payment time :: after) :
    Gated (world.escrows payment.orderId) before after payment
      time := by
  have hLife := hWorld.consistent payment.orderId
  have hSent :
      history payment.orderId [.sent payment time] = _ :=
    history_sent rfl
  rw [hTrace, ← List.singleton_append, history_append,
    history_append, hSent, List.singleton_append] at hLife
  unfold Gated
  rcases hLife.of_sent with hPaid | hReturned | hRefunded
  · rcases hPaid with
      ⟨hPurpose, hRecipient, hAmount, _, u, hMem, hTime⟩
    rw [hPurpose]
    exact ⟨hRecipient, hAmount,
      committedBySeller_of_mem hMem hTime⟩
  · rcases hReturned with
      ⟨hPurpose, hRecipient, _, u, hMem, hTime⟩
    rw [hPurpose]
    exact ⟨hRecipient, committedBySeller_of_mem hMem hTime⟩
  · rcases hRefunded with
      ⟨hPurpose, hRecipient, hAmount, hNone, hTime⟩
    rw [hPurpose]
    rw [← history_append] at hNone
    exact ⟨hRecipient, hAmount,
      neverCommitted_of_not_mem hNone, hTime⟩

end CoreProverEscrow

end BorderController

------------------------------------------------------------
-- The Commitment Window
------------------------------------------------------------

namespace BorderController

namespace CoreProverEscrow

/- Some commitment by the seller succeeds. -/
def CanCommit
    (accepts : Payment → Bool)
    (orderId : Bytes32)
    (time : Nat)
    (world : World) :
    Prop :=
  ∃ msg : Message,
    msg.sender = (world.escrows orderId).seller ∧
      msg.function.orderId = orderId ∧
        msg.function.commits = true ∧
          Succeeds accepts time msg world

/- The transfer that a refund of the order makes. -/
def World.refund (world : World) (orderId : Bytes32) : Payment :=
  { orderId
    purpose := .refund
    recipient := (world.escrows orderId).buyer
    amount := (world.escrows orderId).buyerAmount }

variable {world : World}
variable {orderId : Bytes32}
variable {accepts : Payment → Bool}
variable {sender : Address}
variable {time : Nat}

theorem canCommit_iff
    (hState :
      (world.escrows orderId).state = .buyerCommitted) :
    CanCommit accepts orderId time world ↔
      time ≤ (world.escrows orderId).commitmentDeadline := by
  constructor
  · rintro ⟨⟨sender, value, function⟩, _, hOrder, hCommits,
      hSucceeds⟩
    cases function with
    | sellerCommitEscrow id =>
        cases hOrder
        exact (succeeds_sellerCommitEscrow.mp hSucceeds).2.2
    | sellerCommitSignature id _ _ _ _ =>
        cases hOrder
        exact
          (succeeds_sellerCommitSignature.mp
            hSucceeds).2.2.2
    | _ => contradiction
  · intro hTime
    refine ⟨⟨_, 0, .sellerCommitEscrow orderId⟩, rfl, rfl,
      rfl, ?_⟩
    exact succeeds_sellerCommitEscrow.mpr
      ⟨hState, rfl, hTime⟩

theorem Observable.refund_succeeds
    (hWorld : Observable world)
    (hState :
      (world.escrows orderId).state = .buyerCommitted) :
    Succeeds accepts time
        ⟨sender, 0, .refundBuyerTimeout orderId⟩ world ↔
      (world.escrows orderId).commitmentDeadline < time ∧
        accepts (world.refund orderId) = true := by
  have hCovered := hWorld.solvent.owed_le_balance orderId
  simp only [World.outstanding, Escrow.outstanding,
    hState] at hCovered
  refine succeeds_refundBuyerTimeout.trans ⟨?_, ?_⟩
  · rintro ⟨_, hLate, hAccepts, _⟩
    exact ⟨hLate, hAccepts⟩
  · rintro ⟨hLate, hAccepts⟩
    exact ⟨hState, hLate, hAccepts, hCovered⟩

/- Until the seller commits, one of the two ways is open. -/
theorem Observable.commit_xor_refund
    (hWorld : Observable world)
    (hState :
      (world.escrows orderId).state = .buyerCommitted)
    (hAccepts : accepts (world.refund orderId) = true) :
    Xor (CanCommit accepts orderId time world)
      (Succeeds accepts time
        ⟨sender, 0, .refundBuyerTimeout orderId⟩ world) := by
  rw [canCommit_iff hState, hWorld.refund_succeeds hState,
    and_iff_left hAccepts, ← not_le]
  exact xor_not_right.mpr Iff.rfl

end CoreProverEscrow

end BorderController

------------------------------------------------------------
-- Dual Commitment
------------------------------------------------------------

namespace BorderController

namespace CoreProverEscrow

/-
  The gate of an order: payments pass it as they should, the
  deposit does not go both ways, and before the seller commits
  exactly one of commitment and refund is possible.
-/
structure DualCommitment
    (orderId : Bytes32)
    (world : World) :
    Prop where
  gated :
    ∀ (before after : List Entry) (payment : Payment)
        (time : Nat),
      world.trace = before ++ .sent payment time :: after →
      payment.orderId = orderId →
      Gated (world.escrows orderId) before after payment time
  toSeller :
    ∀ (before after : List Entry) (payment : Payment)
        (time : Nat),
      world.trace = before ++ .sent payment time :: after →
      payment.orderId = orderId →
      payment.recipient = (world.escrows orderId).seller →
      CommittedBySeller orderId (world.escrows orderId)
          before ∨
        (payment.purpose = .refund ∧
          (world.escrows orderId).buyer =
            (world.escrows orderId).seller)
  once :
    ∀ (paid refunded : Payment) (time time' : Nat),
      Entry.sent paid time ∈ world.trace →
      Entry.sent refunded time' ∈ world.trace →
      paid.orderId = orderId →
      refunded.orderId = orderId →
      paid.purpose = .payment →
      refunded.purpose ≠ .refund
  window :
    (world.escrows orderId).state = .buyerCommitted →
      ∀ (accepts : Payment → Bool) (time : Nat)
          (sender : Address),
        accepts (world.refund orderId) = true →
        Xor (CanCommit accepts orderId time world)
          (Succeeds accepts time
            ⟨sender, 0, .refundBuyerTimeout orderId⟩ world)

variable {world : World}
variable {orderId : Bytes32}
variable {before after : List Entry}
variable {payment : Payment}
variable {time : Nat}

theorem Gated.toSeller
    {escrow : Escrow}
    (hGated : Gated escrow before after payment time)
    (hRecipient : payment.recipient = escrow.seller) :
    CommittedBySeller payment.orderId escrow before ∨
      (payment.purpose = .refund ∧
        escrow.buyer = escrow.seller) := by
  unfold Gated at hGated
  cases hPurpose : payment.purpose with
  | payment =>
      rw [hPurpose] at hGated
      exact .inl hGated.2.2
  | counterEscrow =>
      rw [hPurpose] at hGated
      exact .inl hGated.2
  | refund =>
      rw [hPurpose] at hGated
      exact .inr ⟨rfl, hGated.1.symm.trans hRecipient⟩

/- What was paid to the seller is not refunded. -/
theorem Observable.not_paid_and_refunded
    {paid refunded : Payment}
    {time' : Nat}
    (hWorld : Observable world)
    (hPaid : Entry.sent paid time ∈ world.trace)
    (hRefunded : Entry.sent refunded time' ∈ world.trace)
    (hOrder : paid.orderId = refunded.orderId)
    (hPayment : paid.purpose = .payment) :
    refunded.purpose ≠ .refund := by
  intro hRefund
  rcases List.append_of_mem hPaid with ⟨before, _, hBefore⟩
  rcases List.append_of_mem hRefunded with
    ⟨before', after', hAround⟩
  have hPaidGate := hWorld.gated hBefore
  have hRefundGate := hWorld.gated hAround
  unfold Gated at hPaidGate hRefundGate
  rw [hPayment] at hPaidGate
  rw [hRefund] at hRefundGate
  rcases hPaidGate with
    ⟨_, _, msg, u, hMem, _, hMsgOrder, hCommits, _⟩
  have hCalled :
      Entry.called msg u ∈
        before' ++ .sent refunded time' :: after' := by
    rw [← hAround, hBefore]
    exact List.mem_append_left _ hMem
  have hNone :=
    hRefundGate.2.2.1 msg u (by simpa using hCalled)
      (hMsgOrder.trans hOrder)
  rw [hNone] at hCommits
  contradiction

/- A buyer who orders from himself, and is refunded. -/
def selfOrder : List (Nat × Message) :=
  [(1000,
      ⟨0xB0B, 500, .createEscrow 7 0xB0B 100 100 false 0⟩),
    (2000, ⟨0xCAFE, 0, .refundBuyerTimeout 7⟩)]

/- An order that waits for its seller. -/
def openOrder : List (Nat × Message) :=
  [(1000,
      ⟨0xB0B, 500, .createEscrow 7 0x5E11 100 100 false 0⟩)]

/- The seller commits to it, and is paid. -/
def paidOrder : List (Nat × Message) :=
  openOrder ++
    [(1050, ⟨0x5E11, 40, .sellerCommitEscrow 7⟩),
      (1100, ⟨0x5E11, 0, .sellerClaimPayment 7⟩)]

end CoreProverEscrow

end BorderController

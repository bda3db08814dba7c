import BorderController.CoreProverEscrow.EventLog
import BorderController.CoreProverEscrow.Solvency
import BorderController.Library.Isolation

/-
  Orders share one contract and one balance, and still nobody
  who deals with one order can tell that there are others.

  The contract cut down to one order, with a balance of what is
  outstanding on it, answers every call on that order as the
  whole contract does.  That no other order can exhaust the
  balance is solvency.  Recipients call nobody back here.

  Key definitions include:
    * `World.cut`, `World.only`
    * `Request`, `serve`

  Key theorems include:
    * `call_only`
    * `only_of_call`
    * `isolated`
    * `orders_isolated`
-/

------------------------------------------------------------
-- The Contract of One Order
------------------------------------------------------------

namespace BorderController

namespace CoreProverEscrow

def Entry.orderId : Entry → Bytes32
  | .called msg _ => msg.function.orderId
  | .sent payment _ => payment.orderId

namespace World

/- What there is of one order, with a balance of its own. -/
def cut
    (orderId : Bytes32)
    (balance : Nat)
    (world : World) :
    World :=
  { timestamp := world.timestamp
    balance
    escrows :=
      Function.update (fun _ => .zero) orderId
        (world.escrows orderId)
    legalSignatures :=
      Function.update (fun _ => .zero) orderId
        (world.legalSignatures orderId)
    events :=
      world.events.filter fun event =>
        event.orderId = orderId
    trace :=
      world.trace.filter fun entry =>
        entry.orderId = orderId }

/- The balance of an order is what is outstanding on it. -/
def only (orderId : Bytes32) (world : World) : World :=
  world.cut orderId (world.escrows orderId).outstanding

variable {orderId : Bytes32}
variable {balance : Nat}
variable {world paid : World}

@[simp] theorem cut_escrows_self :
    (world.cut orderId balance).escrows orderId =
      world.escrows orderId := by
  simp [cut]

@[simp] theorem cut_timestamp :
    (world.cut orderId balance).timestamp =
      world.timestamp := rfl

theorem cut_enter
    {msg : Message}
    (hOrder : msg.function.orderId = orderId) :
    (world.cut orderId balance).enter msg =
      (world.enter msg).cut orderId (balance + msg.value) := by
  simp [cut, enter, Entry.orderId, hOrder]

@[simp] theorem cut_setEscrow
    (escrow : Escrow) :
    (world.cut orderId balance).setEscrow orderId escrow =
      (world.setEscrow orderId escrow).cut orderId
        balance := by
  simp [cut, setEscrow]

@[simp] theorem cut_setLegalSignature
    (legalSignature : LegalSignature) :
    (world.cut orderId balance).setLegalSignature orderId
        legalSignature =
      (world.setLegalSignature orderId legalSignature).cut
        orderId balance := by
  simp [cut, setLegalSignature]

theorem cut_emit
    {event : Event}
    (hOrder : event.orderId = orderId) :
    (world.cut orderId balance).emit event =
      (world.emit event).cut orderId balance := by
  simp [cut, emit, hOrder]

/- A payment of the order is made from its own balance. -/
theorem cut_pay
    {payment : Payment}
    (hOrder : payment.orderId = orderId)
    (hCovered : payment.amount ≤ balance)
    (hPay : world.pay payment = some paid) :
    (world.cut orderId balance).pay payment =
      some (paid.cut orderId (balance - payment.amount)) := by
  rcases pay_eq_some hPay with ⟨_, hPaid⟩
  subst hPaid
  unfold pay
  rw [if_pos (by exact hCovered)]
  simp [cut, Entry.orderId, hOrder]

end World

end CoreProverEscrow

end BorderController

------------------------------------------------------------
-- Bodies in the Contract of One Order
------------------------------------------------------------

namespace BorderController

namespace CoreProverEscrow

variable {accepts : Payment → Bool}
variable {orderId : Bytes32}
variable {balance : Nat}
variable {world : World}
variable {msg : Message}

/-
  The second procedure settles as the first one does, in the
  contract of one order.
-/
def SettlesAlike
    (accepts : Payment → Bool)
    (orderId : Bytes32)
    (proc proc' : Proc) :
    Prop :=
  proc'.settle contract accepts =
    (proc.settle contract accepts).map fun p =>
      (p.1.only orderId, p.2)

theorem SettlesAlike.revert
    {reason reason' : String} :
    SettlesAlike accepts orderId (.revert reason)
      (.revert reason') := rfl

/- Checks that agree may stand before bodies that agree. -/
theorem SettlesAlike.unless
    {P P' : Prop}
    [Decidable P]
    [Decidable P']
    {reason : String}
    {body body' : Proc}
    (hSame : P' ↔ P)
    (hBody :
      ¬ P → SettlesAlike accepts orderId body body') :
    SettlesAlike accepts orderId
      (if P then .revert reason else body)
      (if P' then .revert reason else body') := by
  by_cases hRefused : P
  · rw [if_pos hRefused, if_pos (hSame.mpr hRefused)]
    exact .revert
  · rw [if_neg hRefused, if_neg (hSame.not.mpr hRefused)]
    exact hBody hRefused

/- A body that ends, with the balance that is outstanding. -/
theorem SettlesAlike.finish
    {after after' : World}
    {result : Returned}
    (balance : Nat)
    (hAfter : after' = after.cut orderId balance)
    (hBalance :
      balance = (after.escrows orderId).outstanding) :
    SettlesAlike accepts orderId (.finish after result)
      (.finish after' result) := by
  subst hBalance
  subst hAfter
  rfl

/-
  A body that pays from a record, if solvency covers the
  payment and it ends with the balance that is outstanding.
-/
theorem SettlesAlike.pays
    {sender : Address}
    {time : Nat}
    {payment : Payment}
    {escrow : Escrow}
    {resume resume' : World → Proc}
    (hPays :
      Escrow.Pays orderId sender time (world.escrows orderId)
        payment escrow)
    (hBalance :
      balance = (world.escrows orderId).outstanding)
    (hCovered : payment.amount ≤ world.balance)
    (hResume :
      ∀ paid balance,
        ∃ after result,
          resume paid = .finish after result ∧
            World.SameFunds paid after ∧
              resume' (paid.cut orderId balance) =
                .finish (after.cut orderId balance)
                  result) :
    SettlesAlike accepts orderId
      (.transfer (world.setEscrow orderId escrow) payment
        resume)
      (.transfer
        ((world.cut orderId balance).setEscrow orderId escrow)
        payment resume') := by
  have hPay :
      ∃ paid,
        contract.pay payment
            (world.setEscrow orderId escrow) =
          some paid :=
    ⟨_, if_pos hCovered⟩
  rcases hPay with ⟨paid, hPay⟩
  have hOutstanding := hPays.outstanding
  have hOwn : payment.amount ≤ balance := by
    omega
  have hPay' :
      contract.pay payment
          ((world.setEscrow orderId escrow).cut orderId
            balance) =
        some
          (paid.cut orderId (balance - payment.amount)) :=
    World.cut_pay hPays.orderId_eq hOwn hPay
  rcases hResume paid (balance - payment.amount) with
    ⟨after, result, hFinish, hSame, hFinish'⟩
  have hRecord : after.escrows orderId = escrow := by
    rw [hSame.escrows, (World.pay_eq_some hPay).2]
    exact World.escrows_setEscrow_self _ _ _
  have hLeft :
      balance - payment.amount =
        (after.escrows orderId).outstanding := by
    rw [hRecord]
    omega
  have hEnd :
      SettlesAlike accepts orderId (resume paid)
        (resume'
          (paid.cut orderId (balance - payment.amount))) := by
    rw [hFinish, hFinish']
    exact .finish _ rfl hLeft
  rw [World.cut_setEscrow]
  unfold SettlesAlike Reentrancy.Proc.settle
  cases hAccepts : accepts payment with
  | false => rfl
  | true =>
      simp only [if_true, hPay, hPay']
      exact hEnd

end CoreProverEscrow

end BorderController

------------------------------------------------------------
-- Calls in the Contract of One Order
------------------------------------------------------------

namespace BorderController

namespace CoreProverEscrow

variable {accepts : Payment → Bool}
variable {orderId : Bytes32}
variable {balance : Nat}
variable {world : World}
variable {msg : Message}

private theorem createEscrow_alike
    {seller : Address}
    {commitmentWindow claimWindow timedReleaseDelay : Nat}
    {allowsTimedRelease : Bool}
    (hBalance :
      balance =
        (world.escrows orderId).outstanding + msg.value) :
    SettlesAlike accepts orderId
      (createEscrow orderId seller commitmentWindow claimWindow
        allowsTimedRelease timedReleaseDelay msg world)
      (createEscrow orderId seller commitmentWindow claimWindow
        allowsTimedRelease timedReleaseDelay msg
        (world.cut orderId balance)) := by
  refine .unless Iff.rfl fun _ => .unless Iff.rfl fun _ =>
    .unless (by rw [World.cut_escrows_self]) fun hState => ?_
  rw [World.cut_timestamp]
  split
  · exact .revert
  · split
    · exact .revert
    · split
      · exact .revert
      · refine .finish balance ?_ ?_
        · rw [World.cut_setEscrow]
          exact World.cut_emit rfl
        · have hNone := not_not.mp hState
          unfold Escrow.outstanding at hBalance
          rw [hNone] at hBalance
          dsimp only at hBalance
          simp [World.emit, World.setEscrow,
            Escrow.outstanding, hBalance]

/- A commitment adds what it brings to a bare deposit. -/
private theorem commit_alike
    {before before' : World}
    {sellerAmount : Nat}
    (hState : (world.escrows orderId).state = .buyerCommitted)
    (hBalance :
      balance =
        (world.escrows orderId).outstanding + sellerAmount)
    (hBefore : before' = before.cut orderId balance) :
    SettlesAlike accepts orderId
      (.finish
        ((before.setEscrow orderId
          { world.escrows orderId with
            sellerAmount
            state := .bothCommitted }).emit
              (.bothCommitted orderId))
        .nothing)
      (.finish
        ((before'.setEscrow orderId
          { world.escrows orderId with
            sellerAmount
            state := .bothCommitted }).emit
              (.bothCommitted orderId))
        .nothing) := by
  refine .finish balance ?_ ?_
  · rw [hBefore, World.cut_setEscrow]
    exact World.cut_emit rfl
  · unfold Escrow.outstanding at hBalance
    rw [hState] at hBalance
    simp [World.emit, World.setEscrow, Escrow.outstanding,
      hBalance]

private theorem sellerCommitEscrow_alike
    (hBalance :
      balance =
        (world.escrows orderId).outstanding + msg.value) :
    SettlesAlike accepts orderId
      (sellerCommitEscrow orderId msg world)
      (sellerCommitEscrow orderId msg
        (world.cut orderId balance)) := by
  dsimp only [sellerCommitEscrow]
  rw [World.cut_escrows_self, World.cut_timestamp]
  refine .unless Iff.rfl fun hState =>
    .unless Iff.rfl fun _ => .unless Iff.rfl fun _ => ?_
  exact commit_alike (not_not.mp hState) hBalance rfl

private theorem sellerCommitSignature_alike
    {signature : List UInt8}
    {businessName businessLicense : String}
    {documentHash : Bytes32}
    (hEmpty :
      (world.escrows orderId).state = .buyerCommitted →
        (world.escrows orderId).sellerAmount = 0)
    (hBalance :
      balance =
        (world.escrows orderId).outstanding + msg.value) :
    SettlesAlike accepts orderId
      (sellerCommitSignature orderId signature businessName
        businessLicense documentHash msg world)
      (sellerCommitSignature orderId signature businessName
        businessLicense documentHash msg
        (world.cut orderId balance)) := by
  dsimp only [sellerCommitSignature, nonpayable]
  rw [World.cut_escrows_self, World.cut_timestamp]
  refine .unless Iff.rfl fun hValue =>
    .unless Iff.rfl fun hState => .unless Iff.rfl fun _ =>
      .unless Iff.rfl fun _ => ?_
  have hDeposit := not_not.mp hState
  refine commit_alike hDeposit ?_
    (World.cut_setLegalSignature _)
  rw [hEmpty hDeposit, hBalance, not_not.mp hValue]

/- What solvency says of the payments from a record. -/
def World.Covers (orderId : Bytes32) (world : World) : Prop :=
  ∀ sender payment escrow,
    Escrow.Pays orderId sender world.timestamp
      (world.escrows orderId) payment escrow →
    payment.amount ≤ world.balance

/- A payment, and the events of the order after it. -/
private theorem pay_alike
    {payment : Payment}
    {escrow : Escrow}
    {announce : World → World}
    {result : Returned}
    (hValue : ¬ msg.value ≠ 0)
    (hBalance :
      balance =
        (world.escrows orderId).outstanding + msg.value)
    (hCovers : world.Covers orderId)
    (hPays :
      Escrow.Pays orderId msg.sender world.timestamp
        (world.escrows orderId) payment escrow)
    (hSame : ∀ paid, World.SameFunds paid (announce paid))
    (hCut :
      ∀ (paid : World) balance,
        announce (paid.cut orderId balance) =
          (announce paid).cut orderId balance) :
    SettlesAlike accepts orderId
      (.transfer (world.setEscrow orderId escrow) payment
        fun paid => .finish (announce paid) result)
      (.transfer
        ((world.cut orderId balance).setEscrow orderId escrow)
        payment
        fun paid => .finish (announce paid) result) := by
  rw [not_not.mp hValue, Nat.add_zero] at hBalance
  refine .pays hPays hBalance (hCovers _ _ _ hPays) ?_
  intro paid balance
  refine ⟨_, _, rfl, hSame paid, ?_⟩
  rw [hCut]

private theorem sellerClaimPayment_alike
    (hBalance :
      balance =
        (world.escrows orderId).outstanding + msg.value)
    (hCovers : world.Covers orderId) :
    SettlesAlike accepts orderId
      (sellerClaimPayment orderId msg world)
      (sellerClaimPayment orderId msg
        (world.cut orderId balance)) := by
  dsimp only [sellerClaimPayment, nonpayable]
  rw [World.cut_escrows_self, World.cut_timestamp]
  refine .unless Iff.rfl fun hValue =>
    .unless Iff.rfl fun hState =>
      .unless Iff.rfl fun hSender =>
        .unless Iff.rfl fun hTime => ?_
  refine pay_alike hValue hBalance hCovers
    (.sellerClaim (not_not.mp hState) (not_not.mp hSender)
      (not_not.mp hTime))
    (fun paid => .emit (.refl paid) _) ?_
  intro paid balance
  rw [World.cut_escrows_self]
  exact World.cut_emit rfl

/- The buyer claims first, or after the seller. -/
private theorem buyerClaimCounterEscrow_alike
    (hBalance :
      balance =
        (world.escrows orderId).outstanding + msg.value)
    (hCovers : world.Covers orderId) :
    SettlesAlike accepts orderId
      (buyerClaimCounterEscrow orderId msg world)
      (buyerClaimCounterEscrow orderId msg
        (world.cut orderId balance)) := by
  dsimp only [buyerClaimCounterEscrow, nonpayable]
  rw [World.cut_escrows_self, World.cut_timestamp]
  refine .unless Iff.rfl fun hValue =>
    .unless Iff.rfl fun hState =>
      .unless Iff.rfl fun hSender =>
        .unless Iff.rfl fun hAmount =>
          .unless Iff.rfl fun hTime => ?_
  refine pay_alike hValue hBalance hCovers ?_
    (fun paid => .emit (.refl paid) _) ?_
  · rcases not_not.mp hState with hBoth | hSeller
    · rw [if_neg (by simp [hBoth])]
      exact .buyerClaimFirst hBoth (not_not.mp hSender)
        (not_not.mp hAmount) (not_not.mp hTime)
    · rw [if_pos hSeller]
      exact .buyerClaimSecond hSeller (not_not.mp hSender)
        (not_not.mp hAmount) (not_not.mp hTime)
  · intro paid balance
    rw [World.cut_escrows_self]
    exact World.cut_emit rfl

/- Two events follow the payment. -/
private theorem triggerTimedRelease_alike
    (hBalance :
      balance =
        (world.escrows orderId).outstanding + msg.value)
    (hCovers : world.Covers orderId) :
    SettlesAlike accepts orderId
      (triggerTimedRelease orderId msg world)
      (triggerTimedRelease orderId msg
        (world.cut orderId balance)) := by
  dsimp only [triggerTimedRelease, nonpayable]
  rw [World.cut_escrows_self, World.cut_timestamp]
  refine .unless Iff.rfl fun hValue =>
    .unless Iff.rfl fun hState =>
      .unless Iff.rfl fun hAllowed =>
        .unless Iff.rfl fun hTime => ?_
  have hPays :=
    @Escrow.Pays.timedRelease orderId msg.sender _ _
      (not_not.mp hState) (not_not.mp hAllowed)
      (not_not.mp hTime)
  refine pay_alike hValue hBalance hCovers hPays
    (fun paid => .emit (.emit (.refl paid) _) _) ?_
  intro paid balance
  rw [World.cut_escrows_self,
    @World.cut_emit orderId _ paid
      (.timedReleaseTriggered orderId) rfl]
  exact World.cut_emit rfl

private theorem refundBuyerTimeout_alike
    (hBalance :
      balance =
        (world.escrows orderId).outstanding + msg.value)
    (hCovers : world.Covers orderId) :
    SettlesAlike accepts orderId
      (refundBuyerTimeout orderId msg world)
      (refundBuyerTimeout orderId msg
        (world.cut orderId balance)) := by
  dsimp only [refundBuyerTimeout, nonpayable]
  rw [World.cut_escrows_self, World.cut_timestamp]
  refine .unless Iff.rfl fun hValue =>
    .unless Iff.rfl fun hState =>
      .unless Iff.rfl fun hTime => ?_
  have hPays :=
    @Escrow.Pays.refund orderId msg.sender _ _
      (not_not.mp hState) (not_not.mp hTime)
  refine pay_alike hValue hBalance hCovers hPays
    (fun paid => .emit (.refl paid) _) ?_
  intro paid balance
  rw [World.cut_escrows_self]
  exact World.cut_emit rfl

/- The body of a call is the same in the contract of its order. -/
theorem Message.body_alike
    (hOrder : msg.function.orderId = orderId)
    (hEmpty :
      (world.escrows orderId).state = .buyerCommitted →
        (world.escrows orderId).sellerAmount = 0)
    (hBalance :
      balance =
        (world.escrows orderId).outstanding + msg.value)
    (hCovers : world.Covers orderId) :
    SettlesAlike accepts orderId (msg.body world)
      (msg.body (world.cut orderId balance)) := by
  unfold Message.body
  revert hOrder
  cases msg.function with
  | createEscrow named _ _ _ _ _ =>
      rintro rfl
      exact createEscrow_alike hBalance
  | sellerCommitEscrow named =>
      rintro rfl
      exact sellerCommitEscrow_alike hBalance
  | sellerCommitSignature named _ _ _ _ =>
      rintro rfl
      exact sellerCommitSignature_alike hEmpty hBalance
  | sellerClaimPayment named =>
      rintro rfl
      exact sellerClaimPayment_alike hBalance hCovers
  | buyerClaimCounterEscrow named =>
      rintro rfl
      exact buyerClaimCounterEscrow_alike hBalance hCovers
  | triggerTimedRelease named =>
      rintro rfl
      exact triggerTimedRelease_alike hBalance hCovers
  | refundBuyerTimeout named =>
      rintro rfl
      exact refundBuyerTimeout_alike hBalance hCovers

end CoreProverEscrow

end BorderController

------------------------------------------------------------
-- Calls on Other Orders
------------------------------------------------------------

namespace BorderController

namespace CoreProverEscrow

namespace World

variable {orderId other : Bytes32}
variable {world paid : World}

theorem only_enter_of_ne
    {msg : Message}
    (hOther : msg.function.orderId ≠ orderId) :
    (world.enter msg).only orderId = world.only orderId := by
  simp [only, cut, enter, Entry.orderId, hOther]

theorem only_setEscrow_of_ne
    (hOther : other ≠ orderId)
    (escrow : Escrow) :
    (world.setEscrow other escrow).only orderId =
      world.only orderId := by
  simp [only, cut, setEscrow, Function.update_of_ne hOther.symm]

theorem only_setLegalSignature_of_ne
    (hOther : other ≠ orderId)
    (legalSignature : LegalSignature) :
    (world.setLegalSignature other legalSignature).only
        orderId =
      world.only orderId := by
  simp [only, cut, setLegalSignature,
    Function.update_of_ne hOther.symm]

theorem only_emit_of_ne
    {event : Event}
    (hOther : event.orderId ≠ orderId) :
    (world.emit event).only orderId = world.only orderId := by
  simp [only, cut, emit, hOther]

theorem only_pay_of_ne
    {payment : Payment}
    (hOther : payment.orderId ≠ orderId)
    (hPay : world.pay payment = some paid) :
    paid.only orderId = world.only orderId := by
  rcases pay_eq_some hPay with ⟨_, hPaid⟩
  subst hPaid
  simp [only, cut, Entry.orderId, hOther]

end World

variable {accepts : Payment → Bool}
variable {orderId : Bytes32}
variable {world : World}
variable {msg : Message}

/- However it settles, the procedure leaves the order alone. -/
def LeavesAlone
    (orderId : Bytes32)
    (world : World) :
    Proc → Prop
  | .revert _ => True
  | .finish after _ => after.only orderId = world.only orderId
  | .transfer before payment resume =>
      payment.orderId ≠ orderId ∧
        before.only orderId = world.only orderId ∧
          ∀ paid, ∃ after result,
            resume paid = .finish after result ∧
              after.only orderId = paid.only orderId

theorem LeavesAlone.unless
    {P : Prop}
    [Decidable P]
    {reason : String}
    {body : Proc}
    (hBody : LeavesAlone orderId world body) :
    LeavesAlone orderId world
      (if P then .revert reason else body) := by
  split
  · trivial
  · exact hBody

theorem LeavesAlone.settle
    {proc : Proc}
    {after : World}
    {result : Returned}
    (hAlone : LeavesAlone orderId world proc)
    (hSettle :
      proc.settle contract accepts = some (after, result)) :
    after.only orderId = world.only orderId := by
  cases proc with
  | revert reason => contradiction
  | finish after result =>
      cases hSettle
      exact hAlone
  | transfer before payment resume =>
      rcases hAlone with ⟨hOther, hBefore, hResume⟩
      unfold Reentrancy.Proc.settle at hSettle
      split at hSettle
      · split at hSettle
        · contradiction
        · rename_i paid hPay
          rcases hResume paid with
            ⟨last, value, hFinish, hLast⟩
          rw [hFinish] at hSettle
          cases hSettle
          rw [hLast, World.only_pay_of_ne hOther hPay, hBefore]
      · contradiction

/- A body leaves all orders alone but the one it names. -/
theorem Message.body_leavesAlone
    (hOther : msg.function.orderId ≠ orderId) :
    LeavesAlone orderId world (msg.body world) := by
  unfold Message.body
  cases hFunction : msg.function with
  | createEscrow named _ _ _ _ _ =>
      rw [hFunction] at hOther
      refine .unless (.unless (.unless ?_))
      split
      · trivial
      · split
        · trivial
        · split
          · trivial
          · refine Eq.trans (World.only_emit_of_ne ?_)
              (World.only_setEscrow_of_ne hOther _)
            exact hOther
  | sellerCommitEscrow named =>
      rw [hFunction] at hOther
      refine .unless (.unless (.unless ?_))
      refine Eq.trans (World.only_emit_of_ne ?_)
        (World.only_setEscrow_of_ne hOther _)
      exact hOther
  | sellerCommitSignature named _ _ _ _ =>
      rw [hFunction] at hOther
      refine .unless (.unless (.unless (.unless ?_)))
      refine Eq.trans (World.only_emit_of_ne ?_)
        ((World.only_setEscrow_of_ne hOther _).trans
          (World.only_setLegalSignature_of_ne hOther _))
      exact hOther
  | sellerClaimPayment named =>
      rw [hFunction] at hOther
      refine .unless (.unless (.unless (.unless ?_)))
      refine ⟨hOther, World.only_setEscrow_of_ne hOther _, ?_⟩
      intro paid
      exact ⟨_, _, rfl, World.only_emit_of_ne hOther⟩
  | buyerClaimCounterEscrow named =>
      rw [hFunction] at hOther
      refine .unless (.unless (.unless (.unless (.unless ?_))))
      refine ⟨hOther, World.only_setEscrow_of_ne hOther _, ?_⟩
      intro paid
      exact ⟨_, _, rfl, World.only_emit_of_ne hOther⟩
  | triggerTimedRelease named =>
      rw [hFunction] at hOther
      refine .unless (.unless (.unless (.unless ?_)))
      refine ⟨hOther, World.only_setEscrow_of_ne hOther _, ?_⟩
      intro paid
      refine ⟨_, _, rfl,
        Eq.trans (World.only_emit_of_ne ?_)
          (World.only_emit_of_ne ?_)⟩
      · exact hOther
      · exact hOther
  | refundBuyerTimeout named =>
      rw [hFunction] at hOther
      refine .unless (.unless (.unless ?_))
      refine ⟨hOther, World.only_setEscrow_of_ne hOther _, ?_⟩
      intro paid
      exact ⟨_, _, rfl, World.only_emit_of_ne hOther⟩

/- A call leaves all orders alone but the one it names. -/
theorem only_of_call
    {time : Nat}
    {after : World}
    {result : Returned}
    (hOther : msg.function.orderId ≠ orderId)
    (hCall :
      call accepts time msg world = some (after, result)) :
    after.only orderId =
      World.only orderId { world with timestamp := time } := by
  have hBody :=
    (Message.body_leavesAlone hOther).settle hCall
  rw [hBody]
  exact World.only_enter_of_ne hOther

/- A call on an order is answered as in its own contract. -/
theorem call_only
    (accepts : Payment → Bool)
    (hConsistent : world.Consistent)
    (hSolvent : world.Solvent)
    (hOrder : msg.function.orderId = orderId) :
    call accepts world.timestamp msg (world.only orderId) =
      (call accepts world.timestamp msg world).map fun p =>
        (p.1.only orderId, p.2) := by
  have hAlike :
      SettlesAlike accepts orderId (msg.body (world.enter msg))
        (msg.body
          ((world.enter msg).cut orderId
            ((world.escrows orderId).outstanding +
              msg.value))) := by
    apply Message.body_alike hOrder
    · intro hState
      exact ((hConsistent orderId).of_buyerCommitted hState).1
    · rfl
    · intro sender payment escrow hPays
      have hCovered := (hSolvent.pays hPays).1
      exact le_trans hCovered (Nat.le_add_right _ _)
  rw [← World.cut_enter hOrder] at hAlike
  exact hAlike

end CoreProverEscrow

end BorderController

------------------------------------------------------------
-- Isolation of Orders
------------------------------------------------------------

namespace BorderController

namespace CoreProverEscrow

open Isolation (Machine Isolated)

/- Time passes, or somebody calls the contract. -/
inductive Request where
  | wait (secs : Nat)
  | call (msg : Message)
deriving DecidableEq, Repr

/-
  Serve a request, with recipients that call nobody back; the
  answer to a call that reverts is `none`.
-/
def serve
    (accepts : Payment → Bool)
    (request : Request)
    (world : World) :
    Option Returned × World :=
  match request with
  | .wait secs =>
      (none,
        { world with timestamp := world.timestamp + secs })
  | .call msg =>
      match call accepts world.timestamp msg world with
      | none => (none, world)
      | some (after, result) => (some result, after)

/- The contract as a machine that is never stuck. -/
def machine
    (accepts : Payment → Bool) :
    Machine World Request (Option Returned) where
  step request world := some (serve accepts request world)

/- What an order depends on: its own calls, and the clock. -/
def Request.concerns (orderId : Bytes32) : Request → Bool
  | .wait _ => true
  | .call msg => msg.function.orderId = orderId

variable {accepts : Payment → Bool}
variable {orderId : Bytes32}
variable {world world' : World}
variable {requests requests' : List Request}

/- Requests keep the contract consistent and solvent. -/
theorem serve_sound
    (accepts : Payment → Bool)
    (request : Request)
    (hConsistent : world.Consistent)
    (hSolvent : world.Solvent) :
    (serve accepts request world).2.Consistent ∧
      (serve accepts request world).2.Solvent := by
  cases request with
  | wait secs => exact ⟨hConsistent, hSolvent⟩
  | call msg =>
      unfold serve
      dsimp only
      split
      · exact ⟨hConsistent, hSolvent⟩
      · rename_i after result hCall
        have hRuns := Reentrancy.runs_of_settle hCall
        exact hRuns.keeps solvent_kept.entry
          (fun _ _ => solvent_kept.drift)
          (solvent_kept.entry msg _ ⟨hConsistent, hSolvent⟩)

/- The contract cut down to an order is isolated. -/
theorem isolated
    (accepts : Payment → Bool)
    (orderId : Bytes32) :
    Isolated (machine accepts) (machine accepts)
      (World.only orderId) (Request.concerns orderId)
      (fun world => world.Consistent ∧ world.Solvent) where
  seen := by
    rintro request world ⟨hConsistent, hSolvent⟩ hConcerns
    refine congrArg some ?_
    cases request with
    | wait secs => rfl
    | call msg =>
        have hOrder : msg.function.orderId = orderId :=
          of_decide_eq_true hConcerns
        have hCall :=
          call_only accepts hConsistent hSolvent hOrder
        unfold serve
        dsimp only
        rw [show (world.only orderId).timestamp =
          world.timestamp from rfl, hCall]
        cases call accepts world.timestamp msg world <;> rfl
  unseen := by
    intro request world _ hOther
    refine ⟨_, _, rfl, ?_⟩
    cases request with
    | wait secs => contradiction
    | call msg =>
        have hNe : msg.function.orderId ≠ orderId :=
          of_decide_eq_false hOther
        dsimp only
        split
        · rfl
        · rename_i after result hCall
          exact only_of_call hNe hCall
  keeps := by
    rintro request world answer after ⟨hConsistent, hSolvent⟩
      hServe
    have hAfter :=
      serve_sound accepts request hConsistent hSolvent
    rw [Option.some.inj hServe] at hAfter
    exact hAfter

/-
  Two contracts with the same past of an order answer alike to
  whatever is asked about it, and the order goes on alike,
  whatever is asked about other orders in between.
-/
theorem orders_isolated
    (accepts : Payment → Bool)
    (hReach : Reachable world)
    (hReach' : Reachable world')
    (hAlike : world.only orderId = world'.only orderId)
    (hRequests :
      requests.filter (Request.concerns orderId) =
        requests'.filter (Request.concerns orderId)) :
    ((machine accepts).run requests world).1.filter
          (fun p => p.1.concerns orderId) =
        ((machine accepts).run requests' world').1.filter
          (fun p => p.1.concerns orderId) ∧
      ((machine accepts).run requests world).2.only orderId =
        ((machine accepts).run requests' world').2.only
          orderId := by
  refine (isolated accepts orderId).noninterference ?_ ?_
    hAlike hRequests
  · exact ⟨hReach.observable.consistent,
      hReach.observable.solvent⟩
  · exact ⟨hReach'.observable.consistent,
      hReach'.observable.solvent⟩

end CoreProverEscrow

end BorderController

------------------------------------------------------------
-- An Order Among Others
------------------------------------------------------------

namespace BorderController

namespace CoreProverEscrow

/- Two orders, one of them with both commitments. -/
def crowdedOrder : List (Nat × Message) :=
  [(1000,
      ⟨0xCA11, 90,
        .createEscrow 8 0x5E11 86400 604800 false 0⟩),
    (1000,
      ⟨0xB0B, 500,
        .createEscrow 7 0x5E11 86400 604800 false 0⟩),
    (2000, ⟨0x5E11, 40, .sellerCommitEscrow 7⟩)]

def claimRequests : List Request :=
  [.wait 60, .call ⟨0x5E11, 0, .sellerClaimPayment 7⟩]

/- The same with calls on the other order in between. -/
def crowdedRequests : List Request :=
  [ .call ⟨0x5E11, 5, .sellerCommitEscrow 8⟩,
    .wait 60,
    .call ⟨0x5E11, 0, .sellerClaimPayment 8⟩,
    .call ⟨0x5E11, 0, .sellerClaimPayment 7⟩ ]

/- A claim is answered alike with and without them. -/
theorem orders_isolated_claim :
    ∃ world,
      replay accepting crowdedOrder (.deployed 1000 0) =
          some world ∧
        ((machine accepting).run crowdedRequests
            world).2.only 7 =
          ((machine accepting).run claimRequests
            world).2.only 7 := by
  have hReach :
      ∀ world,
        replay accepting crowdedOrder (.deployed 1000 0) =
            some world →
          Reachable world := by
    intro world hReplay
    exact (Reachable.deployed 1000 0).replay hReplay
  refine ⟨_, rfl, ?_⟩
  have hHere := hReach _ rfl
  exact (orders_isolated accepting hHere hHere rfl
    (by decide)).2

end CoreProverEscrow

end BorderController

import BorderController.CoreProverEscrow.Lifecycle

/-
  What the seller of a committed order has put at stake.

  A commitment is one call, which stays in the trace: the
  deposit of a counter-escrow or a signature on record.  The
  deposit may be of no ether at all.

  Key definitions include:
    * `EscrowState.isCommitted`
    * `commitments`, `Stakes`
    * `AtStake`
    * `Message.Backs`

  Key theorems include:
    * `Message.leavesSignatures`
    * `Observable.staked`
    * `atStake_iff`
-/

------------------------------------------------------------
-- Signatures on Record
------------------------------------------------------------

namespace BorderController

namespace CoreProverEscrow

/-
  The procedure ends with the signatures `after`; one that
  pays leaves them alone.
-/
def LeavesSignatures
    (before after : Bytes32 → LegalSignature) :
    Proc → Prop
  | .revert _ => True
  | .finish world _ => world.legalSignatures = after
  | .transfer world _ resume =>
      world.legalSignatures = before ∧
        ∀ resumed, ∃ world result,
          resume resumed = .finish world result ∧
            world.legalSignatures = resumed.legalSignatures

/- The signatures after a message that does not revert. -/
def Message.signatures
    (msg : Message)
    (world : World) :
    Bytes32 → LegalSignature :=
  match msg.function with
  | .sellerCommitSignature orderId signature businessName
      businessLicense documentHash =>
      Function.update world.legalSignatures orderId
        { signature
          businessName
          businessLicense
          documentHash
          timestamp := world.timestamp }
  | _ => world.legalSignatures

variable {before after : Bytes32 → LegalSignature}

theorem LeavesSignatures.unless
    {P : Prop}
    [Decidable P]
    {reason : String}
    {body : Proc}
    (hLeaves : LeavesSignatures before after body) :
    LeavesSignatures before after
      (if P then .revert reason else body) := by
  by_cases hRefused : P
  · rw [if_pos hRefused]
    trivial
  · rw [if_neg hRefused]
    exact hLeaves

private theorem createEscrow_leaves
    {orderId : Bytes32}
    {seller : Address}
    {commitmentWindow claimWindow timedReleaseDelay : Nat}
    {allowsTimedRelease : Bool}
    {msg : Message}
    {world : World} :
    LeavesSignatures world.legalSignatures
      world.legalSignatures
      (createEscrow orderId seller commitmentWindow claimWindow
        allowsTimedRelease timedReleaseDelay msg world) := by
  refine .unless (.unless (.unless ?_))
  split
  · trivial
  · split
    · trivial
    · split
      · trivial
      · rfl

/- Only a signature changes the signatures on record. -/
theorem Message.leavesSignatures
    (msg : Message)
    (world : World) :
    LeavesSignatures world.legalSignatures
      (msg.signatures world) (msg.body world) := by
  unfold Message.body Message.signatures
  cases msg.function with
  | createEscrow orderId seller commitmentWindow claimWindow
      allowsTimedRelease timedReleaseDelay =>
      exact createEscrow_leaves
  | sellerCommitEscrow orderId =>
      exact .unless (.unless (.unless rfl))
  | sellerCommitSignature orderId signature businessName
      businessLicense documentHash =>
      exact .unless (.unless (.unless (.unless rfl)))
  | sellerClaimPayment orderId =>
      exact .unless (.unless (.unless (.unless
        ⟨rfl, fun _ => ⟨_, _, rfl, rfl⟩⟩)))
  | buyerClaimCounterEscrow orderId =>
      exact .unless (.unless (.unless (.unless (.unless
        ⟨rfl, fun _ => ⟨_, _, rfl, rfl⟩⟩))))
  | triggerTimedRelease orderId =>
      exact .unless (.unless (.unless (.unless
        ⟨rfl, fun _ => ⟨_, _, rfl, rfl⟩⟩)))
  | refundBuyerTimeout orderId =>
      exact .unless (.unless (.unless
        ⟨rfl, fun _ => ⟨_, _, rfl, rfl⟩⟩))

variable {msg : Message}
variable {world : World}
variable {orderId : Bytes32}

theorem Message.signatures_createEscrow
    (hFunction :
      ∃ seller commitmentWindow claimWindow
          allowsTimedRelease timedReleaseDelay,
        msg.function =
          .createEscrow orderId seller commitmentWindow
            claimWindow allowsTimedRelease
            timedReleaseDelay) :
    msg.signatures world = world.legalSignatures := by
  rcases hFunction with ⟨_, _, _, _, _, hFunction⟩
  unfold Message.signatures
  rw [hFunction]

theorem Message.signatures_sellerCommitEscrow
    (hFunction : msg.function = .sellerCommitEscrow orderId) :
    msg.signatures world = world.legalSignatures := by
  unfold Message.signatures
  rw [hFunction]

theorem Message.signatures_sellerCommitSignature
    {signature : List UInt8}
    {businessName businessLicense : String}
    {documentHash : Bytes32}
    (hFunction :
      msg.function =
        .sellerCommitSignature orderId signature businessName
          businessLicense documentHash) :
    msg.signatures world =
      Function.update world.legalSignatures orderId
        { signature
          businessName
          businessLicense
          documentHash
          timestamp := world.timestamp } := by
  unfold Message.signatures
  rw [hFunction]

end CoreProverEscrow

end BorderController

------------------------------------------------------------
-- Commitments of an Order
------------------------------------------------------------

namespace BorderController

namespace CoreProverEscrow

/- Both parties have committed, and the order is not refunded. -/
def EscrowState.isCommitted : EscrowState → Bool
  | .bothCommitted => true
  | .sellerClaimed => true
  | .buyerClaimed => true
  | .bothClaimed => true
  | _ => false

/- A call with which a seller commits to the order. -/
def Entry.commitment?
    (orderId : Bytes32) :
    Entry → Option (Message × Nat)
  | .called msg time =>
      if msg.function.orderId = orderId ∧
          msg.function.commits = true then
        some (msg, time)
      else
        none
  | .sent _ _ => none

def commitments
    (orderId : Bytes32)
    (trace : List Entry) :
    List (Message × Nat) :=
  trace.filterMap (Entry.commitment? orderId)

/-
  The commitments that go with an escrow record and with the
  signature on record.
-/
inductive Stakes
    (orderId : Bytes32)
    (escrow : Escrow)
    (legalSignature : LegalSignature) :
    List (Message × Nat) → Prop
  | none :
      escrow.state.isCommitted = false →
      legalSignature = .zero →
      Stakes orderId escrow legalSignature []
  | deposited (msg : Message) (time : Nat) :
      escrow.state.isCommitted = true →
      msg.function = .sellerCommitEscrow orderId →
      msg.sender = escrow.seller →
      legalSignature = .zero →
      Stakes orderId escrow legalSignature [(msg, time)]
  | signed (msg : Message) (time : Nat) :
      escrow.state.isCommitted = true →
      msg.function =
        .sellerCommitSignature orderId
          legalSignature.signature
          legalSignature.businessName
          legalSignature.businessLicense
          legalSignature.documentHash →
      msg.sender = escrow.seller →
      legalSignature.timestamp = time →
      Stakes orderId escrow legalSignature [(msg, time)]

def World.Staked (world : World) : Prop :=
  ∀ orderId,
    Stakes orderId (world.escrows orderId)
      (world.legalSignatures orderId)
      (commitments orderId world.trace)

variable {orderId : Bytes32}
variable {msg : Message}
variable {time : Nat}

@[simp]
theorem commitments_append
    (orderId : Bytes32)
    (trace entries : List Entry) :
    commitments orderId (trace ++ entries) =
      commitments orderId trace ++
        commitments orderId entries :=
  List.filterMap_append

@[simp]
theorem commitments_sent
    (orderId : Bytes32)
    (payment : Payment)
    (time : Nat) :
    commitments orderId [.sent payment time] = [] :=
  rfl

theorem commitments_called
    (hOrder : msg.function.orderId = orderId)
    (hCommits : msg.function.commits = true) :
    commitments orderId [.called msg time] =
      [(msg, time)] :=
  List.filterMap_cons_some (if_pos ⟨hOrder, hCommits⟩)

theorem commitments_called_of_ne
    (hOther : msg.function.orderId ≠ orderId) :
    commitments orderId [.called msg time] = [] :=
  List.filterMap_cons_none
    (if_neg fun hBoth => hOther hBoth.1)

theorem commitments_called_of_not_commits
    (hCommits : msg.function.commits = false) :
    commitments orderId [.called msg time] = [] :=
  List.filterMap_cons_none
    (if_neg fun hBoth => by simp [hCommits] at hBoth)

theorem mem_commitments_iff
    {trace : List Entry} :
    (msg, time) ∈ commitments orderId trace ↔
      .called msg time ∈ trace ∧
        msg.function.orderId = orderId ∧
        msg.function.commits = true := by
  unfold commitments
  rw [List.mem_filterMap]
  constructor
  · rintro ⟨entry, hMem, hCommitment⟩
    cases entry with
    | sent payment u => contradiction
    | called other u =>
        simp only [Entry.commitment?] at hCommitment
        split_ifs at hCommitment with hBoth
        cases hCommitment
        exact ⟨hMem, hBoth⟩
  · rintro ⟨hMem, hBoth⟩
    exact ⟨_, hMem, if_pos hBoth⟩

/- A payment leaves the seller and the commitment as they are. -/
theorem Escrow.Pays.committed
    {sender : Address}
    {escrow escrow' : Escrow}
    {payment : Payment}
    (hPays :
      Escrow.Pays orderId sender time escrow payment
        escrow') :
    escrow'.state.isCommitted = escrow.state.isCommitted ∧
      escrow'.seller = escrow.seller := by
  cases hPays with
  | sellerClaim hState => exact ⟨by rw [hState]; rfl, rfl⟩
  | timedRelease hState => exact ⟨by rw [hState]; rfl, rfl⟩
  | buyerClaimFirst hState => exact ⟨by rw [hState]; rfl, rfl⟩
  | buyerClaimSecond hState =>
      exact ⟨by rw [hState]; rfl, rfl⟩
  | refund hState => exact ⟨by rw [hState]; rfl, rfl⟩

/- Another record with the same seller and commitment. -/
theorem Stakes.transport
    {escrow escrow' : Escrow}
    {legalSignature : LegalSignature}
    {calls : List (Message × Nat)}
    (hStakes : Stakes orderId escrow legalSignature calls)
    (hState :
      escrow'.state.isCommitted = escrow.state.isCommitted)
    (hSeller : escrow'.seller = escrow.seller) :
    Stakes orderId escrow' legalSignature calls := by
  cases hStakes with
  | none hNone hZero => exact .none (hState.trans hNone) hZero
  | deposited msg time hCommitted hFunction hSender hZero =>
      exact .deposited msg time (hState.trans hCommitted)
        hFunction (hSender.trans hSeller.symm) hZero
  | signed msg time hCommitted hFunction hSender hTime =>
      exact .signed msg time (hState.trans hCommitted)
        hFunction (hSender.trans hSeller.symm) hTime

theorem Stakes.of_not_committed
    {escrow : Escrow}
    {legalSignature : LegalSignature}
    {calls : List (Message × Nat)}
    (hStakes : Stakes orderId escrow legalSignature calls)
    (hState : escrow.state.isCommitted = false) :
    calls = [] ∧ legalSignature = .zero := by
  cases hStakes with
  | none _ hZero => exact ⟨rfl, hZero⟩
  | deposited _ _ hCommitted =>
      rw [hState] at hCommitted
      contradiction
  | signed _ _ hCommitted =>
      rw [hState] at hCommitted
      contradiction

end CoreProverEscrow

end BorderController

------------------------------------------------------------
-- Every World Is Staked
------------------------------------------------------------

namespace BorderController

namespace CoreProverEscrow

variable {world after : World}
variable {msg : Message}
variable {orderId : Bytes32}
variable {escrow : Escrow}

/-
  Writing the record of one order keeps the worlds staked if
  the new record goes with the commitments of its order.
-/
theorem World.Staked.write
    {entries : List Entry}
    (hStaked : world.Staked)
    (hEscrows :
      after.escrows =
        Function.update world.escrows orderId escrow)
    (hTrace : after.trace = world.trace ++ entries)
    (hKey :
      Stakes orderId escrow (after.legalSignatures orderId)
        (commitments orderId world.trace ++
          commitments orderId entries))
    (hOther :
      ∀ other, other ≠ orderId →
        commitments other entries = [] ∧
          after.legalSignatures other =
            world.legalSignatures other) :
    after.Staked := by
  intro other
  rw [hEscrows, hTrace, commitments_append]
  by_cases hSame : other = orderId
  · subst hSame
    rw [Function.update_self]
    exact hKey
  · rcases hOther other hSame with ⟨hNone, hSignature⟩
    rw [Function.update_of_ne hSame, hNone, hSignature,
      List.append_nil]
    exact hStaked other

/- Worlds that agree on records, signatures and trace. -/
theorem World.Staked.same
    {world' : World}
    (hStaked : world.Staked)
    (hSame : World.SameFunds world world')
    (hSignatures :
      world'.legalSignatures = world.legalSignatures) :
    world'.Staked := by
  intro orderId
  rw [hSame.escrows, hSame.trace, hSignatures]
  exact hStaked orderId

/- A call that only pays commits nobody. -/
private theorem commits_of_not_opens
    (hOpens : msg.function.opens = false) :
    msg.function.commits = false := by
  cases hFunction : msg.function <;>
    rw [hFunction] at hOpens <;>
    first | rfl | contradiction

/-
  A call that opens or commits an order keeps the worlds staked
  if the new record goes with this one call.
-/
private theorem World.Staked.called
    (hStaked : world.Staked)
    (hOrder : msg.function.orderId = orderId)
    (hState :
      (world.escrows orderId).state.isCommitted = false)
    (hSame :
      World.SameFunds
        ((world.enter msg).setEscrow orderId escrow) after)
    (hKey :
      world.legalSignatures orderId = .zero →
        Stakes orderId escrow (after.legalSignatures orderId)
          (commitments orderId
            [.called msg world.timestamp]))
    (hOther :
      ∀ other, other ≠ orderId →
        after.legalSignatures other =
          world.legalSignatures other) :
    after.Staked := by
  subst hOrder
  rcases (hStaked _).of_not_committed hState with
    ⟨hEmpty, hZero⟩
  apply hStaked.write hSame.escrows hSame.trace
  · rw [hEmpty, List.nil_append]
    exact hKey hZero
  · intro other hDifferent
    exact ⟨commitments_called_of_ne hDifferent.symm,
      hOther other hDifferent⟩

theorem World.Staked.entry
    (hStaked : world.Staked) :
    (contract.entry msg world).Keeps contract
      World.Staked := by
  have hShape := msg.shape (world.enter msg)
  have hLeaves := msg.leavesSignatures (world.enter msg)
  show (msg.body (world.enter msg)).Keeps contract _
  generalize msg.body (world.enter msg) = proc
    at hShape hLeaves
  cases hShape with
  | reverts reason => trivial
  | @creates orderId escrow after result hFunction hFresh
      hState hBuyer hAmount hSeller hSame =>
      have hSignatures :
          after.legalSignatures = world.legalSignatures :=
        Eq.trans hLeaves
          (Message.signatures_createEscrow hFunction)
      have hFresh : (world.escrows orderId).state = .none :=
        hFresh
      rcases hFunction with ⟨_, _, _, _, _, hFunction⟩
      apply hStaked.called (by rw [hFunction]; rfl)
        (by rw [hFresh]; rfl) hSame
      · intro hZero
        rw [hSignatures, hZero,
          commitments_called_of_not_commits
            (by rw [hFunction]; rfl)]
        exact .none (by rw [hState]; rfl) rfl
      · intro other _
        rw [hSignatures]
  | @deposits orderId after result hFunction hState hSender
      hTime hSame =>
      have hSignatures :
          after.legalSignatures = world.legalSignatures :=
        Eq.trans hLeaves
          (Message.signatures_sellerCommitEscrow hFunction)
      have hState :
          (world.escrows orderId).state = .buyerCommitted :=
        hState
      apply hStaked.called (by rw [hFunction]; rfl)
        (by rw [hState]; rfl) hSame
      · intro hZero
        rw [hSignatures, hZero,
          commitments_called (by rw [hFunction]; rfl)
            (by rw [hFunction]; rfl)]
        exact .deposited msg _ rfl hFunction hSender rfl
      · intro other _
        rw [hSignatures]
  | @signs orderId after result hFunction hValue hState
      hSender hTime hSame =>
      rcases hFunction with
        ⟨signature, businessName, businessLicense,
          documentHash, hFunction⟩
      have hSignatures :=
        Eq.trans hLeaves
          (Message.signatures_sellerCommitSignature hFunction)
      have hState :
          (world.escrows orderId).state = .buyerCommitted :=
        hState
      apply hStaked.called (by rw [hFunction]; rfl)
        (by rw [hState]; rfl) hSame
      · intro _
        rw [hSignatures, Function.update_self,
          commitments_called (by rw [hFunction]; rfl)
            (by rw [hFunction]; rfl)]
        exact .signed msg _ rfl hFunction hSender rfl
      · intro other hOther
        rw [hSignatures, Function.update_of_ne hOther]
        rfl
  | @pays orderId payment escrow resume hOrder hOpens hValue
      hPays hResume =>
      subst hOrder
      rcases hLeaves with ⟨hBefore, hAfter⟩
      have hCommits := commits_of_not_opens hOpens
      refine ⟨?_, ?_⟩
      · intro paid hPay
        rcases World.pay_eq_some hPay with ⟨_, hPaid⟩
        subst hPaid
        rcases hPays.committed with ⟨hState, hSeller⟩
        apply hStaked.write rfl (List.append_assoc _ _ _)
        · rw [commitments_append,
            commitments_called_of_not_commits hCommits,
            commitments_sent, List.append_nil,
            List.append_nil]
          exact (hStaked _).transport hState hSeller
        · intro other hOther
          rw [commitments_append,
            commitments_called_of_ne hOther.symm]
          exact ⟨rfl, rfl⟩
      · intro resumed hResumed
        rcases hResume resumed with
          ⟨after, result, hResult, hSame⟩
        rcases hAfter resumed with
          ⟨after', result', hResult', hSignatures⟩
        rw [hResult] at hResult'
        cases hResult'
        rw [hResult]
        exact hResumed.same hSame hSignatures

theorem staked_kept : Kept World.Staked where
  deployed _ _ _ := .none rfl rfl
  later _ _ hStaked := hStaked
  force _ _ hStaked := hStaked
  entry _ _ hStaked := hStaked.entry

theorem Observable.staked
    (hWorld : Observable world) :
    world.Staked :=
  staked_kept.observable hWorld

end CoreProverEscrow

end BorderController

------------------------------------------------------------
-- Something at Stake
------------------------------------------------------------

namespace BorderController

namespace CoreProverEscrow

/-
  The seller deposited a counter-escrow for the order, or a
  signature by the seller is on record.
-/
def AtStake (orderId : Bytes32) (world : World) : Prop :=
  (∃ msg time,
      Entry.called msg time ∈ world.trace ∧
        msg.function = .sellerCommitEscrow orderId ∧
        msg.sender = (world.escrows orderId).seller ∧
        0 < msg.value) ∨
    ∃ msg time,
      Entry.called msg time ∈ world.trace ∧
        msg.function =
          .sellerCommitSignature orderId
            (world.legalSignatures orderId).signature
            (world.legalSignatures orderId).businessName
            (world.legalSignatures orderId).businessLicense
            (world.legalSignatures orderId).documentHash ∧
        msg.sender = (world.escrows orderId).seller ∧
        (world.legalSignatures orderId).timestamp = time ∧
        time ≠ 0

/- What a committing call has to bring along. -/
def Message.Backs (time : Nat) (msg : Message) : Prop :=
  match msg.function with
  | .sellerCommitEscrow _ => 0 < msg.value
  | .sellerCommitSignature .. => time ≠ 0
  | _ => True

variable {world : World}
variable {orderId : Bytes32}
variable {msg : Message}
variable {time : Nat}

private theorem atStake_of_backs
    (hStaked : world.Staked)
    (hBacks :
      ∀ msg time,
        Entry.called msg time ∈ world.trace →
        msg.Backs time)
    (hState :
      (world.escrows orderId).state.isCommitted = true) :
    AtStake orderId world := by
  have hStakes := hStaked orderId
  generalize hCalls :
    commitments orderId world.trace = calls at hStakes
  have hTrace :
      ∀ {msg time},
        (msg, time) ∈ calls →
        Entry.called msg time ∈ world.trace := by
    intro msg time hMem
    rw [← hCalls, mem_commitments_iff] at hMem
    exact hMem.1
  cases hStakes with
  | none hNone _ =>
      rw [hNone] at hState
      contradiction
  | deposited msg time _ hFunction hSender _ =>
      have hCalled := hTrace (List.mem_singleton_self _)
      have hValue := hBacks msg time hCalled
      unfold Message.Backs at hValue
      rw [hFunction] at hValue
      exact .inl
        ⟨msg, time, hCalled, hFunction, hSender, hValue⟩
  | signed msg time _ hFunction hSender hTime =>
      have hCalled := hTrace (List.mem_singleton_self _)
      have hNonzero := hBacks msg time hCalled
      unfold Message.Backs at hNonzero
      rw [hFunction] at hNonzero
      exact .inr
        ⟨msg, time, hCalled, hFunction, hSender, hTime,
          hNonzero⟩

/- The order of a committing call, with its only commitment. -/
private theorem stakes_of_called
    (hStaked : world.Staked)
    (hCalled : Entry.called msg time ∈ world.trace)
    (hCommits : msg.function.commits = true) :
    (world.escrows msg.function.orderId).state.isCommitted =
        true ∧
      commitments msg.function.orderId world.trace =
        [(msg, time)] := by
  have hMem :
      (msg, time) ∈
        commitments msg.function.orderId world.trace :=
    mem_commitments_iff.mpr ⟨hCalled, rfl, hCommits⟩
  have hStakes := hStaked msg.function.orderId
  generalize
    commitments msg.function.orderId world.trace = calls
    at hStakes hMem
  cases hStakes with
  | none _ _ => contradiction
  | deposited only u hCommitted _ _ _ =>
      rw [List.mem_singleton.mp hMem]
      exact ⟨hCommitted, rfl⟩
  | signed only u hCommitted _ _ _ =>
      rw [List.mem_singleton.mp hMem]
      exact ⟨hCommitted, rfl⟩

private theorem backs_of_atStake
    (hStaked : world.Staked)
    (hCalled : Entry.called msg time ∈ world.trace)
    (hCommits : msg.function.commits = true)
    (hStake : AtStake msg.function.orderId world) :
    msg.Backs time := by
  rcases stakes_of_called hStaked hCalled hCommits with
    ⟨_, hOnly⟩
  have hSame :
      ∀ {other u},
        Entry.called other u ∈ world.trace →
        other.function.orderId = msg.function.orderId →
        other.function.commits = true →
        other = msg ∧ u = time := by
    intro other u hMem hOrder hOtherCommits
    have hOther :=
      mem_commitments_iff.mpr ⟨hMem, hOrder, hOtherCommits⟩
    rw [hOnly, List.mem_singleton] at hOther
    cases hOther
    exact ⟨rfl, rfl⟩
  unfold Message.Backs
  rcases hStake with
    ⟨other, u, hMem, hFunction, _, hValue⟩ |
      ⟨other, u, hMem, hFunction, _, _, hNonzero⟩
  · rcases hSame hMem (by rw [hFunction]; rfl)
        (by rw [hFunction]; rfl) with ⟨hMsg, _⟩
    subst hMsg
    rw [hFunction]
    exact hValue
  · rcases hSame hMem (by rw [hFunction]; rfl)
        (by rw [hFunction]; rfl) with ⟨hMsg, hTime⟩
    subst hMsg hTime
    rw [hFunction]
    exact hNonzero

theorem atStake_iff
    (hWorld : Observable world) :
    (∀ orderId,
        (world.escrows orderId).state.isCommitted = true →
        AtStake orderId world) ↔
      ∀ msg time,
        Entry.called msg time ∈ world.trace →
        msg.Backs time := by
  have hStaked := hWorld.staked
  constructor
  · intro hAll msg time hCalled
    cases hCommits : msg.function.commits with
    | true =>
        apply backs_of_atStake hStaked hCalled hCommits
        apply hAll
        exact (stakes_of_called hStaked hCalled hCommits).1
    | false =>
        unfold Message.Backs
        cases hFunction : msg.function with
        | sellerCommitEscrow _ =>
            rw [hFunction] at hCommits
            contradiction
        | sellerCommitSignature _ _ _ _ _ =>
            rw [hFunction] at hCommits
            contradiction
        | _ => trivial
  · intro hBacks orderId hState
    exact atStake_of_backs hStaked hBacks hState

/- A seller who commits nothing, and is paid. -/
def emptyCommitment : List (Nat × Message) :=
  [(1000,
      ⟨0xB0B, 500, .createEscrow 7 0x5E11 100 100 false 0⟩),
    (1050, ⟨0x5E11, 0, .sellerCommitEscrow 7⟩),
    (1060, ⟨0x5E11, 0, .sellerClaimPayment 7⟩)]

/- A seller who signs, and is paid. -/
def signedCommitment : List (Nat × Message) :=
  [(1000,
      ⟨0xB0B, 500, .createEscrow 7 0x5E11 100 100 false 0⟩),
    (1050,
      ⟨0x5E11, 0, .sellerCommitSignature 7 [1] "Pizza" "L-1"
        42⟩),
    (1060, ⟨0x5E11, 0, .sellerClaimPayment 7⟩)]

/- The payment is released to a seller who risked nothing. -/
theorem emptyCommitment_not_atStake :
    ∃ world,
      Observable world ∧
        (world.escrows 7).state = .sellerClaimed ∧
        ¬ AtStake 7 world := by
  have hReplay :
      replay accepting emptyCommitment (.deployed 1000 0) =
        some _ :=
    rfl
  refine ⟨_,
    ((Reachable.deployed 1000 0).replay hReplay).observable,
    rfl, ?_⟩
  rintro (⟨msg, time, hMem, hFunction, _, hValue⟩ |
    ⟨msg, time, hMem, hFunction, _, hTime, hNonzero⟩)
  · change _ ∈ [Entry.called _ _, .called _ _, .called _ _,
      .sent _ _] at hMem
    simp only [List.mem_cons, List.not_mem_nil, or_false,
      reduceCtorEq] at hMem
    rcases hMem with hCreate | hCommit | hClaim
    · cases hCreate
      contradiction
    · cases hCommit
      contradiction
    · cases hClaim
      contradiction
  · exact hNonzero hTime.symm

theorem signedCommitment_atStake :
    ∃ world,
      replay accepting signedCommitment (.deployed 1000 0) =
          some world ∧
        AtStake 7 world := by
  have hReplay :
      replay accepting signedCommitment (.deployed 1000 0) =
        some _ :=
    rfl
  refine ⟨_, hReplay, ?_⟩
  apply
    (atStake_iff
      ((Reachable.deployed 1000 0).replay
        hReplay).observable).mpr ?_ 7 rfl
  intro msg time hMem
  change _ ∈ [Entry.called _ _, .called _ _, .called _ _,
    .sent _ _] at hMem
  simp only [List.mem_cons, List.not_mem_nil, or_false,
    reduceCtorEq] at hMem
  rcases hMem with hCreate | hCommit | hClaim
  · cases hCreate
    trivial
  · cases hCommit
    exact Nat.succ_ne_zero 1049
  · cases hClaim
    trivial

end CoreProverEscrow

end BorderController

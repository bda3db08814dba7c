import BorderController.Engine.Invariants
import BorderController.Engine.Payout

/-
  The times and deadlines of an escrow, as long as no addition
  to a clock wraps.

  Key definitions include:
    * `ClockFits`
    * `Escrow.stamps`
    * `Escrow.Timed`
    * `Accepts`

  Key theorems include:
    * `Escrow.Change.timed`
    * `Escrow.Timed.advance`
    * `timed_of_path`
-/

------------------------------------------------------------
-- Clock Additions
------------------------------------------------------------

namespace BorderController

namespace Engine

variable [Chrono]

/-
  The additions a call makes to a clock stay below 2^64: to
  both clocks when time advances, and to the current time when
  a commit or an acceptance that succeeds sets a deadline.
-/
def ClockFits (engine : CoreProverEngine) : Op → Prop
  | .advanceTime secs =>
      engine.currentMono.toNat + secs.toNat < 2 ^ 64 ∧
        engine.currentUnix.toNat + secs.toNat < 2 ^ 64
  | .buyerCommit _ _ _ profile _ txid =>
      RustString.isBlank txid = false →
        engine.currentMono.toNat +
            profile.timing.acceptanceWindowSecs.toNat <
          2 ^ 64
  | .sellerAccept orderId txid =>
      ∀ i escrow escrow',
        engine.lookup orderId = some (i, escrow) →
        escrow.sellerAccept engine.now engine.chainId txid =
          .ok ((), escrow') →
        engine.currentMono.toNat +
            escrow.profile.timing.fulfillmentWindowSecs.toNat <
          2 ^ 64
  | _ => True

/- A call of `seller_accept` on record `i` returned `Ok`. -/
def Accepts
    (i : Nat)
    (tr : Transition CoreProverEngine Call) :
    Prop :=
  ∃ orderId txid escrow,
    tr.label = ⟨.sellerAccept orderId txid, .ok .done⟩ ∧
      tr.source.lookup orderId = some (i, escrow)

end Engine

end BorderController

------------------------------------------------------------
-- Times of a Record
------------------------------------------------------------

namespace BorderController

namespace Engine

/- The times on record, in the order of a regular life. -/
def Escrow.stamps (escrow : Escrow) : List UInt64 :=
  escrow.buyerCommitMono ::
    (escrow.sellerAcceptMono.toList ++
      (escrow.fulfillmentMono.toList ++
        escrow.settlementMono.toList))

/- The times and deadlines of a record agree at time `mono`. -/
structure Escrow.Timed
    (mono : UInt64)
    (escrow : Escrow) :
    Prop where
  ordered :
    (escrow.stamps ++ [mono]).Pairwise (· ≤ ·)
  acceptanceDeadline :
    escrow.acceptanceDeadlineMono.toNat =
      escrow.buyerCommitMono.toNat +
        escrow.profile.timing.acceptanceWindowSecs.toNat
  deadline_isSome :
    escrow.fulfillmentDeadlineMono.isSome =
      escrow.sellerAcceptMono.isSome
  txid_isSome :
    escrow.sellerAcceptTxid.isSome =
      escrow.sellerAcceptMono.isSome
  accepted :
    ∀ accepted,
      escrow.sellerAcceptMono = some accepted →
      accepted ≤ escrow.acceptanceDeadlineMono
  fulfillmentDeadline :
    ∀ accepted deadline,
      escrow.sellerAcceptMono = some accepted →
      escrow.fulfillmentDeadlineMono = some deadline →
      deadline.toNat =
        accepted.toNat +
          escrow.profile.timing.fulfillmentWindowSecs.toNat
  fulfilled :
    escrow.state = .sellerFulfilled →
      ∃ fulfilled deadline,
        escrow.fulfillmentMono = some fulfilled ∧
          escrow.fulfillmentDeadlineMono = some deadline ∧
          fulfilled ≤ deadline
  expired :
    escrow.state = .fulfillmentExpired →
      ∃ deadline,
        escrow.fulfillmentDeadlineMono = some deadline ∧
          deadline < mono ∧
          ∀ fulfilled,
            escrow.fulfillmentMono = some fulfilled →
            deadline < fulfilled
  settled :
    escrow.settlementMono.isSome = escrow.state.isTerminal

/- An order has an acceptance on record once it is accepted. -/
structure Escrow.Pending (escrow : Escrow) : Prop where
  committed :
    escrow.state = .buyerCommitted →
      escrow.sellerAcceptMono = none
  accepted :
    escrow.state = .sellerAccepted →
      escrow.sellerAcceptMono.isSome

/- A time that has come may be put on record. -/
private theorem pairwise_stamp
    {xs : List UInt64}
    {mono mono' : UInt64}
    (hOrdered : (xs ++ [mono]).Pairwise (· ≤ ·))
    (hLe : mono ≤ mono') :
    (xs ++ [mono] ++ [mono']).Pairwise (· ≤ ·) := by
  rw [List.pairwise_append]
  refine ⟨hOrdered, List.pairwise_singleton _ _, ?_⟩
  intro a hMem b hLast
  rw [List.mem_singleton.mp hLast]
  rcases List.mem_append.mp hMem with hOld | hNow
  · have hBound :=
      (List.pairwise_append.mp hOrdered).2.2 a hOld mono
        (List.mem_singleton.mpr rfl)
    exact UInt64.le_trans hBound hLe
  · rw [List.mem_singleton.mp hNow]
    exact hLe

/- Later on, the times of a record are still in order. -/
theorem Escrow.Timed.advance
    {mono mono' : UInt64}
    {escrow : Escrow}
    (hTimed : escrow.Timed mono)
    (hLe : mono ≤ mono') :
    escrow.Timed mono' where
  ordered := by
    refine (pairwise_stamp hTimed.ordered hLe).sublist ?_
    rw [List.append_assoc]
    exact (List.Sublist.refl _).append
      (List.sublist_append_right _ _)
  acceptanceDeadline := hTimed.acceptanceDeadline
  deadline_isSome := hTimed.deadline_isSome
  txid_isSome := hTimed.txid_isSome
  accepted := hTimed.accepted
  fulfillmentDeadline := hTimed.fulfillmentDeadline
  fulfilled := hTimed.fulfilled
  expired hState := by
    rcases hTimed.expired hState with
      ⟨deadline, hDeadline, hPast, hLate⟩
    exact ⟨deadline, hDeadline,
      UInt64.lt_of_lt_of_le hPast hLe, hLate⟩
  settled := hTimed.settled

theorem Escrow.new_timed
    {orderId : OrderId}
    {buyer seller : String}
    {amount : UInt64}
    {profile : PaymentProfile}
    {chain : UInt64}
    {txid : String}
    {mono : UInt64}
    (hFits :
      mono.toNat +
          profile.timing.acceptanceWindowSecs.toNat <
        2 ^ 64) :
    (Escrow.new orderId buyer seller amount profile chain txid
      mono).Timed mono where
  ordered := by simp [Escrow.stamps, Escrow.new]
  acceptanceDeadline := by
    simp only [Escrow.new, UInt64.toNat_add]
    exact Nat.mod_eq_of_lt hFits
  deadline_isSome := rfl
  txid_isSome := rfl
  accepted := by simp [Escrow.new]
  fulfillmentDeadline := by simp [Escrow.new]
  fulfilled := by simp [Escrow.new]
  expired := by simp [Escrow.new]
  settled := rfl

end Engine

end BorderController

------------------------------------------------------------
-- Times Along a Step
------------------------------------------------------------

namespace BorderController

namespace Engine

variable [Chrono]
variable {engine engine' : CoreProverEngine}
variable {op : Op}
variable {call : Call}
variable {escrow escrow' : Escrow}

@[simp] theorem CoreProverEngine.now_mono :
    engine.now.mono = engine.currentMono := rfl

omit [Chrono] in
/- A deadline that has been missed is on record. -/
theorem Escrow.isLate_eq_true_iff
    {now : TimeTruth} :
    escrow.isLate now = true ↔
      ∃ deadline,
        escrow.fulfillmentDeadlineMono = some deadline ∧
          deadline < now.mono := by
  unfold Escrow.isLate
  cases escrow.fulfillmentDeadlineMono <;> simp

omit [Chrono] in
theorem Escrow.Timed.settlementMono_eq_none
    {mono : UInt64}
    (hTimed : escrow.Timed mono)
    (hOpen : escrow.state.isTerminal = false) :
    escrow.settlementMono = none := by
  rw [← Option.not_isSome_iff_eq_none, hTimed.settled, hOpen]
  simp

/- An acceptance sets the deadline of the fulfilment. -/
private theorem Change.timed_accept
    {txid : String}
    (hBlock :
      escrow.sellerAccept engine.now engine.chainId txid =
        .ok ((), escrow'))
    (hSound : escrow.Sound)
    (hPending : escrow.Pending)
    (hTimed : escrow.Timed engine.currentMono)
    (hFits :
      engine.currentMono.toNat +
          escrow.profile.timing.fulfillmentWindowSecs.toNat <
        2 ^ 64) :
    escrow'.Timed engine.currentMono := by
  rcases Escrow.sellerAccept_ok_iff.mp hBlock with
    ⟨hState, _, hTime, hEq⟩
  have hAccept := hPending.committed hState
  have hFulfill := hSound.unfulfilled (Or.inl hState)
  have hSettle :=
    hTimed.settlementMono_eq_none (by rw [hState]; rfl)
  have hOrdered :=
    pairwise_stamp hTimed.ordered
      (UInt64.le_refl engine.currentMono)
  rw [hEq]
  exact
    { ordered := by
        simpa [Escrow.stamps, hAccept, hFulfill, hSettle]
          using hOrdered
      acceptanceDeadline := hTimed.acceptanceDeadline
      deadline_isSome := rfl
      txid_isSome := rfl
      accepted := by
        intro accepted hAccepted
        cases hAccepted
        exact hTime
      fulfillmentDeadline := by
        intro accepted deadline hAccepted hDeadline
        cases hAccepted
        cases hDeadline
        rw [UInt64.toNat_add]
        exact Nat.mod_eq_of_lt hFits
      fulfilled := by simp
      expired := by simp
      settled := by simp [hSettle, EscrowState.isTerminal] }

/- A fulfilment is on time exactly in `SellerFulfilled`. -/
private theorem Change.timed_fulfill
    {txid : String}
    {late : Bool}
    (hBlock :
      escrow.sellerFulfill engine.now txid =
        .ok (late, escrow'))
    (hPending : escrow.Pending)
    (hTimed : escrow.Timed engine.currentMono) :
    escrow'.Timed engine.currentMono := by
  rcases Escrow.sellerFulfill_ok_iff.mp hBlock with
    ⟨hCan, _, _, hEq⟩
  have hSettle :=
    hTimed.settlementMono_eq_none
      (EscrowState.isTerminal_of_canFulfill hCan)
  have hDeadline :
      ∃ deadline,
        escrow.fulfillmentDeadlineMono = some deadline := by
    cases hState : escrow.state with
    | sellerAccepted =>
        rw [← Option.isSome_iff_exists,
          hTimed.deadline_isSome]
        exact hPending.accepted hState
    | fulfillmentExpired =>
        rcases hTimed.expired hState with ⟨deadline, hSome, _⟩
        exact ⟨deadline, hSome⟩
    | _ => simp [hState, EscrowState.canFulfill] at hCan
  rcases hDeadline with ⟨deadline, hDeadline⟩
  have hOrdered :
      (escrow.stamps ++ [engine.currentMono] ++
        [engine.currentMono]).Pairwise (· ≤ ·) :=
    pairwise_stamp hTimed.ordered (UInt64.le_refl _)
  rw [hEq]
  exact
    { ordered := by
        refine hOrdered.sublist ?_
        simp [Escrow.stamps, hSettle]
      acceptanceDeadline := hTimed.acceptanceDeadline
      deadline_isSome := hTimed.deadline_isSome
      txid_isSome := hTimed.txid_isSome
      accepted := hTimed.accepted
      fulfillmentDeadline := hTimed.fulfillmentDeadline
      fulfilled := by
        intro hState
        refine ⟨_, deadline, rfl, hDeadline, ?_⟩
        by_contra hPast
        have hLate : escrow.isLate engine.now = true :=
          Escrow.isLate_eq_true_iff.mpr
            ⟨deadline, hDeadline, UInt64.not_le.mp hPast⟩
        simp [hLate] at hState
      expired := by
        intro hState
        have hLate : escrow.isLate engine.now = true := by
          by_contra hOnTime
          simp [hOnTime] at hState
        rcases Escrow.isLate_eq_true_iff.mp hLate with
          ⟨missed, hMissed, hPast⟩
        refine ⟨missed, hMissed, hPast, ?_⟩
        intro fulfilled hFulfilled
        cases hFulfilled
        exact hPast
      settled := by
        cases hLate : escrow.isLate engine.now <;>
          simp [hSettle, EscrowState.isTerminal] }

omit [Chrono] in
/- A settlement is stamped with the current time. -/
private theorem Change.timed_settle
    {state : EscrowState}
    (hTimed : escrow.Timed engine.currentMono)
    (hOpen : escrow.state.isTerminal = false)
    (hState : escrow'.state = state)
    (hTerminal : state.isTerminal = true)
    (hSettle :
      escrow'.settlementMono = some engine.currentMono)
    (hSame :
      escrow'.buyerCommitMono = escrow.buyerCommitMono ∧
        escrow'.profile = escrow.profile ∧
        escrow'.sellerAcceptMono = escrow.sellerAcceptMono ∧
        escrow'.fulfillmentMono = escrow.fulfillmentMono ∧
        escrow'.acceptanceDeadlineMono =
          escrow.acceptanceDeadlineMono ∧
        escrow'.fulfillmentDeadlineMono =
          escrow.fulfillmentDeadlineMono ∧
        escrow'.sellerAcceptTxid = escrow.sellerAcceptTxid) :
    escrow'.Timed engine.currentMono := by
  rcases hSame with
    ⟨hCommit, hProfile, hAccept, hFulfill, hDeadline,
      hDeadline', hTxid⟩
  have hNone := hTimed.settlementMono_eq_none hOpen
  have hOrdered :=
    pairwise_stamp hTimed.ordered
      (UInt64.le_refl engine.currentMono)
  exact
    { ordered := by
        simpa [Escrow.stamps, hCommit, hAccept, hFulfill,
          hSettle, hNone] using hOrdered
      acceptanceDeadline := by
        rw [hDeadline, hCommit, hProfile]
        exact hTimed.acceptanceDeadline
      deadline_isSome := by
        rw [hDeadline', hAccept]
        exact hTimed.deadline_isSome
      txid_isSome := by
        rw [hTxid, hAccept]
        exact hTimed.txid_isSome
      accepted := by
        rw [hAccept, hDeadline]
        exact hTimed.accepted
      fulfillmentDeadline := by
        rw [hAccept, hDeadline', hProfile]
        exact hTimed.fulfillmentDeadline
      fulfilled := by
        rw [hState]
        rintro rfl
        contradiction
      expired := by
        rw [hState]
        rintro rfl
        contradiction
      settled := by
        rw [hSettle, hState, hTerminal]
        rfl }

/- A relabelled order is past its fulfilment deadline. -/
private theorem Change.timed_refresh
    (hSound : escrow.Sound)
    (hTimed : escrow.Timed engine.currentMono) :
    (escrow.updateState engine.now).Timed
      engine.currentMono := by
  rcases escrow.updateState_cases engine.now with
    hSame | ⟨hState, hLate, hExpired⟩
  · rw [hSame]
    exact hTimed
  · rw [hExpired]
    have hFulfill := hSound.unfulfilled (Or.inr hState)
    rcases Escrow.isLate_eq_true_iff.mp hLate with
      ⟨deadline, hDeadline, hPast⟩
    have hSettled := hTimed.settled
    rw [hState] at hSettled
    exact
      { ordered := hTimed.ordered
        acceptanceDeadline := hTimed.acceptanceDeadline
        deadline_isSome := hTimed.deadline_isSome
        txid_isSome := hTimed.txid_isSome
        accepted := hTimed.accepted
        fulfillmentDeadline := hTimed.fulfillmentDeadline
        fulfilled := by simp
        expired := fun _ =>
          ⟨deadline, hDeadline, hPast, by simp [hFulfill]⟩
        settled := hSettled }

/- Every change of a record keeps its times in agreement. -/
theorem Escrow.Change.timed
    (hChange : Escrow.Change engine op escrow escrow')
    (hSound : escrow.Sound)
    (hPending : escrow.Pending)
    (hTimed : escrow.Timed engine.currentMono)
    (hFits :
      ∀ orderId txid,
        op = .sellerAccept orderId txid →
        escrow.sellerAccept engine.now engine.chainId txid =
          .ok ((), escrow') →
        engine.currentMono.toNat +
            escrow.profile.timing.fulfillmentWindowSecs.toNat <
          2 ^ 64) :
    escrow'.Timed engine.currentMono := by
  cases hChange with
  | accept hBlock =>
      exact Change.timed_accept hBlock hSound hPending hTimed
        (hFits _ _ rfl hBlock)
  | fulfill hBlock =>
      exact Change.timed_fulfill hBlock hPending hTimed
  | @settle _ settlement _ _ _ hSettle hBlock =>
      rcases Settlement.block_ok hSettle hBlock with
        ⟨hClaimable, _, txid, hEq⟩
      have hOpen :=
        EscrowState.isTerminal_of_isClaimable hClaimable
      rw [hEq]
      refine Change.timed_settle hTimed hOpen
        (Escrow.settle_state _ _ _ _ _) ?_ ?_ ?_
      · cases settlement.refunded <;> rfl
      · cases settlement.refunded <;> rfl
      · cases settlement.refunded <;>
          exact ⟨rfl, rfl, rfl, rfl, rfl, rfl, rfl⟩
  | withdraw hBlock =>
      rcases Escrow.buyerWithdraw_ok_iff.mp hBlock with
        ⟨hState, _, hEq⟩
      have hOpen : escrow.state.isTerminal = false := by
        rcases hState with hExpired | ⟨hCommitted, _⟩
        · rw [hExpired]
          rfl
        · rw [hCommitted]
          rfl
      rw [hEq]
      exact Change.timed_settle hTimed hOpen rfl rfl rfl
        ⟨rfl, rfl, rfl, rfl, rfl, rfl, rfl⟩
  | refresh => exact Change.timed_refresh hSound hTimed

omit [Chrono] in
theorem Escrow.new_pending
    {orderId : OrderId}
    {buyer seller : String}
    {amount : UInt64}
    {profile : PaymentProfile}
    {chain : UInt64}
    {txid : String}
    {mono : UInt64} :
    (Escrow.new orderId buyer seller amount profile chain txid
      mono).Pending where
  committed _ := rfl
  accepted hState := by
    contradiction

theorem Escrow.Change.pending
    (hChange : Escrow.Change engine op escrow escrow')
    (hPending : escrow.Pending) :
    escrow'.Pending := by
  cases hChange with
  | accept hBlock =>
      rw [(Escrow.sellerAccept_ok_iff.mp hBlock).2.2.2]
      exact { committed := by simp, accepted := by simp }
  | fulfill hBlock =>
      rw [(Escrow.sellerFulfill_ok_iff.mp hBlock).2.2.2]
      cases escrow.isLate engine.now <;>
        exact { committed := by simp, accepted := by simp }
  | @settle _ settlement _ _ _ hSettle hBlock =>
      rcases Settlement.block_ok hSettle hBlock with
        ⟨_, _, txid, hEq⟩
      rw [hEq]
      cases settlement.refunded <;>
        exact
          { committed := by simp [Escrow.settle]
            accepted := by simp [Escrow.settle] }
  | withdraw hBlock =>
      rw [(Escrow.buyerWithdraw_ok_iff.mp hBlock).2.2]
      exact { committed := by simp, accepted := by simp }
  | refresh =>
      rw [Escrow.updateState_eq]
      split
      · exact { committed := by simp, accepted := by simp }
      · exact hPending

end Engine

end BorderController

------------------------------------------------------------
-- Acceptances of a Run
------------------------------------------------------------

namespace BorderController

namespace Engine

variable [Chrono]
variable {engine engine' : CoreProverEngine}
variable {op : Op}
variable {call : Call}
variable {i : Nat}
variable {escrow escrow' : Escrow}

/- Only an acceptance writes the time of acceptance. -/
theorem Escrow.Change.sellerAcceptMono
    (hChange : Escrow.Change engine op escrow escrow') :
    escrow'.sellerAcceptMono = escrow.sellerAcceptMono ∨
      ∃ orderId txid,
        op = .sellerAccept orderId txid ∧
          escrow.sellerAccept engine.now engine.chainId txid =
            .ok ((), escrow') ∧
          escrow'.sellerAcceptMono.isSome := by
  cases hChange with
  | accept hBlock =>
      refine Or.inr ⟨_, _, rfl, hBlock, ?_⟩
      rw [(Escrow.sellerAccept_ok_iff.mp hBlock).2.2.2]
      rfl
  | fulfill hBlock =>
      rw [(Escrow.sellerFulfill_ok_iff.mp hBlock).2.2.2]
      exact Or.inl rfl
  | @settle _ settlement _ _ _ hSettle hBlock =>
      rcases Settlement.block_ok hSettle hBlock with
        ⟨_, _, txid, hEq⟩
      rw [hEq]
      cases settlement.refunded <;> exact Or.inl rfl
  | withdraw hBlock =>
      rw [(Escrow.buyerWithdraw_ok_iff.mp hBlock).2.2]
      exact Or.inl rfl
  | refresh =>
      rw [Escrow.updateState_eq]
      split <;> exact Or.inl rfl

/- An acceptance whose checks pass returns `Ok`. -/
theorem result_of_accept
    {orderId : OrderId}
    {txid : String}
    (hStep : system.Step engine call engine')
    (hOp : call.op = .sellerAccept orderId txid)
    (hLookup : engine.lookup orderId = some (i, escrow))
    (hBlock :
      escrow.sellerAccept engine.now engine.chainId txid =
        .ok ((), escrow')) :
    call.result = .ok .done := by
  have hExec :
      exec (.sellerAccept orderId txid) engine =
        some (call.result, engine') := by
    rw [← hOp]
    exact hStep
  rw [exec_sellerAccept, borrow_of_ok hLookup hBlock,
    Option.some.injEq, Prod.mk.injEq] at hExec
  exact hExec.1.symm

/- An acceptance leaves its time on record. -/
private theorem sellerAcceptMono_of_accepts
    (hStep : system.Step engine call engine')
    (hAccepts : Accepts i ⟨engine, call, engine'⟩)
    (hGet' : engine'.escrows[i]? = some escrow') :
    escrow'.sellerAcceptMono.isSome := by
  rcases hAccepts with
    ⟨orderId, txid, escrow, hLabel, hLookup⟩
  simp only at hLabel hLookup
  subst hLabel
  cases step_effect hStep with
  | @accepted _ _ j before after hLookup' hBlock =>
      rw [hLookup] at hLookup'
      cases hLookup'
      rw [CoreProverEngine.setEscrow_escrows,
        getElem?_setEscrow hLookup] at hGet'
      cases hGet'
      rw [(Escrow.sellerAccept_ok_iff.mp hBlock).2.2.2]
      rfl

/- A record has a time of acceptance once it is accepted. -/
private theorem step_accepts
    (hStep : system.Step engine call engine')
    (hGet : engine.escrows[i]? = some escrow)
    (hGet' : engine'.escrows[i]? = some escrow') :
    escrow'.sellerAcceptMono.isSome ↔
      escrow.sellerAcceptMono.isSome ∨
        Accepts i ⟨engine, call, engine'⟩ := by
  rcases step_record hStep hGet with ⟨after, hAfter, hCase⟩
  rw [hGet'] at hAfter
  cases hAfter
  constructor
  · intro hSome
    rcases hCase with rfl | ⟨orderId, hOrder, hLookup, hChange⟩
    · exact Or.inl hSome
    · rcases hChange.sellerAcceptMono with
        hSame | ⟨orderId', txid, hOp, hBlock, _⟩
      · rw [hSame] at hSome
        exact Or.inl hSome
      · rw [hOp] at hOrder
        cases hOrder
        have hResult :=
          result_of_accept hStep hOp hLookup hBlock
        rcases call with ⟨op, result⟩
        simp only at hOp hResult
        subst hOp
        subst hResult
        exact Or.inr ⟨orderId, txid, escrow, rfl, hLookup⟩
  · rintro (hSome | hAccepts)
    · rcases hCase with rfl | ⟨_, _, _, hChange⟩
      · exact hSome
      · rcases hChange.sellerAcceptMono with
          hSame | ⟨_, _, _, _, hNow⟩
        · rwa [hSame]
        · exact hNow
    · exact sellerAcceptMono_of_accepts hStep hAccepts hGet'

/- The records with a time of acceptance are the accepted. -/
theorem IsRun.accepts_iff
    {es : List (Transition CoreProverEngine Call)}
    (hRun : IsRun es engine) :
    ∀ i,
      (∃ tr ∈ es, Accepts i tr) ↔
        ∃ escrow : Escrow,
          engine.escrows[i]? = some escrow ∧
            escrow.sellerAcceptMono.isSome := by
  refine hRun.historyInvariant
    (fun es engine =>
      ∀ i,
        (∃ tr ∈ es, Accepts i tr) ↔
          ∃ escrow : Escrow,
            engine.escrows[i]? = some escrow ∧
              escrow.sellerAcceptMono.isSome) ?_ ?_
  · intro chainId interval genesis i
    simp [CoreProverEngine.new]
  · intro es engine call engine' hBefore hHistory hStep i
    have hMore :
        (∃ tr ∈ es ++ [⟨engine, call, engine'⟩],
            Accepts i tr) ↔
          (∃ tr ∈ es, Accepts i tr) ∨
            Accepts i ⟨engine, call, engine'⟩ := by
      simp [or_and_right, exists_or]
    rw [hMore, hHistory]
    constructor
    · intro hAccepted
      have hHere :
          ∃ escrow, engine.escrows[i]? = some escrow := by
        rcases hAccepted with
          ⟨escrow, hGet, _⟩ | ⟨_, _, escrow, _, hLookup⟩
        · exact ⟨escrow, hGet⟩
        · exact ⟨escrow,
            CoreProverEngine.getElem?_of_lookup hLookup⟩
      rcases hHere with ⟨escrow, hGet⟩
      rcases step_record hStep hGet with ⟨escrow', hGet', _⟩
      refine ⟨escrow', hGet', ?_⟩
      rw [step_accepts hStep hGet hGet']
      rcases hAccepted with ⟨found, hFound, hSome⟩ | hNow
      · rw [hGet] at hFound
        cases hFound
        exact Or.inl hSome
      · exact Or.inr hNow
    · rintro ⟨escrow', hGet', hSome⟩
      rcases step_record_source hStep hGet' with
        ⟨escrow, hGet, _⟩ | ⟨_, _, _, _, _, _, _, _, _, hNew⟩
      · rcases (step_accepts hStep hGet hGet').mp hSome with
          hBefore | hNow
        · exact Or.inl ⟨escrow, hGet, hBefore⟩
        · exact Or.inr hNow
      · rw [hNew] at hSome
        contradiction

end Engine

end BorderController

------------------------------------------------------------
-- Times Along a Run
------------------------------------------------------------

namespace BorderController

namespace Engine

variable [Chrono]
variable {engine engine' : CoreProverEngine}
variable {call : Call}

/- Only `advance_time` moves the clocks, both by as much. -/
theorem step_clock
    (hStep : system.Step engine call engine') :
    (engine'.currentMono = engine.currentMono ∧
        engine'.currentUnix = engine.currentUnix) ∨
      ∃ secs,
        call.op = .advanceTime secs ∧
          engine'.currentMono = engine.currentMono + secs ∧
          engine'.currentUnix = engine.currentUnix + secs := by
  rcases call with ⟨op, result⟩
  cases step_effect hStep with
  | @advanced secs _ hAdvance =>
      unfold CoreProverEngine.advanceTime at hAdvance
      split at hAdvance
      · contradiction
      · cases hAdvance
        exact Or.inr ⟨secs, rfl, rfl, rfl⟩
  | _ => exact Or.inl ⟨rfl, rfl⟩

/- The times of all records agree with the engine's clock. -/
structure CoreProverEngine.Timed
    (engine : CoreProverEngine) :
    Prop where
  sound : engine.Sound
  pending :
    ∀ {i : Nat} {escrow : Escrow},
      engine.escrows[i]? = some escrow →
      escrow.Pending
  records :
    ∀ {i : Nat} {escrow : Escrow},
      engine.escrows[i]? = some escrow →
      escrow.Timed engine.currentMono

/- The clock does not go back while it does not wrap. -/
theorem currentMono_le
    (hFits : ClockFits engine call.op)
    (hStep : system.Step engine call engine') :
    engine.currentMono ≤ engine'.currentMono := by
  rcases step_clock hStep with
    ⟨hMono, _⟩ | ⟨secs, hOp, hMono, _⟩
  · rw [hMono]
    exact UInt64.le_refl _
  · rw [hOp] at hFits
    rw [hMono, UInt64.le_iff_toNat_le, UInt64.toNat_add,
      Nat.mod_eq_of_lt hFits.1]
    omega

/- A commit that succeeds names its transaction. -/
theorem isBlank_of_commit
    {buyer seller : String}
    {amount : UInt64}
    {profile : PaymentProfile}
    {chain : UInt64}
    {txid : String}
    {reply : Reply}
    (hStep : system.Step engine call engine')
    (hOp :
      call.op =
        .buyerCommit buyer seller amount profile chain txid)
    (hOk : call.result = .ok reply) :
    RustString.isBlank txid = false := by
  have hExec :
      exec (.buyerCommit buyer seller amount profile chain
          txid) engine =
        some (.ok reply, engine') := by
    rw [← hOp, ← hOk]
    exact hStep
  rw [exec_buyerCommit] at hExec
  cases hBlank : RustString.isBlank txid with
  | true =>
      rw [hBlank] at hExec
      cases hExec
  | false => rfl

theorem step_timed
    (hTimed : engine.Timed)
    (hFits : ClockFits engine call.op)
    (hStep : system.Step engine call engine') :
    engine'.Timed where
  sound := step_sound hTimed.sound hStep
  pending := by
    intro i escrow' hGet'
    refine step_records ?_ ?_ hStep
      (fun _ _ hGet => hTimed.pending hGet) i escrow' hGet'
    · intro buyer seller amount profile chain txid reply _ _
      exact Escrow.new_pending
    · intro escrow escrow' hChange hBefore
      exact hChange.pending hBefore
  records := by
    intro i escrow' hGet'
    have hLe := currentMono_le hFits hStep
    rcases step_record_source hStep hGet' with
      ⟨escrow, hGet, hCase⟩ |
        ⟨_, _, _, _, _, _, _, hOp, hOk, hNew⟩
    · have hRecord := hTimed.records hGet
      rcases hCase with rfl | ⟨orderId, hOrder, hLookup, hChange⟩
      · exact hRecord.advance hLe
      · refine (hChange.timed (hTimed.sound.records hGet)
          (hTimed.pending hGet) hRecord ?_).advance hLe
        intro orderId' txid hOp hBlock
        rw [hOp] at hOrder hFits
        cases hOrder
        exact hFits i escrow escrow' hLookup hBlock
    · rw [hNew]
      refine (Escrow.new_timed ?_).advance hLe
      have hTxid := isBlank_of_commit hStep hOp hOk
      rw [hOp] at hFits
      exact hFits hTxid

omit [Chrono] in
theorem CoreProverEngine.new_timed
    (chainId interval genesis : UInt64) :
    (CoreProverEngine.new chainId interval genesis).Timed where
  sound := CoreProverEngine.new_sound _ _ _
  pending := by
    intro i escrow hGet
    simp [CoreProverEngine.new] at hGet
  records := by
    intro i escrow hGet
    simp [CoreProverEngine.new] at hGet

/- Both clocks stay as far apart as they were. -/
theorem step_clocks_apart
    {genesis : UInt64}
    (hFits : ClockFits engine call.op)
    (hStep : system.Step engine call engine')
    (hClocks :
      engine.currentUnix.toNat =
        genesis.toNat + engine.currentMono.toNat) :
    engine'.currentUnix.toNat =
      genesis.toNat + engine'.currentMono.toNat := by
  rcases step_clock hStep with
    ⟨hMono, hUnix⟩ | ⟨secs, hOp, hMono, hUnix⟩
  · rw [hMono, hUnix]
    exact hClocks
  · rw [hOp] at hFits
    rw [hMono, hUnix, UInt64.toNat_add, UInt64.toNat_add,
      Nat.mod_eq_of_lt hFits.1, Nat.mod_eq_of_lt hFits.2]
    omega

/-
  In a run none of whose additions to a clock wraps, the times
  and deadlines of every record agree with each other and with
  the clock, a record has an acceptance on it exactly if it was
  accepted, and the clocks differ by the genesis time.
-/
theorem timed_of_path
    {es : List (Transition CoreProverEngine Call)}
    {chainId interval genesis : UInt64}
    (hPath :
      system.Path (.new chainId interval genesis) es engine)
    (hFits :
      ∀ tr ∈ es, ClockFits tr.source tr.label.op) :
    (∀ (i : Nat) (escrow : Escrow),
        engine.escrows[i]? = some escrow →
        escrow.Timed engine.currentMono ∧
          (escrow.sellerAcceptMono.isSome ↔
            ∃ tr ∈ es, Accepts i tr) ∧
          (escrow.fulfillmentDeadlineMono.isSome ↔
            ∃ tr ∈ es, Accepts i tr) ∧
          (escrow.sellerAcceptTxid.isSome ↔
            ∃ tr ∈ es, Accepts i tr)) ∧
      engine.currentUnix.toNat =
        genesis.toNat + engine.currentMono.toNat := by
  have hRun : IsRun es engine :=
    ⟨chainId, interval, genesis, hPath⟩
  have hBoth :
      engine.Timed ∧
        engine.currentUnix.toNat =
          genesis.toNat + engine.currentMono.toNat := by
    refine hPath.stable
      (fun tr => ClockFits tr.source tr.label.op)
      (fun engine =>
        engine.Timed ∧
          engine.currentUnix.toNat =
            genesis.toNat + engine.currentMono.toNat)
      ?_ hFits ?_
    · rintro t l u hCall ⟨hTimed, hClocks⟩ hStep
      exact ⟨step_timed hTimed hCall hStep,
        step_clocks_apart hCall hStep hClocks⟩
    · exact ⟨CoreProverEngine.new_timed _ _ _, rfl⟩
  refine ⟨?_, hBoth.2⟩
  intro i escrow hGet
  have hRecord := hBoth.1.records hGet
  have hAccepted :
      escrow.sellerAcceptMono.isSome ↔
        ∃ tr ∈ es, Accepts i tr := by
    rw [hRun.accepts_iff i, hGet]
    simp
  refine ⟨hRecord, hAccepted, ?_, ?_⟩
  · rw [hRecord.deadline_isSome]
    exact hAccepted
  · rw [hRecord.txid_isSome]
    exact hAccepted

end Engine

end BorderController

------------------------------------------------------------
-- A Delivery on Time
------------------------------------------------------------

namespace BorderController

namespace Engine

local instance timingChrono : Chrono := utcChrono

/- No clock wraps around a delivery after about an hour. -/
theorem deliveryOps_clockFits
    {wait : UInt64}
    (hWait : wait ∈ [3600, 3601])
    (tr : Transition CoreProverEngine Call)
    (hMem :
      tr ∈
        (play (deliveryOps wait)
          (.new 1 12 1700000000)).1) :
    ClockFits tr.source tr.label.op := by
  have hSmall :
      ∀ tr ∈
        (play (deliveryOps wait)
          (.new 1 12 1700000000)).1,
        tr.label.op ∈ deliveryOps wait ∧
          wait.toNat ≤ 3601 ∧
          tr.source.currentMono.toNat ≤ 3601 ∧
          tr.source.currentUnix.toNat ≤ 1700003601 ∧
          ∀ escrow ∈ tr.source.escrows,
            escrow.profile = .pizzaDelivery := by
    simp only [List.mem_cons, List.not_mem_nil, or_false]
      at hWait
    rcases hWait with hPrompt | hLate
    · subst hPrompt
      decide +kernel
    · subst hLate
      decide +kernel
  rcases hSmall tr hMem with
    ⟨hOp, hTime, hMono, hUnix, hProfiles⟩
  have hAcceptance :
      TimingWindows.pizzaDelivery.acceptanceWindowSecs.toNat =
        1800 := rfl
  have hFulfillment :
      TimingWindows.pizzaDelivery.fulfillmentWindowSecs.toNat =
        3600 := rfl
  simp only [deliveryOps, List.mem_cons, List.not_mem_nil,
    or_false] at hOp
  rcases hOp with hOp | hOp | hOp | hOp <;> rw [hOp]
  · intro _
    simp only [PaymentProfile.pizzaDelivery]
    omega
  · intro i escrow escrow' hLookup _
    have hThere := CoreProverEngine.mem_of_lookup hLookup
    rw [hProfiles escrow hThere]
    simp only [PaymentProfile.pizzaDelivery]
    omega
  · exact ⟨by omega, by omega⟩
  · trivial

/- The times of an order delivered after one hour. -/
theorem timed_prompt :
    ∃ escrow,
      (play (deliveryOps 3600)
          (.new 1 12 1700000000)).2.escrows[0]? =
        some escrow ∧
      escrow.stamps = [0, 0, 3600] ∧
      escrow.Timed 3600 ∧
      (play (deliveryOps 3600)
          (.new 1 12 1700000000)).2.currentUnix.toNat =
        1700000000 + 3600 := by
  have hTimes :=
    timed_of_path
      (play_path (deliveryOps 3600) (.new 1 12 1700000000))
      (deliveryOps_clockFits (by simp))
  exact ⟨_, rfl, by decide +kernel,
    (hTimes.1 0 _ rfl).1, hTimes.2⟩

end Engine

end BorderController

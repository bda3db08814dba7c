import BorderController.Engine.Commits
import BorderController.Engine.Receipts

/-
  From every state of an order its amount can still be paid out.

  Key definitions include:
    * `Op.Continues`
    * `Op.isExit`
    * `Exits`

  Key theorems include:
    * `exits_of_receipted`
    * `exits_of_canFulfill`
    * `exits_of_committed`
    * `exits_of_open`
-/

------------------------------------------------------------
-- Continuations of a Run
------------------------------------------------------------

namespace BorderController

namespace Engine

/-
  Waiting, or a call on the order that names its transaction
  wherever it takes one.
-/
def Op.Continues (orderId : OrderId) : Op → Prop
  | .buyerCommit .. => False
  | .sellerAccept id txid =>
      id = orderId ∧ RustString.isBlank txid = false
  | .sellerFulfill id txid =>
      id = orderId ∧ RustString.isBlank txid = false
  | .sellerClaim id txid =>
      id = orderId ∧ RustString.isBlank txid = false
  | .sellerRefund id txid =>
      id = orderId ∧ RustString.isBlank txid = false
  | .buyerWithdraw id txid =>
      id = orderId ∧
        ∃ given, txid = some given ∧
          RustString.isBlank given = false
  | .timedRelease id => id = orderId
  | .updateState id => id = orderId
  | .advanceTime _ => True

/- The calls that end an order in somebody's favour. -/
def Op.isExit : Op → Bool
  | .sellerClaim _ _ => true
  | .sellerRefund _ _ => true
  | .buyerWithdraw _ _ => true
  | _ => false

/- The amount of the first commit that was given the id. -/
def committedAmount
    (orderId : OrderId)
    (es : List (Transition CoreProverEngine Call)) :
    Option UInt64 :=
  ((commits es).find? fun commit => commit.1 = orderId).map
    Prod.snd

variable [Chrono]

/-
  Some continuation on the order, without an error, ends with
  a call that returns `amount`.
-/
def Exits
    (orderId : OrderId)
    (amount : UInt64)
    (engine : CoreProverEngine) :
    Prop :=
  ∃ later tr,
    system.Path engine (later ++ [tr]) tr.target ∧
      (∀ step ∈ later ++ [tr],
        step.label.op.Continues orderId ∧
          step.label.result.isOk = true) ∧
      tr.label.op.isExit = true ∧
      tr.label.result = .ok (.amount amount)

variable {engine engine' : CoreProverEngine}
variable {op : Op}
variable {reply : Reply}
variable {orderId : OrderId}
variable {amount : UInt64}

theorem Exits.cons
    (hExec : exec op engine = some (.ok reply, engine'))
    (hOp : op.Continues orderId)
    (hExits : Exits orderId amount engine') :
    Exits orderId amount engine := by
  rcases hExits with
    ⟨later, tr, hPath, hSteps, hExit, hAmount⟩
  have hStep : system.Step engine ⟨op, .ok reply⟩ engine' :=
    hExec
  refine ⟨⟨engine, ⟨op, .ok reply⟩, engine'⟩ :: later, tr,
    .cons hStep hPath, ?_, hExit, hAmount⟩
  intro step hMem
  rcases List.mem_cons.mp hMem with rfl | hLater
  · exact ⟨hOp, rfl⟩
  · exact hSteps step hLater

theorem Exits.last
    (hExec :
      exec op engine = some (.ok (.amount amount), engine'))
    (hOp : op.Continues orderId)
    (hExit : op.isExit = true) :
    Exits orderId amount engine := by
  have hStep :
      system.Step engine ⟨op, .ok (.amount amount)⟩
        engine' := hExec
  refine ⟨[], ⟨engine, ⟨op, .ok (.amount amount)⟩, engine'⟩,
    .single hStep, ?_, hExit, rfl⟩
  intro step hMem
  rw [List.nil_append, List.mem_singleton] at hMem
  rw [hMem]
  exact ⟨hOp, rfl⟩

end Engine

end BorderController

------------------------------------------------------------
-- An Exit from Every State
------------------------------------------------------------

namespace BorderController

namespace Engine

variable [Chrono]
variable {engine : CoreProverEngine}
variable {orderId : OrderId}
variable {i : Nat}
variable {escrow : Escrow}

omit [Chrono] in
/- The transaction id the continuations use. -/
private theorem isBlank_txid :
    RustString.isBlank "0x1" = false := by
  decide

/- A fulfilled order with a receipt can be claimed. -/
theorem exits_of_receipted
    (hLookup : engine.lookup orderId = some (i, escrow))
    (hClaimable : escrow.state.isClaimable = true)
    (hReceipted : engine.Receipted orderId) :
    Exits orderId escrow.amount engine := by
  have hBlock :
      escrow.sellerClaim engine.now engine.currentBlockHeight
          "0x1" =
        .ok (escrow.amount, _) :=
    Escrow.sellerClaim_ok_iff.mpr
      ⟨hClaimable, isBlank_txid, rfl, rfl⟩
  have hSettle :
      (Op.sellerClaim orderId "0x1").settlement engine =
        some _ := rfl
  rcases exec_settlement_of_receipted hSettle hLookup hBlock
      hReceipted with
    ⟨engine', _, _, hExec, _⟩
  exact .last hExec ⟨rfl, isBlank_txid⟩ rfl

/- An order that can be fulfilled can be claimed after that. -/
theorem exits_of_canFulfill
    (hLookup : engine.lookup orderId = some (i, escrow))
    (hCan : escrow.state.canFulfill = true) :
    Exits orderId escrow.amount engine := by
  have hFulfills :
      ∃ late escrow',
        escrow.sellerFulfill engine.now "0x1" =
          .ok (late, escrow') :=
    ⟨_, _, Escrow.sellerFulfill_ok_iff.mpr
      ⟨hCan, isBlank_txid, rfl, rfl⟩⟩
  rcases hFulfills with ⟨late, escrow', hBlock⟩
  have hSpec :=
    (Escrow.sellerFulfill_ok_iff.mp hBlock).2.2.2
  have hExec := exec_sellerFulfill orderId engine "0x1"
  rw [borrow_of_ok hLookup hBlock] at hExec
  refine .cons hExec ⟨rfl, isBlank_txid⟩ ?_
  have hKey : escrow'.orderId = escrow.orderId := by
    rw [hSpec]
  have hAmount : escrow'.amount = escrow.amount := by
    rw [hSpec]
  have hClaimable : escrow'.state.isClaimable = true := by
    rw [hSpec]
    cases hLate : escrow.isLate engine.now <;>
      simp [EscrowState.isClaimable]
  have hOrder :=
    CoreProverEngine.orderId_of_lookup hLookup
  have hLookup' :=
    CoreProverEngine.lookup_setEscrow_self hLookup hKey
  rw [← hAmount]
  refine exits_of_receipted hLookup' hClaimable ?_
  simp [CoreProverEngine.Receipted, Escrow.receiptStub, hKey,
    hOrder]

/-
  A committed order can be accepted while there is time, and
  is withdrawn after that.
-/
theorem exits_of_committed
    (hLookup : engine.lookup orderId = some (i, escrow))
    (hState : escrow.state = .buyerCommitted) :
    Exits orderId escrow.amount engine := by
  by_cases hTime :
      engine.now.mono ≤ escrow.acceptanceDeadlineMono
  · have hAccepts :
        ∃ escrow',
          escrow.sellerAccept engine.now engine.chainId
              "0x1" =
            .ok ((), escrow') :=
      ⟨_, Escrow.sellerAccept_ok_iff.mpr
        ⟨hState, isBlank_txid, hTime, rfl⟩⟩
    rcases hAccepts with ⟨escrow', hBlock⟩
    have hSpec :=
      (Escrow.sellerAccept_ok_iff.mp hBlock).2.2.2
    have hExec := exec_sellerAccept orderId engine "0x1"
    rw [borrow_of_ok hLookup hBlock] at hExec
    refine .cons hExec ⟨rfl, isBlank_txid⟩ ?_
    have hKey : escrow'.orderId = escrow.orderId := by
      rw [hSpec]
    have hAmount : escrow'.amount = escrow.amount := by
      rw [hSpec]
    have hLookup' :=
      CoreProverEngine.lookup_setEscrow_self hLookup hKey
    rw [← hAmount]
    exact exits_of_canFulfill hLookup' (by rw [hSpec]; rfl)
  · have hBlock :
        escrow.buyerWithdraw engine.now (some "0x1") =
          .ok (escrow.amount, _) :=
      Escrow.buyerWithdraw_ok_iff.mpr
        ⟨Or.inr ⟨hState, UInt64.not_le.mp hTime⟩, rfl, rfl⟩
    have hExec :=
      exec_buyerWithdraw orderId engine (some "0x1")
    rw [borrow_of_ok hLookup hBlock] at hExec
    exact .last hExec ⟨rfl, "0x1", rfl, isBlank_txid⟩ rfl

/- An order that is not settled has an exit. -/
theorem exits_of_open
    (hSound : engine.Sound)
    (hLookup : engine.lookup orderId = some (i, escrow))
    (hOpen : escrow.state.isTerminal = false) :
    Exits orderId escrow.amount engine := by
  cases hState : escrow.state with
  | buyerCommitted =>
      exact exits_of_committed hLookup hState
  | sellerAccepted =>
      exact exits_of_canFulfill hLookup (by rw [hState]; rfl)
  | sellerFulfilled =>
      have hGet :=
        CoreProverEngine.getElem?_of_lookup hLookup
      have hMono := (hSound.records hGet).fulfilled hState
      exact exits_of_receipted hLookup (by rw [hState]; rfl)
        ((hSound.receipted_iff hLookup).mpr hMono)
  | fulfillmentExpired =>
      exact exits_of_canFulfill hLookup (by rw [hState]; rfl)
  | _ => simp [hState, EscrowState.isTerminal] at hOpen

/- An order's record holds the amount its buyer committed. -/
theorem IsRun.committedAmount_eq
    {es : List (Transition CoreProverEngine Call)}
    (hRun : IsRun es engine)
    (hFound : engine.getEscrow orderId = .ok escrow) :
    committedAmount orderId es = some escrow.amount := by
  unfold CoreProverEngine.getEscrow at hFound
  unfold committedAmount
  rw [hRun.commits_eq, List.find?_map]
  change
    ((engine.escrows.find? fun e => e.orderId = orderId).map
      Escrow.commit).map Prod.snd = _
  cases hEscrow :
      engine.escrows.find? fun e => e.orderId = orderId with
  | none =>
      rw [hEscrow] at hFound
      contradiction
  | some found =>
      rw [hEscrow] at hFound
      cases hFound
      rfl

/-
  In every reachable engine an order that is not settled can be
  continued without an error to a claim, a refund or a
  withdrawal of the amount committed.
-/
theorem exits_of_run
    {es : List (Transition CoreProverEngine Call)}
    {state : EscrowState}
    (hRun : IsRun es engine)
    (hState : engine.getState orderId = .ok state)
    (hOpen : state.isTerminal = false) :
    ∃ amount,
      committedAmount orderId es = some amount ∧
        Exits orderId amount engine := by
  unfold CoreProverEngine.getState at hState
  cases hFound : engine.getEscrow orderId with
  | error message =>
      rw [hFound] at hState
      contradiction
  | ok escrow =>
      rw [hFound] at hState
      cases hState
      refine ⟨escrow.amount, hRun.committedAmount_eq hFound, ?_⟩
      rw [CoreProverEngine.getEscrow_eq] at hFound
      cases hLookup : engine.lookup orderId with
      | none =>
          rw [hLookup] at hFound
          contradiction
      | some p =>
          rw [hLookup] at hFound
          cases hFound
          exact exits_of_open (Reachable.sound ⟨es, hRun⟩)
            hLookup hOpen

end Engine

end BorderController

------------------------------------------------------------
-- An Overdue Order
------------------------------------------------------------

namespace BorderController

namespace Engine

local instance exitsChrono : Chrono := utcChrono

/- An order nobody delivered in time still has an exit. -/
theorem exits_overdue :
    ∃ amount,
      committedAmount (orderIdOf 1)
          (play overdueOps (.new 1 12 0)).1 =
        some amount ∧
      Exits (orderIdOf 1) amount
        (play overdueOps (.new 1 12 0)).2 :=
  @exits_of_run _ _ _ _ .fulfillmentExpired
    (play_isRun overdueOps 1 12 0) rfl rfl

end Engine

end BorderController

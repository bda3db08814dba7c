import BorderController.Engine.Delivery
import BorderController.Library.Accounts

/-
  The value in the engine's keep.

  A commit brings in an amount and a settlement pays it out.
  A settlement that finds no receipt settles the order and
  pays nobody; its amount is forfeited.

  Key definitions include:
    * `CoreProverEngine.held`
    * `deposit`, `payout`, `forfeit`

  Key theorems include:
    * `step_ledger`
    * `deposits_accounted`
-/

------------------------------------------------------------
-- Value Held
------------------------------------------------------------

namespace BorderController

namespace Engine

/- The amount of an order that has not been settled. -/
def Escrow.held (escrow : Escrow) : Nat :=
  if escrow.state.isTerminal then
    0
  else
    escrow.amount.toNat

def CoreProverEngine.held (engine : CoreProverEngine) : Nat :=
  Accounts.total Escrow.held engine.escrows

/- What a successful `buyer_commit` brings in. -/
def deposit (tr : Transition CoreProverEngine Call) : Nat :=
  match tr.label with
  | ⟨.buyerCommit _ _ amount _ _ _, .ok _⟩ => amount.toNat
  | _ => 0

/- What a successful settlement returns. -/
def payout (tr : Transition CoreProverEngine Call) : Nat :=
  match tr.label.result with
  | .ok (.amount value) => value.toNat
  | _ => 0

/- What the engine no longer holds after a failed call. -/
def forfeit (tr : Transition CoreProverEngine Call) : Nat :=
  match tr.label.result with
  | .ok _ => 0
  | .error _ => tr.source.held - tr.target.held

variable {engine : CoreProverEngine}
variable {orderId : OrderId}
variable {i : Nat}
variable {escrow escrow' : Escrow}

theorem Escrow.held_of_isTerminal
    (hTerminal : escrow.state.isTerminal = true) :
    escrow.held = 0 := by
  unfold Escrow.held
  rw [if_pos hTerminal]

theorem Escrow.held_of_not_isTerminal
    (hOpen : escrow.state.isTerminal = false) :
    escrow.held = escrow.amount.toNat := by
  unfold Escrow.held
  rw [hOpen]
  rfl

theorem Escrow.held_congr
    (hOpen : escrow.state.isTerminal = false)
    (hOpen' : escrow'.state.isTerminal = false)
    (hAmount : escrow'.amount = escrow.amount) :
    escrow'.held = escrow.held := by
  rw [held_of_not_isTerminal hOpen,
    held_of_not_isTerminal hOpen', hAmount]

/- Rewriting a record exchanges what is held for it. -/
theorem held_setEscrow
    (escrow' : Escrow)
    (hLookup : engine.lookup orderId = some (i, escrow)) :
    (engine.setEscrow i escrow').held + escrow.held =
      engine.held + escrow'.held :=
  Accounts.total_set Escrow.held
    (CoreProverEngine.getElem?_of_lookup hLookup)

/- A record that is rewritten for the same value. -/
theorem held_setEscrow_of_eq
    (hLookup : engine.lookup orderId = some (i, escrow))
    (hHeld : escrow'.held = escrow.held) :
    (engine.setEscrow i escrow').held = engine.held := by
  have hExchange := held_setEscrow escrow' hLookup
  omega

/- A record that is settled is no longer held for anyone. -/
theorem held_setEscrow_of_settles
    (hLookup : engine.lookup orderId = some (i, escrow))
    (hOpen : escrow.state.isTerminal = false)
    (hTerminal : escrow'.state.isTerminal = true) :
    (engine.setEscrow i escrow').held +
        escrow.amount.toNat =
      engine.held := by
  have hExchange := held_setEscrow escrow' hLookup
  rw [Escrow.held_of_not_isTerminal hOpen,
    Escrow.held_of_isTerminal hTerminal] at hExchange
  exact hExchange

end Engine

end BorderController

------------------------------------------------------------
-- The Ledger of a Call
------------------------------------------------------------

namespace BorderController

namespace Engine

variable [Chrono]
variable {engine engine' : CoreProverEngine}
variable {op : Op}
variable {call : Call}
variable {escrow escrow' : Escrow}
variable {amount : UInt64}
variable {txid : String}

omit [Chrono] in
theorem Escrow.held_sellerAccept
    {now : TimeTruth}
    {chainId : UInt64}
    {u : Unit}
    (hBlock :
      escrow.sellerAccept now chainId txid =
        .ok (u, escrow')) :
    escrow'.held = escrow.held := by
  rcases sellerAccept_ok_iff.mp hBlock with
    ⟨hState, _, _, hEq⟩
  refine held_congr ?_ ?_ ?_
  · rw [hState]
    rfl
  · rw [hEq]
    rfl
  · rw [hEq]

omit [Chrono] in
theorem Escrow.held_sellerFulfill
    {now : TimeTruth}
    {late : Bool}
    (hBlock :
      escrow.sellerFulfill now txid = .ok (late, escrow')) :
    escrow'.held = escrow.held := by
  rcases sellerFulfill_ok_iff.mp hBlock with
    ⟨hCan, _, _, hEq⟩
  refine held_congr ?_ ?_ ?_
  · exact EscrowState.isTerminal_of_canFulfill hCan
  · rw [hEq]
    cases escrow.isLate now <;> rfl
  · rw [hEq]

omit [Chrono] in
theorem Escrow.held_updateState
    (now : TimeTruth)
    (escrow : Escrow) :
    (escrow.updateState now).held = escrow.held := by
  rcases escrow.updateState_cases now with
    hSame | ⟨hState, _, hExpired⟩
  · rw [hSame]
  · rw [hExpired]
    refine held_congr ?_ rfl rfl
    rw [hState]
    rfl

omit [Chrono] in
/- A withdrawal settles an order that was open. -/
theorem Escrow.settles_buyerWithdraw
    {now : TimeTruth}
    {txid : Option String}
    (hBlock :
      escrow.buyerWithdraw now txid = .ok (amount, escrow')) :
    escrow.state.isTerminal = false ∧
      escrow'.state.isTerminal = true ∧
      amount = escrow.amount := by
  rcases buyerWithdraw_ok_iff.mp hBlock with
    ⟨hState, hAmount, hEq⟩
  refine ⟨?_, by rw [hEq]; rfl, hAmount⟩
  rcases hState with hExpired | ⟨hCommitted, _⟩
  · rw [hExpired]
    rfl
  · rw [hCommitted]
    rfl

/- So does a claim, a refund or a timed release. -/
theorem Settlement.settles_block
    {settlement : Settlement}
    (hSettle : op.settlement engine = some settlement)
    (hBlock :
      settlement.block escrow = .ok (amount, escrow')) :
    escrow.state.isTerminal = false ∧
      escrow'.state.isTerminal = true ∧
      amount = escrow.amount := by
  rcases Settlement.block_ok hSettle hBlock with
    ⟨hClaimable, hAmount, txid, hEq⟩
  refine ⟨EscrowState.isTerminal_of_isClaimable hClaimable,
    ?_, hAmount⟩
  rw [hEq, Escrow.settle_state]
  cases settlement.refunded <;> rfl

omit [Chrono] in
/- A call that settles brings nothing in. -/
theorem deposit_of_orderId?
    {orderId : OrderId}
    {tr : Transition CoreProverEngine Call}
    (hOrder : tr.label.op.orderId? = some orderId) :
    deposit tr = 0 := by
  rcases tr with ⟨source, ⟨op, result⟩, target⟩
  cases op with
  | buyerCommit buyer seller amount profile chain txid =>
      contradiction
  | _ => rfl

omit [Chrono] in
theorem deposit_of_error
    {message : String}
    {tr : Transition CoreProverEngine Call}
    (hError : tr.label.result = .error message) :
    deposit tr = 0 := by
  rcases tr with ⟨source, ⟨op, result⟩, target⟩
  cases hError
  cases op <;> rfl

/- What a call takes in, it holds, pays out or forfeits. -/
theorem step_ledger
    (hStep : system.Step engine call engine') :
    engine.held + deposit ⟨engine, call, engine'⟩ =
      engine'.held +
        (payout ⟨engine, call, engine'⟩ +
          forfeit ⟨engine, call, engine'⟩) := by
  rcases call with ⟨op, result⟩
  cases step_effect hStep with
  | refused message =>
      rw [deposit_of_error rfl]
      simp [payout, forfeit]
  | @committed buyer seller amount profile chain txid hTxid =>
      have hNew :
          (Escrow.new (orderIdOf engine.nextSessionCounter)
            buyer seller amount profile chain txid
            engine.currentMono).held = amount.toNat := rfl
      simp [deposit, payout, forfeit,
        CoreProverEngine.held, hNew]
  | accepted hLookup hBlock =>
      have hHeld :=
        held_setEscrow_of_eq hLookup
          (Escrow.held_sellerAccept hBlock)
      simp [deposit, payout, forfeit, hHeld]
  | fulfilled hLookup hBlock =>
      have hHeld :=
        held_setEscrow_of_eq hLookup
          (Escrow.held_sellerFulfill hBlock)
      exact hHeld.symm
  | settled hSettle hLookup hBlock hReceipt =>
      have hOrder := Op.orderId?_of_settlement hSettle
      rcases Settlement.settles_block hSettle hBlock with
        ⟨hOpen, hTerminal, hAmount⟩
      have hHeld :=
        held_setEscrow_of_settles hLookup hOpen hTerminal
      rw [deposit_of_orderId? hOrder, hAmount]
      exact hHeld.symm
  | withdrawn hLookup hBlock =>
      rcases Escrow.settles_buyerWithdraw hBlock with
        ⟨hOpen, hTerminal, hAmount⟩
      have hHeld :=
        held_setEscrow_of_settles hLookup hOpen hTerminal
      rw [hAmount]
      exact hHeld.symm
  | refreshed hLookup =>
      have hHeld :=
        held_setEscrow_of_eq hLookup
          (Escrow.held_updateState engine.now _)
      exact hHeld.symm
  | advanced hAdvance =>
      have hSame := (advanceTime_spec hAdvance).1
      simp [deposit, payout, forfeit,
        CoreProverEngine.held, hSame]
  | unreceipted hSettle hLookup hBlock hReceipt =>
      have hOrder := Op.orderId?_of_settlement hSettle
      rcases Settlement.settles_block hSettle hBlock with
        ⟨hOpen, hTerminal, _⟩
      have hHeld :=
        held_setEscrow_of_settles hLookup hOpen hTerminal
      rw [deposit_of_orderId? hOrder]
      simp only [payout, forfeit]
      omega

end Engine

end BorderController

------------------------------------------------------------
-- The Ledger of a Run
------------------------------------------------------------

namespace BorderController

namespace Engine

variable [Chrono]
variable {es : List (Transition CoreProverEngine Call)}
variable {engine engine' : CoreProverEngine}
variable {call : Call}

/-
  Settling an undelivered order forfeits its amount: the record
  is closed and the call fails.
-/
theorem forfeit_of_undelivered
    (hSound : engine.Sound)
    (hStep : system.Step engine call engine')
    (hUndelivered : SettlesUndelivered engine call.op) :
    ∃ orderId i escrow,
      call.op.orderId? = some orderId ∧
        engine.lookup orderId = some (i, escrow) ∧
        forfeit ⟨engine, call, engine'⟩ =
          escrow.amount.toNat := by
  rcases exec_settlesUndelivered hSound hUndelivered hStep with
    ⟨orderId, i, escrow, escrow', hOrder, hResult, hLookup,
      hState, hLookup', _, hPaid⟩
  refine ⟨orderId, i, escrow, hOrder, hLookup, ?_⟩
  rcases call with ⟨op, result⟩
  cases hResult
  cases step_effect hStep with
  | refused =>
      rw [hLookup] at hLookup'
      cases hLookup'
      rw [hState] at hPaid
      contradiction
  | @unreceipted _ settlement j amount before after hSettle
      hThere hBlock hReceipt =>
      rw [Op.orderId?_of_settlement hSettle] at hOrder
      cases hOrder
      rw [hLookup] at hThere
      cases hThere
      rcases Settlement.settles_block hSettle hBlock with
        ⟨hOpen, hTerminal, _⟩
      have hHeld :=
        held_setEscrow_of_settles hLookup hOpen hTerminal
      simp only [forfeit]
      omega

/- No other call forfeits anything. -/
theorem forfeit_of_not_undelivered
    (hSound : engine.Sound)
    (hStep : system.Step engine call engine')
    (hDelivered : ¬ SettlesUndelivered engine call.op) :
    forfeit ⟨engine, call, engine'⟩ = 0 := by
  rcases call with ⟨op, result⟩
  cases step_effect hStep with
  | refused message => simp [forfeit]
  | @unreceipted _ settlement i amount escrow escrow' hSettle
      hLookup hBlock hReceipt =>
      refine absurd ?_ hDelivered
      have hGet := CoreProverEngine.getElem?_of_lookup hLookup
      rw [CoreProverEngine.lastReceipt_eq_none_iff,
        hSound.receipted_iff hLookup,
        Option.not_isSome_iff_eq_none] at hReceipt
      exact settlesUndelivered_of_block (hSound.records hGet)
        hSettle hLookup hBlock hReceipt
  | _ => rfl

end Engine

end BorderController

------------------------------------------------------------
-- An Amount That Nobody Gets
------------------------------------------------------------

namespace BorderController

namespace Engine

local instance ledgerChrono : Chrono := utcChrono

/- Let an accepted order become overdue, and claim it. -/
def overdueClaimOps : List Op :=
  overdueOps ++ [.sellerClaim (orderIdOf 1) "0x3"]

end Engine

end BorderController

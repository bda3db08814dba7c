import BorderController.Engine.Operations
import BorderController.Library.Transition

/-
  The settlement engine as a transition system: any operation
  on any order, with any arguments, at any moment.

  Key definitions include:
    * `Op`
    * `Reply`
    * `exec`
    * `system`
    * `IsRun`
    * `Fulfils`, `Withdraws`
    * `play`
-/

------------------------------------------------------------
-- Operations as Data
------------------------------------------------------------

namespace BorderController

namespace Engine

inductive Op where
  | buyerCommit
      (buyer seller : String)
      (amount : UInt64)
      (profile : PaymentProfile)
      (buyerChainId : UInt64)
      (buyerCommitTxid : String)
  | sellerAccept
      (orderId : OrderId) (sellerAcceptTxid : String)
  | sellerFulfill
      (orderId : OrderId) (sellerFulfillTxid : String)
  | sellerClaim
      (orderId : OrderId) (sellerClaimTxid : String)
  | sellerRefund
      (orderId : OrderId) (sellerRefundTxid : String)
  | buyerWithdraw
      (orderId : OrderId) (buyerWithdrawTxid : Option String)
  | timedRelease (orderId : OrderId)
  | updateState (orderId : OrderId)
  | advanceTime (secs : UInt64)
deriving DecidableEq

/- What a successful operation returns. -/
inductive Reply where
  | order (orderId : OrderId)
  | done
  | amount (value : UInt64)
deriving DecidableEq

/- One call of a run, with what it returned. -/
structure Call where
  op : Op
  result : Except String Reply

variable [Chrono]

/- Run one operation; `none` is a call that panics. -/
def exec
    (op : Op)
    (engine : CoreProverEngine) :
    Option (Except String Reply × CoreProverEngine) :=
  match op with
  | .buyerCommit buyer seller amount profile chain txid =>
      some
        ((Reply.order <$>
          buyerCommit buyer seller amount profile chain
            txid : EngineM Reply).call engine)
  | .sellerAccept orderId txid =>
      some
        (((fun _ => .done) <$>
          sellerAccept orderId txid : EngineM Reply).call
            engine)
  | .sellerFulfill orderId txid =>
      some
        (((fun _ => .done) <$>
          sellerFulfill orderId txid : EngineM Reply).call
            engine)
  | .sellerClaim orderId txid =>
      some
        ((Reply.amount <$>
          sellerClaim orderId txid : EngineM Reply).call
            engine)
  | .sellerRefund orderId txid =>
      some
        ((Reply.amount <$>
          sellerRefund orderId txid : EngineM Reply).call
            engine)
  | .buyerWithdraw orderId txid =>
      some
        ((Reply.amount <$>
          buyerWithdraw orderId txid : EngineM Reply).call
            engine)
  | .timedRelease orderId =>
      some
        ((Reply.amount <$>
          timedRelease orderId : EngineM Reply).call engine)
  | .updateState orderId =>
      some
        (((fun _ => .done) <$>
          updateState orderId : EngineM Reply).call engine)
  | .advanceTime secs =>
      (engine.advanceTime secs).map
        fun engine' => (.ok .done, engine')

end Engine

end BorderController

------------------------------------------------------------
-- Runs
------------------------------------------------------------

namespace BorderController

namespace Engine

variable [Chrono]

def system : TransitionSystem CoreProverEngine Call where
  Step engine call engine' :=
    exec call.op engine = some (call.result, engine')

/-
  `IsRun es engine`: the calls `es`, made one after another on
  a fresh engine, lead to `engine`.
-/
def IsRun
    (es : List (Transition CoreProverEngine Call))
    (engine : CoreProverEngine) :
    Prop :=
  ∃ chainId blockIntervalSecs genesisUnix,
    system.Path
      (.new chainId blockIntervalSecs genesisUnix) es engine

def Reachable (engine : CoreProverEngine) : Prop :=
  ∃ es, IsRun es engine

namespace IsRun

variable {es : List (Transition CoreProverEngine Call)}
variable {engine engine' : CoreProverEngine}

theorem snoc
    {call : Call}
    (hRun : IsRun es engine)
    (hStep : system.Step engine call engine') :
    IsRun (es ++ [⟨engine, call, engine'⟩]) engine' := by
  rcases hRun with ⟨chainId, interval, genesis, hPath⟩
  exact ⟨chainId, interval, genesis, hPath.snoc hStep⟩

theorem append
    {fs : List (Transition CoreProverEngine Call)}
    (hRun : IsRun es engine)
    (hPath : system.Path engine fs engine') :
    IsRun (es ++ fs) engine' := by
  rcases hRun with ⟨chainId, interval, genesis, hFirst⟩
  exact ⟨chainId, interval, genesis, hFirst.append hPath⟩

/- A run around one of its calls. -/
theorem split
    {before after : List (Transition CoreProverEngine Call)}
    {tr : Transition CoreProverEngine Call}
    (hRun : IsRun (before ++ tr :: after) engine) :
    IsRun before tr.source ∧
      system.Step tr.source tr.label tr.target ∧
      system.Path tr.target after engine := by
  rcases hRun with ⟨chainId, interval, genesis, hPath⟩
  rcases hPath.split with ⟨hLeft, hStep, hRest⟩
  exact ⟨⟨chainId, interval, genesis, hLeft⟩, hStep, hRest⟩

/-
  A property of history and state holds in every run once it
  holds of fresh engines and every call extends it.
-/
theorem historyInvariant
    (I : List (Transition CoreProverEngine Call) →
      CoreProverEngine → Prop)
    (hFresh :
      ∀ chainId interval genesis,
        I [] (.new chainId interval genesis))
    (hStep :
      ∀ {es engine call engine'},
        IsRun es engine →
        I es engine →
        system.Step engine call engine' →
        I (es ++ [⟨engine, call, engine'⟩]) engine')
    (hRun : IsRun es engine) :
    I es engine := by
  rcases hRun with ⟨chainId, interval, genesis, hPath⟩
  apply hPath.historyInvariant I
    (hFresh chainId interval genesis)
  intro es t l u hPrefix
  exact hStep ⟨chainId, interval, genesis, hPrefix⟩

end IsRun

/- A property that every call keeps holds when reachable. -/
theorem Reachable.invariant
    {engine : CoreProverEngine}
    (I : CoreProverEngine → Prop)
    (hFresh :
      ∀ chainId interval genesis,
        I (.new chainId interval genesis))
    (hStep :
      ∀ {engine call engine'},
        I engine →
        system.Step engine call engine' →
        I engine')
    (hReach : Reachable engine) :
    I engine := by
  rcases hReach with ⟨es, chainId, interval, genesis, hPath⟩
  exact hPath.invariant I (hFresh chainId interval genesis)
    hStep

end Engine

end BorderController

------------------------------------------------------------
-- Fulfilments and Withdrawals of a Run
------------------------------------------------------------

namespace BorderController

namespace Engine

/- A call of `seller_fulfill` on the order returned `Ok`. -/
def Fulfils
    (orderId : OrderId)
    (tr : Transition CoreProverEngine Call) :
    Prop :=
  ∃ txid, tr.label = ⟨.sellerFulfill orderId txid, .ok .done⟩

/- A call of `buyer_withdraw` on the order returned `Ok`. -/
def Withdraws
    (orderId : OrderId)
    (tr : Transition CoreProverEngine Call) :
    Prop :=
  ∃ txid reply,
    tr.label = ⟨.buyerWithdraw orderId txid, .ok reply⟩

end Engine

end BorderController

------------------------------------------------------------
-- Playing a List of Operations
------------------------------------------------------------

namespace BorderController

namespace Engine

variable [Chrono]

/-
  Call the operations one after another, up to the first that
  panics, and record the transitions.
-/
def play :
    List Op → CoreProverEngine →
      List (Transition CoreProverEngine Call) ×
        CoreProverEngine
  | [], engine => ([], engine)
  | op :: ops, engine =>
      match exec op engine with
      | none => ([], engine)
      | some (result, engine') =>
          let rest := play ops engine'
          (⟨engine, ⟨op, result⟩, engine'⟩ :: rest.1, rest.2)

theorem play_path
    (ops : List Op)
    (engine : CoreProverEngine) :
    system.Path engine (play ops engine).1
      (play ops engine).2 := by
  induction ops generalizing engine with
  | nil => exact .nil engine
  | cons op ops ih =>
      unfold play
      cases hExec : exec op engine with
      | none => exact .nil engine
      | some p =>
          have hStep :
              system.Step engine ⟨op, p.1⟩ p.2 := hExec
          exact .cons hStep (ih p.2)

theorem play_isRun
    (ops : List Op)
    (chainId interval genesis : UInt64) :
    IsRun (play ops (.new chainId interval genesis)).1
      (play ops (.new chainId interval genesis)).2 :=
  ⟨chainId, interval, genesis, play_path ops _⟩

/- Commit, accept, and fulfil `wait` seconds later. -/
def deliveryOps (wait : UInt64) : List Op :=
  [ .buyerCommit "buyer" "seller" 25 .pizzaDelivery 1 "0x1",
    .sellerAccept (orderIdOf 1) "0x2",
    .advanceTime wait,
    .sellerFulfill (orderIdOf 1) "0x3" ]

/- Commit, accept, and let the fulfilment deadline pass. -/
def overdueOps : List Op :=
  [ .buyerCommit "buyer" "seller" 25 .pizzaDelivery 1 "0x1",
    .sellerAccept (orderIdOf 1) "0x2",
    .advanceTime 3601,
    .updateState (orderIdOf 1) ]

end Engine

end BorderController

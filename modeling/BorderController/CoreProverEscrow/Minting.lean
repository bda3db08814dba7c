import BorderController.CoreProverEscrow.ReceiptVault
import BorderController.CoreProverEscrow.System
import BorderController.Library.Blocks

/-
  The escrow contract and the receipt vault on one chain, and
  what the receipts in the vault are worth.

  Key definitions include:
    * `Chain`, `Call`
    * `Chain.ledger`
    * `Chain.Unforged`
    * `Justified`

  Key theorems include:
    * `Chain.unforged_kept`
    * `unforged_of_justified`
    * `getReceipt_released`
-/

------------------------------------------------------------
-- Both Contracts
------------------------------------------------------------

namespace BorderController

namespace CoreProverEscrow

/- The escrow contract, and the vault beside it. -/
abbrev Chain := World × ReceiptVault

/- A call to either of them. -/
inductive Call where
  | escrow (msg : Message)
  | mint (sender : Address) (value : Nat) (mint : MintReceipt)
deriving DecidableEq, Repr

namespace Chain

def world (chain : Chain) : World :=
  chain.1

def vault (chain : Chain) : ReceiptVault :=
  chain.2

@[simp] theorem world_mk (world : World) (vault : ReceiptVault) :
    Chain.world (world, vault) = world :=
  rfl

@[simp] theorem vault_mk (world : World) (vault : ReceiptVault) :
    Chain.vault (world, vault) = vault :=
  rfl

abbrev Proc :=
  Reentrancy.Proc Chain Payment String Returned

/- `mintReceipt` takes calls from anybody, but no ether. -/
def mintReceipt
    (value : Nat)
    (mint : MintReceipt)
    (chain : Chain) :
    Proc :=
  if value ≠ 0 then
    .revert ""
  else
    match
      chain.vault.mintReceipt mint chain.world.timestamp with
    | .error reason => .revert reason
    | .ok (vault, tokenId) =>
        .finish (chain.world, vault) (.uint256 tokenId)

/-
  Both contracts after deployment, in one run of blocks.  A
  recipient of ether may call either of them.
-/
def ledger :
    Reentrancy.Ledger Chain Call Payment String Returned where
  entry
    | .escrow msg, chain =>
        (contract.entry msg chain.world).beside chain.vault
    | .mint _ value mint, chain =>
        chain.mintReceipt value mint
  pay payment chain :=
    match chain.world.pay payment with
    | none => none
    | some world => some (world, chain.vault)
  drift chain chain' :=
    contract.drift chain.world chain'.world ∧
      chain'.vault = chain.vault
  deployed chain :=
    ∃ timestamp balance,
      chain =
        (.deployed timestamp balance, .deployed)
  time chain := chain.world.timestamp
  later timestamp chain :=
    ({ chain.world with timestamp }, chain.vault)

end Chain

end CoreProverEscrow

end BorderController

------------------------------------------------------------
-- Receipts and Orders
------------------------------------------------------------

namespace BorderController

namespace CoreProverEscrow

/- The payment went to the seller, for this buyer's order. -/
structure Escrow.Released
    (escrow : Escrow)
    (buyer seller : Address) :
    Prop where
  state :
    escrow.state = .sellerClaimed ∨
      escrow.state = .bothClaimed
  buyer_eq : escrow.buyer = buyer
  seller_eq : escrow.seller = seller

namespace Chain

/-
  Every receipt names an order whose payment was released, with
  its parties, and no two receipts name the same order.
-/
structure Unforged (chain : Chain) : Prop where
  released :
    ∀ tokenId,
      chain.vault.Stored tokenId →
      (chain.world.escrows
          (chain.vault.receipts tokenId).orderId).Released
        (chain.vault.receipts tokenId).buyer
        (chain.vault.receipts tokenId).seller
  distinct :
    ∀ tokenId other,
      chain.vault.Stored tokenId →
      chain.vault.Stored other →
      (chain.vault.receipts tokenId).orderId =
          (chain.vault.receipts other).orderId →
      tokenId = other

end Chain

/-
  A receipt is minted only for an order whose payment was
  released to these parties and that has no receipt yet.
-/
def Justified : Call → Chain → Prop
  | .escrow _, _ => True
  | .mint _ _ mint, chain =>
      (chain.world.escrows mint.orderId).Released mint.buyer
          mint.seller ∧
        ∀ tokenId,
          chain.vault.Stored tokenId →
          (chain.vault.receipts tokenId).orderId ≠
            mint.orderId

end CoreProverEscrow

end BorderController

------------------------------------------------------------
-- What Escrow Calls Keep
------------------------------------------------------------

namespace BorderController

namespace CoreProverEscrow

variable {world after : World}
variable {vault : ReceiptVault}
variable {orderId : Bytes32}
variable {escrow escrow' : Escrow}
variable {buyer seller : Address}
variable {msg : Message}

/- A released payment stays released. -/
theorem Escrow.Pays.released
    {sender : Address}
    {time : Nat}
    {payment : Payment}
    (hPays :
      Escrow.Pays orderId sender time escrow payment escrow')
    (hReleased : escrow.Released buyer seller) :
    escrow'.Released buyer seller := by
  rcases hReleased with ⟨hState, hBuyer, hSeller⟩
  cases hPays with
  | buyerClaimSecond _ _ _ _ =>
      exact ⟨.inr rfl, hBuyer, hSeller⟩
  | sellerClaim hOld _ _ => simp [hOld] at hState
  | timedRelease hOld _ _ => simp [hOld] at hState
  | buyerClaimFirst hOld _ _ _ => simp [hOld] at hState
  | refund hOld _ => simp [hOld] at hState

theorem Escrow.not_released_of_state
    (hState :
      escrow.state = .none ∨ escrow.state = .buyerCommitted) :
    ¬ escrow.Released buyer seller := by
  intro hReleased
  rcases hReleased.state with hClaimed | hClaimed <;>
    simp [hClaimed] at hState

namespace Chain

/-
  Writing the record of one order forges no receipt if that
  order was not released, or stays released.
-/
theorem Unforged.write
    (hUnforged : Unforged (world, vault))
    (hEscrows :
      after.escrows =
        Function.update world.escrows orderId escrow)
    (hKey :
      ∀ buyer seller,
        (world.escrows orderId).Released buyer seller →
        escrow.Released buyer seller) :
    Unforged (after, vault) where
  released := by
    intro tokenId hStored
    have hReleased := hUnforged.released tokenId hStored
    simp only [world_mk, vault_mk] at hReleased ⊢
    rw [hEscrows]
    by_cases hSame :
        (vault.receipts tokenId).orderId = orderId
    · subst hSame
      rw [Function.update_self]
      exact hKey _ _ hReleased
    · rw [Function.update_of_ne hSame]
      exact hReleased
  distinct := hUnforged.distinct

/- The escrow records are all that matters of the world. -/
theorem Unforged.of_escrows
    (hUnforged : Unforged (world, vault))
    (hEscrows : after.escrows = world.escrows) :
    Unforged (after, vault) where
  released := by
    intro tokenId hStored
    rw [world_mk, hEscrows]
    exact hUnforged.released tokenId hStored
  distinct := hUnforged.distinct

theorem Unforged.pay
    {payment : Payment}
    {chain paid : Chain}
    (hUnforged : chain.Unforged)
    (hPay : ledger.pay payment chain = some paid) :
    paid.Unforged := by
  have hShown :
      (match chain.world.pay payment with
        | none => none
        | some world => some (world, chain.vault)) =
        some paid := hPay
  unfold World.pay at hShown
  split at hShown
  · contradiction
  · rename_i world' hWorld
    split at hWorld
    · cases hWorld
      cases hShown
      exact hUnforged.of_escrows rfl
    · contradiction

/- No call of the escrow contract forges a receipt. -/
theorem Unforged.entry
    (hUnforged : Unforged (world, vault)) :
    ((contract.entry msg world).beside vault).Keeps
      ledger.toContract Unforged := by
  have hShape := msg.shape (world.enter msg)
  show ((msg.body (world.enter msg)).beside vault).Keeps _ _
  generalize msg.body (world.enter msg) = proc at hShape
  cases hShape with
  | reverts reason => trivial
  | creates _ hFresh _ _ _ _ hSame =>
      apply hUnforged.write hSame.escrows
      intro buyer seller hReleased
      exact absurd hReleased
        (Escrow.not_released_of_state (.inl hFresh))
  | deposits _ hState _ _ hSame =>
      apply hUnforged.write hSame.escrows
      intro buyer seller hReleased
      exact absurd hReleased
        (Escrow.not_released_of_state (.inr hState))
  | signs _ _ hState _ _ hSame =>
      apply hUnforged.write hSame.escrows
      intro buyer seller hReleased
      exact absurd hReleased
        (Escrow.not_released_of_state (.inr hState))
  | pays _ _ _ hPays hResume =>
      refine ⟨?_, ?_⟩
      · intro paid hPay
        refine Unforged.pay ?_ hPay
        apply hUnforged.write rfl
        intro buyer seller hReleased
        exact hPays.released hReleased
      · intro resumed hResumed
        rcases hResume resumed.1 with
          ⟨after, result, hResult, hSame⟩
        dsimp only
        rw [hResult]
        exact hResumed.of_escrows hSame.escrows

end Chain

end CoreProverEscrow

end BorderController

------------------------------------------------------------
-- What Minting Keeps
------------------------------------------------------------

namespace BorderController

namespace CoreProverEscrow

namespace Chain

variable {world : World}
variable {vault : ReceiptVault}
variable {chain after : Chain}
variable {sender : Address}
variable {value timestamp : Nat}
variable {mint : MintReceipt}
variable {result : Returned}

/- A mint stores one receipt, or it is refused. -/
theorem mintReceipt_cases :
    (∃ reason,
        chain.mintReceipt value mint = .revert reason) ∨
      chain.mintReceipt value mint =
        .finish
          (chain.world,
            chain.vault.store mint chain.world.timestamp)
          (.uint256 chain.vault.nextTokenId) := by
  unfold Chain.mintReceipt ReceiptVault.mintReceipt
  by_cases hValue : value ≠ 0
  · exact .inl ⟨"", if_pos hValue⟩
  · rw [if_neg hValue]
    cases checkedAdd chain.vault.nextTokenId 1 with
    | none => exact .inl ⟨overflow, rfl⟩
    | some next => exact .inr rfl

theorem Unforged.store_of_justified
    (hUnforged : Unforged (world, vault))
    (hJustified :
      Justified (.mint sender value mint) (world, vault)) :
    Unforged (world, vault.store mint timestamp) where
  released := by
    intro tokenId hStored
    rw [vault_mk] at hStored ⊢
    rcases ReceiptVault.stored_store_iff.mp hStored with
      hNew | hOld
    · subst hNew
      rw [ReceiptVault.receipts_store_new]
      exact hJustified.1
    · rw [ReceiptVault.receipts_store_of_stored hOld]
      exact hUnforged.released tokenId hOld
  distinct := by
    intro tokenId other hToken hOther hSame
    rw [vault_mk] at hToken hOther hSame
    rcases ReceiptVault.stored_store_iff.mp hToken with
      hNew | hOld <;>
    rcases ReceiptVault.stored_store_iff.mp hOther with
      hNew' | hOld'
    · exact hNew.trans hNew'.symm
    · subst hNew
      rw [ReceiptVault.receipts_store_new,
        ReceiptVault.receipts_store_of_stored hOld'] at hSame
      exact absurd hSame.symm (hJustified.2 other hOld')
    · subst hNew'
      rw [ReceiptVault.receipts_store_new,
        ReceiptVault.receipts_store_of_stored hOld] at hSame
      exact absurd hSame (hJustified.2 tokenId hOld)
    · rw [ReceiptVault.receipts_store_of_stored hOld,
        ReceiptVault.receipts_store_of_stored hOld'] at hSame
      exact hUnforged.distinct tokenId other hOld hOld' hSame

theorem justified_of_unforged_store
    (hUnforged :
      Unforged (world, vault.store mint timestamp)) :
    Justified (.mint sender value mint) (world, vault) := by
  have hNew :
      (vault.store mint timestamp).Stored vault.nextTokenId :=
    ReceiptVault.stored_store_iff.mpr (.inl rfl)
  refine ⟨?_, ?_⟩
  · have hReleased := hUnforged.released _ hNew
    rw [vault_mk, ReceiptVault.receipts_store_new]
      at hReleased
    exact hReleased
  · intro tokenId hStored hSame
    have hOld :
        (vault.store mint timestamp).Stored tokenId :=
      ReceiptVault.stored_store_iff.mpr (.inr hStored)
    have hEqual := hUnforged.distinct tokenId _ hOld hNew
    rw [vault_mk] at hStored hSame hEqual
    rw [ReceiptVault.receipts_store_new,
      ReceiptVault.receipts_store_of_stored hStored] at hEqual
    have hLess := hStored.2
    rw [hEqual hSame] at hLess
    exact Nat.lt_irrefl _ hLess

/- A mint forges no receipt exactly if it is justified. -/
theorem unforged_mint_iff
    (hUnforged : chain.Unforged)
    (hMint :
      chain.mintReceipt value mint = .finish after result) :
    after.Unforged ↔
      Justified (.mint sender value mint) chain := by
  rcases @mintReceipt_cases chain value mint with
    ⟨reason, hRevert⟩ | hStore
  · rw [hRevert] at hMint
    contradiction
  · rw [hStore] at hMint
    cases hMint
    constructor
    · intro hAfter
      exact justified_of_unforged_store hAfter
    · intro hJustified
      exact hUnforged.store_of_justified hJustified

end Chain

end CoreProverEscrow

end BorderController

------------------------------------------------------------
-- Runs of Both Contracts
------------------------------------------------------------

namespace BorderController

namespace CoreProverEscrow

namespace Chain

variable {chain : Chain}

theorem unforged_deployed (timestamp balance : Nat) :
    Unforged (.deployed timestamp balance, .deployed) where
  released := by
    intro tokenId hStored
    exact absurd hStored ReceiptVault.not_stored_deployed
  distinct := by
    intro tokenId other hStored _ _
    exact absurd hStored ReceiptVault.not_stored_deployed

/- Justified mints forge no receipt in any run. -/
theorem unforged_kept :
    (ledger.restrict Justified "").Kept Unforged := by
  apply Reentrancy.Ledger.Kept.restrict
  · intro chain hDeployed
    rcases hDeployed with ⟨timestamp, balance, hChain⟩
    rw [hChain]
    exact unforged_deployed timestamp balance
  · intro timestamp chain hUnforged
    exact hUnforged.of_escrows rfl
  · intro chain chain' hDrift hUnforged
    rcases chain' with ⟨world', vault'⟩
    rcases hDrift with ⟨⟨amount, hWorld⟩, hVault⟩
    cases hVault
    cases hWorld
    exact hUnforged.of_escrows rfl
  · intro k chain hJustified hUnforged
    cases k with
    | escrow msg => exact hUnforged.entry
    | mint sender value mint =>
        show (chain.mintReceipt value mint).Keeps _ _
        rcases @mintReceipt_cases chain value mint with
          ⟨reason, hRevert⟩ | hStore
        · rw [hRevert]
          trivial
        · rw [hStore]
          exact hUnforged.store_of_justified hJustified

end Chain

/-
  In the runs whose mints are justified no receipt is ever
  forged, and the first mint that is not forges one.
-/
theorem unforged_of_justified
    {chain : Chain}
    (hChain :
      (Chain.ledger.restrict Justified "").Observable chain) :
    Chain.ledger.Observable chain ∧
      chain.Unforged ∧
        ∀ sender value mint after result,
          Chain.ledger.entry (.mint sender value mint) chain =
              .finish after result →
            (after.Unforged ↔
              Justified (.mint sender value mint) chain) := by
  have hUnforged := Chain.unforged_kept.observable hChain
  refine ⟨hChain.of_restrict, hUnforged, ?_⟩
  intro sender value mint after result hMint
  exact Chain.unforged_mint_iff hUnforged hMint

/- What such a receipt shows can be relied on. -/
theorem getReceipt_released
    {chain : Chain}
    {tokenId : Nat}
    {receipt : Receipt}
    (hChain :
      (Chain.ledger.restrict Justified "").Observable chain)
    (hGet : chain.vault.getReceipt tokenId = .ok receipt) :
    (chain.world.escrows receipt.orderId).Released
      receipt.buyer receipt.seller := by
  rcases ReceiptVault.getReceipt_eq_ok_iff.mp hGet with
    ⟨hStored, hReceipt⟩
  have hUnforged := Chain.unforged_kept.observable hChain
  rw [← hReceipt]
  exact hUnforged.released tokenId hStored

/- A receipt for an order between two parties. -/
def receiptFor
    (orderId : Bytes32)
    (buyer seller : Address) :
    MintReceipt :=
  { orderId
    buyer
    seller
    fulfillmentDataHash := 0
    legalSignatureHash := 0
    wasCounterEscrowed := false
    metadataURI := "" }

/- A receipt for an order that was never created. -/
theorem receiptFor_not_unforged :
    ∃ chain,
      Chain.ledger.Observable chain ∧
        ¬ chain.Unforged := by
  have hReach :
      Chain.ledger.Reachable
        (.deployed 1000 0,
          ReceiptVault.deployed.store
            (receiptFor 7 0xB0B 0x5E11) 1000) :=
    .call (.mint 0xBAD 0 (receiptFor 7 0xB0B 0x5E11)) 1000
      (.deployed ⟨1000, 0, rfl⟩) (Nat.le_refl 1000)
      (.finish _ (Returned.uint256 1))
  refine ⟨_, .inl hReach, ?_⟩
  intro hUnforged
  have hReleased := hUnforged.released 1 (by decide)
  rcases hReleased.state with hState | hState <;>
    contradiction

/- The next call of a run, to recipients that are quiet. -/
private theorem Chain.reachable_call
    {chain after : Chain}
    {result : Returned}
    (k : Call)
    (timestamp : Nat)
    (hReach :
      (Chain.ledger.restrict Justified "").Reachable chain)
    (hLater : chain.world.timestamp ≤ timestamp)
    (hJustified :
      Justified k (Chain.ledger.later timestamp chain))
    (hSettle :
      (Chain.ledger.entry k
            (Chain.ledger.later timestamp chain)).settle
          Chain.ledger.toContract accepting =
        some (after, result)) :
    (Chain.ledger.restrict Justified "").Reachable after :=
  hReach.settle hLater hJustified hSettle

/- A receipt for an order whose payment was released. -/
theorem receiptFor_unforged :
    ∃ chain : Chain,
      chain.vault.Stored 1 ∧ chain.Unforged := by
  have hStart :
      (Chain.ledger.restrict Justified "").Reachable
        (.deployed 1000 0, .deployed) :=
    .deployed ⟨1000, 0, rfl⟩
  have hCreated :=
    Chain.reachable_call
      (.escrow
        ⟨0xB0B, 500, .createEscrow 7 0x5E11 100 100 false 0⟩)
      1000 hStart (Nat.le_refl 1000) trivial rfl
  have hCommitted :=
    Chain.reachable_call
      (.escrow ⟨0x5E11, 50, .sellerCommitEscrow 7⟩) 1050
      hCreated (by decide) trivial rfl
  have hClaimed :=
    Chain.reachable_call
      (.escrow ⟨0x5E11, 0, .sellerClaimPayment 7⟩) 1060
      hCommitted (by decide) trivial rfl
  have hNone :
      ∀ tokenId,
        ReceiptVault.deployed.Stored tokenId →
        (ReceiptVault.deployed.receipts tokenId).orderId ≠
          7 := by
    intro tokenId hStored
    exact absurd hStored ReceiptVault.not_stored_deployed
  have hMinted :=
    Chain.reachable_call
      (.mint 0x5E11 0 (receiptFor 7 0xB0B 0x5E11)) 1070
      hClaimed (by decide) ⟨⟨.inl rfl, rfl, rfl⟩, hNone⟩ rfl
  exact ⟨_, by decide,
    (unforged_of_justified (.inl hMinted)).2.1⟩

end CoreProverEscrow

end BorderController

import BorderController.CoreProverEscrow.ReceiptVault
import BorderController.Library.Transition

/-
  Runs of the receipt vault by itself, with calls from anybody.

  Key definitions include:
    * `ReceiptVault.Request`, `ReceiptVault.Call`
    * `ReceiptVault.system`
    * `ReceiptVault.minted`
    * `ReceiptVault.AppendOnly`

  Key theorems include:
    * `ReceiptVault.step_cases`
    * `ReceiptVault.appendOnly_of_path`
-/

------------------------------------------------------------
-- Calls
------------------------------------------------------------

namespace BorderController

namespace CoreProverEscrow

namespace ReceiptVault

/- A call of a function, with its arguments: the public ones
   of the contract, and the getters of its public variables. -/
inductive Request where
  | receipts (tokenId : Nat)
  | nextTokenId
  | mintReceipt (mint : MintReceipt)
  | getReceipt (tokenId : Nat)
  | verifyBuyerOwnership (tokenId : Nat) (zkProof : List UInt8)
deriving DecidableEq, Repr

inductive Response where
  | uint256 (value : Nat)
  | tokenId (tokenId : Nat)
  | receipt (receipt : Receipt)
  | verified (valid : Bool)
deriving DecidableEq, Repr

/- A message to the vault, and the time of its block. -/
structure Message where
  sender : Address
  value : Nat
  timestamp : Nat
  request : Request
deriving DecidableEq, Repr

/- No function takes ether, and a revert undoes everything. -/
def execute
    (msg : Message)
    (vault : ReceiptVault) :
    Except String Response × ReceiptVault :=
  if msg.value ≠ 0 then
    (.error "", vault)
  else
    match msg.request with
    | .receipts tokenId =>
        (.ok (.receipt (vault.receipts tokenId)), vault)
    | .nextTokenId => (.ok (.uint256 vault.nextTokenId), vault)
    | .mintReceipt mint =>
        match vault.mintReceipt mint msg.timestamp with
        | .error reason => (.error reason, vault)
        | .ok (vault', tokenId) =>
            (.ok (.tokenId tokenId), vault')
    | .getReceipt tokenId =>
        ((vault.getReceipt tokenId).map .receipt, vault)
    | .verifyBuyerOwnership tokenId zkProof =>
        ((vault.verifyBuyerOwnership tokenId zkProof).map
            .verified,
          vault)

/- A message with what it returned. -/
structure Call where
  msg : Message
  result : Except String Response

def system : TransitionSystem ReceiptVault Call where
  Step vault call vault' :=
    vault.execute call.msg = (call.result, vault')

/- The call minted the receipt under the number. -/
def Call.Mints
    (mint : MintReceipt)
    (tokenId : Nat)
    (call : Call) :
    Prop :=
  call.msg.request = .mintReceipt mint ∧
    call.result = .ok (.tokenId tokenId)

/- The number that a call minted a receipt under. -/
def Call.minted? (call : Call) : Option Nat :=
  match call.result with
  | .ok (.tokenId tokenId) => some tokenId
  | _ => none

/- The numbers that the calls returned, in their order. -/
def minted
    (es : List (Transition ReceiptVault Call)) :
    List Nat :=
  es.filterMap fun tr => tr.label.minted?

end ReceiptVault

end CoreProverEscrow

end BorderController

------------------------------------------------------------
-- One Call
------------------------------------------------------------

namespace BorderController

namespace CoreProverEscrow

namespace ReceiptVault

variable {vault vault' : ReceiptVault}
variable {mint : MintReceipt}
variable {timestamp tokenId : Nat}
variable {call : Call}

/- A mint stores the receipt under the next number. -/
theorem mintReceipt_eq_ok
    (hMint :
      vault.mintReceipt mint timestamp =
        .ok (vault', tokenId)) :
    tokenId = vault.nextTokenId ∧
      vault' = vault.store mint timestamp := by
  unfold mintReceipt at hMint
  cases hNext : checkedAdd vault.nextTokenId 1 with
  | none =>
      rw [hNext] at hMint
      contradiction
  | some next =>
      rw [hNext] at hMint
      cases hMint
      exact ⟨rfl, rfl⟩

/-
  A call leaves the vault alone, or it mints one receipt under
  the next number.
-/
theorem step_cases
    (hStep : system.Step vault call vault') :
    (vault' = vault ∧ call.minted? = none) ∨
      ∃ mint,
        call.Mints mint vault.nextTokenId ∧
          vault' = vault.store mint call.msg.timestamp := by
  have hCall : vault.execute call.msg = (call.result, vault') :=
    hStep
  unfold execute at hCall
  unfold Call.minted? Call.Mints
  by_cases hValue : call.msg.value ≠ 0
  · rw [if_pos hValue, Prod.mk.injEq] at hCall
    rw [← hCall.1]
    exact Or.inl ⟨hCall.2.symm, rfl⟩
  rw [if_neg hValue] at hCall
  cases hRequest : call.msg.request with
  | receipts tokenId =>
      rw [hRequest, Prod.mk.injEq] at hCall
      rw [← hCall.1]
      exact Or.inl ⟨hCall.2.symm, rfl⟩
  | nextTokenId =>
      rw [hRequest, Prod.mk.injEq] at hCall
      rw [← hCall.1]
      exact Or.inl ⟨hCall.2.symm, rfl⟩
  | mintReceipt mint =>
      rw [hRequest] at hCall
      cases hMint :
          vault.mintReceipt mint call.msg.timestamp with
      | error reason =>
          simp only [hMint, Prod.mk.injEq] at hCall
          rw [← hCall.1]
          exact Or.inl ⟨hCall.2.symm, rfl⟩
      | ok p =>
          simp only [hMint, Prod.mk.injEq] at hCall
          rcases mintReceipt_eq_ok hMint with ⟨hId, hStore⟩
          refine Or.inr ⟨mint, ⟨rfl, ?_⟩, ?_⟩
          · rw [← hCall.1, hId]
          · rw [← hCall.2, hStore]
  | getReceipt tokenId =>
      rw [hRequest, Prod.mk.injEq] at hCall
      rw [← hCall.1]
      refine Or.inl ⟨hCall.2.symm, ?_⟩
      cases vault.getReceipt tokenId <;> rfl
  | verifyBuyerOwnership tokenId zkProof =>
      rw [hRequest, Prod.mk.injEq] at hCall
      rw [← hCall.1]
      refine Or.inl ⟨hCall.2.symm, ?_⟩
      cases vault.verifyBuyerOwnership tokenId zkProof <;> rfl

theorem minted?_of_mints
    (hMints : call.Mints mint tokenId) :
    call.minted? = some tokenId := by
  unfold Call.minted?
  rw [hMints.2]

/- `getReceipt` and `verifyBuyerOwnership` check the same. -/
theorem getReceipt_reverts_iff :
    (∃ reason, vault.getReceipt tokenId = .error reason) ↔
      ¬ vault.Stored tokenId := by
  unfold getReceipt
  by_cases hStored : vault.Stored tokenId <;>
    simp [hStored]

theorem verifyBuyerOwnership_reverts_iff
    {zkProof : List UInt8} :
    (∃ reason,
        vault.verifyBuyerOwnership tokenId zkProof =
          .error reason) ↔
      ¬ vault.Stored tokenId := by
  unfold verifyBuyerOwnership
  by_cases hStored : vault.Stored tokenId <;>
    simp [hStored]

end ReceiptVault

end CoreProverEscrow

end BorderController

------------------------------------------------------------
-- Runs
------------------------------------------------------------

namespace BorderController

namespace CoreProverEscrow

namespace ReceiptVault

variable {vault vault' : ReceiptVault}
variable {call : Call}
variable {es : List (Transition ReceiptVault Call)}

/-
  The numbers are handed out from one, the vault knows exactly
  these, and under each it keeps what was minted.
-/
structure AppendOnly
    (es : List (Transition ReceiptVault Call))
    (vault : ReceiptVault) :
    Prop where
  numbered :
    minted es = List.range' 1 (minted es).length
  get_reverts :
    ∀ tokenId,
      (∃ reason, vault.getReceipt tokenId = .error reason) ↔
        tokenId ∉ minted es
  verify_reverts :
    ∀ tokenId zkProof,
      (∃ reason,
          vault.verifyBuyerOwnership tokenId zkProof =
            .error reason) ↔
        tokenId ∉ minted es
  immutable :
    ∀ tr ∈ es, ∀ mint tokenId,
      tr.label.Mints mint tokenId →
        vault.getReceipt tokenId =
          .ok (mint.receipt tr.label.msg.timestamp)

/- The same, as a matter of the storage. -/
structure Recorded
    (es : List (Transition ReceiptVault Call))
    (vault : ReceiptVault) :
    Prop where
  numbered :
    minted es = List.range' 1 (vault.nextTokenId - 1)
  kept :
    ∀ tr ∈ es, ∀ mint tokenId,
      tr.label.Mints mint tokenId →
        vault.Stored tokenId ∧
          vault.receipts tokenId =
            mint.receipt tr.label.msg.timestamp

/- The number after the last one is handed out next. -/
theorem range'_snoc
    {next : Nat}
    (hPos : 0 < next) :
    List.range' 1 (next - 1) ++ [next] =
      List.range' 1 next := by
  have hNext : next = (next - 1) + 1 := by omega
  conv_rhs => rw [hNext, List.range'_concat]
  rw [Nat.one_mul, Nat.add_comm 1, ← hNext]

theorem step_recorded
    (hRecorded : Recorded es vault)
    (hStep : system.Step vault call vault') :
    Recorded (es ++ [⟨vault, call, vault'⟩]) vault' := by
  rcases step_cases hStep with
    ⟨hSame, hNone⟩ | ⟨mint, hMints, hStore⟩
  · rw [hSame]
    constructor
    · simpa [minted, hNone] using hRecorded.numbered
    · intro tr hMem mint tokenId hMints
      rcases List.mem_append.mp hMem with hOld | hNew
      · exact hRecorded.kept tr hOld mint tokenId hMints
      · rw [List.mem_singleton.mp hNew] at hMints
        rw [minted?_of_mints hMints] at hNone
        contradiction
  · rw [hStore]
    constructor
    · have hBefore := hRecorded.numbered
      unfold minted at hBefore ⊢
      rw [List.filterMap_append, hBefore]
      simp only [List.filterMap_cons, List.filterMap_nil,
        minted?_of_mints hMints]
      exact range'_snoc vault.nextTokenId_pos
    · intro tr hMem mint' tokenId hMints'
      rcases List.mem_append.mp hMem with hOld | hNew
      · rcases hRecorded.kept tr hOld mint' tokenId hMints' with
          ⟨hStored, hThere⟩
        refine ⟨stored_store_iff.mpr (Or.inr hStored), ?_⟩
        rw [receipts_store_of_stored hStored, hThere]
      · rw [List.mem_singleton.mp hNew] at hMints' ⊢
        have hId : tokenId = vault.nextTokenId := by
          have hResult := hMints'.2
          rw [hMints.2] at hResult
          cases hResult
          rfl
        have hMint : mint' = mint := by
          have hRequest := hMints'.1
          rw [hMints.1] at hRequest
          cases hRequest
          rfl
        rw [hId, hMint]
        exact ⟨stored_store_iff.mpr (Or.inl rfl),
          receipts_store_new⟩

theorem recorded_of_path
    (hRun : system.Path deployed es vault) :
    Recorded es vault := by
  refine hRun.historyInvariant Recorded ?_ ?_
  · exact
      { numbered := rfl
        kept := by simp }
  · intro es vault call vault' _ hRecorded hStep
    exact step_recorded hRecorded hStep

/- The numbers of receipts are those handed out. -/
theorem Recorded.mem_minted_iff
    {tokenId : Nat}
    (hRecorded : Recorded es vault) :
    tokenId ∈ minted es ↔ vault.Stored tokenId := by
  have hPos := vault.nextTokenId_pos
  rw [hRecorded.numbered, List.mem_range'_1]
  unfold Stored
  omega

theorem appendOnly_of_path
    (hRun : system.Path deployed es vault) :
    AppendOnly es vault := by
  have hRecorded := recorded_of_path hRun
  have hLength := congrArg List.length hRecorded.numbered
  rw [List.length_range'] at hLength
  exact
    { numbered := by
        rw [hLength]
        exact hRecorded.numbered
      get_reverts := by
        intro tokenId
        rw [getReceipt_reverts_iff, hRecorded.mem_minted_iff]
      verify_reverts := by
        intro tokenId zkProof
        rw [verifyBuyerOwnership_reverts_iff,
          hRecorded.mem_minted_iff]
      immutable := by
        intro tr hMem mint tokenId hMints
        exact getReceipt_eq_ok_iff.mpr
          (hRecorded.kept tr hMem mint tokenId hMints) }

/- Send the messages one after another. -/
def play :
    List Message → ReceiptVault →
      List (Transition ReceiptVault Call) × ReceiptVault
  | [], vault => ([], vault)
  | msg :: msgs, vault =>
      let next := vault.execute msg
      let rest := play msgs next.2
      (⟨vault, ⟨msg, next.1⟩, next.2⟩ :: rest.1, rest.2)

theorem play_path
    (msgs : List Message)
    (vault : ReceiptVault) :
    system.Path vault (play msgs vault).1
      (play msgs vault).2 := by
  induction msgs generalizing vault with
  | nil => exact .nil vault
  | cons msg msgs ih => exact .cons rfl (ih _)

/- Two receipts for the same order, and a look at a third. -/
def twoMints : List Message :=
  let mint : MintReceipt :=
    { orderId := 0x1234
      buyer := 0x1
      seller := 0x2
      fulfillmentDataHash := 0x3
      legalSignatureHash := 0
      wasCounterEscrowed := true
      metadataURI := "ipfs://metadata" }
  [ ⟨0x2, 0, 1000, .mintReceipt mint⟩,
    ⟨0x9, 0, 1001, .mintReceipt mint⟩,
    ⟨0x9, 0, 1002, .getReceipt 3⟩ ]

theorem twoMints_appendOnly :
    ∃ es vault,
      system.Path deployed es vault ∧
        es.length = 3 ∧
        minted es = [1, 2] ∧ AppendOnly es vault :=
  ⟨_, _, play_path twoMints deployed, rfl, rfl,
    appendOnly_of_path (play_path twoMints deployed)⟩

end ReceiptVault

end CoreProverEscrow

end BorderController

import BorderController.Engine.Effect
import Mathlib.Data.List.Nodup

/-
  The commits of a run: the escrow records are the successful
  `buyer_commit` calls in order, and their ids are the low 16
  bits of a counter.

  Key definitions include:
    * `Call.commit?`
    * `commits`

  Key theorems include:
    * `IsRun.commits_eq`
    * `orderIdOf_eq_iff`
    * `orderIds_identify_iff`
-/

------------------------------------------------------------
-- Commits of a Run
------------------------------------------------------------

namespace BorderController

namespace Engine

/- The order id and amount of a successful `buyer_commit`. -/
def Call.commit? : Call → Option (OrderId × UInt64)
  | ⟨.buyerCommit _ _ amount _ _ _, .ok (.order orderId)⟩ =>
      some (orderId, amount)
  | _ => none

/- The successful commits of a run, in order. -/
def commits
    (es : List (Transition CoreProverEngine Call)) :
    List (OrderId × UInt64) :=
  es.filterMap fun tr => tr.label.commit?

/- What a record keeps of its commit. -/
def Escrow.commit (escrow : Escrow) : OrderId × UInt64 :=
  (escrow.orderId, escrow.amount)

variable [Chrono]
variable {es : List (Transition CoreProverEngine Call)}
variable {engine engine' : CoreProverEngine}
variable {op : Op}
variable {result : Except String Reply}

omit [Chrono] in
theorem Call.commit?_amount
    (op : Op)
    (amount : UInt64) :
    Call.commit? ⟨op, .ok (.amount amount)⟩ = none := by
  cases op <;> rfl

/- Rewriting the addressed record keeps all commits. -/
private theorem commit_set
    {orderId : OrderId}
    {i : Nat}
    {escrow escrow' : Escrow}
    (hLookup : engine.lookup orderId = some (i, escrow))
    (hChange : Escrow.Change engine op escrow escrow') :
    (engine.escrows.set i escrow').map Escrow.commit =
      engine.escrows.map Escrow.commit := by
  have hGet := CoreProverEngine.getElem?_of_lookup hLookup
  rcases List.getElem?_eq_some_iff.mp hGet with
    ⟨hBound, hHere⟩
  have hSame : escrow'.commit = escrow.commit := by
    unfold Escrow.commit
    rw [hChange.identity.1, hChange.identity.2.1]
  apply List.ext_getElem (by simp)
  intro j hj _
  simp only [List.length_map, List.length_set] at hj
  by_cases hIndex : i = j
  · subst hIndex
    simp [hSame, hHere]
  · simp [hIndex]

/- A call adds its commit to the records and the counter. -/
theorem Effect.commit?
    (hEffect : Effect engine op result engine') :
    engine'.escrows.map Escrow.commit =
        engine.escrows.map Escrow.commit ++
          (Call.commit? ⟨op, result⟩).toList ∧
      (Call.commit? ⟨op, result⟩ = none ∧
          engine'.nextSessionCounter =
            engine.nextSessionCounter ∨
        ∃ amount,
          Call.commit? ⟨op, result⟩ =
              some
                (orderIdOf engine.nextSessionCounter,
                  amount) ∧
            engine'.nextSessionCounter =
              engine.nextSessionCounter + 1) := by
  cases hEffect with
  | refused message =>
      have hNone : Call.commit? ⟨op, .error message⟩ = none := by
        cases op <;> rfl
      simp [hNone]
  | committed hTxid =>
      refine ⟨?_, Or.inr ⟨_, rfl, rfl⟩⟩
      simp [Call.commit?, Escrow.commit, Escrow.new]
  | @accepted orderId txid _ escrow escrow' hLookup hBlock =>
      have hChange :
          Escrow.Change engine (.sellerAccept orderId txid)
            escrow escrow' :=
        .accept hBlock
      refine ⟨?_, Or.inl ⟨rfl, rfl⟩⟩
      simpa [Call.commit?] using commit_set hLookup hChange
  | @fulfilled orderId txid _ _ escrow escrow' hLookup hBlock =>
      have hChange :
          Escrow.Change engine (.sellerFulfill orderId txid)
            escrow escrow' :=
        .fulfill hBlock
      refine ⟨?_, Or.inl ⟨rfl, rfl⟩⟩
      simpa [Call.commit?] using commit_set hLookup hChange
  | settled hSettle hLookup hBlock hReceipt =>
      rw [Call.commit?_amount]
      refine ⟨?_, Or.inl ⟨rfl, rfl⟩⟩
      simpa using
        commit_set hLookup (.settle hSettle hBlock)
  | @withdrawn orderId txid _ _ escrow escrow' hLookup hBlock =>
      have hChange :
          Escrow.Change engine (.buyerWithdraw orderId txid)
            escrow escrow' :=
        .withdraw hBlock
      refine ⟨?_, Or.inl ⟨rfl, rfl⟩⟩
      simpa [Call.commit?] using commit_set hLookup hChange
  | @refreshed orderId _ escrow hLookup =>
      have hChange :
          Escrow.Change engine (.updateState orderId)
            escrow (escrow.updateState engine.now) :=
        .refresh
      refine ⟨?_, Or.inl ⟨rfl, rfl⟩⟩
      simpa [Call.commit?] using commit_set hLookup hChange
  | advanced hAdvance =>
      rcases advanceTime_spec hAdvance with
        ⟨hEscrows, _, hCounter⟩
      rw [hEscrows, hCounter]
      exact ⟨by simp [Call.commit?], Or.inl ⟨rfl, rfl⟩⟩
  | unreceipted hSettle hLookup hBlock hReceipt =>
      have hNone :
          Call.commit? ⟨op, .error "receipt stub not found"⟩ =
            none := by
        cases op <;> rfl
      rw [hNone]
      refine ⟨?_, Or.inl ⟨rfl, rfl⟩⟩
      simpa using
        commit_set hLookup (.settle hSettle hBlock)

/- The records are the commits of the run. -/
theorem IsRun.commits_eq
    (hRun : IsRun es engine) :
    commits es = engine.escrows.map Escrow.commit := by
  apply hRun.historyInvariant
    (fun es engine =>
      commits es = engine.escrows.map Escrow.commit)
  · intro chainId interval genesis
    rfl
  · intro es engine call engine' _ hCommits hStep
    rw [(step_effect hStep).commit?.1, ← hCommits]
    cases hCommit : call.commit? <;>
      simp [commits, hCommit]

end Engine

end BorderController

------------------------------------------------------------
-- Order Ids
------------------------------------------------------------

namespace BorderController

namespace Engine

/- The first byte of an id is the counter modulo 256. -/
private theorem lowByte_toNat (counter : UInt64) :
    (counter &&& 0xFF).toUInt8.toNat =
      counter.toNat % 256 := by
  have hMask :=
    Nat.and_two_pow_sub_one_eq_mod counter.toNat 8
  change (counter.toNat &&& (2 ^ 8 - 1)) % 256 = _
  rw [hMask]
  omega

/- The second byte is the next eight bits. -/
private theorem highByte_toNat (counter : UInt64) :
    ((counter >>> 8) &&& 0xFF).toUInt8.toNat =
      counter.toNat / 256 % 256 := by
  have hMask :=
    Nat.and_two_pow_sub_one_eq_mod (counter.toNat / 2 ^ 8) 8
  change (counter.toNat >>> 8 &&& (2 ^ 8 - 1)) % 256 = _
  rw [Nat.shiftRight_eq_div_pow, hMask]
  omega

/- An id keeps the low 16 bits of the counter, no more. -/
theorem orderIdOf_eq_iff
    (a b : UInt64) :
    orderIdOf a = orderIdOf b ↔
      a.toNat % 65536 = b.toNat % 65536 := by
  have hLow := lowByte_toNat a
  have hLow' := lowByte_toNat b
  have hHigh := highByte_toNat a
  have hHigh' := highByte_toNat b
  constructor
  · intro hSame
    have hZero :=
      congrArg (fun id : OrderId => id[0].toNat) hSame
    have hOne :=
      congrArg (fun id : OrderId => id[1].toNat) hSame
    simp only [orderIdOf, Vector.getElem_set_self,
      Vector.getElem_set_ne _ _ one_ne_zero] at hZero hOne
    omega
  · intro hSame
    have hZero :
        (a &&& 0xFF).toUInt8 = (b &&& 0xFF).toUInt8 := by
      apply UInt8.toNat_inj.mp
      omega
    have hOne :
        ((a >>> 8) &&& 0xFF).toUInt8 =
          ((b >>> 8) &&& 0xFF).toUInt8 := by
      apply UInt8.toNat_inj.mp
      omega
    unfold orderIdOf
    rw [hZero, hOne]

variable [Chrono]
variable {es : List (Transition CoreProverEngine Call)}
variable {engine engine' : CoreProverEngine}

/- The ids of a run are those of the counter values 1, 2, … -/
theorem IsRun.orderIds_eq
    (hRun : IsRun es engine) :
    (commits es).map Prod.fst =
        (List.range (commits es).length).map
          (fun k => orderIdOf (UInt64.ofNat (k + 1))) ∧
      engine.nextSessionCounter =
        UInt64.ofNat ((commits es).length + 1) := by
  refine hRun.historyInvariant
    (fun es engine =>
      (commits es).map Prod.fst =
          (List.range (commits es).length).map
            (fun k => orderIdOf (UInt64.ofNat (k + 1))) ∧
        engine.nextSessionCounter =
          UInt64.ofNat ((commits es).length + 1)) ?_ ?_
  · intro chainId interval genesis
    exact ⟨rfl, rfl⟩
  · rintro es engine call engine' _ ⟨hIds, hCounter⟩ hStep
    rcases (step_effect hStep).commit?.2 with
      ⟨hNone, hSame⟩ | ⟨amount, hSome, hNext⟩
    · have hCommits :
          commits (es ++ [⟨engine, call, engine'⟩]) =
            commits es := by
        simp [commits, hNone]
      rw [hCommits, hSame]
      exact ⟨hIds, hCounter⟩
    · have hCommits :
          commits (es ++ [⟨engine, call, engine'⟩]) =
            commits es ++
              [(orderIdOf engine.nextSessionCounter,
                amount)] := by
        simp [commits, hSome]
      rw [hCommits, hNext, hCounter]
      constructor
      · simp [List.range_succ, hIds]
      · simp [UInt64.ofNat_add]

omit [Chrono] in
/-
  A list of values that repeat with period `p` has no repeated
  value exactly when it is not longer than `p`.
-/
private theorem nodup_map_range_iff
    {α : Type}
    {p : Nat}
    (f : Nat → α)
    (hPeriod : ∀ j k, f j = f k ↔ j % p = k % p)
    (hPos : 0 < p)
    (n : Nat) :
    ((List.range n).map f).Nodup ↔ n ≤ p := by
  constructor
  · intro hNodup
    by_contra hLong
    have hSame : f 0 = f p := by
      rw [hPeriod]
      simp
    have hEq :=
      List.inj_on_of_nodup_map hNodup
        (List.mem_range.mpr (by omega))
        (List.mem_range.mpr (by omega)) hSame
    omega
  · intro hShort
    refine List.Nodup.map_on ?_ List.nodup_range
    intro j hj k hk hSame
    rw [List.mem_range] at hj hk
    rw [hPeriod, Nat.mod_eq_of_lt (by omega),
      Nat.mod_eq_of_lt (by omega)] at hSame
    exact hSame

theorem IsRun.orderIds_nodup_iff
    (hRun : IsRun es engine) :
    ((commits es).map Prod.fst).Nodup ↔
      (commits es).length ≤ 65536 := by
  rw [hRun.orderIds_eq.1]
  apply nodup_map_range_iff
  · intro j k
    rw [orderIdOf_eq_iff, UInt64.toNat_ofNat',
      UInt64.toNat_ofNat']
    omega
  · omega

end Engine

end BorderController

------------------------------------------------------------
-- Order Ids Identify Escrows
------------------------------------------------------------

namespace BorderController

namespace Engine

variable [Chrono]
variable {es : List (Transition CoreProverEngine Call)}
variable {engine : CoreProverEngine}

/-
  The ids a run hands out are distinct, and every record is
  found by its own id, exactly when the run has at most 65536
  successful commits.
-/
theorem orderIds_identify_iff
    (hRun : IsRun es engine) :
    (((commits es).map Prod.fst).Nodup ∧
        ∀ (i : Nat) (escrow : Escrow),
          engine.escrows[i]? = some escrow →
          engine.lookup escrow.orderId = some (i, escrow) ∧
            engine.getEscrow escrow.orderId = .ok escrow) ↔
      (commits es).length ≤ 65536 := by
  rw [← hRun.orderIds_nodup_iff]
  constructor
  · intro hIdentify
    exact hIdentify.1
  · intro hNodup
    refine ⟨hNodup, ?_⟩
    intro i escrow hGet
    have hKeys :
        (engine.escrows.map Escrow.orderId).Nodup := by
      rw [hRun.commits_eq, List.map_map] at hNodup
      exact hNodup
    have hLookup :
        engine.lookup escrow.orderId = some (i, escrow) :=
      KeyedList.firstMatch_of_nodup hKeys hGet
    refine ⟨hLookup, ?_⟩
    rw [CoreProverEngine.getEscrow_eq, hLookup]

/- A run can commit any number of orders. -/
private theorem exists_commits
    (n : Nat) :
    ∃ es engine,
      IsRun es engine ∧ (commits es).length = n := by
  induction n with
  | zero =>
      exact ⟨[], .new 1 12 0, ⟨1, 12, 0, .nil _⟩, rfl⟩
  | succ n ih =>
      rcases ih with ⟨es, engine, hRun, hLength⟩
      have hExec :=
        exec_buyerCommit engine "buyer" "seller" 25
          .pizzaDelivery 1 "0x1"
      have hTxid : RustString.isBlank "0x1" = false := by
        decide
      rw [hTxid] at hExec
      have hStep :
          system.Step engine
            ⟨.buyerCommit "buyer" "seller" 25
                .pizzaDelivery 1 "0x1",
              .ok (.order
                (orderIdOf engine.nextSessionCounter))⟩ _ :=
        hExec
      refine ⟨_, _, hRun.snoc hStep, ?_⟩
      simpa [commits, Call.commit?] using hLength

end Engine

end BorderController

------------------------------------------------------------
-- The First Repeated Id
------------------------------------------------------------

namespace BorderController

namespace Engine

local instance commitsChrono : Chrono := utcChrono

/- After 65537 commits two orders share an id. -/
theorem orderIds_repeat :
    ∃ es engine,
      IsRun es engine ∧
        (commits es).length < 2 ^ 64 ∧
        ¬ ((commits es).map Prod.fst).Nodup := by
  rcases exists_commits 65537 with
    ⟨es, engine, hRun, hLength⟩
  refine ⟨es, engine, hRun, by omega, ?_⟩
  rw [hRun.orderIds_nodup_iff]
  omega

/- Two commits, found under two ids. -/
theorem orderIds_identify_two :
    let ops :=
      List.replicate 2
        (Op.buyerCommit "buyer" "seller" 25 .pizzaDelivery 1
          "0x1")
    ((commits (play ops (.new 1 12 0)).1).map
        Prod.fst).Nodup ∧
      ∀ (i : Nat) (escrow : Escrow),
        (play ops (.new 1 12 0)).2.escrows[i]? =
            some escrow →
          (play ops (.new 1 12 0)).2.lookup escrow.orderId =
              some (i, escrow) ∧
            (play ops (.new 1 12 0)).2.getEscrow
                escrow.orderId =
              .ok escrow :=
  (orderIds_identify_iff (play_isRun _ 1 12 0)).mpr
    (by decide)

end Engine

end BorderController

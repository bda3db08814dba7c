import BorderController.Engine.Timing
import BorderController.Library.Checked

/-
  The engine with checked arithmetic, as in a debug build, and
  when it does what the wrapping arithmetic does.

  The windows and days of a payment profile, the seconds of an
  advance and the block interval are arguments that nothing
  checks.

  Key definitions include:
    * `checkedExec`
    * `Fits`
    * `NeverWraps`
    * `CoreProverEngine.DeadlinesFollow`

  Key theorems include:
    * `checkedExec_of_fits`, `checkedExec_of_not_fits`
    * `deadlinesFollow_of_fits`
    * `neverWraps_of_run`
-/

------------------------------------------------------------
-- Checked Operations
------------------------------------------------------------

namespace BorderController

namespace Engine

/- `Escrow::new`, with the sum of the deadline checked. -/
def Escrow.newChecked
    (orderId : OrderId)
    (buyer seller : String)
    (amount : UInt64)
    (profile : PaymentProfile)
    (buyerChainId : UInt64)
    (buyerCommitTxid : String)
    (currentMono : UInt64) :
    Option Escrow := do
  let acceptanceDeadline ←
    Checked.add currentMono
      profile.timing.acceptanceWindowSecs
  some
    { Escrow.new orderId buyer seller amount profile
        buyerChainId buyerCommitTxid currentMono with
      acceptanceDeadlineMono := acceptanceDeadline }

/- The borrowing block of `seller_accept`, likewise. -/
def Escrow.sellerAcceptChecked
    (now : TimeTruth)
    (chainId : UInt64)
    (sellerAcceptTxid : String)
    (escrow : Escrow) :
    Option (Except String (Unit × Escrow)) :=
  match escrow.sellerAccept now chainId sellerAcceptTxid with
  | .error e => some (.error e)
  | .ok ((), accepted) => do
      let fulfillmentDeadline ←
        Checked.add now.mono
          escrow.profile.timing.fulfillmentWindowSecs
      some
        (.ok ((),
          { accepted with
            fulfillmentDeadlineMono :=
              some fulfillmentDeadline }))

/- The product and the sum of a discount's expiry. -/
def Escrow.receiptStubChecked
    (now : TimeTruth)
    (isLate : Bool)
    (escrow : Escrow) :
    Option ReceiptMetadata :=
  let stub := escrow.receiptStub now isLate
  if stub.discountPct > 0 then do
    let secs ←
      Checked.mul escrow.profile.discountExpirationDays 86400
    let expiration ← Checked.add now.unix secs
    some { stub with discountExpirationUnix := expiration }
  else
    some stub

def CoreProverEngine.advanceTimeChecked
    (secs : UInt64)
    (engine : CoreProverEngine) :
    Option CoreProverEngine := do
  let currentMono ← Checked.add engine.currentMono secs
  let currentUnix ← Checked.add engine.currentUnix secs
  let blocks ← Checked.div secs engine.blockIntervalSecs
  let currentBlockHeight ←
    Checked.add engine.currentBlockHeight blocks
  some
    { engine with
      currentMono
      currentUnix
      currentBlockHeight }

/- Borrow a record for a block that may panic. -/
def CoreProverEngine.borrowChecked
    {α : Type}
    (orderId : OrderId)
    (block : Escrow → Option (Except String (α × Escrow)))
    (done :
      Nat → α → Escrow →
        Option (Except String Reply × CoreProverEngine))
    (engine : CoreProverEngine) :
    Option (Except String Reply × CoreProverEngine) :=
  match engine.lookup orderId with
  | none => some (.error "Escrow not found", engine)
  | some (i, escrow) =>
      match block escrow with
      | none => none
      | some (.error e) => some (.error e, engine)
      | some (.ok (a, escrow')) => done i a escrow'

variable [Chrono]

/-
  Run one operation; `none` is a panic, for a sum or for a block
  interval of zero.  The counter of the order ids wraps here.
-/
def checkedExec
    (op : Op)
    (engine : CoreProverEngine) :
    Option (Except String Reply × CoreProverEngine) :=
  match op with
  | .buyerCommit buyer seller amount profile chain txid =>
      if RustString.isBlank txid then
        some (.error "buyer_commit_txid is required", engine)
      else do
        let orderId := orderIdOf engine.nextSessionCounter
        let escrow ←
          Escrow.newChecked orderId buyer seller amount
            profile chain txid engine.currentMono
        some
          (.ok (.order orderId),
            { engine with
              nextSessionCounter :=
                engine.nextSessionCounter + 1
              escrows := engine.escrows ++ [escrow] })
  | .sellerAccept orderId txid =>
      engine.borrowChecked orderId
        (Escrow.sellerAcceptChecked engine.now engine.chainId
          txid)
        fun i _ escrow' =>
          some (.ok .done, engine.setEscrow i escrow')
  | .sellerFulfill orderId txid =>
      engine.borrowChecked orderId
        (fun escrow =>
          some (escrow.sellerFulfill engine.now txid))
        fun i late escrow' => do
          let stub ←
            escrow'.receiptStubChecked engine.now late
          some
            (.ok .done,
              { engine.setEscrow i escrow' with
                receipts := engine.receipts ++ [stub] })
  | .advanceTime secs => do
      let engine' ← engine.advanceTimeChecked secs
      some (.ok .done, engine')
  | .sellerClaim orderId txid =>
      exec (.sellerClaim orderId txid) engine
  | .sellerRefund orderId txid =>
      exec (.sellerRefund orderId txid) engine
  | .buyerWithdraw orderId txid =>
      exec (.buyerWithdraw orderId txid) engine
  | .timedRelease orderId =>
      exec (.timedRelease orderId) engine
  | .updateState orderId =>
      exec (.updateState orderId) engine

/-
  The arguments are small enough for the clocks: those of a
  commit, of an acceptance and a late fulfilment with a
  discount that pass their checks, and of an advance.
-/
def Fits (engine : CoreProverEngine) : Op → Prop
  | .buyerCommit _ _ _ profile _ txid =>
      RustString.isBlank txid = false →
        engine.currentMono.toNat +
            profile.timing.acceptanceWindowSecs.toNat <
          2 ^ 64
  | .sellerAccept orderId txid =>
      ∀ i escrow,
        engine.lookup orderId = some (i, escrow) →
        escrow.state = .buyerCommitted →
        RustString.isBlank txid = false →
        engine.currentMono ≤ escrow.acceptanceDeadlineMono →
        engine.currentMono.toNat +
            escrow.profile.timing.fulfillmentWindowSecs.toNat <
          2 ^ 64
  | .sellerFulfill orderId txid =>
      ∀ i escrow,
        engine.lookup orderId = some (i, escrow) →
        escrow.state.canFulfill = true →
        RustString.isBlank txid = false →
        escrow.isLate engine.now = true →
        escrow.profile.enablesLateDiscount = true →
        0 < escrow.profile.lateDiscountPct →
        engine.currentUnix.toNat +
            escrow.profile.discountExpirationDays.toNat *
              86400 <
          2 ^ 64
  | .advanceTime secs =>
      engine.blockIntervalSecs ≠ 0 ∧
        engine.currentMono.toNat + secs.toNat < 2 ^ 64 ∧
        engine.currentUnix.toNat + secs.toNat < 2 ^ 64 ∧
        engine.currentBlockHeight.toNat +
            secs.toNat / engine.blockIntervalSecs.toNat <
          2 ^ 64
  | _ => True

end Engine

end BorderController

------------------------------------------------------------
-- Panics of the Parts
------------------------------------------------------------

namespace BorderController

namespace Engine

namespace Escrow

variable {orderId : OrderId}
variable {buyer seller commitTxid txid : String}
variable {amount chain mono : UInt64}
variable {profile : PaymentProfile}
variable {now : TimeTruth}
variable {isLate : Bool}
variable {escrow : Escrow}

theorem newChecked_of_fits
    (hFits :
      mono.toNat + profile.timing.acceptanceWindowSecs.toNat <
        2 ^ 64) :
    newChecked orderId buyer seller amount profile chain
        commitTxid mono =
      some
        (.new orderId buyer seller amount profile chain
          commitTxid mono) := by
  unfold newChecked
  rw [Checked.add_of_lt hFits]
  rfl

theorem newChecked_of_not_fits
    (hWraps :
      ¬ mono.toNat +
          profile.timing.acceptanceWindowSecs.toNat <
        2 ^ 64) :
    newChecked orderId buyer seller amount profile chain
        commitTxid mono =
      none := by
  unfold newChecked
  rw [Checked.add_of_not_lt hWraps]
  rfl

theorem sellerAcceptChecked_of_fits
    (hFits :
      escrow.state = .buyerCommitted →
        RustString.isBlank txid = false →
        now.mono ≤ escrow.acceptanceDeadlineMono →
        now.mono.toNat +
            escrow.profile.timing.fulfillmentWindowSecs.toNat <
          2 ^ 64) :
    escrow.sellerAcceptChecked now chain txid =
      some (escrow.sellerAccept now chain txid) := by
  unfold sellerAcceptChecked
  cases hBlock : escrow.sellerAccept now chain txid with
  | error e => rfl
  | ok p =>
      rcases sellerAccept_ok_iff.mp hBlock with
        ⟨hState, hTxid, hTime, hEq⟩
      have hSum :=
        Checked.add_of_lt (hFits hState hTxid hTime)
      simp only [hSum]
      rw [← Prod.eta p, hEq]
      rfl

theorem sellerAcceptChecked_of_not_fits
    (hState : escrow.state = .buyerCommitted)
    (hTxid : RustString.isBlank txid = false)
    (hTime : now.mono ≤ escrow.acceptanceDeadlineMono)
    (hWraps :
      ¬ now.mono.toNat +
          escrow.profile.timing.fulfillmentWindowSecs.toNat <
        2 ^ 64) :
    escrow.sellerAcceptChecked now chain txid = none := by
  have hBlock :
      escrow.sellerAccept now chain txid = .ok ((), _) :=
    sellerAccept_ok_iff.mpr ⟨hState, hTxid, hTime, rfl⟩
  unfold sellerAcceptChecked
  rw [hBlock]
  simp only [Checked.add_of_not_lt hWraps]
  rfl

/- The discount of a stub is positive for a late delivery of a
   profile with one. -/
theorem receiptStub_discountPct_pos_iff
    [Chrono] :
    0 < (escrow.receiptStub now isLate).discountPct ↔
      isLate = true ∧
        escrow.profile.enablesLateDiscount = true ∧
        0 < escrow.profile.lateDiscountPct := by
  unfold receiptStub
  cases isLate <;>
    cases escrow.profile.enablesLateDiscount <;> simp

theorem receiptStub_expiration
    [Chrono]
    (hDiscount :
      0 < (escrow.receiptStub now isLate).discountPct) :
    (escrow.receiptStub now isLate).discountExpirationUnix =
      now.unix +
        escrow.profile.discountExpirationDays * 86400 :=
  if_pos hDiscount

/- The days fit if the seconds they last do. -/
theorem days_fit
    {days : UInt64}
    (hFits : mono.toNat + days.toNat * 86400 < 2 ^ 64) :
    days.toNat * (86400 : UInt64).toNat < 2 ^ 64 ∧
      mono.toNat + (days * 86400).toNat < 2 ^ 64 := by
  have hSecs : (86400 : UInt64).toNat = 86400 := rfl
  have hProduct :
      days.toNat * (86400 : UInt64).toNat < 2 ^ 64 := by
    rw [hSecs]
    omega
  rw [Checked.toNat_mul hProduct]
  exact ⟨hProduct, by rw [hSecs]; exact hFits⟩

theorem receiptStubChecked_of_fits
    [Chrono]
    (hFits :
      0 < (escrow.receiptStub now isLate).discountPct →
        now.unix.toNat +
            escrow.profile.discountExpirationDays.toNat *
              86400 <
          2 ^ 64) :
    escrow.receiptStubChecked now isLate =
      some (escrow.receiptStub now isLate) := by
  unfold receiptStubChecked
  by_cases hDiscount :
      0 < (escrow.receiptStub now isLate).discountPct
  · rcases days_fit (hFits hDiscount) with ⟨hProduct, hSum⟩
    simp only [gt_iff_lt, if_pos hDiscount,
      Option.bind_eq_bind, Checked.mul_of_lt hProduct,
      Option.bind_some, Checked.add_of_lt hSum]
    rw [← receiptStub_expiration hDiscount]
  · simp only [gt_iff_lt, if_neg hDiscount]

theorem receiptStubChecked_of_not_fits
    [Chrono]
    (hDiscount :
      0 < (escrow.receiptStub now isLate).discountPct)
    (hWraps :
      ¬ now.unix.toNat +
          escrow.profile.discountExpirationDays.toNat *
            86400 <
        2 ^ 64) :
    escrow.receiptStubChecked now isLate = none := by
  have hSecs : (86400 : UInt64).toNat = 86400 := rfl
  unfold receiptStubChecked
  simp only [gt_iff_lt, if_pos hDiscount]
  by_cases hProduct :
      escrow.profile.discountExpirationDays.toNat *
          (86400 : UInt64).toNat <
        2 ^ 64
  · have hSum :
        ¬ now.unix.toNat +
            (escrow.profile.discountExpirationDays *
              86400).toNat <
          2 ^ 64 := by
      rw [Checked.toNat_mul hProduct, hSecs]
      exact hWraps
    rw [Checked.mul_of_lt hProduct]
    simp only [Option.bind_eq_bind, Option.bind_some,
      Checked.add_of_not_lt hSum, Option.bind_none]
  · rw [Checked.mul_of_not_lt hProduct]
    rfl

end Escrow

namespace CoreProverEngine

variable {engine : CoreProverEngine}
variable {secs : UInt64}

theorem advanceTimeChecked_of_fits
    (hFits :
      engine.blockIntervalSecs ≠ 0 ∧
        engine.currentMono.toNat + secs.toNat < 2 ^ 64 ∧
        engine.currentUnix.toNat + secs.toNat < 2 ^ 64 ∧
        engine.currentBlockHeight.toNat +
            secs.toNat / engine.blockIntervalSecs.toNat <
          2 ^ 64) :
    engine.advanceTimeChecked secs =
      engine.advanceTime secs := by
  rcases hFits with ⟨hInterval, hMono, hUnix, hHeight⟩
  rw [← UInt64.toNat_div] at hHeight
  unfold advanceTimeChecked advanceTime
  rw [if_neg hInterval, Checked.add_of_lt hMono,
    Checked.add_of_lt hUnix, Checked.div_of_ne_zero hInterval]
  simp only [Option.bind_eq_bind, Option.bind_some,
    Checked.add_of_lt hHeight]

theorem advanceTimeChecked_of_not_fits
    (hWraps :
      ¬ (engine.blockIntervalSecs ≠ 0 ∧
        engine.currentMono.toNat + secs.toNat < 2 ^ 64 ∧
        engine.currentUnix.toNat + secs.toNat < 2 ^ 64 ∧
        engine.currentBlockHeight.toNat +
            secs.toNat / engine.blockIntervalSecs.toNat <
          2 ^ 64)) :
    engine.advanceTimeChecked secs = none := by
  unfold advanceTimeChecked
  by_cases hMono :
      engine.currentMono.toNat + secs.toNat < 2 ^ 64
  · rw [Checked.add_of_lt hMono]
    by_cases hUnix :
        engine.currentUnix.toNat + secs.toNat < 2 ^ 64
    · rw [Checked.add_of_lt hUnix]
      by_cases hInterval : engine.blockIntervalSecs = 0
      · simp [Checked.div, hInterval]
      · have hHeight :
            ¬ engine.currentBlockHeight.toNat +
                (secs / engine.blockIntervalSecs).toNat <
              2 ^ 64 := by
          rw [UInt64.toNat_div]
          exact fun hLt =>
            hWraps ⟨hInterval, hMono, hUnix, hLt⟩
        rw [Checked.div_of_ne_zero hInterval]
        simp only [Option.bind_eq_bind, Option.bind_some,
          Checked.add_of_not_lt hHeight, Option.bind_none]
    · rw [Checked.add_of_not_lt hUnix]
      rfl
  · rw [Checked.add_of_not_lt hMono]
    rfl

variable {α : Type}
variable {orderId : OrderId}
variable {block : Escrow → Option (Except String (α × Escrow))}
variable {plain : Escrow → Except String (α × Escrow)}
variable
  {done :
    Nat → α → Escrow →
      Option (Except String Reply × CoreProverEngine)}
variable
  {settled :
    Nat → α → Escrow →
      Except String Reply × CoreProverEngine}
variable {i : Nat}
variable {a : α}
variable {escrow escrow' : Escrow}

/- Where neither part panics, the record is borrowed as ever. -/
theorem borrowChecked_eq
    (hBlock :
      ∀ i escrow,
        engine.lookup orderId = some (i, escrow) →
          block escrow = some (plain escrow))
    (hDone :
      ∀ i a escrow escrow',
        engine.lookup orderId = some (i, escrow) →
          plain escrow = .ok (a, escrow') →
            done i a escrow' = some (settled i a escrow')) :
    engine.borrowChecked orderId block done =
      some (engine.borrow orderId plain settled) := by
  unfold borrowChecked
  cases hLookup : engine.lookup orderId with
  | none => rw [borrow_of_none hLookup]
  | some p =>
      simp only [hBlock p.1 p.2 hLookup]
      cases hPlain : plain p.2 with
      | error e => rw [borrow_of_error hLookup hPlain]
      | ok q =>
          rw [borrow_of_ok hLookup hPlain]
          exact hDone p.1 q.1 p.2 q.2 hLookup hPlain

theorem borrowChecked_of_block
    (hLookup : engine.lookup orderId = some (i, escrow))
    (hBlock : block escrow = none) :
    engine.borrowChecked orderId block done = none := by
  unfold borrowChecked
  simp only [hLookup, hBlock]

theorem borrowChecked_of_done
    (hLookup : engine.lookup orderId = some (i, escrow))
    (hBlock : block escrow = some (.ok (a, escrow')))
    (hDone : done i a escrow' = none) :
    engine.borrowChecked orderId block done = none := by
  unfold borrowChecked
  simp only [hLookup, hBlock, hDone]

end CoreProverEngine

end Engine

end BorderController

------------------------------------------------------------
-- Panics of a Call
------------------------------------------------------------

namespace BorderController

namespace Engine

variable [Chrono]
variable {engine : CoreProverEngine}
variable {op : Op}

/- The discount of the stub that a fulfilment issues. -/
theorem stub_discount_iff
    {txid : String}
    {late : Bool}
    {escrow escrow' : Escrow}
    (hBlock :
      escrow.sellerFulfill engine.now txid =
        .ok (late, escrow')) :
    escrow'.profile = escrow.profile ∧
      (0 < (escrow'.receiptStub engine.now late).discountPct ↔
        escrow.isLate engine.now = true ∧
          escrow.profile.enablesLateDiscount = true ∧
          0 < escrow.profile.lateDiscountPct) := by
  rcases Escrow.sellerFulfill_ok_iff.mp hBlock with
    ⟨_, _, hLate, hEq⟩
  have hProfile : escrow'.profile = escrow.profile := by
    rw [hEq]
  refine ⟨hProfile, ?_⟩
  rw [Escrow.receiptStub_discountPct_pos_iff, hProfile, hLate]

theorem checkedExec_buyerCommit
    {buyer seller txid : String}
    {amount chain : UInt64}
    {profile : PaymentProfile}
    (hTxid : RustString.isBlank txid = false) :
    checkedExec
        (.buyerCommit buyer seller amount profile chain txid)
        engine =
      (Escrow.newChecked (orderIdOf engine.nextSessionCounter)
          buyer seller amount profile chain txid
          engine.currentMono).bind fun escrow =>
        some
          (.ok (.order (orderIdOf engine.nextSessionCounter)),
            { engine with
              nextSessionCounter :=
                engine.nextSessionCounter + 1
              escrows := engine.escrows ++ [escrow] }) :=
  if_neg (by rw [hTxid]; exact Bool.false_ne_true)

theorem checkedExec_advanceTime
    {secs : UInt64} :
    checkedExec (.advanceTime secs) engine =
      (engine.advanceTimeChecked secs).bind fun engine' =>
        some (.ok .done, engine') := rfl

/- The expiry fits in the stub of a fulfilment that does. -/
theorem Fits.stub
    {orderId : OrderId}
    {txid : String}
    {i : Nat}
    {late : Bool}
    {escrow escrow' : Escrow}
    (hFits : Fits engine (.sellerFulfill orderId txid))
    (hLookup : engine.lookup orderId = some (i, escrow))
    (hBlock :
      escrow.sellerFulfill engine.now txid =
        .ok (late, escrow'))
    (hPct :
      0 < (escrow'.receiptStub engine.now late).discountPct) :
    engine.now.unix.toNat +
        escrow'.profile.discountExpirationDays.toNat *
          86400 <
      2 ^ 64 := by
  rcases stub_discount_iff hBlock with ⟨hProfile, hDiscount⟩
  rcases Escrow.sellerFulfill_ok_iff.mp hBlock with
    ⟨hCan, hTxid, _, _⟩
  rcases hDiscount.mp hPct with ⟨hLate, hOn, hPos⟩
  rw [hProfile]
  exact hFits i escrow hLookup hCan hTxid hLate hOn hPos

/- Arguments that fit make no difference between the builds. -/
theorem checkedExec_of_fits
    (hFits : Fits engine op) :
    checkedExec op engine = exec op engine := by
  cases op with
  | buyerCommit buyer seller amount profile chain txid =>
      rw [exec_buyerCommit]
      by_cases hTxid : RustString.isBlank txid = true
      · rw [if_pos hTxid]
        exact if_pos hTxid
      · have hNamed : RustString.isBlank txid = false := by
          simpa using hTxid
        rw [if_neg hTxid, checkedExec_buyerCommit hNamed,
          Escrow.newChecked_of_fits (hFits hNamed)]
        rfl
  | sellerAccept orderId txid =>
      rw [exec_sellerAccept]
      refine CoreProverEngine.borrowChecked_eq ?_ ?_
      · intro i escrow hLookup
        exact Escrow.sellerAcceptChecked_of_fits
          (hFits i escrow hLookup)
      · intro i _ escrow escrow' _ _
        rfl
  | sellerFulfill orderId txid =>
      rw [exec_sellerFulfill]
      refine CoreProverEngine.borrowChecked_eq ?_ ?_
      · intro i escrow _
        rfl
      · intro i late escrow escrow' hLookup hBlock
        have hStub :
            escrow'.receiptStubChecked engine.now late =
              some (escrow'.receiptStub engine.now late) :=
          Escrow.receiptStubChecked_of_fits
            (hFits.stub hLookup hBlock)
        simp only [hStub]
        rfl
  | advanceTime secs =>
      rw [checkedExec_advanceTime,
        CoreProverEngine.advanceTimeChecked_of_fits hFits]
      have hExec :
          exec (.advanceTime secs) engine =
            (engine.advanceTime secs).map fun engine' =>
              (.ok .done, engine') := rfl
      rw [hExec]
      cases engine.advanceTime secs <;> rfl
  | _ => rfl

/- All others make the checked build panic. -/
theorem checkedExec_of_not_fits
    (hWraps : ¬ Fits engine op) :
    checkedExec op engine = none := by
  cases op with
  | buyerCommit buyer seller amount profile chain txid =>
      simp only [Fits, Classical.not_imp] at hWraps
      rcases hWraps with ⟨hTxid, hSum⟩
      rw [checkedExec_buyerCommit hTxid,
        Escrow.newChecked_of_not_fits hSum]
      rfl
  | sellerAccept orderId txid =>
      simp only [Fits, not_forall] at hWraps
      rcases hWraps with
        ⟨i, escrow, hLookup, hState, hTxid, hTime, hSum⟩
      exact CoreProverEngine.borrowChecked_of_block hLookup
        (Escrow.sellerAcceptChecked_of_not_fits hState hTxid
          hTime hSum)
  | sellerFulfill orderId txid =>
      simp only [Fits, not_forall] at hWraps
      rcases hWraps with
        ⟨i, escrow, hLookup, hCan, hTxid, hLate, hOn, hPos,
          hSum⟩
      have hBlock :
          escrow.sellerFulfill engine.now txid =
            .ok (escrow.isLate engine.now, _) :=
        Escrow.sellerFulfill_ok_iff.mpr
          ⟨hCan, hTxid, rfl, rfl⟩
      rcases stub_discount_iff hBlock with
        ⟨hProfile, hDiscount⟩
      have hPct := hDiscount.mpr ⟨hLate, hOn, hPos⟩
      have hStub :=
        Escrow.receiptStubChecked_of_not_fits hPct
          (by rw [hProfile]; exact hSum)
      exact CoreProverEngine.borrowChecked_of_done hLookup
        (congrArg some hBlock) (by simp only [hStub]; rfl)
  | advanceTime secs =>
      rw [checkedExec_advanceTime,
        CoreProverEngine.advanceTimeChecked_of_not_fits hWraps]
      rfl
  | _ => exact absurd trivial hWraps

/- The operation panics in neither build, and does the same. -/
def NeverWraps
    (engine : CoreProverEngine)
    (op : Op) :
    Prop :=
  ∃ outcome,
    checkedExec op engine = some outcome ∧
      exec op engine = some outcome

/- Only an advance can panic without the checks. -/
theorem exec_of_fits
    (hFits : Fits engine op) :
    ∃ outcome, exec op engine = some outcome := by
  cases op with
  | advanceTime secs =>
      have hAdvance : engine.advanceTime secs = some _ :=
        if_neg hFits.1
      exact ⟨_, congrArg (Option.map _) hAdvance⟩
  | _ => exact ⟨_, rfl⟩

theorem neverWraps_iff_fits :
    NeverWraps engine op ↔ Fits engine op := by
  constructor
  · rintro ⟨outcome, hChecked, _⟩
    by_contra hWraps
    rw [checkedExec_of_not_fits hWraps] at hChecked
    contradiction
  · intro hFits
    rcases exec_of_fits hFits with ⟨outcome, hExec⟩
    refine ⟨outcome, ?_, hExec⟩
    rw [checkedExec_of_fits hFits, hExec]

end Engine

end BorderController

------------------------------------------------------------
-- Deadlines Along a Run
------------------------------------------------------------

namespace BorderController

namespace Engine

/- A deadline is not before the time it was counted from. -/
structure Escrow.DeadlinesFollow (escrow : Escrow) : Prop where
  acceptance :
    escrow.buyerCommitMono ≤ escrow.acceptanceDeadlineMono
  fulfillment :
    ∀ accepted deadline,
      escrow.sellerAcceptMono = some accepted →
      escrow.fulfillmentDeadlineMono = some deadline →
      accepted ≤ deadline

/- A discount does not expire before the fulfilment. -/
def ReceiptMetadata.ExpiryFollows
    (receipt : ReceiptMetadata) :
    Prop :=
  0 < receipt.discountPct →
    receipt.fulfillmentUnix ≤ receipt.discountExpirationUnix

structure CoreProverEngine.DeadlinesFollow
    (engine : CoreProverEngine) :
    Prop where
  escrows :
    ∀ escrow ∈ engine.escrows, escrow.DeadlinesFollow
  receipts :
    ∀ receipt ∈ engine.receipts, receipt.ExpiryFollows

variable {mono : UInt64}
variable {escrow : Escrow}

theorem Escrow.Timed.deadlinesFollow
    (hTimed : escrow.Timed mono) :
    escrow.DeadlinesFollow where
  acceptance := by
    have hSum := hTimed.acceptanceDeadline
    rw [UInt64.le_iff_toNat_le]
    omega
  fulfillment := by
    intro accepted deadline hAccepted hDeadline
    have hSum :=
      hTimed.fulfillmentDeadline accepted deadline hAccepted
        hDeadline
    rw [UInt64.le_iff_toNat_le]
    omega

/- The settlement does not touch the discount. -/
theorem ReceiptMetadata.ExpiryFollows.finalize
    {now : TimeTruth}
    {refunded : Bool}
    {receipt : ReceiptMetadata}
    (hFollows : receipt.ExpiryFollows) :
    (receipt.finalize now escrow refunded).ExpiryFollows := by
  cases refunded <;> exact hFollows

variable [Chrono]
variable {engine engine' : CoreProverEngine}
variable {op : Op}
variable {call : Call}
variable {result : Except String Reply}
variable {es : List (Transition CoreProverEngine Call)}

theorem Fits.clockFits
    (hFits : Fits engine op) :
    ClockFits engine op := by
  cases op with
  | buyerCommit buyer seller amount profile chain txid =>
      exact hFits
  | sellerAccept orderId txid =>
      intro i escrow escrow' hLookup hBlock
      rcases Escrow.sellerAccept_ok_iff.mp hBlock with
        ⟨hState, hTxid, hTime, _⟩
      exact hFits i escrow hLookup hState hTxid hTime
  | advanceTime secs => exact ⟨hFits.2.1, hFits.2.2.1⟩
  | _ => exact trivial

/- The expiry of a stub follows if its sum fits. -/
theorem receiptStub_expiryFollows
    {now : TimeTruth}
    {late : Bool}
    (hFits :
      0 < (escrow.receiptStub now late).discountPct →
        now.unix.toNat +
            escrow.profile.discountExpirationDays.toNat *
              86400 <
          2 ^ 64) :
    (escrow.receiptStub now late).ExpiryFollows := by
  intro hDiscount
  rw [Escrow.receiptStub_expiration hDiscount]
  exact Checked.le_add
    (Escrow.days_fit (hFits hDiscount)).2

theorem Effect.expiryFollows
    (hEffect : Effect engine op result engine')
    (hFits : Fits engine op)
    (hBefore :
      ∀ receipt ∈ engine.receipts, receipt.ExpiryFollows) :
    ∀ receipt ∈ engine'.receipts, receipt.ExpiryFollows := by
  intro receipt hMem
  rcases hEffect.receipt_cases hMem with
    hOld | ⟨_, _, _, _, _, _, hOp, hLookup, hBlock, hStub⟩ |
      ⟨_, _, _, _, _, stub, _, _, _, hThere, hFinal⟩
  · exact hBefore receipt hOld
  · rw [hOp] at hFits
    rw [hStub]
    exact receiptStub_expiryFollows
      (hFits.stub hLookup hBlock)
  · rw [hFinal]
    exact (hBefore stub hThere).finalize

/- Deadlines follow in a run whose arguments all fit. -/
theorem deadlinesFollow_of_fits
    (hRun : IsRun es engine)
    (hFits : ∀ tr ∈ es, Fits tr.source tr.label.op) :
    engine.DeadlinesFollow := by
  rcases hRun with ⟨chainId, interval, genesis, hPath⟩
  have hTimes :=
    timed_of_path hPath
      (fun tr hMem => (hFits tr hMem).clockFits)
  have hReceipts :
      ∀ receipt ∈ engine.receipts, receipt.ExpiryFollows := by
    refine hPath.stable
      (fun tr => Fits tr.source tr.label.op)
      (fun engine =>
        ∀ receipt ∈ engine.receipts, receipt.ExpiryFollows)
      ?_ hFits ?_
    · intro t l u hCall hBefore hStep
      exact (step_effect hStep).expiryFollows hCall hBefore
    · simp [CoreProverEngine.new]
  refine { escrows := ?_, receipts := hReceipts }
  intro escrow hMem
  rcases List.mem_iff_getElem?.mp hMem with ⟨i, hGet⟩
  exact (hTimes.1 i escrow hGet).1.deadlinesFollow

/-
  An operation on a state that a run reaches does without
  wrapping and without a panic exactly if its arguments fit.
  In a run in which they all do, every step does, and the
  deadlines and expiries follow the times they are counted
  from.
-/
theorem neverWraps_of_run
    (hRun : IsRun es engine) :
    (∀ op, NeverWraps engine op ↔ Fits engine op) ∧
      ((∀ tr ∈ es, Fits tr.source tr.label.op) →
        (∀ tr ∈ es, NeverWraps tr.source tr.label.op) ∧
          engine.DeadlinesFollow) := by
  refine ⟨fun _ => neverWraps_iff_fits, ?_⟩
  intro hFits
  refine ⟨?_, deadlinesFollow_of_fits hRun hFits⟩
  intro tr hMem
  exact neverWraps_iff_fits.mpr (hFits tr hMem)

end Engine

end BorderController

------------------------------------------------------------
-- An Endless Window
------------------------------------------------------------

namespace BorderController

namespace Engine

local instance overflowChrono : Chrono := utcChrono

/- A second after the start, with as long a window as may be. -/
def endlessOps : List Op :=
  [ .advanceTime 1,
    .buyerCommit "buyer" "seller" 25
      { PaymentProfile.pizzaDelivery with
        timing :=
          { TimingWindows.pizzaDelivery with
            acceptanceWindowSecs := 18446744073709551615 } }
      1 "0x1" ]

/-
  The deadline wraps to 0, before the commit, where the checked
  build panics.  Without a block interval, both of them do.
-/
theorem endless_not_neverWraps :
    (∃ es engine,
      IsRun es engine ∧
        (∃ tr ∈ es, ¬ NeverWraps tr.source tr.label.op) ∧
        ¬ engine.DeadlinesFollow) ∧
      exec (.advanceTime 1) (.new 1 0 0) = none := by
  refine ⟨⟨_, _, play_isRun endlessOps 1 12 0, ?_, ?_⟩, rfl⟩
  · have hPanics :
        ∃ tr ∈ (play endlessOps (.new 1 12 0)).1,
          (checkedExec tr.label.op tr.source).isNone = true := by
      decide +kernel
    rcases hPanics with ⟨tr, hMem, hNone⟩
    refine ⟨tr, hMem, ?_⟩
    rintro ⟨outcome, hChecked, _⟩
    rw [hChecked] at hNone
    contradiction
  · have hEarly :
        ∃ escrow ∈ (play endlessOps (.new 1 12 0)).2.escrows,
          escrow.buyerCommitMono = 1 ∧
            escrow.acceptanceDeadlineMono = 0 := by
      decide +kernel
    intro hFollow
    rcases hEarly with ⟨escrow, hMem, hCommit, hDeadline⟩
    have hLe := (hFollow.escrows escrow hMem).acceptance
    rw [hCommit, hDeadline] at hLe
    contradiction

/- A pizza late by a second fits, with the discount for it. -/
theorem deliveryOps_fits
    (tr : Transition CoreProverEngine Call)
    (hMem :
      tr ∈
        (play (deliveryOps 3601)
          (.new 1 12 1700000000)).1) :
    Fits tr.source tr.label.op := by
  have hSmall :
      ∀ tr ∈
        (play (deliveryOps 3601)
          (.new 1 12 1700000000)).1,
        tr.label.op ∈ deliveryOps 3601 ∧
          tr.source.blockIntervalSecs = 12 ∧
          tr.source.currentMono.toNat ≤ 3601 ∧
          tr.source.currentUnix.toNat ≤ 1700003601 ∧
          tr.source.currentBlockHeight.toNat ≤ 301 ∧
          ∀ escrow ∈ tr.source.escrows,
            escrow.profile = .pizzaDelivery := by
    decide +kernel
  rcases hSmall tr hMem with
    ⟨hOp, hInterval, hMono, hUnix, hHeight, hProfiles⟩
  have hAcceptance :
      PaymentProfile.pizzaDelivery.timing.acceptanceWindowSecs =
        1800 := rfl
  have hFulfillment :
      PaymentProfile.pizzaDelivery.timing.fulfillmentWindowSecs =
        3600 := rfl
  have hProfile :
      ∀ {orderId i escrow},
        tr.source.lookup orderId = some (i, escrow) →
          escrow.profile = .pizzaDelivery := by
    intro orderId i escrow hLookup
    exact hProfiles escrow
      (CoreProverEngine.mem_of_lookup hLookup)
  simp only [deliveryOps, List.mem_cons, List.not_mem_nil,
    or_false] at hOp
  rcases hOp with hOp | hOp | hOp | hOp <;> rw [hOp]
  · intro _
    rw [hAcceptance]
    have hWindow : (1800 : UInt64).toNat = 1800 := rfl
    omega
  · intro i escrow hLookup _ _ _
    rw [hProfile hLookup, hFulfillment]
    have hWindow : (3600 : UInt64).toNat = 3600 := rfl
    omega
  · have hSecs : (3601 : UInt64).toNat = 3601 := rfl
    have hBlocks : (12 : UInt64).toNat = 12 := rfl
    refine ⟨by rw [hInterval]; decide, by omega, by omega, ?_⟩
    rw [hInterval, hSecs, hBlocks]
    omega
  · intro i escrow hLookup _ _ _ _ _
    have hCount :
        escrow.profile.discountExpirationDays.toNat = 90 := by
      rw [hProfile hLookup]
      rfl
    omega

theorem delivery_neverWraps :
    ∃ es engine,
      IsRun es engine ∧
        es.length = 4 ∧
        (∀ tr ∈ es, NeverWraps tr.source tr.label.op) ∧
        engine.DeadlinesFollow := by
  have hRun :=
    play_isRun (deliveryOps 3601) 1 12 1700000000
  have hBoth := (neverWraps_of_run hRun).2 deliveryOps_fits
  exact ⟨_, _, hRun, rfl, hBoth.1, hBoth.2⟩

end Engine

end BorderController

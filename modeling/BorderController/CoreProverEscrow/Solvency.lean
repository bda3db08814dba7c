import BorderController.CoreProverEscrow.Lifecycle
import BorderController.Library.Custody

/-
  Solvency: many orders share one balance, and each is paid
  from its own deposits.

  Key definitions include:
    * `Escrow.outstanding`
    * `paidIn`, `paidOut`
    * `World.Solvent`

  Key theorems include:
    * `solvent_kept`, `Observable.solvent`
    * `conserved_and_covered`
-/

------------------------------------------------------------
-- Ether of an Order
------------------------------------------------------------

namespace BorderController

namespace CoreProverEscrow

/- What an order may still take from the balance. -/
def Escrow.outstanding (escrow : Escrow) : Nat :=
  match escrow.state with
  | .buyerCommitted => escrow.buyerAmount
  | .bothCommitted => escrow.buyerAmount + escrow.sellerAmount
  | .sellerClaimed => escrow.sellerAmount
  | .buyerClaimed => escrow.buyerAmount
  | _ => 0

def Entry.paidIn (orderId : Bytes32) : Entry → Nat
  | .called msg _ =>
      if msg.function.orderId = orderId then msg.value else 0
  | .sent _ _ => 0

def Entry.paidOut (orderId : Bytes32) : Entry → Nat
  | .called _ _ => 0
  | .sent payment _ =>
      if payment.orderId = orderId then payment.amount else 0

/- The ether that came in with calls about an order. -/
def paidIn (orderId : Bytes32) (trace : List Entry) : Nat :=
  (trace.map (Entry.paidIn orderId)).sum

/- The ether that the contract sent on behalf of an order. -/
def paidOut (orderId : Bytes32) (trace : List Entry) : Nat :=
  (trace.map (Entry.paidOut orderId)).sum

namespace World

def outstanding (world : World) (orderId : Bytes32) : Nat :=
  (world.escrows orderId).outstanding

def books (world : World) : Custody.Books Bytes32 :=
  { received := fun orderId => paidIn orderId world.trace
    paid := fun orderId => paidOut orderId world.trace
    balance := world.balance }

/- Every order is backed by its own deposits. -/
def Solvent (world : World) : Prop :=
  Custody.Backed world.outstanding world.books

end World

end CoreProverEscrow

end BorderController

------------------------------------------------------------
-- The Books
------------------------------------------------------------

namespace BorderController

namespace CoreProverEscrow

variable {world world' paid : World}
variable {msg : Message}
variable {payment : Payment}
variable {orderId : Bytes32}
variable {escrow escrow' : Escrow}

theorem paidIn_append
    (orderId : Bytes32)
    (trace entries : List Entry) :
    paidIn orderId (trace ++ entries) =
      paidIn orderId trace + paidIn orderId entries := by
  unfold paidIn
  rw [List.map_append, List.sum_append]

theorem paidOut_append
    (orderId : Bytes32)
    (trace entries : List Entry) :
    paidOut orderId (trace ++ entries) =
      paidOut orderId trace + paidOut orderId entries := by
  unfold paidOut
  rw [List.map_append, List.sum_append]

/- A message brings its value in for the order it names. -/
theorem World.books_enter
    (msg : Message)
    (world : World) :
    (world.enter msg).books =
      world.books.receive msg.function.orderId msg.value := by
  unfold World.books World.enter Custody.Books.receive
  congr 1
  · funext orderId
    rw [paidIn_append]
    by_cases hOrder : orderId = msg.function.orderId
    · subst hOrder
      simp [paidIn, Entry.paidIn]
    · simp [paidIn, Entry.paidIn, hOrder, Ne.symm hOrder]
  · funext orderId
    rw [paidOut_append]
    rfl

/- A payment goes out for its order. -/
theorem World.books_pay
    (hPay : world.pay payment = some paid) :
    paid.books =
      world.books.pay payment.orderId payment.amount := by
  rcases World.pay_eq_some hPay with ⟨_, hPaid⟩
  subst hPaid
  unfold World.books Custody.Books.pay
  congr 1
  · funext orderId
    dsimp only
    rw [paidIn_append]
    rfl
  · funext orderId
    dsimp only
    rw [paidOut_append]
    by_cases hOrder : orderId = payment.orderId
    · subst hOrder
      simp [paidOut, Entry.paidOut]
    · simp [paidOut, Entry.paidOut, hOrder, Ne.symm hOrder]

theorem World.outstanding_setEscrow_self
    (world : World)
    (orderId : Bytes32)
    (escrow : Escrow) :
    (world.setEscrow orderId escrow).outstanding orderId =
      escrow.outstanding := by
  unfold World.outstanding
  rw [World.escrows_setEscrow_self]

theorem World.outstanding_setEscrow_of_ne
    {other : Bytes32}
    (hOther : other ≠ orderId)
    (world : World)
    (escrow : Escrow) :
    (world.setEscrow orderId escrow).outstanding other =
      world.outstanding other := by
  unfold World.outstanding
  rw [World.escrows_setEscrow_of_ne hOther]

/- A payment takes from its order what it sends. -/
theorem Escrow.Pays.outstanding
    {sender : Address}
    {time : Nat}
    (hPays :
      Escrow.Pays orderId sender time escrow payment
        escrow') :
    escrow.outstanding =
      escrow'.outstanding + payment.amount := by
  cases hPays with
  | sellerClaim hState =>
      simp only [Escrow.outstanding, hState]
      omega
  | timedRelease hState =>
      simp only [Escrow.outstanding, hState]
      omega
  | buyerClaimFirst hState =>
      simp only [Escrow.outstanding, hState]
  | buyerClaimSecond hState =>
      simp only [Escrow.outstanding, hState]
      omega
  | refund hState =>
      simp only [Escrow.outstanding, hState]
      omega

end CoreProverEscrow

end BorderController

------------------------------------------------------------
-- Solvency
------------------------------------------------------------

namespace BorderController

namespace CoreProverEscrow

variable {world world' after paid : World}
variable {msg : Message}
variable {orderId : Bytes32}
variable {escrow : Escrow}

theorem World.Solvent.sameFunds
    (hSolvent : world.Solvent)
    (hSame : World.SameFunds world world') :
    world'.Solvent := by
  unfold World.Solvent World.outstanding World.books
  rw [hSame.escrows, hSame.balance, hSame.trace]
  exact hSolvent

/- A deposit is owed to the order it is made for. -/
theorem World.Solvent.deposit
    (hSolvent : world.Solvent)
    (hOrder : msg.function.orderId = orderId)
    (hOwed :
      escrow.outstanding =
        world.outstanding orderId + msg.value) :
    ((world.enter msg).setEscrow orderId escrow).Solvent := by
  subst hOrder
  show Custody.Backed _ (world.enter msg).books
  rw [World.books_enter]
  apply Custody.Backed.receive hSolvent
  · rw [World.outstanding_setEscrow_self]
    exact hOwed
  · intro other hOther
    exact World.outstanding_setEscrow_of_ne hOther _ _

/- A payment of what an order gives up is always covered. -/
theorem World.Solvent.pays
    {sender : Address}
    {time : Nat}
    {payment : Payment}
    (hSolvent : world.Solvent)
    (hPays :
      Escrow.Pays orderId sender time (world.escrows orderId)
        payment escrow) :
    payment.amount ≤ world.balance ∧
      ∀ paid,
        (world.setEscrow orderId escrow).pay payment =
          some paid →
        paid.Solvent := by
  have hKey :
      world.outstanding orderId =
        (world.setEscrow orderId escrow).outstanding orderId +
          payment.amount := by
    rw [World.outstanding_setEscrow_self]
    exact hPays.outstanding
  have hOther :
      ∀ other, other ≠ orderId →
        (world.setEscrow orderId escrow).outstanding other =
          world.outstanding other := by
    intro other hOther
    exact World.outstanding_setEscrow_of_ne hOther _ _
  have hBacked := Custody.Backed.pay hSolvent hKey hOther
  refine ⟨hBacked.1, ?_⟩
  intro paid hPay
  have hBooks := World.books_pay hPay
  rcases World.pay_eq_some hPay with ⟨_, hPaid⟩
  unfold World.Solvent
  rw [hBooks, hPays.orderId_eq]
  subst hPaid
  exact hBacked.2

/- A message without ether owes nobody anything. -/
theorem World.Solvent.enter
    (hSolvent : world.Solvent)
    (hValue : msg.value = 0) :
    (world.enter msg).Solvent := by
  unfold World.Solvent
  rw [World.books_enter, hValue]
  exact Custody.Backed.receive hSolvent rfl fun _ _ => rfl

/- A body keeps the contract solvent. -/
theorem World.Solvent.entry
    (hConsistent : world.Consistent)
    (hSolvent : world.Solvent) :
    (contract.entry msg world).Keeps contract
      World.Solvent := by
  have hShape := msg.shape (world.enter msg)
  show (msg.body (world.enter msg)).Keeps contract _
  generalize msg.body (world.enter msg) = proc at hShape
  cases hShape with
  | reverts reason => trivial
  | @creates orderId escrow after result hFunction hFresh
      hState _ hAmount _ hSame =>
      rcases hFunction with ⟨_, _, _, _, _, hFunction⟩
      refine World.Solvent.sameFunds ?_ hSame
      apply hSolvent.deposit (by rw [hFunction]; rfl)
      have hFresh : (world.escrows orderId).state = .none :=
        hFresh
      simp only [World.outstanding, Escrow.outstanding,
        hState, hFresh, hAmount]
      omega
  | @deposits orderId after result hFunction hState _ _
      hSame =>
      have hEmpty :=
        ((hConsistent orderId).of_buyerCommitted hState).1
      refine World.Solvent.sameFunds ?_ hSame
      apply hSolvent.deposit (by rw [hFunction]; rfl)
      have hState :
          (world.escrows orderId).state = .buyerCommitted :=
        hState
      simp only [World.outstanding, Escrow.outstanding, hState]
      rfl
  | @signs orderId after result hFunction hValue hState _ _
      hSame =>
      rcases hFunction with ⟨_, _, _, _, hFunction⟩
      have hEmpty :=
        ((hConsistent orderId).of_buyerCommitted hState).1
      refine World.Solvent.sameFunds ?_ hSame
      apply hSolvent.deposit (by rw [hFunction]; rfl)
      have hState :
          (world.escrows orderId).state = .buyerCommitted :=
        hState
      simp only [World.outstanding, Escrow.outstanding,
        hState, hValue]
      exact congrArg (_ + ·) hEmpty
  | @pays orderId payment escrow resume hOrder hOpens hValue
      hPays hResume =>
      refine ⟨?_, ?_⟩
      · exact ((hSolvent.enter hValue).pays hPays).2
      · intro resumed hResumed
        rcases hResume resumed with
          ⟨after, result, hResult, hSame⟩
        rw [hResult]
        exact hResumed.sameFunds hSame

theorem World.Solvent.force
    (hSolvent : world.Solvent)
    (amount : Nat) :
    (world.force amount).Solvent :=
  Custody.Backed.donate hSolvent amount

theorem World.Solvent.deployed
    (timestamp balance : Nat) :
    (World.deployed timestamp balance).Solvent where
  conserved _ := rfl
  solvent orders := by
    have hNothing :
        ∑ orderId ∈ orders,
          (World.deployed timestamp balance).outstanding
            orderId = 0 :=
      Finset.sum_eq_zero fun _ _ => rfl
    rw [hNothing]
    exact Nat.zero_le _

/- Solvency is kept along with consistency. -/
theorem solvent_kept :
    Kept fun world => world.Consistent ∧ world.Solvent where
  deployed timestamp balance :=
    ⟨consistent_kept.deployed timestamp balance,
      World.Solvent.deployed timestamp balance⟩
  later _ _ hSound := hSound
  force _ amount hSound :=
    ⟨hSound.1, hSound.2.force amount⟩
  entry _ _ hSound :=
    hSound.1.entry.and (hSound.2.entry hSound.1)

/- Every world that can be found is solvent. -/
theorem Observable.solvent
    (hWorld : Observable world) :
    world.Solvent :=
  (solvent_kept.observable hWorld).2

/-
  In every world that anybody can find, for every order the
  ether paid in is what was paid out plus what is outstanding,
  and the balance covers what is outstanding on any set of
  orders, all of them included.
-/
theorem conserved_and_covered
    (hWorld : Observable world) :
    (∀ orderId,
      paidIn orderId world.trace =
        paidOut orderId world.trace +
          (world.escrows orderId).outstanding) ∧
      ∀ orders : Finset Bytes32,
        ∑ orderId ∈ orders,
          (world.escrows orderId).outstanding ≤
            world.balance :=
  ⟨hWorld.solvent.conserved, hWorld.solvent.solvent⟩

/- The seller is paid and the counter-escrow is still there. -/
def sellerFirstOrder : List (Nat × Message) :=
  [(1000,
      ⟨0xB0B, 500,
        .createEscrow 7 0x5E11 86400 604800 false 0⟩),
    (2000, ⟨0x5E11, 40, .sellerCommitEscrow 7⟩),
    (3000, ⟨0x5E11, 0, .sellerClaimPayment 7⟩)]

theorem sellerFirst_conserved_and_covered :
    ∃ world,
      replay accepting sellerFirstOrder (.deployed 1000 0) =
          some world ∧
        world.balance = 40 ∧
          (∀ orderId,
            paidIn orderId world.trace =
              paidOut orderId world.trace +
                (world.escrows orderId).outstanding) ∧
            ∀ orders : Finset Bytes32,
              ∑ orderId ∈ orders,
                (world.escrows orderId).outstanding ≤
                  world.balance :=
  ⟨_, rfl, rfl,
    conserved_and_covered
      (@Reachable.replay _ _ accepting sellerFirstOrder
        (.deployed 1000 0) rfl).observable⟩

end CoreProverEscrow

end BorderController

import BorderController.Library.Transition
import Mathlib.Logic.Function.Basic

/-
  Clients that share resources under reader-writer locks.

  A client calls one method after another.  A method takes its
  locks one by one, reads and writes what they guard, and drops
  its guards once it has its result.  The methods of different
  clients interleave lock by lock and access by access.

  Because a method drops no guard before it has its result, it
  takes effect at once: the interleaved run is a run in which
  each method is a single step.

  Key definitions include:
    * `Locking.Method`, `Locking.Method.run`
    * `Locking.Method.Covered`
    * `Locking.Pool`, `Locking.Pool.act`
    * `Locking.Atomic`, `Locking.Atomic.act`
    * `Locking.Pool.takesEffect`
    * `Locking.Simulates`

  Key theorems include:
    * `Locking.Simulates.step`
    * `Locking.Simulates.path`
-/

------------------------------------------------------------
-- Methods
------------------------------------------------------------

namespace Locking

variable {ι : Type}
variable {V : ι → Type}
variable {ρ τ : Type}

inductive Mode where
  | read
  | write
deriving DecidableEq, Repr

structure Guard (ι : Type) where
  resource : ι
  mode : Mode
deriving DecidableEq

/- Two clients may hold the guards at the same time. -/
def Guard.Compatible (guard other : Guard ι) : Prop :=
  guard.resource = other.resource →
    guard.mode = .read ∧ other.mode = .read

instance [DecidableEq ι] (guard other : Guard ι) :
    Decidable (guard.Compatible other) :=
  inferInstanceAs (Decidable (_ → _))

/- What the resources hold. -/
abbrev Store {ι : Type} (V : ι → Type) : Type :=
  (i : ι) → V i

/-
  A method takes a lock, accesses a resource, or has its result.
  An access writes the resource and goes on with what it read.
-/
inductive Method {ι : Type} (V : ι → Type) (ρ : Type) where
  | done (result : ρ)
  | lock (guard : Guard ι) (rest : Method V ρ)
  | access
      (i : ι)
      (write : V i → V i)
      (rest : V i → Method V ρ)

namespace Method

/- The method as a single step, whatever its locks. -/
def run [DecidableEq ι] :
    Method V ρ → Store V → ρ × Store V
  | .done result, store => (result, store)
  | .lock _ rest, store => rest.run store
  | .access i write rest, store =>
      (rest (store i)).run
        (Function.update store i (write (store i)))

def map (f : ρ → τ) : Method V ρ → Method V τ
  | .done result => .done (f result)
  | .lock guard rest => .lock guard (rest.map f)
  | .access i write rest =>
      .access i write fun value => (rest value).map f

/-
  With the guards held, the method accesses what it holds and
  writes only what it holds for writing.
-/
def Covered : List (Guard ι) → Method V ρ → Prop
  | _, .done _ => True
  | held, .lock guard rest => rest.Covered (guard :: held)
  | held, .access i write rest =>
      (⟨i, .write⟩ ∈ held ∨ ⟨i, .read⟩ ∈ held ∧ write = id) ∧
        ∀ value, (rest value).Covered held

@[simp] theorem run_map
    [DecidableEq ι]
    (f : ρ → τ)
    (method : Method V ρ)
    (store : Store V) :
    (method.map f).run store =
      (f (method.run store).1, (method.run store).2) := by
  induction method generalizing store with
  | done result => rfl
  | lock guard rest ih => exact ih store
  | access i write rest ih => exact ih _ _

@[simp] theorem covered_map
    {f : ρ → τ}
    {method : Method V ρ}
    {held : List (Guard ι)} :
    (method.map f).Covered held ↔ method.Covered held := by
  induction method generalizing held with
  | done result => exact Iff.rfl
  | lock guard rest ih => exact ih
  | access i write rest ih =>
      exact and_congr_right fun _ => forall_congr' fun value =>
        ih value

end Method

end Locking

------------------------------------------------------------
-- Pools of Threads
------------------------------------------------------------

namespace Locking

variable {ι : Type}
variable {V : ι → Type}
variable {κ : Type}

/-
  A thread is between two methods, in a method with the guards
  it holds, or drops its guards with the result in hand.
-/
inductive Thread {ι : Type} (V : ι → Type) (κ : Type) where
  | idle (client : κ)
  | running
      (client : κ)
      (held : List (Guard ι))
      (rest : Method V κ)
  | returning (client : κ) (held : List (Guard ι))

namespace Thread

/- The client as of the last method that took effect. -/
def client : Thread V κ → κ
  | .idle client => client
  | .running client _ _ => client
  | .returning client _ => client

def held : Thread V κ → List (Guard ι)
  | .idle _ => []
  | .running _ held _ => held
  | .returning _ held => held

/-
  One step of a thread among others.  A lock is taken when the
  guards of all threads allow it, those of the thread itself
  included: the locks are not reentrant.
-/
def step
    [DecidableEq ι]
    (method : κ → Option (Method V κ))
    (threads : List (Thread V κ))
    (store : Store V) :
    Thread V κ → Option (Thread V κ × Store V)
  | .idle client =>
      (method client).map fun rest =>
        (.running client [] rest, store)
  | .running client held (.lock guard rest) =>
      if ∀ thread ∈ threads, ∀ other ∈ thread.held,
          guard.Compatible other then
        some (.running client (guard :: held) rest, store)
      else
        none
  | .running client held (.access i write rest) =>
      some (.running client held (rest (store i)),
        Function.update store i (write (store i)))
  | .running _ held (.done client) =>
      some (.returning client held, store)
  | .returning client (_ :: held) =>
      some (.returning client held, store)
  | .returning client [] => some (.idle client, store)

end Thread

structure Pool {ι : Type} (V : ι → Type) (κ : Type) where
  store : Store V
  threads : List (Thread V κ)

inductive Event (κ : Type) where
  | arrive (client : κ)
  | step (index : Nat)
deriving DecidableEq

def Pool.act
    [DecidableEq ι]
    (method : κ → Option (Method V κ))
    (event : Event κ)
    (pool : Pool V κ) :
    Option (Pool V κ) :=
  match event with
  | .arrive client =>
      some
        { pool with
          threads := pool.threads ++ [.idle client] }
  | .step index =>
      pool.threads[index]?.bind fun thread =>
        (thread.step method pool.threads pool.store).map
          fun next =>
            { store := next.2
              threads := pool.threads.set index next.1 }

/- Clients whose methods are single steps. -/
structure Atomic {ι : Type} (V : ι → Type) (κ : Type) where
  store : Store V
  clients : List κ

def Atomic.act
    [DecidableEq ι]
    (method : κ → Option (Method V κ))
    (event : Event κ)
    (atomic : Atomic V κ) :
    Option (Atomic V κ) :=
  match event with
  | .arrive client =>
      some
        { atomic with clients := atomic.clients ++ [client] }
  | .step index =>
      atomic.clients[index]?.bind fun client =>
        (method client).map fun whole =>
          { store := (whole.run atomic.store).2
            clients :=
              atomic.clients.set index
                (whole.run atomic.store).1 }

/- Clients arrive, and methods take effect with their result. -/
def Pool.takesEffect
    (event : Event κ)
    (pool : Pool V κ) :
    Bool :=
  match event with
  | .arrive _ => true
  | .step index =>
      match pool.threads[index]? with
      | some (.running _ _ (.done _)) => true
      | _ => false

end Locking

------------------------------------------------------------
-- The Steps of a Thread
------------------------------------------------------------

namespace Locking

variable {ι : Type} [DecidableEq ι]
variable {V : ι → Type}
variable {κ : Type}
variable {method : κ → Option (Method V κ)}
variable {threads : List (Thread V κ)}
variable {store store' : Store V}
variable {thread thread' : Thread V κ}

/- The ways a thread steps. -/
inductive Thread.Steps
    (method : κ → Option (Method V κ))
    (threads : List (Thread V κ))
    (store : Store V) :
    Thread V κ → Thread V κ → Store V → Prop
  | call {client : κ} {whole : Method V κ} :
      method client = some whole →
      Steps method threads store (.idle client)
        (.running client [] whole) store
  | lock {client : κ} {held : List (Guard ι)}
      {guard : Guard ι} {rest : Method V κ} :
      (∀ thread ∈ threads, ∀ other ∈ thread.held,
        guard.Compatible other) →
      Steps method threads store
        (.running client held (.lock guard rest))
        (.running client (guard :: held) rest) store
  | access {client : κ} {held : List (Guard ι)} {i : ι}
      {write : V i → V i} {rest : V i → Method V κ} :
      Steps method threads store
        (.running client held (.access i write rest))
        (.running client held (rest (store i)))
        (Function.update store i (write (store i)))
  | result {client next : κ} {held : List (Guard ι)} :
      Steps method threads store
        (.running client held (.done next))
        (.returning next held) store
  | drop {client : κ} {guard : Guard ι}
      {held : List (Guard ι)} :
      Steps method threads store
        (.returning client (guard :: held))
        (.returning client held) store
  | finish {client : κ} :
      Steps method threads store (.returning client [])
        (.idle client) store

theorem Thread.step_cases
    (hStep :
      thread.step method threads store =
        some (thread', store')) :
    Thread.Steps method threads store thread thread'
      store' := by
  cases thread with
  | idle client =>
      rcases Option.map_eq_some_iff.mp hStep with
        ⟨whole, hWhole, hNext⟩
      cases hNext
      exact .call hWhole
  | running client held rest =>
      cases rest with
      | done next =>
          cases hStep
          exact .result
      | lock guard rest =>
          rw [Thread.step] at hStep
          split_ifs at hStep with hFree
          cases hStep
          exact .lock hFree
      | access i write rest =>
          cases hStep
          exact .access
  | returning client held =>
      cases held with
      | nil =>
          cases hStep
          exact .finish
      | cons guard held =>
          cases hStep
          exact .drop

/- The step of a pool is a step of one of its threads. -/
theorem Pool.act_step_cases
    {pool pool' : Pool V κ}
    {index : Nat}
    (hAct : pool.act method (.step index) = some pool') :
    ∃ thread thread' store',
      pool.threads[index]? = some thread ∧
        Thread.Steps method pool.threads pool.store thread
          thread' store' ∧
        pool' =
          { store := store'
            threads := pool.threads.set index thread' } := by
  rcases Option.bind_eq_some_iff.mp hAct with
    ⟨thread, hThread, hNext⟩
  rcases Option.map_eq_some_iff.mp hNext with
    ⟨⟨thread', store'⟩, hStep, hPool⟩
  exact ⟨thread, thread', store', hThread,
    Thread.step_cases hStep, hPool.symm⟩

end Locking

------------------------------------------------------------
-- What a Thread Has Read and Written
------------------------------------------------------------

namespace Locking

variable {ι : Type} [DecidableEq ι]
variable {V : ι → Type}
variable {ρ : Type}

def Holds (held : List (Guard ι)) (i : ι) : Prop :=
  ∃ guard ∈ held, guard.resource = i

instance (held : List (Guard ι)) (i : ι) :
    Decidable (Holds held i) :=
  inferInstanceAs (Decidable (∃ guard ∈ held, _))

/- The first store where guards are held, the second elsewhere. -/
def overlay
    (held : List (Guard ι))
    (store outside : Store V) :
    Store V :=
  fun i => if Holds held i then store i else outside i

variable {held : List (Guard ι)}
variable {store store' outside : Store V}
variable {i : ι}

theorem overlay_of_holds (hHolds : Holds held i) :
    overlay held store outside i = store i :=
  if_pos hHolds

theorem overlay_of_not_holds (hNot : ¬ Holds held i) :
    overlay held store outside i = outside i :=
  if_neg hNot

@[simp] theorem overlay_nil :
    overlay [] store outside = outside := by
  funext i
  exact overlay_of_not_holds (by simp [Holds])

/- Holding one more resource, where the stores agree. -/
theorem overlay_cons
    {guard : Guard ι}
    (hAgree :
      outside guard.resource = store guard.resource) :
    overlay (guard :: held) store outside =
      overlay held store outside := by
  funext i
  by_cases hHolds : Holds held i
  · rw [overlay_of_holds hHolds]
    rcases hHolds with ⟨other, hMem, hResource⟩
    exact overlay_of_holds
      ⟨other, List.mem_cons_of_mem _ hMem, hResource⟩
  · rw [overlay_of_not_holds hHolds]
    by_cases hGuard : guard.resource = i
    · subst hGuard
      rw [hAgree]
      exact overlay_of_holds ⟨guard, List.mem_cons_self, rfl⟩
    · apply overlay_of_not_holds
      rintro ⟨other, hMem, hResource⟩
      rcases List.mem_cons.mp hMem with hSame | hMem
      · subst hSame
        exact hGuard hResource
      · exact hHolds ⟨other, hMem, hResource⟩

/- Stores that agree on what is held give the same overlay. -/
theorem overlay_congr
    (hAgree : ∀ i, Holds held i → store' i = store i) :
    overlay held store' outside =
      overlay held store outside := by
  funext i
  by_cases hHolds : Holds held i
  · rw [overlay_of_holds hHolds, overlay_of_holds hHolds,
      hAgree i hHolds]
  · rw [overlay_of_not_holds hHolds,
      overlay_of_not_holds hHolds]

/- A write to what is held can be done in the store. -/
theorem update_overlay
    (value : V i)
    (hHolds : Holds held i) :
    Function.update (overlay held store outside) i value =
      overlay held (Function.update store i value)
        outside := by
  funext j
  by_cases hSame : j = i
  · subst hSame
    rw [Function.update_self, overlay_of_holds hHolds,
      Function.update_self]
  · rw [Function.update_of_ne hSame]
    by_cases hOther : Holds held j
    · rw [overlay_of_holds hOther, overlay_of_holds hOther,
        Function.update_of_ne hSame]
    · rw [overlay_of_not_holds hOther,
        overlay_of_not_holds hOther]

/-
  The rest of a method, from the store with the held resources
  as they are now, is the whole method from any store with the
  held resources as they were in `before`.
-/
def Replays
    (before store : Store V)
    (held : List (Guard ι))
    (whole rest : Method V ρ) :
    Prop :=
  ∀ outside : Store V,
    (∀ i, Holds held i → outside i = before i) →
    whole.run outside =
      rest.run (overlay held store outside)

variable {before : Store V}
variable {whole rest : Method V ρ}

theorem Replays.start :
    Replays before store [] whole whole := by
  intro outside _
  rw [overlay_nil]

/- Taking a lock whose resource nobody is writing. -/
theorem Replays.lock
    {guard : Guard ι}
    (hReplays :
      Replays before store held whole (.lock guard rest))
    (hSettled :
      before guard.resource = store guard.resource) :
    Replays before store (guard :: held) whole rest := by
  intro outside hBefore
  have hGuard :
      outside guard.resource = store guard.resource := by
    rw [← hSettled]
    exact hBefore _ ⟨guard, List.mem_cons_self, rfl⟩
  rw [overlay_cons hGuard]
  apply hReplays
  rintro i ⟨other, hMem, hResource⟩
  exact hBefore i
    ⟨other, List.mem_cons_of_mem _ hMem, hResource⟩

theorem Replays.access
    {write : V i → V i}
    {rest : V i → Method V ρ}
    (hReplays :
      Replays before store held whole (.access i write rest))
    (hHolds : Holds held i) :
    Replays before
      (Function.update store i (write (store i))) held whole
      (rest (store i)) := by
  intro outside hBefore
  have hWhole := hReplays outside hBefore
  rw [Method.run, overlay_of_holds hHolds,
    update_overlay _ hHolds] at hWhole
  exact hWhole

/- Others may change what is not held. -/
theorem Replays.congr
    {before' : Store V}
    (hReplays : Replays before store held whole rest)
    (hBefore : ∀ i, Holds held i → before' i = before i)
    (hStore : ∀ i, Holds held i → store' i = store i) :
    Replays before' store' held whole rest := by
  intro outside hOutside
  rw [overlay_congr hStore]
  apply hReplays
  intro i hHolds
  rw [hOutside i hHolds, hBefore i hHolds]

/- The whole method once it has its result. -/
theorem Replays.result
    {result : ρ}
    (hReplays :
      Replays before store held whole (.done result)) :
    whole.run before =
      (result, overlay held store before) := by
  rw [hReplays before fun _ _ => rfl]
  rfl

end Locking

------------------------------------------------------------
-- Threads Apart
------------------------------------------------------------

namespace Locking

variable {ι : Type}
variable {V : ι → Type}
variable {κ : Type}
variable {threads : List (Thread V κ)}
variable {thread thread' : Thread V κ}
variable {index : Nat}

/- The thread has the resource for writing and no result yet. -/
def Thread.Writes (i : ι) : Thread V κ → Prop
  | .running _ held _ => ⟨i, .write⟩ ∈ held
  | _ => False

theorem Thread.Writes.mem_held
    {i : ι}
    (hWrites : thread.Writes i) :
    ⟨i, .write⟩ ∈ thread.held := by
  cases thread with
  | running client held rest => exact hWrites
  | _ => contradiction

/- What the thread has still to do is covered. -/
def Thread.Covered : Thread V κ → Prop
  | .running _ held rest => rest.Covered held
  | _ => True

/- Different threads hold compatible guards. -/
def Exclusive (threads : List (Thread V κ)) : Prop :=
  ∀ ⦃m n : Nat⦄ ⦃thread other : Thread V κ⦄,
    threads[m]? = some thread →
    threads[n]? = some other →
    m ≠ n →
    ∀ guard ∈ thread.held,
      ∀ guard' ∈ other.held, guard.Compatible guard'

/- A thread after a step is the new one, or another one. -/
theorem mem_set_cases
    {other : Thread V κ}
    (hMem : other ∈ threads.set index thread') :
    other = thread' ∨
      ∃ n, n ≠ index ∧ threads[n]? = some other := by
  rcases List.mem_iff_getElem?.mp hMem with ⟨n, hGet⟩
  by_cases hSame : index = n
  · subst hSame
    rw [List.getElem?_set_self'] at hGet
    rcases Option.map_eq_some_iff.mp hGet with
      ⟨_, _, hOther⟩
    exact Or.inl hOther.symm
  · rw [List.getElem?_set_ne hSame] at hGet
    exact Or.inr ⟨n, Ne.symm hSame, hGet⟩

/- A thread that keeps its distance from the others. -/
theorem Exclusive.set
    (hExclusive : Exclusive threads)
    (hNew :
      ∀ {n other},
        n ≠ index →
        threads[n]? = some other →
        ∀ guard ∈ thread'.held,
          ∀ guard' ∈ other.held, guard.Compatible guard') :
    Exclusive (threads.set index thread') := by
  have hBoth :
      ∀ {guard guard' : Guard ι},
        guard.Compatible guard' →
        guard'.Compatible guard :=
    fun hCompatible hSame =>
      (hCompatible hSame.symm).symm
  intro m n first second hFirst hSecond hNe guard hGuard
    guard' hGuard'
  by_cases hM : index = m
  · subst hM
    rw [List.getElem?_set_self'] at hFirst
    rcases Option.map_eq_some_iff.mp hFirst with
      ⟨_, _, hThread⟩
    subst hThread
    rw [List.getElem?_set_ne hNe] at hSecond
    exact hNew hNe.symm hSecond guard hGuard guard' hGuard'
  · rw [List.getElem?_set_ne hM] at hFirst
    by_cases hN : index = n
    · subst hN
      rw [List.getElem?_set_self'] at hSecond
      rcases Option.map_eq_some_iff.mp hSecond with
        ⟨_, _, hThread⟩
      subst hThread
      exact hBoth (hNew (Ne.symm hM) hFirst guard' hGuard'
        guard hGuard)
    · rw [List.getElem?_set_ne hN] at hSecond
      exact hExclusive hFirst hSecond hNe guard hGuard guard'
        hGuard'

/- A thread that holds no more than it did. -/
theorem Exclusive.set_of_subset
    (hExclusive : Exclusive threads)
    (hThread : threads[index]? = some thread)
    (hSubset : ∀ guard ∈ thread'.held, guard ∈ thread.held) :
    Exclusive (threads.set index thread') :=
  hExclusive.set fun hNe hOther guard hGuard =>
    hExclusive hThread hOther hNe.symm guard
      (hSubset guard hGuard)

/- Nobody writes what two threads hold. -/
theorem Exclusive.not_writes
    {m n : Nat}
    {first second : Thread V κ}
    {i : ι}
    (hExclusive : Exclusive threads)
    (hFirst : threads[m]? = some first)
    (hSecond : threads[n]? = some second)
    (hNe : m ≠ n)
    (hHolds : Holds first.held i)
    (hHolds' : Holds second.held i) :
    ∀ thread ∈ threads, ¬ thread.Writes i := by
  intro thread hMem hWrites
  have hWrite := hWrites.mem_held
  rcases List.mem_iff_getElem?.mp hMem with ⟨k, hThread⟩
  rcases hHolds with ⟨guard, hGuard, hResource⟩
  rcases hHolds' with ⟨guard', hGuard', hResource'⟩
  by_cases hSame : k = m
  · have hOther : k ≠ n := by rwa [hSame]
    have hMode :=
      hExclusive hThread hSecond hOther _ hWrite guard'
        hGuard' hResource'.symm
    exact Mode.noConfusion hMode.1
  · have hMode :=
      hExclusive hThread hFirst hSame _ hWrite guard hGuard
        hResource.symm
    exact Mode.noConfusion hMode.1

/- A thread that still writes what it wrote, among others. -/
theorem not_writes_of_set
    {i : ι}
    (hThread : threads[index]? = some thread)
    (hKeeps : thread.Writes i → thread'.Writes i)
    (hNone :
      ∀ other ∈ threads.set index thread',
        ¬ other.Writes i) :
    ∀ other ∈ threads, ¬ other.Writes i := by
  intro other hMem hWrites
  rcases List.mem_iff_getElem?.mp hMem with ⟨n, hGet⟩
  by_cases hSame : index = n
  · subst hSame
    rw [hThread] at hGet
    cases hGet
    have hIndex := (List.getElem?_eq_some_iff.mp hThread).1
    exact hNone thread' (List.mem_set hIndex _)
      (hKeeps hWrites)
  · refine hNone other ?_ hWrites
    apply List.mem_of_getElem? (i := n)
    rw [List.getElem?_set_ne hSame]
    exact hGet

end Locking

------------------------------------------------------------
-- Simulation
------------------------------------------------------------

namespace Locking

variable {ι : Type} [DecidableEq ι]
variable {V : ι → Type}
variable {κ : Type}

/-
  The atomic state stands where the methods with a result have
  taken effect and the others have not.
-/
structure Simulates
    (method : κ → Option (Method V κ))
    (pool : Pool V κ)
    (atomic : Atomic V κ) :
    Prop where
  clients :
    atomic.clients = pool.threads.map Thread.client
  settled :
    ∀ i,
      (∀ thread ∈ pool.threads, ¬ thread.Writes i) →
      atomic.store i = pool.store i
  exclusive : Exclusive pool.threads
  covered : ∀ thread ∈ pool.threads, thread.Covered
  replays :
    ∀ {client held rest},
      .running client held rest ∈ pool.threads →
      ∃ whole,
        method client = some whole ∧
          Replays atomic.store pool.store held whole rest

variable {method : κ → Option (Method V κ)}
variable {threads : List (Thread V κ)}
variable {pool pool' : Pool V κ}
variable {atomic : Atomic V κ}
variable {thread thread' : Thread V κ}
variable {index : Nat}

/-
  One thread changes, and what the others hold stays as it is.
-/
private theorem Simulates.set
    {store' before' : Store V}
    {clients' : List κ}
    (hSimulates : Simulates method pool atomic)
    (hClients :
      clients' = atomic.clients.set index thread'.client)
    (hSettled :
      ∀ i,
        (∀ other ∈ pool.threads.set index thread',
          ¬ other.Writes i) →
        before' i = store' i)
    (hExclusive :
      Exclusive (pool.threads.set index thread'))
    (hCovered : thread'.Covered)
    (hReplays :
      ∀ {client held rest},
        thread' = .running client held rest →
        ∃ whole,
          method client = some whole ∧
            Replays before' store' held whole rest)
    (hFrame :
      ∀ {n other i},
        n ≠ index →
        pool.threads[n]? = some other →
        Holds other.held i →
        before' i = atomic.store i ∧
          store' i = pool.store i) :
    Simulates method
      { store := store'
        threads := pool.threads.set index thread' }
      { store := before', clients := clients' } where
  clients := by
    rw [hClients, hSimulates.clients]
    exact List.map_set.symm
  settled := hSettled
  exclusive := hExclusive
  covered := by
    intro other hMem
    rcases mem_set_cases hMem with hNew | ⟨n, _, hGet⟩
    · rw [hNew]
      exact hCovered
    · exact hSimulates.covered other
        (List.mem_of_getElem? hGet)
  replays := by
    intro client held rest hMem
    rcases mem_set_cases hMem with hNew | ⟨n, hNe, hGet⟩
    · exact hReplays hNew.symm
    · rcases hSimulates.replays
          (List.mem_of_getElem? hGet) with
        ⟨whole, hWhole, hRest⟩
      exact ⟨whole, hWhole,
        hRest.congr
          (fun i hHolds => (hFrame hNe hGet hHolds).1)
          (fun i hHolds => (hFrame hNe hGet hHolds).2)⟩

/- A thread with the client it had. -/
private theorem Simulates.clients_set
    (hSimulates : Simulates method pool atomic)
    (hThread : pool.threads[index]? = some thread)
    (hClient : thread'.client = thread.client) :
    atomic.clients =
      atomic.clients.set index thread'.client := by
  rcases List.getElem?_eq_some_iff.mp hThread with
    ⟨hIndex, hGet⟩
  rw [hClient, hSimulates.clients, ← List.map_set, ← hGet,
    List.set_getElem_self]

/- A thread that changes neither the store nor its client. -/
private theorem Simulates.stutter
    (hSimulates : Simulates method pool atomic)
    (hThread : pool.threads[index]? = some thread)
    (hClient : thread'.client = thread.client)
    (hKeeps : ∀ i, thread.Writes i → thread'.Writes i)
    (hExclusive :
      Exclusive (pool.threads.set index thread'))
    (hCovered : thread'.Covered)
    (hReplays :
      ∀ {client held rest},
        thread' = .running client held rest →
        ∃ whole,
          method client = some whole ∧
            Replays atomic.store pool.store held whole
              rest) :
    Simulates method
      { pool with threads := pool.threads.set index thread' }
      atomic := by
  refine hSimulates.set ?_ ?_ hExclusive hCovered hReplays
    (fun _ _ _ => ⟨rfl, rfl⟩)
  · exact hSimulates.clients_set hThread hClient
  · intro i hNone
    exact hSimulates.settled i
      (not_writes_of_set hThread (hKeeps i) hNone)

/- The store changes only where the thread holds guards. -/
private theorem Simulates.access
    {client : κ}
    {held : List (Guard ι)}
    {i : ι}
    {write : V i → V i}
    {rest : V i → Method V κ}
    (hSimulates : Simulates method pool atomic)
    (hThread :
      pool.threads[index]? =
        some (.running client held (.access i write rest))) :
    Simulates method
      { store :=
          Function.update pool.store i (write (pool.store i))
        threads :=
          pool.threads.set index
            (.running client held (rest (pool.store i))) }
      atomic := by
  have hMem := List.mem_of_getElem? hThread
  rcases hSimulates.covered _ hMem with ⟨hCovers, hRest⟩
  rcases hSimulates.replays hMem with
    ⟨whole, hWhole, hReplays⟩
  have hHolds : Holds held i := by
    rcases hCovers with hWrite | ⟨hRead, _⟩
    · exact ⟨_, hWrite, rfl⟩
    · exact ⟨_, hRead, rfl⟩
  have hElsewhere :
      ∀ j, (⟨i, .write⟩ ∈ held → j ≠ i) →
        Function.update pool.store i
            (write (pool.store i)) j =
          pool.store j := by
    intro j hOther
    rcases hCovers with hWrite | ⟨_, hId⟩
    · exact Function.update_of_ne (hOther hWrite) _ _
    · subst hId
      rw [id, Function.update_eq_self]
  refine hSimulates.set ?_ ?_ ?_ (hRest _) ?_ ?_
  · exact hSimulates.clients_set hThread rfl
  · intro j hNone
    rw [hElsewhere j]
    · apply hSimulates.settled
      refine not_writes_of_set hThread ?_ hNone
      exact fun hWrites => hWrites
    · rintro hWrite hSame
      subst hSame
      have hIndex :=
        (List.getElem?_eq_some_iff.mp hThread).1
      exact hNone _ (List.mem_set hIndex _) hWrite
  · exact hSimulates.exclusive.set_of_subset hThread
      (fun _ hGuard => hGuard)
  · intro client' held' rest' hRunning
    cases hRunning
    exact ⟨whole, hWhole, hReplays.access hHolds⟩
  · intro n other j hNe hOther hHolds'
    refine ⟨rfl, hElsewhere j ?_⟩
    rintro hWrite hSame
    subst hSame
    exact hSimulates.exclusive.not_writes hThread hOther
      hNe.symm hHolds hHolds' _ hMem hWrite

/- A method has its result: it takes effect. -/
private theorem Simulates.result
    {client next : κ}
    {held : List (Guard ι)}
    (hSimulates : Simulates method pool atomic)
    (hThread :
      pool.threads[index]? =
        some (.running client held (.done next))) :
    ∃ atomic',
      atomic.act method (.step index) = some atomic' ∧
        Simulates method
          { pool with
            threads :=
              pool.threads.set index
                (.returning next held) }
          atomic' := by
  have hMem := List.mem_of_getElem? hThread
  rcases hSimulates.replays hMem with
    ⟨whole, hWhole, hReplays⟩
  have hClient :
      atomic.clients[index]? = some client := by
    rw [hSimulates.clients, List.getElem?_map, hThread]
    rfl
  refine
    ⟨{ store := overlay held pool.store atomic.store
       clients := atomic.clients.set index next }, ?_, ?_⟩
  · unfold Atomic.act
    simp only [hClient, Option.bind_some, hWhole,
      Option.map_some, hReplays.result]
  · refine hSimulates.set rfl ?_ ?_ trivial ?_ ?_
    · intro i hNone
      by_cases hHolds : Holds held i
      · exact overlay_of_holds hHolds
      · rw [overlay_of_not_holds hHolds]
        apply hSimulates.settled
        exact not_writes_of_set hThread
          (fun hWrite => absurd ⟨_, hWrite, rfl⟩ hHolds) hNone
    · exact hSimulates.exclusive.set_of_subset hThread
        (fun _ hGuard => hGuard)
    · intro _ _ _ hRunning
      contradiction
    · intro n other i hNe hOther hHolds'
      refine ⟨?_, rfl⟩
      by_cases hHolds : Holds held i
      · -- Held by both, so for reading, and nobody writes it.
        rw [overlay_of_holds hHolds]
        exact (hSimulates.settled i
          (hSimulates.exclusive.not_writes hThread hOther
            hNe.symm hHolds hHolds')).symm
      · exact overlay_of_not_holds hHolds

/- A thread that arrives holds nothing. -/
private theorem Simulates.arrive
    (hSimulates : Simulates method pool atomic)
    (client : κ) :
    Simulates method
      { pool with
        threads := pool.threads ++ [.idle client] }
      { atomic with
        clients := atomic.clients ++ [client] } where
  clients := by
    rw [hSimulates.clients, List.map_append]
    rfl
  settled := by
    intro i hNone
    exact hSimulates.settled i fun other hMem =>
      hNone other (List.mem_append_left _ hMem)
  exclusive := by
    intro m n first second hFirst hSecond hNe guard hGuard
      guard' hGuard'
    have hOld :
        ∀ {k : Nat} {other : Thread V κ},
          (pool.threads ++ [.idle client])[k]? = some other →
          ∀ g ∈ other.held, pool.threads[k]? = some other := by
      intro k other hGet g hHeld
      by_cases hK : k < pool.threads.length
      · rwa [List.getElem?_append_left hK] at hGet
      · rw [List.getElem?_append_right (by omega)] at hGet
        have hMem := List.mem_of_getElem? hGet
        rw [List.mem_singleton] at hMem
        subst hMem
        contradiction
    exact hSimulates.exclusive (hOld hFirst guard hGuard)
      (hOld hSecond guard' hGuard') hNe guard hGuard guard'
      hGuard'
  covered := by
    intro other hMem
    rcases List.mem_append.mp hMem with hOld | hNew
    · exact hSimulates.covered other hOld
    · rw [List.mem_singleton] at hNew
      subst hNew
      trivial
  replays := by
    intro client' held rest hMem
    rcases List.mem_append.mp hMem with hOld | hNew
    · exact hSimulates.replays hOld
    · rw [List.mem_singleton] at hNew
      contradiction

/-
  A step of a pool that takes effect is the same step of the
  atomic clients; at the others they do nothing.
-/
theorem Simulates.step
    {event : Event κ}
    (hMethods :
      ∀ {client whole},
        method client = some whole → whole.Covered [])
    (hSimulates : Simulates method pool atomic)
    (hAct : pool.act method event = some pool') :
    (pool.takesEffect event = false ∧
        Simulates method pool' atomic) ∨
      pool.takesEffect event = true ∧
        ∃ atomic',
          atomic.act method event = some atomic' ∧
            Simulates method pool' atomic' := by
  cases event with
  | arrive client =>
      cases hAct
      refine Or.inr ⟨rfl, _, rfl, ?_⟩
      exact hSimulates.arrive client
  | step index =>
      rcases Pool.act_step_cases hAct with
        ⟨thread, thread', store', hThread, hSteps, hPool⟩
      subst hPool
      have hMem := List.mem_of_getElem? hThread
      cases hSteps with
      | call hWhole =>
          refine Or.inl
            ⟨by simp [Pool.takesEffect, hThread], ?_⟩
          refine hSimulates.stutter hThread rfl ?_ ?_ ?_ ?_
          · intro i hWrites
            contradiction
          · exact hSimulates.exclusive.set fun _ _ _ hGuard =>
              absurd hGuard List.not_mem_nil
          · exact hMethods hWhole
          · intro _ _ _ hRunning
            cases hRunning
            exact ⟨_, hWhole, .start⟩
      | @lock client held guard rest hFree =>
          refine Or.inl
            ⟨by simp [Pool.takesEffect, hThread], ?_⟩
          refine hSimulates.stutter hThread rfl ?_ ?_ ?_ ?_
          · intro i hWrites
            exact List.mem_cons_of_mem _ hWrites
          · apply hSimulates.exclusive.set
            intro n other hNe hOther guard' hGuard'
            rcases List.mem_cons.mp hGuard' with hNew | hOld
            · rw [hNew]
              exact hFree other (List.mem_of_getElem? hOther)
            · exact hSimulates.exclusive hThread hOther
                hNe.symm guard' hOld
          · have hCovered := hSimulates.covered _ hMem
            exact hCovered
          · intro _ _ _ hRunning
            cases hRunning
            rcases hSimulates.replays hMem with
              ⟨whole, hWhole, hReplays⟩
            refine ⟨whole, hWhole, hReplays.lock ?_⟩
            -- Whoever writes the resource would be in the way.
            apply hSimulates.settled
            intro other hOther hWrites
            have hMode := hFree other hOther _
              hWrites.mem_held rfl
            exact Mode.noConfusion hMode.2
      | access =>
          exact Or.inl
            ⟨by simp [Pool.takesEffect, hThread],
              hSimulates.access hThread⟩
      | result =>
          exact Or.inr
            ⟨by simp [Pool.takesEffect, hThread],
              hSimulates.result hThread⟩
      | @drop client guard held =>
          refine Or.inl
            ⟨by simp [Pool.takesEffect, hThread], ?_⟩
          refine hSimulates.stutter hThread rfl ?_ ?_ ?_ ?_
          · intro i hWrites
            contradiction
          · exact hSimulates.exclusive.set_of_subset hThread
              fun _ hGuard => List.mem_cons_of_mem _ hGuard
          · trivial
          · intro _ _ _ hRunning
            contradiction
      | finish =>
          refine Or.inl
            ⟨by simp [Pool.takesEffect, hThread], ?_⟩
          refine hSimulates.stutter hThread rfl ?_ ?_ ?_ ?_
          · intro i hWrites
            contradiction
          · exact hSimulates.exclusive.set_of_subset hThread
              fun _ hGuard => hGuard
          · trivial
          · intro _ _ _ hRunning
            contradiction

end Locking

------------------------------------------------------------
-- Runs
------------------------------------------------------------

namespace Locking

variable {ι : Type} [DecidableEq ι]
variable {V : ι → Type}
variable {κ : Type}

def system
    (method : κ → Option (Method V κ)) :
    TransitionSystem (Pool V κ) (Event κ) where
  Step pool event pool' := pool.act method event = some pool'

def atomicSystem
    (method : κ → Option (Method V κ)) :
    TransitionSystem (Atomic V κ) (Event κ) where
  Step atomic event atomic' :=
    atomic.act method event = some atomic'

def Event.arrival : Event κ → Option κ
  | .arrive client => some client
  | .step _ => none

/- The clients that arrive, in their order. -/
def arrivals
    {σ : Type}
    (es : List (Transition σ (Event κ))) :
    List κ :=
  es.filterMap fun e => e.label.arrival

@[simp] theorem arrivals_arrive
    {σ : Type}
    {s t : σ}
    (es : List (Transition σ (Event κ)))
    (client : κ) :
    arrivals (es ++ [⟨s, .arrive client, t⟩]) =
      arrivals es ++ [client] :=
  List.filterMap_append

@[simp] theorem arrivals_step
    {σ : Type}
    {s t : σ}
    (es : List (Transition σ (Event κ)))
    (index : Nat) :
    arrivals (es ++ [⟨s, .step index, t⟩]) = arrivals es :=
  List.filterMap_append.trans (List.append_nil _)

/- Record the steps of a list of events. -/
def perform
    (method : κ → Option (Method V κ)) :
    List (Event κ) → Pool V κ →
      Option
        (List (Transition (Pool V κ) (Event κ)) × Pool V κ)
  | [], pool => some ([], pool)
  | event :: events, pool =>
      (pool.act method event).bind fun next =>
        (perform method events next).map fun rest =>
          (⟨pool, event, next⟩ :: rest.1, rest.2)

variable {method : κ → Option (Method V κ)}
variable {pool pool' : Pool V κ}
variable {atomic : Atomic V κ}

theorem perform_path
    {events : List (Event κ)}
    {es : List (Transition (Pool V κ) (Event κ))}
    (hPerform :
      perform method events pool = some (es, pool')) :
    (system method).Path pool es pool' := by
  induction events generalizing pool es with
  | nil =>
      cases hPerform
      exact .nil _
  | cons event events ih =>
      unfold perform at hPerform
      rcases Option.bind_eq_some_iff.mp hPerform with
        ⟨next, hAct, hRest⟩
      rcases Option.map_eq_some_iff.mp hRest with
        ⟨⟨fs, last⟩, hTail, hSame⟩
      cases hSame
      exact .cons hAct (ih hTail)

theorem Simulates.empty (store : Store V) :
    Simulates method { store, threads := [] }
      { store, clients := [] } where
  clients := rfl
  settled := fun _ _ => rfl
  exclusive := fun _ _ _ _ hFirst => by contradiction
  covered := fun _ hMem => absurd hMem List.not_mem_nil
  replays := fun hMem => absurd hMem List.not_mem_nil

/- The atomic clients take the same step, standing where the
   threads stand. -/
structure SameStep
    (e : Transition (Pool V κ) (Event κ))
    (f : Transition (Atomic V κ) (Event κ)) :
    Prop where
  label : f.label = e.label
  clients :
    f.source.clients = e.source.threads.map Thread.client

/-
  A run of the pool is a run of the atomic clients, of the
  steps that take effect in their order.
-/
theorem Simulates.path
    {es : List (Transition (Pool V κ) (Event κ))}
    (hMethods :
      ∀ {client whole},
        method client = some whole → whole.Covered [])
    (hSimulates : Simulates method pool atomic)
    (hPath : (system method).Path pool es pool') :
    ∃ fs atomic',
      (atomicSystem method).Path atomic fs atomic' ∧
        Simulates method pool' atomic' ∧
        arrivals fs = arrivals es ∧
        List.Forall₂ SameStep
          (es.filter fun e => e.source.takesEffect e.label)
          fs := by
  induction hPath generalizing atomic with
  | nil pool =>
      exact ⟨[], atomic, .nil atomic, hSimulates, rfl, .nil⟩
  | @cons pool pool'' _ event es hStep _ ih =>
      rcases hSimulates.step hMethods hStep with
        ⟨hQuiet, hNext⟩ | ⟨hEffect, atomic'', hAct, hNext⟩
      · rcases ih hNext with
          ⟨fs, atomic', hRun, hEnd, hArrivals, hSame⟩
        refine ⟨fs, atomic', hRun, hEnd, ?_, ?_⟩
        · cases event with
          | arrive client => contradiction
          | step index => exact hArrivals
        · simpa only [List.filter_cons, hQuiet,
            Bool.false_eq_true, if_false] using hSame
      · rcases ih hNext with
          ⟨fs, atomic', hRun, hEnd, hArrivals, hSame⟩
        refine ⟨⟨atomic, event, atomic''⟩ :: fs, atomic',
          .cons hAct hRun, hEnd, ?_, ?_⟩
        · unfold arrivals at hArrivals ⊢
          simp only [List.filterMap_cons, hArrivals]
        · simp only [List.filter_cons, hEffect, if_true]
          exact .cons ⟨rfl, hSimulates.clients⟩ hSame

end Locking

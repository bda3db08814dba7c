import BorderController.Library.Locking

/-
  Progress of clients that take their locks in order.

  When every method takes locks of lower and lower levels, the
  threads that wait for one another do so downwards, so one of
  them can go on.  When every method costs a bounded number of
  steps, each thread takes only so many.  Together, a run ends,
  and it ends with every client served.

  Key definitions include:
    * `Locking.Method.Ordered`
    * `Locking.Method.Costs`
    * `Locking.Method.Disciplined`
    * `Locking.Thread.Affords`

  Key theorems include:
    * `Locking.Pool.exists_step`
    * `Locking.stepsOf_le`
-/

------------------------------------------------------------
-- The Order of the Locks
------------------------------------------------------------

namespace Locking

variable {ι : Type}
variable {V : ι → Type}
variable {ρ τ κ : Type}

/-
  With the guards held, every lock is of a lower level than all
  that is held when it is taken.
-/
def Method.Ordered
    (level : ι → Nat) :
    List (Guard ι) → Method V ρ → Prop
  | _, .done _ => True
  | held, .lock guard rest =>
      (∀ other ∈ held,
        level guard.resource < level other.resource) ∧
        rest.Ordered level (guard :: held)
  | held, .access _ _ rest =>
      ∀ value, (rest value).Ordered level held

@[simp] theorem Method.ordered_map
    {level : ι → Nat}
    {f : ρ → τ}
    {method : Method V ρ}
    {held : List (Guard ι)} :
    (method.map f).Ordered level held ↔
      method.Ordered level held := by
  induction method generalizing held with
  | done result => exact Iff.rfl
  | lock guard rest ih => exact and_congr_right fun _ => ih
  | access i write rest ih =>
      exact forall_congr' fun value => ih value

def Thread.Ordered (level : ι → Nat) : Thread V κ → Prop
  | .running _ held rest => rest.Ordered level held
  | _ => True

variable [DecidableEq ι]
variable {method : κ → Option (Method V κ)}
variable {level : ι → Nat}
variable {pool pool' : Pool V κ}

theorem ordered_act
    {event : Event κ}
    (hMethods :
      ∀ {client whole},
        method client = some whole → whole.Ordered level [])
    (hOrdered :
      ∀ thread ∈ pool.threads, thread.Ordered level)
    (hAct : pool.act method event = some pool') :
    ∀ thread ∈ pool'.threads, thread.Ordered level := by
  intro other hMem
  cases event with
  | arrive client =>
      cases hAct
      rcases List.mem_append.mp hMem with hOld | hNew
      · exact hOrdered other hOld
      · rw [List.mem_singleton] at hNew
        subst hNew
        trivial
  | step index =>
      rcases Pool.act_step_cases hAct with
        ⟨thread, thread', store', hThread, hSteps, hPool⟩
      subst hPool
      have hBefore :=
        hOrdered thread (List.mem_of_getElem? hThread)
      rcases mem_set_cases hMem with hNew | ⟨n, _, hGet⟩
      · subst hNew
        cases hSteps with
        | call hWhole => exact hMethods hWhole
        | lock hFree => exact hBefore.2
        | access => exact hBefore _
        | _ => trivial
      · exact hOrdered other (List.mem_of_getElem? hGet)

/- A thread that steps is a step of the pool. -/
private theorem exists_act
    {thread : Thread V κ}
    (hMem : thread ∈ pool.threads)
    (hStep :
      (thread.step method pool.threads pool.store).isSome) :
    ∃ index pool',
      pool.act method (.step index) = some pool' := by
  rcases List.mem_iff_getElem?.mp hMem with ⟨index, hGet⟩
  rcases Option.isSome_iff_exists.mp hStep with ⟨next, hNext⟩
  refine
    ⟨index,
      { store := next.2
        threads := pool.threads.set index next.1 }, ?_⟩
  unfold Pool.act
  simp only [hGet, Option.bind_some, hNext, Option.map_some]

/-
  A thread that waits for a lock: it gets the lock, or whoever
  holds the resource goes on, or waits for a lower level.
-/
private theorem exists_act_of_waiting
    (hOrdered :
      ∀ thread ∈ pool.threads, thread.Ordered level)
    {n : Nat}
    {client : κ}
    {held : List (Guard ι)}
    {guard : Guard ι}
    {rest : Method V κ}
    (hMem :
      .running client held (.lock guard rest) ∈ pool.threads)
    (hLevel : level guard.resource = n) :
    ∃ index pool',
      pool.act method (.step index) = some pool' := by
  induction n using Nat.strongRecOn
    generalizing client held guard rest with
  | _ n ih =>
      by_cases hFree :
          ∀ thread ∈ pool.threads, ∀ other ∈ thread.held,
            guard.Compatible other
      · apply exists_act hMem
        rw [Thread.step, if_pos hFree]
        rfl
      · simp only [not_forall] at hFree
        rcases hFree with
          ⟨holder, hHolder, other, hOther, hConflict⟩
        have hSame : guard.resource = other.resource := by
          by_contra hNe
          exact hConflict fun hResource =>
            absurd hResource hNe
        cases holder with
        | idle client' => contradiction
        | returning client' held' =>
            apply exists_act hHolder
            cases held' <;> rfl
        | running client' held' rest' =>
            cases rest' with
            | done next => exact exists_act hHolder rfl
            | access i write rest' =>
                exact exists_act hHolder rfl
            | lock guard' rest' =>
                have hLower :=
                  (hOrdered _ hHolder).1 other hOther
                refine ih _ ?_ hHolder rfl
                rw [← hLevel, hSame]
                exact hLower

/- A pool can step, unless every client has been served. -/
theorem Pool.exists_step
    (hOrdered :
      ∀ thread ∈ pool.threads, thread.Ordered level)
    (hStuck :
      ∀ index, pool.act method (.step index) = none) :
    ∀ thread ∈ pool.threads,
      ∃ client, thread = .idle client ∧ method client = none := by
  have hNone :
      ¬ ∃ index pool',
        pool.act method (.step index) = some pool' := by
    rintro ⟨index, pool', hAct⟩
    rw [hStuck index] at hAct
    contradiction
  intro thread hMem
  cases thread with
  | idle client =>
      refine ⟨client, rfl, ?_⟩
      by_contra hMethod
      apply hNone
      apply exists_act hMem
      rw [Thread.step, Option.isSome_map]
      exact Option.isSome_iff_ne_none.mpr hMethod
  | returning client held =>
      refine absurd (exists_act hMem ?_) hNone
      cases held <;> rfl
  | running client held rest =>
      refine absurd ?_ hNone
      cases rest with
      | done next => exact exists_act hMem rfl
      | access i write rest => exact exists_act hMem rfl
      | lock guard rest =>
          exact exists_act_of_waiting hOrdered hMem rfl

end Locking

------------------------------------------------------------
-- The Cost of a Method
------------------------------------------------------------

namespace Locking

variable {ι : Type}
variable {V : ι → Type}
variable {ρ τ κ : Type}

/-
  The method takes at most so many steps, the drops of its
  guards and the cost of its result included.
-/
def Method.Costs
    (cost : ρ → Nat) :
    Method V ρ → Nat → Prop
  | .done result, n => cost result + 2 ≤ n
  | .lock _ rest, n => 2 ≤ n ∧ rest.Costs cost (n - 2)
  | .access _ _ rest, n =>
      1 ≤ n ∧ ∀ value, (rest value).Costs cost (n - 1)

theorem Method.Costs.mono
    {cost : ρ → Nat}
    {method : Method V ρ}
    {m n : Nat}
    (hCosts : method.Costs cost m)
    (hLe : m ≤ n) :
    method.Costs cost n := by
  induction method generalizing m n with
  | done result => exact Nat.le_trans hCosts hLe
  | lock guard rest ih =>
      exact ⟨Nat.le_trans hCosts.1 hLe,
        ih hCosts.2 (Nat.sub_le_sub_right hLe 2)⟩
  | access i write rest ih =>
      exact ⟨Nat.le_trans hCosts.1 hLe, fun value =>
        ih value (hCosts.2 value)
          (Nat.sub_le_sub_right hLe 1)⟩

@[simp] theorem Method.costs_map
    {cost : τ → Nat}
    {f : ρ → τ}
    {method : Method V ρ}
    {n : Nat} :
    (method.map f).Costs cost n ↔
      method.Costs (fun result => cost (f result)) n := by
  induction method generalizing n with
  | done result => exact Iff.rfl
  | lock guard rest ih => exact and_congr_right fun _ => ih
  | access i write rest ih =>
      exact and_congr_right fun _ => forall_congr' fun value =>
        ih value

theorem Method.Costs.of_le
    {cost cost' : ρ → Nat}
    {method : Method V ρ}
    {n : Nat}
    (hCosts : method.Costs cost n)
    (hLe : ∀ result, cost' result ≤ cost result) :
    method.Costs cost' n := by
  induction method generalizing n with
  | done result =>
      exact Nat.le_trans
        (Nat.add_le_add_right (hLe result) 2) hCosts
  | lock guard rest ih => exact ⟨hCosts.1, ih hCosts.2⟩
  | access i write rest ih =>
      exact ⟨hCosts.1, fun value => ih value (hCosts.2 value)⟩

/- The method locks what it accesses, in order, and ends. -/
structure Method.Disciplined
    (level : ι → Nat)
    (cost : ρ → Nat)
    (n : Nat)
    (method : Method V ρ) :
    Prop where
  covered : method.Covered []
  ordered : method.Ordered level []
  costs : method.Costs cost n

theorem Method.Disciplined.done
    {level : ι → Nat}
    {cost : ρ → Nat}
    {n : Nat}
    {result : ρ}
    (hCost : cost result + 2 ≤ n) :
    (Method.done result : Method V ρ).Disciplined level cost
      n :=
  ⟨trivial, trivial, hCost⟩

/- A method that may have results of a cost up to `c`. -/
theorem Method.Disciplined.map
    {level : ι → Nat}
    {cost : τ → Nat}
    {f : ρ → τ}
    {method : Method V ρ}
    {c m n : Nat}
    (hMethod : method.Disciplined level (fun _ => c) m)
    (hCost : ∀ result, cost (f result) ≤ c)
    (hLe : m ≤ n) :
    (method.map f).Disciplined level cost n where
  covered := Method.covered_map.mpr hMethod.covered
  ordered := Method.ordered_map.mpr hMethod.ordered
  costs :=
    Method.costs_map.mpr
      ((hMethod.costs.mono hLe).of_le hCost)

/- The thread can go on for at most so many steps. -/
def Thread.Affords
    (cost : κ → Nat) :
    Thread V κ → Nat → Prop
  | .idle client, n => cost client ≤ n
  | .running _ held rest, n =>
      held.length ≤ n ∧ rest.Costs cost (n - held.length)
  | .returning client held, n =>
      cost client + held.length + 1 ≤ n

variable [DecidableEq ι]
variable {method : κ → Option (Method V κ)}
variable {cost : κ → Nat}
variable {threads : List (Thread V κ)}
variable {store store' : Store V}
variable {thread thread' : Thread V κ}
variable {pool pool' : Pool V κ}

/- A step is paid for. -/
theorem Thread.Affords.step
    {n : Nat}
    (hMethods :
      ∀ {client whole},
        method client = some whole →
        ∃ c, cost client = c + 1 ∧ whole.Costs cost c)
    (hAffords : thread.Affords cost n)
    (hSteps :
      Thread.Steps method threads store thread thread'
        store') :
    ∃ m, n = m + 1 ∧ thread'.Affords cost m := by
  cases hSteps with
  | call hWhole =>
      rcases hMethods hWhole with ⟨c, hCost, hCosts⟩
      simp only [Thread.Affords] at hAffords
      refine ⟨n - 1, by omega, Nat.zero_le _, ?_⟩
      exact hCosts.mono (by simp only [List.length_nil]; omega)
  | @lock client held guard rest hFree =>
      rcases hAffords with ⟨hHeld, hTwo, hCosts⟩
      refine ⟨n - 1, by omega, ?_, ?_⟩
      · rw [List.length_cons]
        omega
      · exact hCosts.mono (by rw [List.length_cons]; omega)
  | access =>
      rcases hAffords with ⟨hHeld, hOne, hCosts⟩
      exact ⟨n - 1, by omega, by omega,
        (hCosts _).mono (by omega)⟩
  | result =>
      rcases hAffords with ⟨hHeld, hCosts⟩
      simp only [Method.Costs, Thread.Affords]
        at hCosts ⊢
      exact ⟨n - 1, by omega, by omega⟩
  | drop =>
      simp only [Thread.Affords, List.length_cons]
        at hAffords ⊢
      exact ⟨n - 1, by omega, by omega⟩
  | finish =>
      simp only [Thread.Affords, List.length_nil]
        at hAffords ⊢
      exact ⟨n - 1, by omega, by omega⟩

/- The steps that a run takes of one of its threads. -/
def stepsOf
    (index : Nat)
    (es : List (Transition (Pool V κ) (Event κ))) :
    Nat :=
  es.countP fun e =>
    match e.label with
    | .arrive _ => false
    | .step other => other = index

/-
  Each client has what its thread has not used up of the cost
  with which it arrived.
-/
private structure Budgeted
    (cost : κ → Nat)
    (es : List (Transition (Pool V κ) (Event κ)))
    (pool : Pool V κ) :
    Prop where
  arrived :
    (arrivals es).length = pool.threads.length
  affords :
    ∀ {index client},
      (arrivals es)[index]? = some client →
      ∃ thread budget,
        pool.threads[index]? = some thread ∧
          thread.Affords cost budget ∧
          stepsOf index es + budget ≤ cost client
  absent :
    ∀ {index},
      pool.threads.length ≤ index → stepsOf index es = 0

omit [DecidableEq ι] in
private theorem stepsOf_arrive
    {es : List (Transition (Pool V κ) (Event κ))}
    (index : Nat)
    (client : κ) :
    stepsOf index (es ++ [⟨pool, .arrive client, pool'⟩]) =
      stepsOf index es := by
  simp [stepsOf]

omit [DecidableEq ι] in
private theorem stepsOf_step
    {es : List (Transition (Pool V κ) (Event κ))}
    (index other : Nat) :
    stepsOf index (es ++ [⟨pool, .step other, pool'⟩]) =
      stepsOf index es + if other = index then 1 else 0 := by
  simp [stepsOf, List.countP_singleton]

private theorem Budgeted.act
    {es : List (Transition (Pool V κ) (Event κ))}
    {event : Event κ}
    (hMethods :
      ∀ {client whole},
        method client = some whole →
        ∃ c, cost client = c + 1 ∧ whole.Costs cost c)
    (hBudgeted : Budgeted cost es pool)
    (hAct : pool.act method event = some pool') :
    Budgeted cost (es ++ [⟨pool, event, pool'⟩]) pool' := by
  cases event with
  | arrive client =>
      cases hAct
      constructor
      · rw [arrivals_arrive, List.length_append,
          List.length_append, hBudgeted.arrived]
        rfl
      · intro index first hFirst
        rw [arrivals_arrive] at hFirst
        rw [stepsOf_arrive]
        by_cases hOld : index < pool.threads.length
        · rw [List.getElem?_append_left
            (by rw [hBudgeted.arrived]; exact hOld)] at hFirst
          rw [List.getElem?_append_left hOld]
          exact hBudgeted.affords hFirst
        · rw [List.getElem?_append_right
            (by rw [hBudgeted.arrived]; omega),
            hBudgeted.arrived] at hFirst
          have hClient := List.mem_of_getElem? hFirst
          rw [List.mem_singleton] at hClient
          subst hClient
          have hIndex :=
            (List.getElem?_eq_some_iff.mp hFirst).1
          rw [List.length_singleton] at hIndex
          have hLast : index = pool.threads.length := by omega
          subst hLast
          refine ⟨.idle first, cost first, by simp, ?_, ?_⟩
          · exact Nat.le_refl _
          · rw [hBudgeted.absent (Nat.le_refl _)]
            omega
      · intro index hIndex
        rw [stepsOf_arrive]
        apply hBudgeted.absent
        rw [List.length_append] at hIndex
        omega
  | step other =>
      rcases Pool.act_step_cases hAct with
        ⟨thread, thread', store', hThread, hSteps, hPool⟩
      subst hPool
      have hOther :=
        (List.getElem?_eq_some_iff.mp hThread).1
      constructor
      · rw [arrivals_step, List.length_set]
        exact hBudgeted.arrived
      · intro index first hFirst
        rw [arrivals_step] at hFirst
        rcases hBudgeted.affords hFirst with
          ⟨before, budget, hBefore, hAffords, hSpent⟩
        rw [stepsOf_step]
        by_cases hSame : other = index
        · subst hSame
          rw [hThread] at hBefore
          cases hBefore
          rcases hAffords.step hMethods hSteps with
            ⟨rest, hBudget, hAffords'⟩
          refine ⟨thread', rest, ?_, hAffords', ?_⟩
          · exact List.getElem?_set_self hOther
          · rw [if_pos rfl]
            omega
        · refine ⟨before, budget, ?_, hAffords, ?_⟩
          · rw [List.getElem?_set_ne hSame]
            exact hBefore
          · rw [if_neg hSame]
            exact hSpent
      · intro index hIndex
        rw [List.length_set] at hIndex
        rw [stepsOf_step, hBudgeted.absent hIndex, if_neg]
        omega

/-
  From a pool without threads, no client takes more steps than
  it cost when it arrived.
-/
theorem stepsOf_le
    {store : Store V}
    {es : List (Transition (Pool V κ) (Event κ))}
    {index : Nat}
    {client : κ}
    (hMethods :
      ∀ {client whole},
        method client = some whole →
        ∃ c, cost client = c + 1 ∧ whole.Costs cost c)
    (hPath :
      (system method).Path { store, threads := [] } es pool)
    (hArrived : (arrivals es)[index]? = some client) :
    stepsOf index es ≤ cost client := by
  have hBudgeted : Budgeted cost es pool := by
    apply hPath.historyInvariant (Budgeted cost)
    · exact ⟨rfl, fun hFirst => by contradiction,
        fun _ => rfl⟩
    · intro _ _ _ _ _ hBudgeted hStep
      exact hBudgeted.act hMethods hStep
  rcases hBudgeted.affords hArrived with
    ⟨_, budget, _, _, hSpent⟩
  omega

end Locking

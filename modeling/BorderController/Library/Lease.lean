import Mathlib.Data.List.Chain
import Mathlib.Data.List.Infix
import Mathlib.Data.List.Induction
import Mathlib.Data.Option.Basic
import Mathlib.Order.Bounds.Basic

/-
  Leases that are renewed, and that lapse when they are checked
  too late.

  What is kept of a lease is when it was last renewed.  Whether
  it is held can be told from the events alone: nothing but a
  check that comes too late after every renewal, or a
  revocation, ends it.  Whoever renews it in time before it
  falls due holds it, however often it is checked.

  Key definitions include:
    * `Lease.Event`
    * `Lease.run`
    * `Lease.Held`
    * `Lease.KeptAlive`

  Key theorems include:
    * `Lease.held_of_run`
    * `Lease.HeldSince.foldl`
    * `Lease.isSome_run_iff`
    * `Lease.KeptAlive.heldSince`
-/

------------------------------------------------------------
-- Events
------------------------------------------------------------

namespace Lease

/- What may happen to a lease. -/
inductive Event (τ : Type) where
  | grant (time : τ)
  | renew (time : τ)
  | revoke
  | check (time : τ)
  | idle
deriving DecidableEq, Repr

variable {τ : Type}

/- When the event renews the lease, if it does. -/
def Event.renewal : Event τ → Option τ
  | .grant time => some time
  | .renew time => some time
  | _ => none

/- When the event takes place, if it matters. -/
def Event.time : Event τ → Option τ
  | .grant time => some time
  | .renew time => some time
  | .check time => some time
  | _ => none

def renewals (events : List (Event τ)) : List τ :=
  events.filterMap Event.renewal

variable [LinearOrder τ]

/- The events that matter come in the order of their times. -/
def Ordered (events : List (Event τ)) : Prop :=
  (events.filterMap Event.time).Pairwise (· ≤ ·)

variable (due : τ → τ)

/- The last renewal after an event, if the lease is held. -/
def after : Option τ → Event τ → Option τ
  | _, .grant time => some time
  | held, .renew time => held.map fun _ => time
  | _, .revoke => none
  | held, .check time => held.filter fun last => time ≤ due last
  | held, .idle => held

def run (events : List (Event τ)) : Option τ :=
  events.foldl (after due) none

/-
  After a grant the lease is not revoked, and every check comes
  in time for some renewal.
-/
structure HeldSince
    (start : τ)
    (later : List (Event τ)) :
    Prop where
  kept : .revoke ∉ later
  inTime :
    ∀ first time,
      first ++ [.check time] <+: later →
        ∃ last ∈ renewals (.grant start :: first),
          time ≤ due last

/- What the events say about the lease. -/
def Held (events : List (Event τ)) : Prop :=
  ∃ before start later,
    events = before ++ .grant start :: later ∧
      HeldSince due start later

/-
  The lease is kept alive until the finish: it is not revoked,
  and every renewal is followed by the next one, and the last by
  the finish, before it falls due.
-/
structure KeptAlive
    (start finish : τ)
    (later : List (Event τ)) :
    Prop where
  kept : .revoke ∉ later
  inTime :
    (renewals (.grant start :: later) ++ [finish]).IsChain
      fun last next => next ≤ due last

end Lease

------------------------------------------------------------
-- Leases That Are on Record
------------------------------------------------------------

namespace Lease

variable {τ : Type}
variable [LinearOrder τ]
variable {due : τ → τ}
variable {events later : List (Event τ)}
variable {event : Event τ}
variable {start : τ}

@[simp] theorem after_grant {held : Option τ} {time : τ} :
    after due held (.grant time) = some time := by
  cases held <;> rfl

@[simp] theorem after_renew {held : Option τ} {time : τ} :
    after due held (.renew time) = held.map fun _ => time := by
  cases held <;> rfl

@[simp] theorem after_revoke {held : Option τ} :
    after due held .revoke = none := by
  cases held <;> rfl

@[simp] theorem after_check {held : Option τ} {time : τ} :
    after due held (.check time) =
      held.filter fun last => time ≤ due last := by
  cases held <;> rfl

@[simp] theorem after_idle {held : Option τ} :
    after due held .idle = held := by
  cases held <;> rfl

@[simp] theorem run_concat :
    run due (events ++ [event]) =
      after due (run due events) event := by
  simp [run]

theorem HeldSince.nil : HeldSince due start [] where
  kept := List.not_mem_nil
  inTime first time hPrefix := by simp at hPrefix

theorem HeldSince.concat
    (hHeld : HeldSince due start later)
    (hRevoke : event ≠ .revoke)
    (hCheck :
      ∀ time,
        event = .check time →
          ∃ last ∈ renewals (.grant start :: later),
            time ≤ due last) :
    HeldSince due start (later ++ [event]) where
  kept := by simp [hHeld.kept, hRevoke.symm]
  inTime first time hPrefix := by
    rcases List.prefix_concat_iff.mp hPrefix with
      hAll | hLater
    · rcases List.append_inj' hAll rfl with ⟨hFirst, hLast⟩
      subst hFirst
      exact hCheck time (List.singleton_inj.mp hLast).symm
    · exact hHeld.inTime first time hLater

theorem HeldSince.of_prefix
    {first : List (Event τ)}
    (hHeld : HeldSince due start later)
    (hPrefix : first <+: later) :
    HeldSince due start first where
  kept hMem := hHeld.kept (hPrefix.subset hMem)
  inTime checked time hChecked :=
    hHeld.inTime checked time (hChecked.trans hPrefix)

omit [LinearOrder τ] in
theorem mem_renewals_concat
    {last : τ}
    (hLast : last ∈ renewals (.grant start :: later)) :
    last ∈ renewals (.grant start :: (later ++ [event])) := by
  unfold renewals at hLast ⊢
  rw [← List.cons_append, List.filterMap_append]
  exact List.mem_append_left _ hLast

/- A lease that is held was renewed when the record says. -/
theorem held_of_run
    {last : τ}
    (hRun : run due events = some last) :
    ∃ before start later,
      events = before ++ .grant start :: later ∧
        HeldSince due start later ∧
        last ∈ renewals (.grant start :: later) := by
  induction events using List.reverseRecOn generalizing last with
  | nil => cases hRun
  | append_singleton events event ih =>
      rw [run_concat] at hRun
      cases event with
      | grant time =>
          cases hRun
          exact ⟨events, last, [], rfl, .nil,
            List.mem_singleton_self last⟩
      | renew time =>
          rcases Option.map_eq_some_iff.mp hRun with
            ⟨kept, hKept, hTime⟩
          rcases ih hKept with
            ⟨before, start, later, hEvents, hHeld, _⟩
          refine ⟨before, start, later ++ [.renew time],
            by simp [hEvents], hHeld.concat (by simp) (by simp),
            ?_⟩
          simp [renewals, Event.renewal, hTime]
      | revoke => cases hRun
      | check time =>
          rcases Option.filter_eq_some_iff.mp hRun with
            ⟨hKept, hDue⟩
          rcases ih hKept with
            ⟨before, start, later, hEvents, hHeld, hLast⟩
          refine ⟨before, start, later ++ [.check time],
            by simp [hEvents], hHeld.concat (by simp) ?_,
            mem_renewals_concat hLast⟩
          intro checked hChecked
          cases hChecked
          exact ⟨last, hLast, of_decide_eq_true hDue⟩
      | idle =>
          rcases ih hRun with
            ⟨before, start, later, hEvents, hHeld, hLast⟩
          exact ⟨before, start, later ++ [.idle],
            by simp [hEvents], hHeld.concat (by simp) (by simp),
            mem_renewals_concat hLast⟩

/- The record is of some renewal. -/
theorem mem_renewals_of_run
    {last : τ}
    (hRun : run due events = some last) :
    last ∈ renewals events := by
  rcases held_of_run hRun with
    ⟨before, start, later, hEvents, _, hLast⟩
  unfold renewals at hLast ⊢
  rw [hEvents, List.filterMap_append]
  exact List.mem_append_right _ hLast

end Lease

------------------------------------------------------------
-- Leases That Are Held
------------------------------------------------------------

namespace Lease

variable {τ : Type}
variable [LinearOrder τ]
variable {due : τ → τ}
variable {events later : List (Event τ)}
variable {event : Event τ}
variable {start : τ}

omit [LinearOrder τ] in
theorem mem_times_of_renewals
    {time : τ}
    (hRenewal : time ∈ renewals events) :
    time ∈ events.filterMap Event.time := by
  rcases List.mem_filterMap.mp hRenewal with
    ⟨event, hEvent, hTime⟩
  refine List.mem_filterMap.mpr ⟨event, hEvent, ?_⟩
  cases event with
  | grant granted => exact hTime
  | renew renewed => exact hTime
  | _ => cases hTime

theorem Ordered.of_sublist
    {fewer : List (Event τ)}
    (hOrdered : Ordered events)
    (hFewer : fewer.Sublist events) :
    Ordered fewer :=
  hOrdered.sublist (hFewer.filterMap Event.time)

/- A check at the time of the last event is in order as well. -/
theorem Ordered.check
    {time : τ}
    (hOrdered : Ordered (events ++ [event]))
    (hTime : event.time = some time) :
    Ordered (events ++ [.check time]) := by
  unfold Ordered at hOrdered ⊢
  rw [List.filterMap_append] at hOrdered ⊢
  rwa [List.filterMap_cons_some hTime] at hOrdered

theorem Ordered.concat
    {time : τ}
    (hOrdered : Ordered events)
    (hTime : event.time = some time)
    (hLatest :
      ∀ earlier ∈ events.filterMap Event.time,
        earlier ≤ time) :
    Ordered (events ++ [event]) := by
  unfold Ordered at hOrdered ⊢
  rw [List.filterMap_append, List.pairwise_append]
  simpa [hTime, hOrdered] using hLatest

/- A renewal comes after all that were before it. -/
theorem isGreatest_renewals_concat
    {time : τ}
    (hRenewal : event.renewal = some time)
    (hOrdered : Ordered (events ++ [event])) :
    IsGreatest {last | last ∈ renewals (events ++ [event])}
      time := by
  have hTime : event.time = some time := by
    cases event with
    | grant granted => exact hRenewal
    | renew renewed => exact hRenewal
    | _ => cases hRenewal
  unfold Ordered at hOrdered
  rw [List.filterMap_append, List.pairwise_append] at hOrdered
  constructor
  · simp [renewals, hRenewal]
  · intro last hLast
    change last ∈ renewals (events ++ [event]) at hLast
    simp only [renewals, List.filterMap_append,
      List.mem_append] at hLast
    rcases hLast with hEarlier | hSame
    · exact hOrdered.2.2 last
        (mem_times_of_renewals hEarlier) time
        (by simp [hTime])
    · simp [hRenewal] at hSame
      exact hSame.le

omit [LinearOrder τ] in
/- Other events leave the renewals as they are. -/
theorem renewals_concat_of_none
    (hRenewal : event.renewal = none) :
    renewals (events ++ [event]) = renewals events := by
  simp [renewals, hRenewal]

/-
  As long as the lease is held, what is kept is its last
  renewal, since the times do not decrease.
-/
theorem HeldSince.foldl
    (hHeld : HeldSince due start later)
    (hDue : Monotone due)
    (hOrdered : Ordered (.grant start :: later)) :
    ∃ last,
      later.foldl (after due) (some start) = some last ∧
        IsGreatest
          {time | time ∈ renewals (.grant start :: later)}
          last := by
  induction later using List.reverseRecOn with
  | nil =>
      refine ⟨start, rfl, List.mem_singleton_self start, ?_⟩
      intro time hTime
      exact (List.mem_singleton.mp hTime).le
  | append_singleton later event ih =>
      rw [← List.cons_append] at hOrdered ⊢
      have hEarlier : Ordered (.grant start :: later) :=
        hOrdered.of_sublist (List.sublist_append_left _ _)
      rcases ih (hHeld.of_prefix (List.prefix_append _ _))
          hEarlier with
        ⟨last, hLast, hGreatest⟩
      rw [List.foldl_concat, hLast]
      cases event with
      | grant time =>
          exact ⟨time, rfl,
            isGreatest_renewals_concat rfl hOrdered⟩
      | renew time =>
          exact ⟨time, rfl,
            isGreatest_renewals_concat rfl hOrdered⟩
      | revoke => exact absurd (by simp) hHeld.kept
      | check time =>
          rw [renewals_concat_of_none rfl]
          refine ⟨last, ?_, hGreatest⟩
          rcases hHeld.inTime later time
              (List.prefix_refl _) with
            ⟨renewed, hRenewed, hTime⟩
          unfold after
          apply Option.filter_some_pos
          exact decide_eq_true
            (le_trans hTime (hDue (hGreatest.2 hRenewed)))
      | idle =>
          rw [renewals_concat_of_none rfl]
          exact ⟨last, rfl, hGreatest⟩

/- The record and the events agree on whether it is held. -/
theorem isSome_run_iff
    (hDue : Monotone due)
    (hOrdered : Ordered events) :
    (run due events).isSome ↔ Held due events := by
  constructor
  · intro hSome
    rcases Option.isSome_iff_exists.mp hSome with
      ⟨last, hRun⟩
    rcases held_of_run hRun with
      ⟨before, start, later, hEvents, hHeld, _⟩
    exact ⟨before, start, later, hEvents, hHeld⟩
  · rintro ⟨before, start, later, hEvents, hHeld⟩
    subst hEvents
    have hLater : Ordered (.grant start :: later) :=
      hOrdered.of_sublist (List.sublist_append_right _ _)
    rcases hHeld.foldl hDue hLater with ⟨last, hLast, _⟩
    unfold run
    rw [List.foldl_append, List.foldl_cons]
    change (later.foldl (after due) (some start)).isSome
    rw [hLast]
    rfl

end Lease

------------------------------------------------------------
-- Leases That Are Kept Alive
------------------------------------------------------------

namespace Lease

variable {τ : Type}
variable [LinearOrder τ]
variable {due : τ → τ}
variable {later : List (Event τ)}
variable {event : Event τ}
variable {start finish : τ}

/- The finish comes in time for the last renewal. -/
theorem KeptAlive.exists_renewal
    (hAlive : KeptAlive due start finish later) :
    ∃ last ∈ renewals (.grant start :: later),
      finish ≤ due last := by
  have hNe : renewals (.grant start :: later) ≠ [] :=
    List.cons_ne_nil start _
  refine ⟨_, List.getLast_mem hNe, ?_⟩
  exact (List.isChain_append.mp hAlive.inTime).2.2 _
    (List.getLast_mem_getLast? hNe) finish rfl

/- A lease that does not change until the finish. -/
theorem KeptAlive.of_concat
    (hAlive : KeptAlive due start finish (later ++ [event]))
    (hRenewal : event.renewal = none) :
    KeptAlive due start finish later where
  kept hMem := hAlive.kept (List.mem_append_left _ hMem)
  inTime := by
    have hInTime := hAlive.inTime
    rwa [← List.cons_append, renewals_concat_of_none hRenewal]
      at hInTime

/- Until a renewal it is kept alive as well. -/
theorem KeptAlive.of_renewal
    {time : τ}
    (hAlive : KeptAlive due start finish (later ++ [event]))
    (hRenewal : event.renewal = some time) :
    KeptAlive due start time later where
  kept hMem := hAlive.kept (List.mem_append_left _ hMem)
  inTime := by
    have hInTime := hAlive.inTime.left_of_append
    unfold renewals at hInTime ⊢
    rwa [← List.cons_append, List.filterMap_append,
      List.filterMap_cons_some hRenewal] at hInTime

/-
  By induction on the last event: a renewal is the finish of
  what came before it, and a check comes no later than the
  finish.
-/
theorem KeptAlive.heldSince
    (hAlive : KeptAlive due start finish later)
    (hOrdered : Ordered (later ++ [.check finish])) :
    HeldSince due start later := by
  induction later using List.reverseRecOn
      generalizing finish with
  | nil => exact .nil
  | append_singleton later event ih =>
      have hEvent : Ordered (later ++ [event]) :=
        hOrdered.of_sublist (List.sublist_append_left _ _)
      have hFinish : Ordered (later ++ [.check finish]) :=
        hOrdered.of_sublist
          ((List.sublist_append_left _ _).append_right _)
      cases event with
      | grant time =>
          have hEarlier : HeldSince due start later :=
            ih (hAlive.of_renewal rfl) (hEvent.check rfl)
          exact hEarlier.concat (by simp) (by simp)
      | renew time =>
          have hEarlier : HeldSince due start later :=
            ih (hAlive.of_renewal rfl) (hEvent.check rfl)
          exact hEarlier.concat (by simp) (by simp)
      | revoke => exact absurd (by simp) hAlive.kept
      | check time =>
          have hStill := hAlive.of_concat rfl
          refine (ih hStill hFinish).concat (by simp) ?_
          intro checked hChecked
          cases hChecked
          rcases hStill.exists_renewal with
            ⟨last, hLast, hDue⟩
          have hLate : time ≤ finish := by
            unfold Ordered at hOrdered
            rw [List.filterMap_append, List.pairwise_append]
              at hOrdered
            exact hOrdered.2.2 time (by simp [Event.time])
              finish (by simp [Event.time])
          exact ⟨last, hLast, le_trans hLate hDue⟩
      | idle =>
          exact (ih (hAlive.of_concat rfl) hFinish).concat
            (by simp) (by simp)

/- It would stand a check at the finish. -/
theorem KeptAlive.heldSince_check
    (hAlive : KeptAlive due start finish later)
    (hOrdered : Ordered (later ++ [.check finish])) :
    HeldSince due start (later ++ [.check finish]) := by
  refine (hAlive.heldSince hOrdered).concat (by simp) ?_
  intro time hTime
  cases hTime
  exact hAlive.exists_renewal

end Lease

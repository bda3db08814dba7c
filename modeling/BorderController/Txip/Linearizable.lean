import BorderController.Txip.Locks
import BorderController.Txip.Orphans
import BorderController.Library.KeyedList

/-
  The server lock by lock is the server method by method.

  `concurrent` takes each method of the session manager for one
  step.  Here the methods themselves interleave, lock by lock.
  Both tables are locked in the same order everywhere and no
  lock is dropped before the last is taken, so that each method
  takes effect at once and no two methods wait for each other.

  Key definitions include:
    * `lockedServer`
    * `Client.IsNew`
    * `effect`
    * `Linearizes`

  Key theorems include:
    * `linearizes_of_path`
    * `every_request_answered`
-/

------------------------------------------------------------
-- Servers Lock by Lock
------------------------------------------------------------

namespace BorderController

namespace Txip

/- A request that has just arrived, or a sweep to be made. -/
def Client.IsNew : Client → Prop
  | .handle request => request.stage = .arrived
  | .sweep _ => True
  | .swept => False

def Client.request : Client → Option Request
  | .handle request => some request
  | _ => none

/- The request is answered, or the sweep is made. -/
def Client.Served : Client → Prop
  | .handle request =>
      ∃ response forwarded,
        request.stage = .finished response forwarded
  | .sweep _ => False
  | .swept => True

abbrev LockedServer : Type :=
  Locking.Pool Table.Contents Client

def LockedServer.new (config : SessionConfig) : LockedServer :=
  { store := (SessionManager.new config).tables
    threads := [] }

def lockedServer
    (config : SessionConfig)
    (tbcId : String) :
    TransitionSystem LockedServer (Locking.Event Client) :=
  Locking.system (Client.method config tbcId)

/-
  What the server does at an event of its clients: it counts
  its requests, and sweeps are not among them.
-/
def action
    (clients : List Client) :
    Locking.Event Client → Option Action
  | .arrive client =>
      client.request.map fun request =>
        .arrive request.ambient request.envelope
  | .step index =>
      match clients[index]? with
      | some (.handle _) =>
          some
            (.advance
              ((clients.take index).filterMap
                Client.request).length)
      | some (.sweep now) => some (.cleanup now)
      | _ => none

/-
  What the server does at a step lock by lock.  A method is
  called before it takes effect, and returns afterwards.
-/
def effect
    (e : Transition LockedServer (Locking.Event Client)) :
    Option Action :=
  if e.source.takesEffect e.label then
    action (e.source.threads.map Locking.Thread.client) e.label
  else
    none

/-
  The server stands where the methods with a result have taken
  effect: its requests are as the threads have them, and a table
  that no method is writing is as the threads see it.
-/
structure Linearizes
    (locked : LockedServer)
    (server : Server) :
    Prop where
  requests :
    server.requests =
      locked.threads.filterMap fun thread =>
        thread.client.request
  tables :
    ∀ table,
      (∀ thread ∈ locked.threads, ¬ thread.Writes table) →
      server.sessionManager.tables table =
        locked.store table

end Txip

end BorderController

------------------------------------------------------------
-- Clients One Method at a Time
------------------------------------------------------------

namespace BorderController

namespace Txip

variable {config : SessionConfig}
variable {tbcId : String}

/- No method changes the configuration. -/
theorem Request.step_config
    {request : Request}
    {state : HttpHandlerState} :
    (request.step state).2.config =
      state.sessionManager.config := by
  unfold step
  cases request.stage with
  | arrived => rfl
  | checked =>
      rcases @route_cases request state with
        hSame | hTouched | ⟨_, _, hClosed⟩ |
          ⟨hello, result, _, hHello⟩
      · exact congrArg SessionManager.config hSame
      · simp only [hTouched,
          SessionManager.touchSession_config]
      · simp only [hClosed]
        rfl
      · have hConfig :=
          congrArg (fun p => p.2.config) hHello
        rw [SessionManager.handleHello_config] at hConfig
        exact hConfig.symm
  | authenticated => exact SessionManager.touchSession_config
  | touched =>
      simp only [deliver_manager]
      rfl
  | greeted sessionInfo => rfl
  | finished response forwarded => rfl

/- The server whose clients take one method at a time. -/
def toServer
    (config : SessionConfig)
    (tbcId : String)
    (atomic : Locking.Atomic Table.Contents Client) :
    Server :=
  { sessionManager := .ofTables config atomic.store
    tbcId
    requests := atomic.clients.filterMap Client.request }

variable {atomic atomic' :
  Locking.Atomic Table.Contents Client}

/- The step of a request that takes a whole method. -/
private theorem advance_toServer
    {index : Nat}
    {request : Request}
    {method : Locked Stage}
    (hClient :
      atomic.clients[index]? = some (.handle request))
    (hMethod : request.locked config tbcId = some method) :
    concurrent.Step (toServer config tbcId atomic)
      (.advance
        ((atomic.clients.take index).filterMap
          Client.request).length)
      (toServer config tbcId
        { store := (method.run atomic.store).2
          clients :=
            atomic.clients.set index
              (.handle
                { request with
                  stage :=
                    (method.run atomic.store).1 }) }) := by
  let state := (toServer config tbcId atomic).toHttpHandlerState
  have hRun :
      method.run atomic.store =
        ((request.step state).1.stage,
          (request.step state).2.tables) := by
    have hState : state.sessionManager.tables = atomic.store :=
      SessionManager.tables_ofTables config atomic.store
    rw [← Request.locked_run hMethod, hState]
  have hManager :
      SessionManager.ofTables config
          (method.run atomic.store).2 =
        (request.step state).2 := by
    have hConfig : (request.step state).2.config = config :=
      Request.step_config
    rw [hRun]
    exact (congrArg
      (SessionManager.ofTables · (request.step state).2.tables)
      hConfig).symm
  have hRequest :
      { request with stage := (method.run atomic.store).1 } =
        (request.step state).1 := by
    rw [hRun, Request.step_stage]
  rcases KeyedList.filterMap_set hClient (f := Client.request) rfl
      (show Client.request
          (.handle
            { request with
              stage := (method.run atomic.store).1 }) =
        some _ from rfl) with
    ⟨hBefore, hAfter⟩
  refine step_advance_iff.mpr ⟨request, hBefore, ?_⟩
  unfold Server.advance
  rw [hRequest] at hAfter
  simp only [toServer, hManager, hRequest, hAfter]
  rfl

/- A sweep that takes its whole method. -/
private theorem cleanup_toServer
    {index : Nat}
    {now : TripleTimestamp}
    (hClient : atomic.clients[index]? = some (.sweep now)) :
    concurrent.Step (toServer config tbcId atomic)
      (.cleanup now)
      (toServer config tbcId
        { store :=
            ((Locked.cleanupExpired config now).run
              atomic.store).2
          clients := atomic.clients.set index .swept }) := by
  have hRun :
      (Locked.cleanupExpired config now).run atomic.store =
        ((), ((SessionManager.ofTables config
          atomic.store).cleanupExpired now).tables) := by
    rw [← Locked.cleanupExpired_run,
      SessionManager.tables_ofTables]
    rfl
  have hRequests :=
    KeyedList.filterMap_set_of_none hClient (f := Client.request) rfl
      (show Client.request .swept = none from rfl)
  unfold concurrent Server.act
  simp only [toServer, hRun, hRequests]
  rfl

/- A step of the clients is what the server does at it. -/
private theorem act_toServer
    {event : Locking.Event Client}
    (hAct :
      atomic.act (Client.method config tbcId) event =
        some atomic')
    (hNew :
      ∀ client, event.arrival = some client → client.IsNew) :
    (action atomic.clients event = none ∧
        toServer config tbcId atomic' =
          toServer config tbcId atomic) ∨
      ∃ done,
        action atomic.clients event = some done ∧
          concurrent.Step (toServer config tbcId atomic) done
            (toServer config tbcId atomic') := by
  cases event with
  | arrive client =>
      cases hAct
      have hClient := hNew client rfl
      have hRequests :
          (atomic.clients ++ [client]).filterMap
              Client.request =
            atomic.clients.filterMap Client.request ++
              [client].filterMap Client.request :=
        List.filterMap_append
      cases client with
      | sweep now =>
          refine Or.inl ⟨rfl, ?_⟩
          simp only [toServer, hRequests]
          rw [show [Client.sweep now].filterMap
            Client.request = [] from rfl, List.append_nil]
      | swept => contradiction
      | handle request =>
          have hArrive :
              request =
                .arrive request.ambient request.envelope := by
            rw [Request.arrive, ← show request.stage = .arrived
              from hClient]
          refine Or.inr
            ⟨.arrive request.ambient request.envelope, rfl, ?_⟩
          rw [hArrive] at hRequests ⊢
          simp only [toServer, hRequests]
          rfl
  | step index =>
      rcases Option.bind_eq_some_iff.mp hAct with
        ⟨client, hClient, hNext⟩
      rcases Option.map_eq_some_iff.mp hNext with
        ⟨whole, hWhole, hAtomic⟩
      subst hAtomic
      simp only [action, hClient]
      cases client with
      | swept => contradiction
      | sweep now =>
          cases hWhole
          refine Or.inr ⟨.cleanup now, rfl, ?_⟩
          rw [Locking.Method.run_map]
          exact cleanup_toServer hClient
      | handle request =>
          rcases Option.map_eq_some_iff.mp hWhole with
            ⟨method, hMethod, hMap⟩
          subst hMap
          refine Or.inr ⟨.advance _, rfl, ?_⟩
          rw [Locking.Method.run_map]
          exact advance_toServer hClient hMethod

/- A run of the clients is a run of the server. -/
private theorem path_toServer
    {fs :
      List
        (Transition (Locking.Atomic Table.Contents Client)
          (Locking.Event Client))}
    (hPath :
      (Locking.atomicSystem (Client.method config tbcId)).Path
        atomic fs atomic')
    (hNew :
      ∀ client ∈ Locking.arrivals fs, client.IsNew) :
    ∃ gs,
      concurrent.Path (toServer config tbcId atomic) gs
          (toServer config tbcId atomic') ∧
        gs.map Transition.label =
          fs.filterMap fun f =>
            action f.source.clients f.label := by
  induction hPath with
  | nil atomic => exact ⟨[], .nil _, rfl⟩
  | @cons atomic middle _ event fs hAct _ ih =>
      have hArrivals :
          Locking.arrivals (⟨atomic, event, middle⟩ :: fs) =
            event.arrival.toList ++ Locking.arrivals fs := by
        unfold Locking.arrivals
        rw [List.filterMap_cons]
        cases event.arrival <;> rfl
      rw [hArrivals, List.forall_mem_append] at hNew
      rcases ih hNew.2 with ⟨gs, hRun, hLabels⟩
      rcases act_toServer hAct
          (fun client hHere =>
            hNew.1 client (by simp [hHere])) with
        ⟨hNone, hStutter⟩ | ⟨done, hDone, hStep⟩
      · rw [hStutter] at hRun
        refine ⟨gs, hRun, ?_⟩
        simp only [List.filterMap_cons, hNone]
        exact hLabels
      · refine ⟨⟨_, done, _⟩ :: gs, .cons hStep hRun, ?_⟩
        simp only [List.filterMap_cons, hDone, ← hLabels,
          List.map_cons]

/- Steps that take effect alike are alike for the server. -/
private theorem effects_of_same
    {es :
      List (Transition LockedServer (Locking.Event Client))}
    {fs :
      List
        (Transition (Locking.Atomic Table.Contents Client)
          (Locking.Event Client))}
    (hSame :
      List.Forall₂ Locking.SameStep
        (es.filter fun e => e.source.takesEffect e.label)
        fs) :
    (fs.filterMap fun f => action f.source.clients f.label) =
      es.filterMap effect := by
  have hEffects :
      es.filterMap effect =
        (es.filter fun e =>
          e.source.takesEffect e.label).filterMap fun e =>
            action (e.source.threads.map Locking.Thread.client)
              e.label :=
    List.filterMap_filter.symm
  rw [hEffects]
  generalize es.filter _ = effective at hSame
  induction hSame with
  | nil => rfl
  | cons hStep _ ih =>
      simp only [List.filterMap_cons, hStep.label,
        hStep.clients, ih]

end Txip

end BorderController

------------------------------------------------------------
-- A HELLO and a Sweep
------------------------------------------------------------

namespace BorderController

namespace Txip

def Event.client : Event → Client
  | .deliver ambient envelope =>
      .handle (.arrive ambient envelope)
  | .cleanup now => .sweep now

/-
  A HELLO and a sweep: the sweep calls while the HELLO has
  written the session table only, and gets its lock after it.
-/
def sweptHello : List (Locking.Event Client) :=
  [ .arrive (helloArrives "msg-1").client,
    .arrive (.sweep sampleClock),
    .step 0, .step 0, .step 0, .step 0, .step 0, .step 0,
    .step 0, .step 0, .step 0,
    .step 1,
    .step 0, .step 0, .step 0, .step 0, .step 0,
    .step 1, .step 1, .step 1,
    .step 0,
    .step 1, .step 1,
    .step 1, .step 1, .step 1, .step 1,
    .step 0, .step 0, .step 0, .step 0, .step 0, .step 0 ]

end Txip

end BorderController

------------------------------------------------------------
-- Linearizability
------------------------------------------------------------

namespace BorderController

namespace Txip

variable {config : SessionConfig}
variable {tbcId : String}
variable {locked : LockedServer}
variable {es :
  List (Transition LockedServer (Locking.Event Client))}

/-
  A run lock by lock is a run method by method, of what takes
  effect in it and in that order.  Since a method takes effect
  between its call and its return, a request that is answered
  before another arrives is answered before it here too.
-/
theorem linearizes_of_path
    (hPath :
      (lockedServer config tbcId).Path (.new config) es
        locked)
    (hNew :
      ∀ client ∈ Locking.arrivals es, client.IsNew) :
    ∃ fs server,
      concurrent.Path (.new config tbcId) fs server ∧
        fs.map Transition.label = es.filterMap effect ∧
        Linearizes locked server := by
  have hMethods :
      ∀ {client : Client} {whole : Locked Client},
        client.method config tbcId = some whole →
        whole.Covered [] := by
    intro client whole hWhole
    rcases Client.method_disciplined hWhole with
      ⟨_, _, hDisciplined⟩
    exact hDisciplined.covered
  rcases (Locking.Simulates.empty _).path hMethods hPath with
    ⟨fs, atomic, hAtomic, hSimulates, hArrivals, hSame⟩
  rw [← hArrivals] at hNew
  rcases path_toServer hAtomic hNew with ⟨gs, hRun, hLabels⟩
  refine ⟨gs, _, hRun, hLabels.trans (effects_of_same hSame),
    ?_⟩
  constructor
  · unfold toServer
    simp only [hSimulates.clients, List.filterMap_map]
    rfl
  · intro table hNone
    unfold toServer
    rw [SessionManager.tables_ofTables]
    exact hSimulates.settled table hNone

/- The sweep takes effect between the methods of the HELLO. -/
theorem sweptHello_linearizes :
    ∃ es locked fs server,
      Locking.perform (Client.method .default "tbc://test")
            sweptHello (LockedServer.new .default) =
          some (es, locked) ∧
        concurrent.Path (.new .default "tbc://test") fs
          server ∧
        fs.map Transition.label =
          [(helloArrives "msg-1").action, .advance 0,
            .advance 0, .cleanup sampleClock, .advance 0] ∧
        Linearizes locked server := by
  have hPerform :
      Locking.perform (Client.method .default "tbc://test")
          sweptHello (LockedServer.new .default) =
        some (_, _) :=
    rfl
  rcases linearizes_of_path (Locking.perform_path hPerform)
      (by
        intro client hMem
        rcases List.mem_cons.mp hMem with hHello | hMem
        · rw [hHello]
          rfl
        · rw [List.mem_singleton.mp hMem]
          trivial) with
    ⟨fs, server, hRun, hLabels, hLinearizes⟩
  exact ⟨_, _, fs, server, hPerform, hRun, hLabels,
    hLinearizes⟩

end Txip

end BorderController

------------------------------------------------------------
-- Progress
------------------------------------------------------------

namespace BorderController

namespace Txip

variable {config : SessionConfig}
variable {tbcId : String}
variable {locked : LockedServer}
variable {es :
  List (Transition LockedServer (Locking.Event Client))}

/- A client without a next method has been served. -/
private theorem served_of_method_eq_none
    {client : Client}
    (hNone : client.method config tbcId = none) :
    client.Served := by
  cases client with
  | sweep now => contradiction
  | swept => trivial
  | handle request =>
      have hLocked := Option.map_eq_none_iff.mp hNone
      unfold Request.locked at hLocked
      cases hStage : request.stage with
      | finished response forwarded =>
          exact ⟨response, forwarded, hStage⟩
      | _ =>
          rw [hStage] at hLocked
          contradiction

/-
  However the locks are given out, a client takes no more steps
  than it costs, and a server on which no thread can step has
  answered every request and made every sweep.
-/
theorem every_request_answered
    (hPath :
      (lockedServer config tbcId).Path (.new config) es
        locked) :
    (∀ index client,
      (Locking.arrivals es)[index]? = some client →
      Locking.stepsOf index es ≤ client.cost) ∧
      ((∀ index,
          locked.act (Client.method config tbcId)
            (.step index) = none) →
        ∀ thread ∈ locked.threads,
          ∃ client, thread = .idle client ∧ client.Served) := by
  constructor
  · intro index client hArrived
    refine Locking.stepsOf_le ?_ hPath hArrived
    intro client whole hWhole
    rcases Client.method_disciplined hWhole with
      ⟨n, hCost, hDisciplined⟩
    exact ⟨n, hCost, hDisciplined.costs⟩
  · intro hStuck thread hMem
    have hOrdered :
        ∀ thread ∈ locked.threads,
          thread.Ordered Table.level := by
      apply hPath.invariant fun locked : LockedServer =>
        ∀ thread ∈ locked.threads,
          thread.Ordered Table.level
      · intro thread hMem
        exact absurd hMem List.not_mem_nil
      · intro _ _ _ hOrdered hStep
        refine Locking.ordered_act ?_ hOrdered hStep
        intro client whole hWhole
        rcases Client.method_disciplined hWhole with
          ⟨_, _, hDisciplined⟩
        exact hDisciplined.ordered
    rcases Locking.Pool.exists_step hOrdered hStuck thread
        hMem with
      ⟨client, hThread, hNone⟩
    exact ⟨client, hThread, served_of_method_eq_none hNone⟩

theorem sweptHello_answered :
    ∃ es locked,
      Locking.perform (Client.method .default "tbc://test")
            sweptHello (LockedServer.new .default) =
          some (es, locked) ∧
        Locking.stepsOf 0 es ≤ 24 ∧
        ∀ thread ∈ locked.threads,
          ∃ client, thread = .idle client ∧ client.Served := by
  have hPerform :
      Locking.perform (Client.method .default "tbc://test")
          sweptHello (LockedServer.new .default) =
        some (_, _) :=
    rfl
  have hServed :=
    every_request_answered (Locking.perform_path hPerform)
  refine ⟨_, _, hPerform, hServed.1 0 _ rfl, hServed.2 ?_⟩
  intro index
  rcases index with _ | _ | index <;> rfl

end Txip

end BorderController

import BorderController.Library.LockOrder
import BorderController.Txip.Concurrent

/-
  The session manager lock by lock.

  The session table and the replay caches have a lock each.  A
  method takes the locks it needs one after another, and other
  threads may come in before it has them all.

  Key definitions include:
    * `Table`, `SessionManager.tables`
    * `Locked.handleHello`, `Locked.isDuplicateMessage`,
      `Locked.recordMessage`, `Locked.touchSession`,
      `Locked.getSession`, `Locked.closeSession`,
      `Locked.cleanupExpired`
    * `Request.locked`
    * `Client`, `Client.method`

  Key theorems include:
    * `Request.locked_run`
    * `Client.method_disciplined`
-/

------------------------------------------------------------
-- Tables
------------------------------------------------------------

namespace BorderController

namespace Txip

inductive Table where
  | sessions
  | messageCache
deriving DecidableEq, Repr

abbrev Table.Contents : Table → Type
  | .sessions => String → Option SessionInfo
  | .messageCache => String → Option (Finset String)

/- The session table is locked before the replay caches. -/
def Table.level : Table → Nat
  | .sessions => 1
  | .messageCache => 0

/- What a method of the session manager does under its locks. -/
abbrev Locked (ρ : Type) : Type :=
  Locking.Method Table.Contents ρ

namespace SessionManager

def tables
    (manager : SessionManager) :
    Locking.Store Table.Contents
  | .sessions => manager.sessions
  | .messageCache => manager.messageCache

def ofTables
    (config : SessionConfig)
    (tables : Locking.Store Table.Contents) :
    SessionManager :=
  { sessions := tables .sessions
    messageCache := tables .messageCache
    config }

variable {manager : SessionManager}

@[simp] theorem tables_sessions :
    manager.tables .sessions = manager.sessions :=
  rfl

@[simp] theorem tables_messageCache :
    manager.tables .messageCache = manager.messageCache :=
  rfl

@[simp] theorem tables_ofTables
    (config : SessionConfig)
    (tables : Locking.Store Table.Contents) :
    (ofTables config tables).tables = tables := by
  funext table
  cases table <;> rfl

@[simp] theorem update_tables_sessions
    (sessions : String → Option SessionInfo) :
    Function.update manager.tables .sessions sessions =
      { manager with sessions }.tables := by
  funext table
  cases table <;> rfl

@[simp] theorem update_tables_messageCache
    (messageCache : String → Option (Finset String)) :
    Function.update manager.tables .messageCache
        messageCache =
      { manager with messageCache }.tables := by
  funext table
  cases table <;> rfl

end SessionManager

end Txip

end BorderController

------------------------------------------------------------
-- Methods
------------------------------------------------------------

namespace BorderController

namespace Txip

namespace Locked

/- Each table is locked right before it is written. -/
def handleHello
    (hello : HelloPayload)
    (sessionId : String)
    (role : Role)
    (now : TripleTimestamp) :
    Locked (Except String SessionInfo) :=
  match negotiateTgpVersion hello.supportedTgpVersions with
  | .error e => .done (.error e)
  | .ok negotiatedTgpVersion =>
      match negotiateChains hello.supportedChains with
      | .error e => .done (.error e)
      | .ok negotiatedChains =>
          let sessionInfo : SessionInfo :=
            { sessionId
              agentId := hello.agentId
              role
              createdMono := now.mono
              createdUnix := now.unix
              createdIso := now.iso
              lastActivityMono := now.mono
              lastActivityUnix := now.unix
              lastActivityIso := now.iso
              negotiatedTgpVersion
              negotiatedChains
              features := hello.features }
          .lock ⟨.sessions, .write⟩ <|
          .access .sessions
            (fun sessions =>
              Function.update sessions sessionId
                (some sessionInfo)) fun _ =>
          .lock ⟨.messageCache, .write⟩ <|
          .access .messageCache
            (fun cache =>
              Function.update cache sessionId (some ∅))
            fun _ =>
          .done (.ok sessionInfo)

def isDuplicateMessage
    (sessionId msgId : String) :
    Locked Bool :=
  .lock ⟨.messageCache, .read⟩ <|
  .access .messageCache id fun cache =>
  .done
    (match cache sessionId with
    | some msgIds => msgId ∈ msgIds
    | none => false)

def recordMessage
    (sessionId msgId : String) :
    Locked Unit :=
  .lock ⟨.messageCache, .write⟩ <|
  .access .messageCache
    (fun cache =>
      Function.update cache sessionId
        (some (insert msgId ((cache sessionId).getD ∅))))
    fun _ =>
  .done ()

def touchSession
    (sessionId : String)
    (now : TripleTimestamp) :
    Locked (Except String Unit) :=
  .lock ⟨.sessions, .write⟩ <|
  .access .sessions
    (fun sessions =>
      match sessions sessionId with
      | some session =>
          Function.update sessions sessionId
            (some (session.touch now))
      | none => sessions) fun sessions =>
  .done
    (match sessions sessionId with
    | some _ => .ok ()
    | none => .error ("Session not found: " ++ sessionId))

def getSession
    (sessionId : String) :
    Locked (Option SessionInfo) :=
  .lock ⟨.sessions, .read⟩ <|
  .access .sessions id fun sessions =>
  .done (sessions sessionId)

/- Both locks are taken before either table is written. -/
def closeSession (sessionId : String) : Locked Unit :=
  .lock ⟨.sessions, .write⟩ <|
  .lock ⟨.messageCache, .write⟩ <|
  .access .sessions
    (fun sessions => Function.update sessions sessionId none)
    fun _ =>
  .access .messageCache
    (fun cache => Function.update cache sessionId none)
    fun _ =>
  .done ()

/- The ids of the sessions left are read before the caches. -/
def cleanupExpired
    (config : SessionConfig)
    (now : TripleTimestamp) :
    Locked Unit :=
  .lock ⟨.sessions, .write⟩ <|
  .access .sessions
    (fun sessions sessionId =>
      (sessions sessionId).filter fun session =>
        !session.isTimedOut now.mono
          config.sessionTimeoutSeconds) fun _ =>
  .access .sessions id fun activeSessions =>
  .lock ⟨.messageCache, .write⟩ <|
  .access .messageCache
    (fun cache sessionId =>
      if (activeSessions sessionId).isSome then
        cache sessionId
      else
        none) fun _ =>
  .done ()

variable (manager : SessionManager)
variable (sessionId msgId : String)
variable (now : TripleTimestamp)

theorem handleHello_run
    (hello : HelloPayload)
    (role : Role) :
    (handleHello hello sessionId role now).run
        manager.tables =
      ((manager.handleHello hello sessionId role now).1,
        (manager.handleHello hello sessionId role
          now).2.tables) := by
  unfold handleHello SessionManager.handleHello
  cases negotiateTgpVersion hello.supportedTgpVersions with
  | error e => rfl
  | ok version =>
      cases negotiateChains hello.supportedChains with
      | error e => rfl
      | ok chains => simp [Locking.Method.run]

theorem isDuplicateMessage_run :
    (isDuplicateMessage sessionId msgId).run manager.tables =
      (manager.isDuplicateMessage sessionId msgId,
        manager.tables) := by
  unfold isDuplicateMessage SessionManager.isDuplicateMessage
  cases hCache : manager.messageCache sessionId <;>
    simp [Locking.Method.run, hCache]

theorem recordMessage_run :
    (recordMessage sessionId msgId).run manager.tables =
      ((), (manager.recordMessage sessionId msgId).tables) := by
  simp [recordMessage, Locking.Method.run,
    SessionManager.recordMessage]

theorem touchSession_run :
    (touchSession sessionId now).run manager.tables =
      ((manager.touchSession sessionId now).1,
        (manager.touchSession sessionId now).2.tables) := by
  unfold touchSession SessionManager.touchSession
  cases hSession : manager.sessions sessionId <;>
    simp [Locking.Method.run, hSession]

theorem getSession_run :
    (getSession sessionId).run manager.tables =
      (manager.getSession sessionId, manager.tables) := by
  simp [getSession, Locking.Method.run, SessionManager.getSession]

theorem closeSession_run :
    (closeSession sessionId).run manager.tables =
      ((), (manager.closeSession sessionId).tables) := by
  simp [closeSession, Locking.Method.run,
    SessionManager.closeSession]

theorem cleanupExpired_run :
    (cleanupExpired manager.config now).run manager.tables =
      ((), (manager.cleanupExpired now).tables) := by
  simp [cleanupExpired, Locking.Method.run,
    SessionManager.cleanupExpired]

end Locked

end Txip

end BorderController

------------------------------------------------------------
-- The Order of the Locks
------------------------------------------------------------

namespace BorderController

namespace Txip

namespace Locked

variable {sessionId msgId : String}
variable {now : TripleTimestamp}
variable {c : Nat}

/-
  The method takes its locks in order, accesses what it has
  locked, and takes `n` steps besides the cost of its result.
-/
def Safe {ρ : Type} (n : Nat) (method : Locked ρ) : Prop :=
  ∀ c,
    method.Disciplined Table.level (fun _ => c) (c + n)

private theorem handleHello_safe
    {hello : HelloPayload}
    {role : Role} :
    (handleHello hello sessionId role now).Safe 8 := by
  intro c
  unfold handleHello
  cases negotiateTgpVersion hello.supportedTgpVersions with
  | error e => exact .done (by omega)
  | ok version =>
      cases negotiateChains hello.supportedChains with
      | error e => exact .done (by omega)
      | ok chains =>
          constructor <;>
            simp [Locking.Method.Covered,
              Locking.Method.Ordered, Locking.Method.Costs,
              Table.level]

private theorem isDuplicateMessage_safe :
    (isDuplicateMessage sessionId msgId).Safe 5 := by
  intro c
  constructor <;>
    simp [isDuplicateMessage, Locking.Method.Covered,
      Locking.Method.Ordered, Locking.Method.Costs]

private theorem recordMessage_safe :
    (recordMessage sessionId msgId).Safe 5 := by
  intro c
  constructor <;>
    simp [recordMessage, Locking.Method.Covered,
      Locking.Method.Ordered, Locking.Method.Costs]

private theorem touchSession_safe :
    (touchSession sessionId now).Safe 5 := by
  intro c
  constructor <;>
    simp [touchSession, Locking.Method.Covered,
      Locking.Method.Ordered, Locking.Method.Costs]

private theorem getSession_safe :
    (getSession sessionId).Safe 5 := by
  intro c
  constructor <;>
    simp [getSession, Locking.Method.Covered,
      Locking.Method.Ordered, Locking.Method.Costs]

private theorem closeSession_safe :
    (closeSession sessionId).Safe 8 := by
  intro c
  constructor <;>
    simp [closeSession, Locking.Method.Covered,
      Locking.Method.Ordered, Locking.Method.Costs,
      Table.level]

private theorem cleanupExpired_safe
    {config : SessionConfig} :
    (cleanupExpired config now).Safe 9 := by
  intro c
  constructor <;>
    simp [cleanupExpired, Locking.Method.Covered,
      Locking.Method.Ordered, Locking.Method.Costs,
      Table.level]

end Locked

end Txip

end BorderController

------------------------------------------------------------
-- Clients
------------------------------------------------------------

namespace BorderController

namespace Txip

namespace Request

variable (request : Request)
variable (config : SessionConfig)
variable (tbcId : String)

/- `validate`, then `is_duplicate_message`. -/
def lockedCheck : Locked Stage :=
  match request.envelope.validate with
  | .error e =>
      .done (request.refuse .txipInvalidEnvelope 400 e false)
  | .ok () =>
      (Locked.isDuplicateMessage request.envelope.sessionId
        request.envelope.msgId).map fun duplicate =>
          if duplicate then request.accept none else .checked

/- The first method of the handler of the message type. -/
def lockedRoute : Locked Stage :=
  let sessionId := request.envelope.sessionId
  match request.envelope.messageType with
  | .control =>
      match request.envelope.payload with
      | .control (.hello hello) =>
          (Locked.handleHello hello sessionId
            request.envelope.role
            request.ambient.sessionClock).map fun
          | .ok sessionInfo => .greeted sessionInfo
          | .error e =>
              request.refuse .txipInternalError 500
                ("Failed to create session: " ++ e) true
      | .control (.heartbeat _) =>
          (Locked.touchSession sessionId
            request.ambient.sessionClock).map fun
          | .error e =>
              request.refuse .txipInternalError 500
                ("Failed to update session: " ++ e) true
          | .ok () => .touched
      | .control (.close _) =>
          (Locked.closeSession sessionId).map fun _ =>
            .finished { status := 200, body := .empty } none
      | .control (.welcome _) =>
          .done
            (request.refuse .txipInvalidEnvelope 400
              "WELCOME messages are sent by TBC, not received"
              false)
      | _ =>
          .done
            (request.refuse .txipInvalidEnvelope 400
              "Invalid payload for CONTROL message" false)
  | .tgp =>
      (Locked.getSession sessionId).map fun
      | none =>
          request.refuse .txipUnauthenticated 401
            "Session not found. Send HELLO first." false
      | some _ => .authenticated
  | .error => .done (request.accept none)

/- `record_message` of a HELLO, and the WELCOME. -/
def lockedGreet (sessionInfo : SessionInfo) : Locked Stage :=
  (Locked.recordMessage request.envelope.sessionId
    request.envelope.msgId).map fun _ =>
      .finished
        { status := 200
          body :=
            .envelope
              (.welcome (generateMsgId request.ambient)
                request.envelope.sessionId tbcId
                sessionInfo.negotiatedTgpVersion
                sessionInfo.negotiatedChains
                sessionInfo.features
                config.heartbeatIntervalSeconds
                request.ambient.responseClock) }
        none

/- `record_message` of the others, and the forwarding point. -/
def lockedDeliver : Locked Stage :=
  (Locked.recordMessage request.envelope.sessionId
    request.envelope.msgId).map fun _ =>
      match request.envelope.messageType,
          request.envelope.payload with
      | .tgp, .tgp _ => request.accept (some request.envelope)
      | .tgp, _ =>
          request.refuse .txipInvalidEnvelope 400
            "Invalid payload for TGP message" false
      | _, _ => request.accept none

/- The next method of the request, unless it is finished. -/
def locked : Option (Locked Stage) :=
  match request.stage with
  | .arrived => some request.lockedCheck
  | .checked => some request.lockedRoute
  | .authenticated =>
      some
        ((Locked.touchSession request.envelope.sessionId
          request.ambient.sessionClock).map fun _ => .touched)
  | .touched => some request.lockedDeliver
  | .greeted sessionInfo =>
      some (request.lockedGreet config tbcId sessionInfo)
  | .finished _ _ => none

variable (state : HttpHandlerState)

theorem lockedCheck_run :
    request.lockedCheck.run state.sessionManager.tables =
      (request.check state, state.sessionManager.tables) := by
  unfold lockedCheck check
  cases request.envelope.validate with
  | error e => rfl
  | ok u => simp [Locked.isDuplicateMessage_run]

theorem lockedRoute_run :
    request.lockedRoute.run state.sessionManager.tables =
      ((request.route state).1,
        (request.route state).2.tables) := by
  unfold lockedRoute route
  cases request.envelope.messageType with
  | control =>
      cases request.envelope.payload with
      | control control =>
          cases control with
          | hello hello =>
              simp only [Locking.Method.run_map,
                Locked.handleHello_run]
              cases state.sessionManager.handleHello hello
                  request.envelope.sessionId
                  request.envelope.role
                  request.ambient.sessionClock with
              | mk result manager => cases result <;> rfl
          | heartbeat heartbeat =>
              simp only [Locking.Method.run_map,
                Locked.touchSession_run]
              cases state.sessionManager.touchSession
                  request.envelope.sessionId
                  request.ambient.sessionClock with
              | mk result manager => cases result <;> rfl
          | close close =>
              simp only [Locking.Method.run_map,
                Locked.closeSession_run]
          | welcome welcome => rfl
      | tgp tgp => rfl
      | error error => rfl
  | tgp =>
      simp only [Locking.Method.run_map,
        Locked.getSession_run]
      cases state.sessionManager.getSession
          request.envelope.sessionId <;> rfl
  | error => rfl

theorem lockedGreet_run (sessionInfo : SessionInfo) :
    (request.lockedGreet state.sessionManager.config
        state.tbcId sessionInfo).run
        state.sessionManager.tables =
      ((request.greet state sessionInfo).1,
        (request.greet state sessionInfo).2.tables) := by
  unfold lockedGreet greet
  rw [Locking.Method.run_map, Locked.recordMessage_run]

theorem lockedDeliver_run :
    request.lockedDeliver.run state.sessionManager.tables =
      ((request.deliver state).1,
        (request.deliver state).2.tables) := by
  unfold lockedDeliver deliver
  rw [Locking.Method.run_map, Locked.recordMessage_run]
  cases request.envelope.messageType <;>
    cases request.envelope.payload <;> rfl

variable {request} {config} {tbcId} {state}

/- A method under its locks is the step of the request. -/
theorem locked_run
    {method : Locked Stage}
    (hMethod :
      request.locked state.sessionManager.config
          state.tbcId =
        some method) :
    method.run state.sessionManager.tables =
      ((request.step state).1.stage,
        (request.step state).2.tables) := by
  unfold locked at hMethod
  unfold step
  cases hStage : request.stage with
  | arrived =>
      rw [hStage] at hMethod
      cases hMethod
      exact lockedCheck_run request state
  | checked =>
      rw [hStage] at hMethod
      cases hMethod
      exact lockedRoute_run request state
  | authenticated =>
      rw [hStage] at hMethod
      cases hMethod
      rw [Locking.Method.run_map, Locked.touchSession_run]
  | touched =>
      rw [hStage] at hMethod
      cases hMethod
      exact lockedDeliver_run request state
  | greeted sessionInfo =>
      rw [hStage] at hMethod
      cases hMethod
      exact lockedGreet_run request state sessionInfo
  | finished response forwarded =>
      rw [hStage] at hMethod
      contradiction

end Request

end Txip

end BorderController

------------------------------------------------------------
-- Steps of a Client
------------------------------------------------------------

namespace BorderController

namespace Txip

/- A request, or a sweep of the expired sessions. -/
inductive Client where
  | handle (request : Request)
  | sweep (now : TripleTimestamp)
  | swept

/- The most steps that a request takes from its stage on. -/
def Stage.cost : Stage → Nat
  | .arrived => 24
  | .checked => 18
  | .authenticated => 12
  | .touched => 6
  | .greeted _ => 6
  | .finished _ _ => 0

namespace Client

def method
    (config : SessionConfig)
    (tbcId : String) :
    Client → Option (Locked Client)
  | .handle request =>
      (request.locked config tbcId).map fun method =>
        method.map fun stage =>
          .handle { request with stage }
  | .sweep now =>
      some ((Locked.cleanupExpired config now).map fun _ =>
        .swept)
  | .swept => none

def cost : Client → Nat
  | .handle request => request.stage.cost
  | .sweep _ => 10
  | .swept => 0

end Client

variable {config : SessionConfig}
variable {tbcId : String}

/- The routing of a request, up to the longest of its ways. -/
private theorem Request.lockedRoute_disciplined
    (request : Request) :
    request.lockedRoute.Disciplined Table.level Stage.cost
      17 := by
  unfold lockedRoute
  cases request.envelope.messageType with
  | control =>
      cases request.envelope.payload with
      | control control =>
          cases control with
          | hello hello =>
              refine (Locked.handleHello_safe 6).map
                (fun result => ?_) (by decide)
              cases result <;> simp [Stage.cost, Request.refuse]
          | heartbeat heartbeat =>
              refine (Locked.touchSession_safe 6).map
                (fun result => ?_) (by decide)
              cases result <;> simp [Stage.cost, Request.refuse]
          | close close =>
              exact (Locked.closeSession_safe 0).map
                (fun _ => Nat.le_refl 0) (by decide)
          | welcome welcome =>
              exact
                .done (by simp [Stage.cost, Request.refuse])
      | tgp tgp =>
          exact .done (by simp [Stage.cost, Request.refuse])
      | error error =>
          exact .done (by simp [Stage.cost, Request.refuse])
  | tgp =>
      refine (Locked.getSession_safe 12).map
        (fun session => ?_) (by decide)
      cases session <;> simp [Stage.cost, Request.refuse]
  | error =>
      exact .done (by simp [Stage.cost, Request.accept])

/- Every method of a request is safe and paid for. -/
private theorem Request.locked_disciplined
    {request : Request}
    {method : Locked Stage}
    (hMethod : request.locked config tbcId = some method) :
    ∃ n,
      request.stage.cost = n + 1 ∧
        method.Disciplined Table.level Stage.cost n := by
  unfold Request.locked at hMethod
  cases hStage : request.stage with
  | arrived =>
      rw [hStage] at hMethod
      cases hMethod
      refine ⟨23, rfl, ?_⟩
      unfold Request.lockedCheck
      cases request.envelope.validate with
      | error e =>
          exact .done (by simp [Stage.cost, Request.refuse])
      | ok u =>
          refine (Locked.isDuplicateMessage_safe 18).map
            (fun duplicate => ?_) (by decide)
          cases duplicate <;>
            simp [Stage.cost, Request.accept]
  | checked =>
      rw [hStage] at hMethod
      cases hMethod
      exact ⟨17, rfl, request.lockedRoute_disciplined⟩
  | authenticated =>
      rw [hStage] at hMethod
      cases hMethod
      exact ⟨11, rfl,
        (Locked.touchSession_safe 6).map
          (fun _ => Nat.le_refl 6) (by decide)⟩
  | touched =>
      rw [hStage] at hMethod
      cases hMethod
      refine ⟨5, rfl, ?_⟩
      unfold Request.lockedDeliver
      refine (Locked.recordMessage_safe 0).map
        (fun _ => ?_) (by decide)
      cases request.envelope.messageType <;>
        cases request.envelope.payload <;> rfl
  | greeted sessionInfo =>
      rw [hStage] at hMethod
      cases hMethod
      exact ⟨5, rfl,
        (Locked.recordMessage_safe 0).map
          (fun _ => Nat.le_refl 0) (by decide)⟩
  | finished response forwarded =>
      rw [hStage] at hMethod
      contradiction

/- Every method of a client is safe and paid for. -/
theorem Client.method_disciplined
    {client : Client}
    {whole : Locked Client}
    (hWhole : client.method config tbcId = some whole) :
    ∃ n,
      client.cost = n + 1 ∧
        whole.Disciplined Table.level Client.cost n := by
  cases client with
  | handle request =>
      rcases Option.map_eq_some_iff.mp hWhole with
        ⟨method, hMethod, hMap⟩
      subst hMap
      rcases Request.locked_disciplined hMethod with
        ⟨n, hCost, hDisciplined⟩
      exact ⟨n, hCost,
        { covered :=
            Locking.Method.covered_map.mpr
              hDisciplined.covered
          ordered :=
            Locking.Method.ordered_map.mpr
              hDisciplined.ordered
          costs :=
            Locking.Method.costs_map.mpr
              hDisciplined.costs }⟩
  | sweep now =>
      cases hWhole
      exact ⟨9, rfl,
        (Locked.cleanupExpired_safe 0).map
          (fun _ => Nat.le_refl 0) (by decide)⟩
  | swept => contradiction

end Txip

end BorderController

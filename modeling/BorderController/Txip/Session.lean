import BorderController.Txip.Types
import Mathlib.Data.Finset.Insert
import Mathlib.Logic.Function.Basic

/-
  The session manager: a table of sessions and, for each, the
  message ids seen, which is the replay cache.

  A hash map is a function to `Option`.  Methods that read the
  clock take the reading.

  Key definitions include:
    * `SessionInfo`
    * `SessionManager`
    * `SessionManager.handleHello`
    * `SessionManager.recordMessage`
    * `SessionManager.cleanupExpired`
-/

------------------------------------------------------------
-- Sessions
------------------------------------------------------------

namespace BorderController

namespace Txip

structure SessionInfo where
  sessionId : String
  agentId : String
  role : Role
  createdMono : UInt64
  createdUnix : UInt64
  createdIso : String
  lastActivityMono : UInt64
  lastActivityUnix : UInt64
  lastActivityIso : String
  negotiatedTgpVersion : String
  negotiatedChains : List ChainId
  features : Features
deriving DecidableEq, Repr

namespace SessionInfo

def isTimedOut
    (currentMono timeoutSeconds : UInt64)
    (session : SessionInfo) :
    Bool :=
  currentMono > session.lastActivityMono + timeoutSeconds

/- The session with the reading as its last activity. -/
def touch
    (now : TripleTimestamp)
    (session : SessionInfo) :
    SessionInfo :=
  { session with
    lastActivityMono := now.mono
    lastActivityUnix := now.unix
    lastActivityIso := now.iso }

end SessionInfo

structure SessionConfig where
  sessionTimeoutSeconds : UInt64
  heartbeatIntervalSeconds : UInt64
deriving DecidableEq, Repr

def SessionConfig.default : SessionConfig :=
  { sessionTimeoutSeconds := 300
    heartbeatIntervalSeconds := 30 }

structure SessionManager where
  sessions : String → Option SessionInfo
  messageCache : String → Option (Finset String)
  config : SessionConfig

end Txip

end BorderController

------------------------------------------------------------
-- Methods
------------------------------------------------------------

namespace BorderController

namespace Txip

def negotiateTgpVersion
    (supported : List String) :
    Except String String :=
  if "2.0" ∈ supported then
    .ok "2.0"
  else
    .error "No compatible TGP version found"

def negotiateChains
    (supported : List ChainId) :
    Except String (List ChainId) :=
  if supported = [] then
    .error "Client must support at least one chain"
  else
    .ok supported

namespace SessionManager

def new (config : SessionConfig) : SessionManager :=
  { sessions := fun _ => none
    messageCache := fun _ => none
    config }

/-
  Both inserts replace what the tables hold for the session id,
  also when the session is live.
-/
def handleHello
    (hello : HelloPayload)
    (sessionId : String)
    (role : Role)
    (now : TripleTimestamp)
    (manager : SessionManager) :
    Except String SessionInfo × SessionManager :=
  match negotiateTgpVersion hello.supportedTgpVersions with
  | .error e => (.error e, manager)
  | .ok negotiatedTgpVersion =>
      match negotiateChains hello.supportedChains with
      | .error e => (.error e, manager)
      | .ok negotiatedChains =>
          let sessionInfo : SessionInfo :=
            { sessionId
              agentId := hello.agentId
              role
              createdMono := now.mono
              createdUnix := now.unix
              createdIso := now.iso
              lastActivityMono := now.mono
              lastActivityUnix := now.unix
              lastActivityIso := now.iso
              negotiatedTgpVersion
              negotiatedChains
              features := hello.features }
          (.ok sessionInfo,
            { manager with
              sessions :=
                Function.update manager.sessions sessionId
                  (some sessionInfo)
              messageCache :=
                Function.update manager.messageCache
                  sessionId (some ∅) })

def isDuplicateMessage
    (sessionId msgId : String)
    (manager : SessionManager) :
    Bool :=
  match manager.messageCache sessionId with
  | some msgIds => msgId ∈ msgIds
  | none => false

/- Recording never fails; the entry is created if missing. -/
def recordMessage
    (sessionId msgId : String)
    (manager : SessionManager) :
    SessionManager :=
  let msgIds := (manager.messageCache sessionId).getD ∅
  { manager with
    messageCache :=
      Function.update manager.messageCache sessionId
        (some (insert msgId msgIds)) }

def touchSession
    (sessionId : String)
    (now : TripleTimestamp)
    (manager : SessionManager) :
    Except String Unit × SessionManager :=
  match manager.sessions sessionId with
  | some session =>
      (.ok (),
        { manager with
          sessions :=
            Function.update manager.sessions sessionId
              (some (session.touch now)) })
  | none =>
      (.error ("Session not found: " ++ sessionId), manager)

def getSession
    (sessionId : String)
    (manager : SessionManager) :
    Option SessionInfo :=
  manager.sessions sessionId

def closeSession
    (sessionId : String)
    (manager : SessionManager) :
    SessionManager :=
  { manager with
    sessions :=
      Function.update manager.sessions sessionId none
    messageCache :=
      Function.update manager.messageCache sessionId none }

/- Drop timed-out sessions, then caches without a session. -/
def cleanupExpired
    (now : TripleTimestamp)
    (manager : SessionManager) :
    SessionManager :=
  let sessions := fun sessionId =>
    (manager.sessions sessionId).filter fun session =>
      !session.isTimedOut now.mono
        manager.config.sessionTimeoutSeconds
  { manager with
    sessions
    messageCache := fun sessionId =>
      if (sessions sessionId).isSome then
        manager.messageCache sessionId
      else
        none }

end SessionManager

end Txip

end BorderController

------------------------------------------------------------
-- Replay Cache Entries
------------------------------------------------------------

namespace BorderController

namespace Txip

namespace SessionManager

variable {manager : SessionManager}
variable {sessionId msgId other : String}

/- The message id is in the replay cache of the session. -/
def Seen
    (sessionId msgId : String)
    (manager : SessionManager) :
    Prop :=
  ∃ msgIds,
    manager.messageCache sessionId = some msgIds ∧
      msgId ∈ msgIds

theorem isDuplicateMessage_iff :
    manager.isDuplicateMessage sessionId msgId = true ↔
      manager.Seen sessionId msgId := by
  unfold isDuplicateMessage Seen
  cases manager.messageCache sessionId <;> simp

/- A recorded message is seen. -/
theorem recordMessage_seen :
    (manager.recordMessage sessionId msgId).Seen
      sessionId msgId :=
  ⟨_, Function.update_self .., Finset.mem_insert_self _ _⟩

/- Recording forgets nothing. -/
theorem Seen.recordMessage
    {sessionId' msgId' : String}
    (hSeen : manager.Seen sessionId msgId) :
    (manager.recordMessage sessionId' msgId').Seen
      sessionId msgId := by
  rcases hSeen with ⟨msgIds, hCache, hMem⟩
  by_cases hSame : sessionId = sessionId'
  · subst hSame
    refine ⟨_, Function.update_self .., ?_⟩
    rw [hCache]
    exact Finset.mem_insert_of_mem hMem
  · refine ⟨msgIds, ?_, hMem⟩
    unfold SessionManager.recordMessage
    rw [← hCache]
    exact Function.update_of_ne hSame _ _

/- A HELLO is refused without a trace, or resets both tables. -/
theorem handleHello_cases
    {hello : HelloPayload}
    {role : Role}
    {now : TripleTimestamp}
    {result : Except String SessionInfo}
    {manager' : SessionManager}
    (hHello :
      manager.handleHello hello sessionId role now =
        (result, manager')) :
    (∃ e, result = .error e ∧ manager' = manager) ∨
      ∃ sessionInfo,
        result = .ok sessionInfo ∧
          manager'.sessions =
            Function.update manager.sessions sessionId
              (some sessionInfo) ∧
          manager'.messageCache =
            Function.update manager.messageCache sessionId
              (some ∅) := by
  unfold SessionManager.handleHello at hHello
  cases hVersion :
      negotiateTgpVersion hello.supportedTgpVersions with
  | error e =>
      rw [hVersion] at hHello
      cases hHello
      exact Or.inl ⟨e, rfl, rfl⟩
  | ok version =>
      cases hChains :
          negotiateChains hello.supportedChains with
      | error e =>
          simp only [hVersion, hChains] at hHello
          cases hHello
          exact Or.inl ⟨e, rfl, rfl⟩
      | ok chains =>
          simp only [hVersion, hChains] at hHello
          cases hHello
          exact Or.inr ⟨_, rfl, rfl, rfl⟩

/- Touching a session changes its entry only. -/
theorem touchSession_sessions
    {now : TripleTimestamp}
    {session : SessionInfo}
    (hSession : manager.sessions sessionId = some session) :
    (manager.touchSession sessionId now).2.sessions =
      Function.update manager.sessions sessionId
        (some (session.touch now)) := by
  unfold touchSession
  rw [hSession]

/- Touching a session leaves the replay caches. -/
@[simp] theorem touchSession_messageCache
    (now : TripleTimestamp) :
    (manager.touchSession sessionId now).2.messageCache =
      manager.messageCache := by
  unfold touchSession
  cases manager.sessions sessionId <;> rfl

theorem handleHello_config
    {hello : HelloPayload}
    {role : Role}
    {now : TripleTimestamp} :
    (manager.handleHello hello sessionId role
      now).2.config = manager.config := by
  unfold handleHello
  cases negotiateTgpVersion hello.supportedTgpVersions with
  | error e => rfl
  | ok version =>
      cases negotiateChains hello.supportedChains <;> rfl

theorem touchSession_config
    {now : TripleTimestamp} :
    (manager.touchSession sessionId now).2.config =
      manager.config := by
  unfold touchSession
  cases manager.sessions sessionId <;> rfl

end SessionManager

end Txip

end BorderController

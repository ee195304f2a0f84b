import SubversionR.Client.SnapshotRpc
import SubversionR.Client.Scheduler
import SubversionR.Daemon.Dispatch

/-!
# Repository sessions — `repositorySessionService.ts`

The extension keeps one session for each working copy it has opened in the daemon, in the order of
their first opening.  A session registers its repository with the file watcher, the snapshot store,
the projection and, through the listener of `extension.ts`, with the remote connection states.
After the daemon was restarted, `reopenOpenSessions` opens every session again and moves the four
registrations to the epoch the new process gives it.

An exception keeps what was done before it, so the operations return the new state next to their
result.  The calls of one operation are answered before the next operation starts.

* `epochOf` — the epoch a repository is registered under, through every operation of the stores;
* `sendOpen_eq_ok_iff`, `sendGetSnapshot_eq_ok` — what the answers of the daemon tell.
-/

namespace SubversionR

open JsonValues Fallible KeyedMaps KeyedMap OrderedMaps

/-! ## Types -/

structure RepositoryOpenRequest where
  path : Text
  pathCase : PathCasePolicy
  boundaryRoots : Option (List Text)

/-- `RepositorySession` of the extension. -/
structure OpenSession where
  repositoryId : Text
  epoch : Nat
  identity : RepositoryIdentity
  watchScope : RepositoryWatchScope
deriving DecidableEq

/-- What the watcher service remembers of a registration besides the watcher itself. -/
structure WatcherRegistration where
  repositoryId : Text
  basePath : Text

inductive RepositorySessionError where
  | openPathRequired
  | boundaryRootInvalid (field : Text)
  | sessionAlreadyOpen (repositoryId : Option Text)
  | boundaryRootOutsideWorkingCopy (field : Text)
  | reopenIdentityMismatch (repositoryId actualRepositoryId : Text)
  | repositoryIdRequired
  | sessionNotOpen (repositoryId : Text)
  | openRollbackFailed (repositoryId : Text) (epoch : Nat)
deriving DecidableEq

def RepositorySessionError.code : RepositorySessionError → Text
  | openPathRequired => "SUBVERSIONR_REPOSITORY_OPEN_PATH_REQUIRED"
  | boundaryRootInvalid _ => "SUBVERSIONR_REPOSITORY_BOUNDARY_ROOT_INVALID"
  | sessionAlreadyOpen _ => "SUBVERSIONR_REPOSITORY_SESSION_ALREADY_OPEN"
  | boundaryRootOutsideWorkingCopy _ => "SUBVERSIONR_REPOSITORY_BOUNDARY_ROOT_OUTSIDE_WORKING_COPY"
  | reopenIdentityMismatch .. => "SUBVERSIONR_REPOSITORY_REOPEN_IDENTITY_MISMATCH"
  | repositoryIdRequired => "SUBVERSIONR_REPOSITORY_ID_REQUIRED"
  | sessionNotOpen _ => "SUBVERSIONR_REPOSITORY_SESSION_NOT_OPEN"
  | openRollbackFailed .. => "SUBVERSIONR_REPOSITORY_OPEN_ROLLBACK_FAILED"

/-- What an operation on a session may throw. -/
inductive SessionFailure where
  | session (error : RepositorySessionError)
  | request (failure : RequestFailure)
  | watcher (repositoryId : Text)
  | store (error : StatusSnapshotStoreError)
  | projection (error : SourceControlResourceStoreError)
  | connection (error : RemoteConnectionStateStoreError)
  | remoteStateProjectionUnavailable (repositoryId : Text)
deriving DecidableEq

/-- `errorCode(error, "SUBVERSIONR_REPOSITORY_REOPEN_FAILED")`; the watcher service throws plain
errors. -/
def SessionFailure.code : SessionFailure → Text
  | .session error => error.code
  | .request (.cancelled _) => "JSON_RPC_REQUEST_CANCELLED"
  | .request (.message error) => error.code
  | .request (.daemon error) => error.code
  | .watcher _ => "SUBVERSIONR_REPOSITORY_REOPEN_FAILED"
  | .store error => error.code
  | .projection error => error.code
  | .connection error => error.code
  | .remoteStateProjectionUnavailable _ => "SUBVERSIONR_SCM_REMOTE_STATE_PROJECTION_UNAVAILABLE"

inductive RepositorySessionReopenResult where
  | reopened (repositoryId : Text) (previousEpoch epoch : Nat) (workingCopyRoot : Text)
  | reopenFailed (repositoryId : Text) (epoch : Nat) (workingCopyRoot code : Text)
deriving DecidableEq

def RepositorySessionReopenResult.repositoryId : RepositorySessionReopenResult → Text
  | reopened repositoryId .. => repositoryId
  | reopenFailed repositoryId .. => repositoryId

def RepositorySessionReopenResult.isReopened : RepositorySessionReopenResult → Bool
  | reopened .. => true
  | reopenFailed .. => false

/-- The extension's state about its repositories. -/
structure SessionClient where
  sessions : OrderedMap Text OpenSession
  watchers : KeyedMap WatcherRegistration.repositoryId
  store : StatusSnapshotStore
  projection : SourceControlProjection
  connection : RemoteConnectionStateStore

/-- The extension and the daemon process it talks to. -/
structure SessionSystem where
  client : SessionClient
  daemon : DaemonState

/-- What the native library answers, and the daemon's clock, during one operation. -/
structure NativeSide where
  openWorkingCopy : Text → Except BridgeFailure RepositoryIdentity
  status : StatusBridge
  now : Text

def SessionClient.empty : SessionClient := ⟨.empty, KeyedMap.empty, .empty, .empty, .empty⟩

/-! ## Requests and responses -/

def repositoryOpenParams (request : RepositoryOpenRequest) : Json :=
  .obj (("path", .str request.path) ::
    match request.boundaryRoots with
    | none => []
    | some roots => [("boundaryRoots", .arr (roots.map Json.str))])

def RepositoryOpenResponse.toJson (response : RepositoryOpenResponse) : Json :=
  .obj [("repositoryId", .str response.repositoryId), ("epoch", .int response.epoch),
    ("identity", response.identity.toJson)]

def RepositoryCloseResponse.toJson (response : RepositoryCloseResponse) : Json :=
  .obj [("repositoryId", .str response.repositoryId), ("epoch", .int response.epoch),
    ("closed", .bool response.closed)]

def repositoryCloseParams (repositoryId : Text) (epoch : Nat) : Json :=
  .obj [("repositoryId", .str repositoryId), ("epoch", .int epoch)]

def invalidOpenResponse (field : Text) : RpcError where
  code := "SUBVERSIONR_REPOSITORY_OPEN_RESPONSE_INVALID"
  category := "protocol"
  messageKey := "error.repository.openResponseInvalid"
  field := field

def invalidCloseResponse (field : Text) : RpcError where
  code := "SUBVERSIONR_REPOSITORY_CLOSE_RESPONSE_INVALID"
  category := "protocol"
  messageKey := "error.repository.closeResponseInvalid"
  field := field

def parseOpenResponse (rawResponse : Json) : Except RpcError RepositoryOpenResponse := do
  let response ← requireRecord invalidOpenResponse (some rawResponse) "result"
  let identity ← requireRecord invalidOpenResponse (response.prop "identity") "identity"
  let text (key : String) :=
    requireString invalidOpenResponse (identity.prop key) (Text.dot "identity" key)
  let repositoryId ← requireString invalidOpenResponse (response.prop "repositoryId") "repositoryId"
  let epoch ← requireNonNegativeInteger invalidOpenResponse (response.prop "epoch") "epoch"
  let repositoryUuid ← text "repositoryUuid"
  let repositoryRootUrl ← text "repositoryRootUrl"
  let workingCopyRoot ← text "workingCopyRoot"
  let workspaceScopeRoot ← text "workspaceScopeRoot"
  let format ← requireSafeInteger invalidOpenResponse (identity.prop "format") "identity.format"
  pure
    { repositoryId, epoch
      identity :=
        { repositoryUuid, repositoryRootUrl, workingCopyRoot, workspaceScopeRoot, format } }

def parseCloseResponse (rawResponse : Json) (repositoryId : Text) (epoch : Nat) :
    Except RpcError RepositoryCloseResponse := do
  let response ← requireRecord invalidCloseResponse (some rawResponse) "result"
  let actualId ← requireString invalidCloseResponse (response.prop "repositoryId") "repositoryId"
  let actualEpoch ← requireNonNegativeInteger invalidCloseResponse (response.prop "epoch") "epoch"
  let closed ← requireBoolean invalidCloseResponse (response.prop "closed") "closed"
  require (actualId = repositoryId) (invalidCloseResponse "repositoryId")
  require (actualEpoch = epoch) (invalidCloseResponse "epoch")
  require (closed = true) (invalidCloseResponse "closed")
  pure ⟨actualId, actualEpoch, closed⟩

/-- `nodePath.win32.isAbsolute` or `nodePath.posix.isAbsolute`, on a path with forward slashes. -/
def isAbsolutePath (path : Text) : Bool :=
  match path with
  | '/' :: _ => true
  | drive :: ':' :: '/' :: _ => drive.isAlpha
  | _ => false

def isSafeAbsolutePath (path : Text) : Bool := isAbsolutePath path && !hasUnsafePathSegments path

/-- The callback of `validateBoundaryRoots`. -/
def validateBoundaryRootsFrom : Nat → List Text → Except RepositorySessionError Unit
  | _, [] => .ok ()
  | index, root :: rest =>
    if root.nonBlankJs = true ∧ isSafeAbsolutePath (normalizeAbsolutePath root) = true then
      validateBoundaryRootsFrom (index + 1) rest
    else .error (.boundaryRootInvalid (Text.item "boundaryRoots" index))

def validateOpenRequest (request : RepositoryOpenRequest) : Except RepositorySessionError Unit :=
  if request.path.nonBlankJs = false then .error .openPathRequired
  else validateBoundaryRootsFrom 0 (request.boundaryRoots.getD [])

section Scope

-- `lower` is `toLocaleLowerCase`
variable (lower : Text → Text)

/-- `comparisonKey` of the session service. -/
def pathCaseKey (pathCase : PathCasePolicy) (path : Text) : Text :=
  match pathCase with
  | .caseInsensitive => lower path
  | .caseSensitive => path

/-- The callback of `validateBoundaryRootScope`. -/
def validateBoundaryRootScopeFrom (pathCase : PathCasePolicy) (workingCopyRootKey : Text) :
    Nat → List Text → Except RepositorySessionError Unit
  | _, [] => .ok ()
  | index, boundaryRoot :: rest =>
    let boundaryRootKey := pathCaseKey lower pathCase
      (normalizeAbsolutePath boundaryRoot)
    if boundaryRootKey = workingCopyRootKey ∨
        (workingCopyRootKey ++ ['/']).isPrefixOf boundaryRootKey = false then
      .error (.boundaryRootOutsideWorkingCopy (Text.item "boundaryRoots" index))
    else validateBoundaryRootScopeFrom pathCase workingCopyRootKey (index + 1) rest

def validateBoundaryRootScope (workingCopyRoot : Text) (request : RepositoryOpenRequest) :
    Except RepositorySessionError Unit :=
  validateBoundaryRootScopeFrom lower request.pathCase
    (pathCaseKey lower request.pathCase (normalizeAbsolutePath workingCopyRoot)) 0
    (request.boundaryRoots.getD [])

def watchScopeFromResponse (response : RepositoryOpenResponse) (request : RepositoryOpenRequest) :
    Except RepositorySessionError RepositoryWatchScope := do
  validateBoundaryRootScope lower response.identity.workingCopyRoot request
  .ok
    { repositoryId := response.repositoryId
      epoch := response.epoch
      workingCopyRoot := response.identity.workingCopyRoot
      pathCase := request.pathCase
      boundaryRoots := request.boundaryRoots }

end Scope

def validateReopenResponse (response : RepositoryOpenResponse) (session : OpenSession) :
    Except RepositorySessionError Unit :=
  if response.repositoryId = session.repositoryId ∧
      response.identity.repositoryUuid = session.identity.repositoryUuid ∧
      response.identity.repositoryRootUrl = session.identity.repositoryRootUrl ∧
      normalizeAbsolutePath response.identity.workingCopyRoot =
        normalizeAbsolutePath session.identity.workingCopyRoot then .ok ()
  else .error (.reopenIdentityMismatch session.repositoryId response.repositoryId)

/-! ## The watcher service -/

/-- A root of a drive or of the file system keeps its slash, a share loses at most one. -/
def normalizeWatchRoot (path : Text) : Text :=
  let normalized := path.forwardSlashes
  match normalized with
  | ['/'] => normalized
  | [drive, ':', '/'] => if drive.isAlpha then normalized
    else Text.trimEndMatches (· = '/') normalized
  | _ => Text.trimEndMatches (· = '/') normalized

namespace SessionClient

def registerWatcher (client : SessionClient) (scope : RepositoryWatchScope) :
    Except SessionFailure SessionClient :=
  if client.watchers.contains scope.repositoryId then .error (.watcher scope.repositoryId)
  else
    .ok { client with
      watchers := client.watchers.insert
        ⟨scope.repositoryId, normalizeWatchRoot scope.workingCopyRoot⟩ }

/-- `replaceRepository`: the watcher stays, so its root must. -/
def replaceWatcher (client : SessionClient) (scope : RepositoryWatchScope) :
    Except SessionFailure Unit :=
  match client.watchers.get? scope.repositoryId with
  | none => .error (.watcher scope.repositoryId)
  | some registration =>
    if registration.basePath ≠ normalizeWatchRoot scope.workingCopyRoot then
      .error (.watcher scope.repositoryId)
    else .ok ()

/-! ## Opening -/

/-- The registrations at the start of the `try` block of `openWorkingCopy`. -/
def register (client : SessionClient) (scope : RepositoryWatchScope) :
    Except SessionFailure SessionClient := do
  let client ← client.registerWatcher scope
  let store ← (client.store.registerRepository scope.repositoryId scope.epoch).mapError .store
  let projection ← (client.projection.registerRepository scope.repositoryId scope.epoch
    scope.workingCopyRoot).mapError .projection
  .ok { client with store, projection }

def applySnapshot (client : SessionClient) (snapshot : StatusSnapshot) :
    Except SessionFailure SessionClient := do
  let store ← (client.store.applySnapshot snapshot).mapError .store
  let projection ← (client.projection.applySnapshot snapshot.header).mapError .projection
  .ok { client with store, projection }

/-- The listener of `extension.ts` on an opened session. -/
def sessionOpened (client : SessionClient) (session : OpenSession) :
    Except SessionFailure Unit × SessionClient :=
  match client.connection.registerRepository session.repositoryId session.epoch with
  | .error error => (.error (.connection error), client)
  | .ok connection =>
    (if (connection.getState session.repositoryId).any
        client.projection.showsRemoteConnectionState then .ok ()
      else .error (.remoteStateProjectionUnavailable session.repositoryId),
      { client with connection })

def storeSession (client : SessionClient) (session : OpenSession) : SessionClient :=
  { client with sessions := client.sessions.set session.repositoryId session }

/-- What `closeRepository` does once the daemon has closed its session; the last step is the
listener of `extension.ts`. -/
def forget (client : SessionClient) (repositoryId : Text) : SessionClient where
  sessions := client.sessions.delete repositoryId
  watchers := client.watchers.erase repositoryId
  store := client.store.unregisterRepository repositoryId
  projection := client.projection.unregisterRepository repositoryId
  connection := client.connection.unregisterRepository repositoryId

/-- A delta that both stores take. -/
def applyDelta (client : SessionClient) (delta : StatusDelta) :
    Except SessionFailure SessionClient := do
  let store ← (client.store.applyDelta delta).mapError .store
  let projection ← (client.projection.applyDelta delta).mapError .projection
  .ok { client with store, projection }

/-! ## Reopening -/

/-- The listener of `extension.ts` on a reopened session. -/
def sessionReopened (client : SessionClient) (session : OpenSession) :
    Except SessionFailure Unit × SessionClient :=
  match client.connection.rebindRepository session.repositoryId session.epoch with
  | .error error => (.error (.connection error), client)
  | .ok (state, connection) =>
    (if client.projection.showsRemoteConnectionState state then .ok ()
      else .error (.remoteStateProjectionUnavailable session.repositoryId),
      { client with connection })

/-- The end of `reopenSession`, once the daemon has sent the new snapshot. -/
def replaceSession (client : SessionClient) (session : OpenSession) (snapshot : StatusSnapshot) :
    Except SessionFailure Unit × SessionClient :=
  match client.store.replaceSnapshot snapshot with
  | .error error => (.error (.store error), client)
  | .ok store =>
    let client := { client with store }
    match client.projection.replaceSnapshot snapshot.header with
    | .error error => (.error (.projection error), client)
    | .ok projection =>
      let client := { client with projection }
      match client.replaceWatcher session.watchScope with
      | .error error => (.error error, client)
      | .ok _ => (client.storeSession session).sessionReopened session

end SessionClient

/-! ## Requests, and what can happen to them -/

/-- `mapRepositoryOpenError`: what `openWorkingCopy` and `reopenSession` throw when the request to
open a working copy is answered with an error. -/
def mapRepositoryOpenError : RequestFailure → SessionFailure
  | .daemon (.repositoryAlreadyOpen repositoryId) =>
    .session (.sessionAlreadyOpen (if repositoryId = [] then none else some repositoryId))
  | .daemon (.bridge failure) =>
    -- the error is known by its code; a failure of the bridge names no repository
    if failure.code = "REPOSITORY_ALREADY_OPEN" then .session (.sessionAlreadyOpen none)
    else .request (.daemon (.bridge failure))
  | failure => .request failure

/-- `repository/open`, read by `parseOpenResponse`. -/
def sendOpen (runtime : Runtime) (native : NativeSide) (request : RepositoryOpenRequest)
    (daemon : DaemonState) : Except SessionFailure RepositoryOpenResponse × DaemonState :=
  match daemon.dispatchRepositoryOpen runtime.platform native.openWorkingCopy
      (repositoryOpenParams request) with
  | (.error error, daemon) => (.error (mapRepositoryOpenError (.daemon error)), daemon)
  | (.ok response, daemon) =>
    ((parseOpenResponse response.toJson).mapError (SessionFailure.request ∘ .message), daemon)

/-- `closeBackendSession`. -/
def sendClose (repositoryId : Text) (epoch : Nat) (daemon : DaemonState) :
    Except SessionFailure RepositoryCloseResponse × DaemonState :=
  match daemon.dispatchRepositoryClose (repositoryCloseParams repositoryId epoch) with
  | (.error error, daemon) => (.error (.request (.daemon error)), daemon)
  | (.ok response, daemon) =>
    ((parseCloseResponse response.toJson repositoryId epoch).mapError
      (SessionFailure.request ∘ .message), daemon)

/-- `getSnapshot` of the snapshot client. -/
def sendGetSnapshot (runtime : Runtime) (native : NativeSide) (request : StatusSnapshotRequest)
    (daemon : DaemonState) : Except SessionFailure StatusSnapshot × DaemonState :=
  match validateSnapshotRequest request with
  | .error error => (.error (.request (.message error)), daemon)
  | .ok _ =>
    match daemon.dispatchStatusGetSnapshot runtime.platform native.status native.now
        request.toJson with
    | (result, daemon) =>
      ((readSnapshotReply runtime.platform request result).mapError .request, daemon)

/-- What happens to a request.  A reply the client's parser rejects is `unanswered`: the daemon has
handled the request and the client sees the error of the parser. -/
inductive Delivery where
  | intact
  | undelivered (failure : RequestFailure)
  | unanswered (failure : RequestFailure)
  | restarted (failure : RequestFailure)
deriving DecidableEq

namespace Delivery

/-- The request with what happens to it; `rejected` is what the caller throws for a failure. -/
def carry {α : Type} (delivery : Delivery) (rejected : RequestFailure → SessionFailure)
    (send : DaemonState → Except SessionFailure α × DaemonState) (daemon : DaemonState) :
    Except SessionFailure α × DaemonState :=
  match delivery with
  | intact => send daemon
  | undelivered failure => (.error (rejected failure), daemon)
  | unanswered failure => (.error (rejected failure), (send daemon).2)
  | restarted failure => (.error (rejected failure), .new)

/-- The daemon handles the request and lives on. -/
def isHandled : Delivery → Bool
  | intact => true
  | undelivered _ => false
  | unanswered _ => true
  | restarted _ => false

def isRestart : Delivery → Bool
  | restarted _ => true
  | _ => false

def isUndelivered : Delivery → Bool
  | undelivered _ => true
  | _ => false

theorem isRestart_iff {delivery : Delivery} :
    delivery.isRestart = true ↔ ∃ failure, delivery = restarted failure := by
  cases delivery <;> simp [isRestart]

theorem isUndelivered_iff {delivery : Delivery} :
    delivery.isUndelivered = true ↔ ∃ failure, delivery = undelivered failure := by
  cases delivery <;> simp [isUndelivered]

@[simp]
theorem carry_intact {α : Type} (rejected : RequestFailure → SessionFailure)
    (send : DaemonState → Except SessionFailure α × DaemonState) (daemon : DaemonState) :
    intact.carry rejected send daemon = send daemon := rfl

end Delivery

/-- The deliveries of the requests of one opening. -/
structure Deliveries where
  openRepository : Delivery
  getSnapshot : Delivery
  closeRepository : Delivery

def Deliveries.intact : Deliveries := ⟨.intact, .intact, .intact⟩

/-! ## Operations with the daemon

Each operation takes what happens to its requests; without `Over` they are all answered. -/

namespace SessionSystem

def initial : SessionSystem := ⟨.empty, .new⟩

/-- The `try` block of `openWorkingCopy`. -/
def fillSessionOver (runtime : Runtime) (native : NativeSide) (delivery : Delivery)
    (response : RepositoryOpenResponse) (request : RepositoryOpenRequest) (s : SessionSystem) :
    Except SessionFailure (OpenSession × SessionClient) × DaemonState :=
  match watchScopeFromResponse runtime.toLocaleLowerCase response request with
  | .error error => (.error (.session error), s.daemon)
  | .ok watchScope =>
    match s.client.register watchScope with
    | .error error => (.error error, s.daemon)
    | .ok client =>
      match delivery.carry .request
          (sendGetSnapshot runtime native ⟨response.repositoryId, response.epoch⟩) s.daemon with
      | (.error error, daemon) => (.error error, daemon)
      | (.ok snapshot, daemon) =>
        match client.applySnapshot snapshot with
        | .error error => (.error error, daemon)
        | .ok client =>
          (.ok (⟨response.repositoryId, response.epoch, response.identity, watchScope⟩, client),
            daemon)

/-- `rollbackOpenedRepository`: close the daemon's session and rethrow. -/
def rollbackOpenedRepositoryOver (delivery : Delivery) (response : RepositoryOpenResponse)
    (error : SessionFailure) (daemon : DaemonState) : SessionFailure × DaemonState :=
  match delivery.carry .request (sendClose response.repositoryId response.epoch) daemon with
  | (.error _, daemon) =>
    (.session (.openRollbackFailed response.repositoryId response.epoch), daemon)
  | (.ok _, daemon) => (error, daemon)

def openWorkingCopyOver (runtime : Runtime) (native : NativeSide) (deliveries : Deliveries)
    (request : RepositoryOpenRequest) (s : SessionSystem) :
    Except SessionFailure OpenSession × SessionSystem :=
  match validateOpenRequest request with
  | .error error => (.error (.session error), s)
  | .ok _ =>
    match deliveries.openRepository.carry mapRepositoryOpenError (sendOpen runtime native request)
        s.daemon with
    | (.error error, daemon) => (.error error, { s with daemon })
    | (.ok response, daemon) =>
      if (s.client.sessions.get? response.repositoryId).isSome then
        (.error (.session (.sessionAlreadyOpen (some response.repositoryId))), { s with daemon })
      else
        match fillSessionOver runtime native deliveries.getSnapshot response request
            { s with daemon } with
        | (.error error, daemon) =>
          -- a registration refuses an id that is taken, so taking it back restores the client
          let (error, daemon) :=
            rollbackOpenedRepositoryOver deliveries.closeRepository response error daemon
          (.error error, { s with daemon })
        | (.ok (session, client), daemon) =>
          match (client.storeSession session).sessionOpened session with
          | (.error error, client) => (.error error, ⟨client, daemon⟩)
          | (.ok _, client) => (.ok session, ⟨client, daemon⟩)

def openWorkingCopy (runtime : Runtime) (native : NativeSide) (request : RepositoryOpenRequest)
    (s : SessionSystem) : Except SessionFailure OpenSession × SessionSystem :=
  s.openWorkingCopyOver runtime native .intact request

def closeRepositoryOver (delivery : Delivery) (repositoryId : Text) (s : SessionSystem) :
    Except SessionFailure Unit × SessionSystem :=
  if repositoryId.nonBlankJs = false then (.error (.session .repositoryIdRequired), s)
  else
    match s.client.sessions.get? repositoryId with
    | none => (.error (.session (.sessionNotOpen repositoryId)), s)
    | some session =>
      match delivery.carry .request (sendClose session.repositoryId session.epoch) s.daemon with
      | (.error error, daemon) => (.error error, { s with daemon })
      | (.ok _, daemon) => (.ok (), ⟨s.client.forget session.repositoryId, daemon⟩)

def closeRepository (repositoryId : Text) (s : SessionSystem) :
    Except SessionFailure Unit × SessionSystem :=
  s.closeRepositoryOver .intact repositoryId

/-- Apply the delta of an answer, when both stores take it. -/
def applyAnswer (answer : Except DaemonError StatusDelta) (client : SessionClient) :
    SessionClient :=
  match answer with
  | .error _ => client
  | .ok delta =>
    match client.applyDelta delta with
    | .error _ => client
    | .ok client => client

def refresh (runtime : Runtime) (native : NativeSide) (params : Json) (s : SessionSystem) :
    SessionSystem :=
  match s.daemon.dispatchStatusRefresh runtime.platform native.status native.now params with
  | (answer, daemon) => ⟨applyAnswer answer s.client, daemon⟩

/-- A remote check; what the daemon knows of trust and lanes is that of `remote`.  A check that is
left to a worker is answered later, with an error. -/
def checkRemote (runtime : Runtime) (env : DaemonEnvironment) (remote : Daemon) (params : Json)
    (s : SessionSystem) : SessionSystem :=
  let handled := { remote with toDaemonState := s.daemon }.dispatchCheckRemote
    (env.on runtime.platform) ⟨.statusCheckRemote, params⟩
  match handled.answer with
  | .ok (.delta delta) => ⟨applyAnswer (.ok delta) s.client, handled.daemon.toDaemonState⟩
  | _ => { s with daemon := handled.daemon.toDaemonState }

end SessionSystem

/-- The request `reopenSession` sends. -/
def OpenSession.reopenRequest (session : OpenSession) : RepositoryOpenRequest where
  path := session.identity.workingCopyRoot
  pathCase := session.watchScope.pathCase
  boundaryRoots := session.watchScope.boundaryRoots

namespace SessionSystem

def reopenSessionOver (runtime : Runtime) (native : NativeSide) (deliveries : Deliveries)
    (session : OpenSession) (s : SessionSystem) :
    Except SessionFailure RepositorySessionReopenResult × SessionSystem :=
  match deliveries.openRepository.carry mapRepositoryOpenError
      (sendOpen runtime native session.reopenRequest) s.daemon with
  | (.error error, daemon) => (.error error, { s with daemon })
  | (.ok response, daemon) =>
    match validateReopenResponse response session with
    | .error error => (.error (.session error), { s with daemon })
    | .ok _ =>
      match deliveries.getSnapshot.carry .request
          (sendGetSnapshot runtime native ⟨response.repositoryId, response.epoch⟩) daemon with
      | (.error error, daemon) => (.error error, { s with daemon })
      | (.ok snapshot, daemon) =>
        match watchScopeFromResponse runtime.toLocaleLowerCase response session.reopenRequest with
        | .error error => (.error (.session error), { s with daemon })
        | .ok watchScope =>
          match s.client.replaceSession
              ⟨response.repositoryId, response.epoch, response.identity, watchScope⟩ snapshot with
          | (.error error, client) => (.error error, ⟨client, daemon⟩)
          | (.ok _, client) =>
            (.ok (.reopened response.repositoryId session.epoch response.epoch
              response.identity.workingCopyRoot), ⟨client, daemon⟩)

/-- The body of the loop of `reopenOpenSessions`: a failed session does not stop the others. -/
def tryReopenSessionOver (runtime : Runtime) (native : NativeSide) (deliveries : Deliveries)
    (session : OpenSession) (s : SessionSystem) : RepositorySessionReopenResult × SessionSystem :=
  match s.reopenSessionOver runtime native deliveries session with
  | (.error error, s) =>
    (.reopenFailed session.repositoryId session.epoch session.identity.workingCopyRoot
      error.code, s)
  | (.ok result, s) => (result, s)

/-- The loop of `reopenOpenSessions`; `native i` is the native side during its turn `i`, and
`deliveries i` is what happens to the requests of that turn. -/
def reopenFromOver (runtime : Runtime) (native : Nat → NativeSide)
    (deliveries : Nat → Deliveries) :
    Nat → List OpenSession → SessionSystem → List RepositorySessionReopenResult × SessionSystem
  | _, [], s => ([], s)
  | i, session :: rest, s =>
    let (result, s) := s.tryReopenSessionOver runtime (native i) (deliveries i) session
    let (results, s) := reopenFromOver runtime native deliveries (i + 1) rest s
    (result :: results, s)

abbrev reopenFrom (runtime : Runtime) (native : Nat → NativeSide) :=
  reopenFromOver runtime native fun _ => .intact

def reopenOpenSessionsOver (runtime : Runtime) (native : Nat → NativeSide)
    (deliveries : Nat → Deliveries) (s : SessionSystem) :
    List RepositorySessionReopenResult × SessionSystem :=
  reopenFromOver runtime native deliveries 0 s.client.sessions.values s

def reopenOpenSessions (runtime : Runtime) (native : Nat → NativeSide) (s : SessionSystem) :
    List RepositorySessionReopenResult × SessionSystem :=
  s.reopenOpenSessionsOver runtime native fun _ => .intact

end SessionSystem

/-! ## Registered epochs

Of the three stores, the guards of a reopening read the epoch under which a repository is
registered. -/

def StatusSnapshotStore.epochOf (store : StatusSnapshotStore) (repositoryId : Text) : Option Nat :=
  (store.repositories.get? repositoryId).map RepositoryState.epoch

def SourceControlProjection.epochOf (projection : SourceControlProjection) (repositoryId : Text) :
    Option Nat :=
  (projection.repositories.get? repositoryId).map RepositoryProjectionState.epoch

def RemoteConnectionStateStore.epochOf (store : RemoteConnectionStateStore) (repositoryId : Text) :
    Option Nat :=
  (store.repositories.get? repositoryId).map RemoteConnectionState.epoch

namespace StatusSnapshotStore

variable {store store' : StatusSnapshotStore}

theorem epochOf_of_registerRepository {repositoryId : Text} {epoch : Nat}
    (h : store.registerRepository repositoryId epoch = .ok store') (id : Text) :
    store'.epochOf id = if repositoryId = id then some epoch else store.epochOf id := by
  unfold registerRepository at h
  iterate 3
    split at h
    · cases h
  cases h
  exact map_get?_insert ..

/-- A delta is taken under the epoch of the repository only. -/
theorem epochOf_of_applyDelta {delta : StatusDelta} (h : store.applyDelta delta = .ok store') :
    store'.epochOf = store.epochOf := by
  funext id
  obtain ⟨_, _, hget, hstate, rfl⟩ := update_eq_ok_iff.mp h
  obtain ⟨-, _, -, -, _, -, rfl⟩ := RepositoryState.applyDelta_eq_ok_iff.mp hstate
  exact map_get?_insert_of_get? hget (by rfl) (by rfl) id

/-- The repository of a snapshot is then registered under its epoch. -/
theorem epochOf_of_applySnapshot {snapshot : StatusSnapshot}
    (h : store.applySnapshot snapshot = .ok store') (id : Text) :
    store'.epochOf id =
      if snapshot.repositoryId = id then some snapshot.epoch else store.epochOf id := by
  obtain ⟨_, _, hget, hstate, rfl⟩ := update_eq_ok_iff.mp h
  rw [RepositoryState.eq_of_applySnapshot (.inl hstate), ← key_of_get? hget]
  exact map_get?_insert ..

theorem epochOf_unregisterRepository (store : StatusSnapshotStore) (repositoryId id : Text) :
    (store.unregisterRepository repositoryId).epochOf id =
      if repositoryId = id then none else store.epochOf id :=
  map_get?_erase ..

end StatusSnapshotStore

namespace SourceControlProjection

variable {projection projection' : SourceControlProjection}

theorem epochOf_of_registerRepository {repositoryId workingCopyRoot : Text} {epoch : Nat}
    (h : projection.registerRepository repositoryId epoch workingCopyRoot = .ok projection')
    (id : Text) :
    projection'.epochOf id = if repositoryId = id then some epoch else projection.epochOf id := by
  unfold registerRepository at h
  iterate 4
    split at h
    · cases h
  cases h
  exact map_get?_insert ..

theorem epochOf_of_applyDelta {delta : StatusDelta}
    (h : projection.applyDelta delta = .ok projection') :
    projection'.epochOf = projection.epochOf := by
  funext id
  obtain ⟨_, _, hget, hstate, rfl⟩ := update_eq_ok_iff.mp h
  obtain ⟨-, _, -, -, rfl⟩ := RepositoryProjectionState.applyDelta_eq_ok_iff.mp hstate
  exact map_get?_insert_of_get? hget (by rfl) (by rfl) id

theorem epochOf_of_applySnapshot {snapshot : SnapshotHeader}
    (h : projection.applySnapshot snapshot = .ok projection') (id : Text) :
    projection'.epochOf id =
      if snapshot.repositoryId = id then some snapshot.epoch else projection.epochOf id := by
  obtain ⟨_, _, hget, hstate, rfl⟩ := update_eq_ok_iff.mp h
  obtain ⟨hepoch, -, rfl⟩ := RepositoryProjectionState.applySnapshot_eq_ok_iff.mp hstate
  rw [← hepoch, ← key_of_get? hget]
  exact map_get?_insert ..

theorem epochOf_unregisterRepository (projection : SourceControlProjection)
    (repositoryId id : Text) :
    (projection.unregisterRepository repositoryId).epochOf id =
      if repositoryId = id then none else projection.epochOf id :=
  map_get?_erase ..

end SourceControlProjection

namespace RemoteConnectionStateStore

theorem epochOf_update (store : RemoteConnectionStateStore) (state : RemoteConnectionState)
    (id : Text) :
    (store.update state).epochOf id =
      if state.repositoryId = id then some state.epoch else store.epochOf id :=
  map_get?_insert ..

theorem epochOf_unregisterRepository (store : RemoteConnectionStateStore) (repositoryId id : Text) :
    (store.unregisterRepository repositoryId).epochOf id =
      if repositoryId = id then none else store.epochOf id :=
  map_get?_erase ..

/-- A valid repository that is not registered can be. -/
theorem registerRepository_of_fresh {store : RemoteConnectionStateStore} {repositoryId : Text}
    {epoch : Nat} (hid : repositoryId.nonBlankJs = true) (hepoch : isSafeInteger epoch = true)
    (hfresh : store.epochOf repositoryId = none) :
    ∃ state, state.repositoryId = repositoryId ∧ state.epoch = epoch ∧
      store.registerRepository repositoryId epoch = .ok (store.update state) := by
  have hget : store.repositories.get? repositoryId = none := Option.map_eq_none_iff.mp hfresh
  have hvalid := validateRepository_eq_ok_iff.mpr ⟨hid, hepoch⟩
  refine ⟨⟨repositoryId, epoch, .unchecked, ⟨.unchecked, none⟩, .notRequired, none⟩, rfl, rfl, ?_⟩
  unfold registerRepository
  rw [hvalid]
  rw [contains_eq_false_iff.mpr hget]
  rfl

end RemoteConnectionStateStore

/-! ## Requests, answered -/

/-- What `parseOpenResponse` checks. -/
structure RepositoryOpenResponse.Accepted (response : RepositoryOpenResponse) : Prop where
  repositoryId : response.repositoryId.nonBlankJs = true
  epoch : response.epoch < 2 ^ 53
  identity : response.identity.Accepted

theorem parseOpenResponse_accepts {response : RepositoryOpenResponse} :
    Accepts (parseOpenResponse response.toJson) response response.Accepted := by
  refine .congr (.bind requireRecord_accepts
    (.bind requireRecord_accepts
    (.bind requireString_accepts
    (.bind requireNonNegativeInteger_accepts
    (.bind requireString_accepts
    (.bind requireString_accepts
    (.bind requireString_accepts
    (.bind requireString_accepts
    (.bind requireSafeInteger_accepts .pure))))))))) ?_
  constructor
  · intro ⟨_, _, hid, hepoch, huuid, hurl, hroot, hscope, hformat, _⟩
    exact ⟨hid, hepoch, ⟨huuid, hurl, hroot, hscope, hformat⟩⟩
  · intro ⟨hid, hepoch, hidentity⟩
    exact ⟨trivial, trivial, hid, hepoch, hidentity.repositoryUuid, hidentity.repositoryRootUrl,
      hidentity.workingCopyRoot, hidentity.workspaceScopeRoot, hidentity.format, trivial⟩

variable {runtime : Runtime} {native : NativeSide} {request : RepositoryOpenRequest}
  {daemon daemon' : DaemonState}

theorem sendOpen_eq_ok_iff {response : RepositoryOpenResponse} :
    sendOpen runtime native request daemon = (.ok response, daemon') ↔
      daemon.dispatchRepositoryOpen runtime.platform native.openWorkingCopy
        (repositoryOpenParams request) = (.ok response, daemon') ∧ response.Accepted := by
  unfold sendOpen
  rcases daemon.dispatchRepositoryOpen runtime.platform native.openWorkingCopy
    (repositoryOpenParams request) with ⟨error | sent, after⟩
  · simp
  · rw [Prod.mk.injEq, parseOpenResponse_accepts.mapError response, Prod.mk.injEq, Except.ok.injEq]
    constructor
    · rintro ⟨⟨haccepted, rfl⟩, rfl⟩
      exact ⟨⟨rfl, rfl⟩, haccepted⟩
    · rintro ⟨⟨rfl, rfl⟩, haccepted⟩
      exact ⟨⟨haccepted, rfl⟩, rfl⟩

theorem sendOpen_snd : (sendOpen runtime native request daemon).2 =
    (daemon.dispatchRepositoryOpen runtime.platform native.openWorkingCopy
      (repositoryOpenParams request)).2 := by
  unfold sendOpen
  split <;> rename_i hanswer <;> rw [hanswer]

theorem sendOpen_nextEpoch_le :
    daemon.nextEpoch ≤ (sendOpen runtime native request daemon).2.nextEpoch := by
  rw [sendOpen_snd]
  rcases hopen : daemon.dispatchRepositoryOpen runtime.platform native.openWorkingCopy
    (repositoryOpenParams request) with ⟨error | response, after⟩
  · exact (congrArg DaemonState.nextEpoch (DaemonState.dispatchRepositoryOpen_error hopen).1).ge
  · obtain ⟨_, _, _, _, -, -, -, -, -, -, rfl⟩ :=
      DaemonState.dispatchRepositoryOpen_eq_ok_iff.mp hopen
    exact Nat.le_succ _

theorem sendClose_snd (repositoryId : Text) (epoch : Nat) (daemon : DaemonState) :
    (sendClose repositoryId epoch daemon).2 =
      (daemon.dispatchRepositoryClose (repositoryCloseParams repositoryId epoch)).2 := by
  unfold sendClose
  split <;> rename_i hanswer <;> rw [hanswer]

theorem sendClose_nextEpoch (repositoryId : Text) (epoch : Nat) (daemon : DaemonState) :
    (sendClose repositoryId epoch daemon).2.nextEpoch = daemon.nextEpoch := by
  rw [sendClose_snd]
  exact DaemonState.dispatchRepositoryClose_nextEpoch

theorem sendGetSnapshot_nextEpoch {request : StatusSnapshotRequest} :
    (sendGetSnapshot runtime native request daemon).2.nextEpoch = daemon.nextEpoch := by
  unfold sendGetSnapshot
  split
  · rfl
  · exact DaemonState.dispatchStatusGetSnapshot_nextEpoch

/-- The snapshot that arrives is about the session that was asked for. -/
theorem sendGetSnapshot_eq_ok {request : StatusSnapshotRequest} {snapshot : StatusSnapshot}
    (h : sendGetSnapshot runtime native request daemon = (.ok snapshot, daemon')) :
    snapshot.repositoryId = request.repositoryId ∧ snapshot.epoch = request.epoch := by
  unfold sendGetSnapshot at h
  split at h
  · cases h
  obtain ⟨hread, -⟩ := Prod.mk.inj h
  obtain ⟨-, -, hid, hepoch⟩ := readSnapshotReply_eq_ok_iff.mp (mapError_eq_ok_iff.mp hread)
  exact ⟨hid, hepoch⟩

theorem carry_eq_ok {α : Type} {send : DaemonState → Except SessionFailure α × DaemonState}
    {rejected : RequestFailure → SessionFailure} {delivery : Delivery} {a : α}
    (h : delivery.carry rejected send daemon = (.ok a, daemon')) :
    delivery = .intact ∧ send daemon = (.ok a, daemon') := by
  cases delivery with
  | intact => exact ⟨rfl, h⟩
  | undelivered failure => cases h
  | unanswered failure => cases h
  | restarted failure => cases h

namespace SessionSystem

theorem fillSessionOver_eq_ok {delivery : Delivery} {response : RepositoryOpenResponse}
    {s : SessionSystem} {session : OpenSession} {client : SessionClient}
    (h : fillSessionOver runtime native delivery response request s =
      (.ok (session, client), daemon)) :
    ∃ scope registered snapshot,
      watchScopeFromResponse runtime.toLocaleLowerCase response request = .ok scope ∧
        session = ⟨response.repositoryId, response.epoch, response.identity, scope⟩ ∧
        s.client.register scope = .ok registered ∧
        snapshot.repositoryId = response.repositoryId ∧ snapshot.epoch = response.epoch ∧
        registered.applySnapshot snapshot = .ok client := by
  unfold fillSessionOver at h
  split at h
  · cases h
  rename_i scope hscope
  split at h
  · cases h
  rename_i registered hregister
  split at h
  · cases h
  rename_i snapshot _ hsnapshot
  obtain ⟨hid, hepoch⟩ := sendGetSnapshot_eq_ok (carry_eq_ok hsnapshot).2
  split at h
  · cases h
  rename_i hfilled
  cases h
  exact ⟨scope, registered, snapshot, hscope, rfl, hregister, hid, hepoch, hfilled⟩

theorem rollbackOpenedRepositoryOver_snd (delivery : Delivery) (response : RepositoryOpenResponse)
    (error : SessionFailure) (daemon : DaemonState) :
    (rollbackOpenedRepositoryOver delivery response error daemon).2 =
      (delivery.carry .request (sendClose response.repositoryId response.epoch) daemon).2 := by
  unfold rollbackOpenedRepositoryOver
  split <;> rename_i hanswer <;> rw [hanswer]

end SessionSystem

end SubversionR

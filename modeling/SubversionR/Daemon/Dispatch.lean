import SubversionR.Daemon.Lanes
import SubversionR.Daemon.Discovery

/-!
# Daemon dispatch — every request, from the lane gate to the answer

`dispatch_request_with_auth_and_cancellation` of the daemon's `state.rs` with all its handlers.  A
request first passes the *gate*, which reads the paths it names from the raw parameters and refuses
it when one of them overlaps a lane.  A handler answers, may store a launch, and is *instrumented*:
`bridgePaths` collects the absolute paths and working copy roots it hands to the native bridge, and
`preflightUrls` the URLs it hands to the preflight.

Everything outside the daemon (bridge, worker, file system, clock) is a `DaemonEnvironment`, chosen
anew for each request.

* `nativeLaneFailureForRequest_isSome_iff` — the gate refuses exactly the requests one of whose
  paths overlaps a lane;
* `handle_effect` — the complete list of what a handler can do to the state.
-/

namespace SubversionR

open KeyedMaps KeyedMap JsonValues PathOrder DaemonState

/-! ## Requests and surroundings -/

inductive RequestMethod where
  | initializeBackend
  | workspaceTrustUpdate
  | repositoryDiscover
  | repositoryOpen
  | repositoryCheckout
  | repositoryClose
  | statusGetSnapshot
  | statusRefresh
  | statusCheckRemote
  | contentGet
  | propertiesList
  | historyLog
  | historyBlame
  | operationRun
  | remoteRecoverWorkingCopy
  | diagnosticsGet
  | shutdown
  | unknown (name : Text)
deriving DecidableEq

/-- A request without its id; missing parameters are `null`. -/
structure JsonRpcRequest where
  method : RequestMethod
  params : Json

/-- What the supervisor of the remote workers answers. -/
structure RemoteWorker where
  capabilityAvailable : Bool
  updateWorkspaceTrust : (trusted : Bool) → Except BridgeFailure Unit
  execute : Except BridgeFailure Unit
  disconnect : Except BridgeFailure Unit

/-- Everything a request meets outside the daemon.  `native` is the answer of the bridge call a
content, property, history, checkout or operation request ends in. -/
structure DaemonEnvironment where
  platform : Platform
  codec : RemoteCodec
  now : Text
  status : StatusBridge
  opening : OpenBridge
  native : Except BridgeFailure Json
  files : FileSystem
  worker : RemoteWorker

/-- The environment on the platform the daemon was built for. -/
def DaemonEnvironment.on (env : DaemonEnvironment) (platform : Platform) : DaemonEnvironment :=
  { env with platform }

/-- The results of the requests. -/
inductive DaemonResult where
  | acknowledged (trustEpoch : Nat)
  | diagnostics (openRepositories cachedLocalEntries : Nat)
  | discovered (candidates : List RepositoryDiscoveryCandidate) (fileExternalBoundaries : List Text)
  | opened (response : RepositoryOpenResponse)
  | closed (response : RepositoryCloseResponse)
  | snapshot (snapshot : StatusSnapshot)
  | delta (delta : StatusDelta)
  | native (value : Json)
  /-- The request is answered when its worker settles. -/
  | pending
  | recovery (outcome : Daemon.RemoteRecoveryOutcome)
  | accepted

/-- No status message, and no session. -/
def DaemonResult.isQuiet : DaemonResult → Bool
  | .opened _ | .snapshot _ | .delta _ => false
  | _ => true

/-- What a handler returns, with the record of the calls it made. -/
structure Handled where
  answer : Except DaemonError DaemonResult
  bridgePaths : List Text
  preflightUrls : List Text
  remoteLaunch : Option RemoteLaunchPlan
  remoteRecoveryLaunch : Option RemoteRecoveryLaunch
  daemon : Daemon

namespace Daemon

/-- A refusal before any call. -/
def refuse (daemon : Daemon) (error : DaemonError) : Handled :=
  ⟨.error error, [], [], none, none, daemon⟩

/-- An answer without a launch. -/
def reply (daemon : Daemon) (bridgePaths : List Text) (answer : Except DaemonError DaemonResult) :
    Handled :=
  ⟨answer, bridgePaths, [], none, none, daemon⟩

/-! ## The gate -/

/-- `targetPath`, or else `path`. -/
def namedPath (params : Json) : Option Json := (params.prop "targetPath").or (params.prop "path")

/-- The absolute paths the gate reads from the parameters, as they are written. -/
def readPaths (platform : Platform) (request : JsonRpcRequest) : List Text :=
  let named := match namedPath request.params with
    | some (.str path) => [path]
    | _ => []
  let workspaceRoots := match request.method, request.params.prop "workspaceRoots" with
    | .repositoryDiscover, some (.arr roots) => roots.filterMap fun
      | .str path => some path
      | _ => none
    | _, _ => []
  (named ++ workspaceRoots).filter (isAbsoluteRustPath platform)

/-- The session whose id the request names. -/
def namedSession (daemon : Daemon) (params : Json) : Option RepositorySession :=
  match params.prop "repositoryId" with
  | some (.str repositoryId) => daemon.repositories.get? repositoryId
  | _ => none

/-- The keys of the paths the gate reads from a request. -/
def requestPathKeys (platform : Platform) (daemon : Daemon) (request : JsonRpcRequest) :
    List Text :=
  let roots := (daemon.namedSession request.params).toList.map fun session =>
    session.identity.workingCopyRoot
  ((roots ++ readPaths platform request).map (absolutePathKey platform)).mergeSort
    fun left right => (compare left right).isLE

/-- The keys are equal or one is an ancestor of the other. -/
def keysOverlap (left right : Text) : Bool :=
  decide (left = right) || isDescendantPathKey left right || isDescendantPathKey right left

/-- The methods the gate lets pass unread. -/
def gateExempt : RequestMethod → Bool
  | .initializeBackend | .workspaceTrustUpdate | .diagnosticsGet | .remoteRecoverWorkingCopy
  | .shutdown => true
  | _ => false

/-- `native_lane_failure_for_request`. -/
def nativeLaneFailureForRequest (platform : Platform) (daemon : Daemon) (request : JsonRpcRequest) :
    Option BridgeFailure :=
  if gateExempt request.method then none
  else (requestPathKeys platform daemon request).findSome? fun key =>
    (daemon.remoteNativeLanes.values.find? fun lane => keysOverlap key lane.laneKey).map fun lane =>
      lane.state.failure

/-! ## Trust -/

/-- `dispatch_initialize`. -/
def dispatchInitialize (env : DaemonEnvironment) (params : Json) (daemon : Daemon) : Handled :=
  if daemon.remoteTrust.isSome then
    daemon.refuse (.bridge ⟨"SUBVERSIONR_INITIALIZE_ALREADY_COMPLETED", "state",
      "error.backend.initializeAlreadyCompleted", false⟩)
  else
    match params with
    | .obj fields =>
      let params : Json := .obj fields
      match unexpectedParam params
        ["clientName", "clientVersion", "locale", "workspaceTrust", "trustEpoch", "cacheRoot"] with
      | some field => daemon.refuse (.invalidParams field)
      | none =>
        match FieldCheck.runAll
          [.text [] "clientName" Text.nonBlankRust, .text [] "clientVersion" Text.nonBlankRust,
           .text [] "locale" Text.nonBlankRust,
           .text [] "cacheRoot" (fun root =>
             root.nonBlankRust && isAbsoluteRustPath env.platform root),
           .number "trustEpoch" 1 1,
           .text [] "workspaceTrust" (fun trust => trust = "trusted" || trust = "untrusted")]
          params with
        | .error field => daemon.refuse (.invalidParams field)
        | .ok _ =>
          let trusted := textValue params "workspaceTrust" fun trust => trust = "trusted"
          match RemoteTrustState.new trusted 1 with
          | .error refusal => daemon.refuse (.bridge refusal.failure)
          | .ok trust =>
            match env.worker.updateWorkspaceTrust trusted with
            | .error failure => daemon.refuse (.bridge failure)
            | .ok _ =>
              { daemon with remoteTrust := some trust }.reply []
                (.ok (.acknowledged trust.acknowledgedEpoch))
    | _ => daemon.refuse (.invalidParams "params")

/-- `WorkspaceTrustUpdateParams`, as an object or as the list of its two fields. -/
def trustUpdateParams (params : Json) : Option (Bool × Nat) :=
  match params with
  | .obj fields =>
    match unexpectedParam (.obj fields) ["trusted", "trustEpoch"] with
    | some _ => none
    | none => (boolParam (.obj fields) "trusted").bind fun trusted =>
        (u64Param (.obj fields) "trustEpoch").map fun trustEpoch => (trusted, trustEpoch)
  | .arr [.bool trusted, .int n] => if 0 ≤ n ∧ n < 2 ^ 64 then some (trusted, n.toNat) else none
  | _ => none

/-- `dispatch_workspace_trust_update`. -/
def dispatchWorkspaceTrustUpdate (env : DaemonEnvironment) (params : Json) (daemon : Daemon) :
    Handled :=
  match trustUpdateParams params with
  | none => daemon.refuse (.invalidParams "params")
  | some (trusted, trustEpoch) =>
    match daemon.remoteTrust with
    | none =>
      daemon.refuse (.bridge ⟨"SUBVERSIONR_REMOTE_TRUST_NOT_INITIALIZED", "state",
        "error.remote.trustNotInitialized", false⟩)
    | some trust =>
      match trust.validateUpdate trustEpoch with
      | .error refusal => daemon.refuse (.bridge refusal.failure)
      | .ok _ =>
        match env.worker.updateWorkspaceTrust trusted with
        | .error failure => daemon.refuse (.bridge failure)
        | .ok _ =>
          { daemon with remoteTrust := some (trust.commitUpdate trusted trustEpoch) }.reply []
            (.ok (.acknowledged trustEpoch))

/-! ## The preflight of a remote operation -/

/-- `remote_effect_for_request`. -/
def remoteEffectForRequest (request : JsonRpcRequest) : Option RemoteOperationEffect :=
  match request.method with
  | .repositoryCheckout => some .mutation
  | .statusCheckRemote | .contentGet | .historyLog | .historyBlame => some .readOnly
  | .operationRun =>
    match request.params.prop "kind" with
    | some (.str kind) =>
      match OperationKind.ofText? kind with
      | some .update | some .lock | some .unlock | some .branchCreate | some .switch
      | some .relocate | some .merge | some .commit => some .mutation
      | _ => none
    | _ => none
  | _ => none

/-- The open session whose working copy is the one of the lane. -/
def attribution (platform : Platform) (daemon : Daemon) (laneKey : Text) :
    Option RepositorySession :=
  daemon.repositories.values.find? fun session =>
    decide (absolutePathKey platform session.identity.workingCopyRoot = laneKey)

/-- `begin_remote_preflight`; `none` lets the request go on locally. -/
def beginRemotePreflight (env : DaemonEnvironment) (request : JsonRpcRequest) (urls : List Text)
    (lanePath : Text) (daemon : Daemon) : Option Handled :=
  let refused (failure : BridgeFailure) : Option Handled :=
    some ⟨.error (.bridge failure), [], urls, none, none, daemon⟩
  match preflightRepositoryUrls env.codec request.params urls daemon.remoteTrust with
  | .ok none => none
  | .error refusal => refused refusal.failure
  | .ok (some operation) =>
    match remoteEffectForRequest request with
    | none =>
      refused ⟨"SUBVERSIONR_REMOTE_EFFECT_UNCLASSIFIED", "protocol",
        "error.remote.effectUnclassified", false⟩
    | some effect =>
      if env.worker.capabilityAvailable then
        let laneKey := absolutePathKey env.platform lanePath
        let session := daemon.attribution env.platform laneKey
        let repositoryId := session.map RepositorySession.repositoryId
        let epoch := session.map RepositorySession.epoch
        match daemon.reserveRemoteLane laneKey operation.envelope.operationId effect repositoryId
          epoch with
        | .error failure => refused failure
        | .ok reserved =>
          some ⟨.ok .pending, [], urls, some
            ⟨laneKey, repositoryId, epoch, effect, operation⟩, none,
            reserved⟩
      else
        match env.worker.execute with
        | .ok _ =>
          refused ⟨"SUBVERSIONR_REMOTE_TRANSPORT_UNSUPPORTED", "unsupported",
            "error.remote.transportUnsupported", false⟩
        | .error failure => refused failure

/-! ## Repositories -/

/-- The result of a bridge call whose payload the daemon passes on. -/
def nativeReply (env : DaemonEnvironment) (daemon : Daemon) (bridgePaths : List Text) : Handled :=
  daemon.reply bridgePaths ((env.native.mapError .bridge).map .native)

/-- `dispatch_repository_discover`. -/
def dispatchRepositoryDiscover (env : DaemonEnvironment) (params : Json) (daemon : Daemon) :
    Handled :=
  match discoverRequest params with
  | .error error => daemon.refuse error
  | .ok request =>
    match discoverRoots env.platform env.opening env.status env.files request
      request.workspaceRoots default with
    | (.error failure, found) => daemon.reply found.bridgePaths (.error (.bridge failure))
    | (.ok _, found) =>
      daemon.reply found.bridgePaths
        (.ok (.discovered found.candidates found.fileExternalBoundaries))

/-- The path `repository/open` hands to the bridge, once its parameters are read. -/
def openedPath (params : Json) : List Text :=
  match openPathParam params, repositoryOpenBoundaryRoots params with
  | some path, .ok _ => [path]
  | _, _ => []

/-- `dispatch_repository_open`. -/
def dispatchOpen (env : DaemonEnvironment) (params : Json) (daemon : Daemon) : Handled :=
  let (answer, state) := daemon.toDaemonState.dispatchRepositoryOpen env.platform
    (env.opening.openWorkingCopy 0) params
  { daemon with toDaemonState := state }.reply (openedPath params) (answer.map .opened)

/-- `dispatch_repository_checkout`. -/
def dispatchRepositoryCheckout (env : DaemonEnvironment) (request : JsonRpcRequest)
    (daemon : Daemon) : Handled :=
  match repositoryCheckoutRequest env.platform request.params with
  | .error field => daemon.refuse (.invalidParams field)
  | .ok checkout =>
    match daemon.beginRemotePreflight env request [checkout.url] checkout.targetPath with
    | some handled => handled
    | none => nativeReply env daemon [checkout.targetPath]

/-- `dispatch_repository_close`. -/
def dispatchClose (params : Json) (daemon : Daemon) : Handled :=
  let (answer, state) := daemon.toDaemonState.dispatchRepositoryClose params
  { daemon with toDaemonState := state }.reply [] (answer.map .closed)

/-! ## Status -/

/-- The root of the session a request names, if it names one with its epoch. -/
def namedRoot (daemon : Daemon) (params : Json) : List Text :=
  match sessionParams params with
  | .error _ => []
  | .ok (repositoryId, epoch) =>
    match daemon.requireSession repositoryId epoch with
    | .error _ => []
    | .ok session => [session.identity.workingCopyRoot]

/-- `dispatch_status_get_snapshot`. -/
def dispatchGetSnapshot (env : DaemonEnvironment) (params : Json) (daemon : Daemon) : Handled :=
  let (answer, state) := daemon.toDaemonState.dispatchStatusGetSnapshot env.platform env.status
    env.now params
  { daemon with toDaemonState := state }.reply (daemon.namedRoot params) (answer.map .snapshot)

/-- The root a refresh scans: no call is made when every target lies in a nested working copy. -/
def refreshedRoot (env : DaemonEnvironment) (daemon : Daemon) (params : Json) : List Text :=
  match sessionParams params, statusRefreshTargets params with
  | .ok (repositoryId, epoch), .ok targets =>
    match daemon.requireSession repositoryId epoch with
    | .error _ => []
    | .ok session =>
      if targets.all fun target =>
        pathInsideBoundaryRoots env.platform target.path session.boundaryRoots then []
      else [session.identity.workingCopyRoot]
  | _, _ => []

/-- `dispatch_status_refresh`. -/
def dispatchRefresh (env : DaemonEnvironment) (params : Json) (daemon : Daemon) : Handled :=
  let (answer, state) := daemon.toDaemonState.dispatchStatusRefresh env.platform env.status env.now
    params
  { daemon with toDaemonState := state }.reply (daemon.refreshedRoot env params) (answer.map .delta)

/-- The session of a request with a fixed set of parameters. -/
def sessionRequest (daemon : Daemon) (expected : List String) (checks : List FieldCheck)
    (params : Json) : Except DaemonError RepositorySession :=
  match unexpectedParam params expected with
  | some field => .error (.invalidParams field)
  | none =>
    match sessionParams params with
    | .error error => .error error
    | .ok (repositoryId, epoch) =>
      match FieldCheck.runAll checks params with
      | .error field => .error (.invalidParams field)
      | .ok _ => daemon.requireSession repositoryId epoch

/-- The preflight of a request that reads from the repository of a session. -/
def sessionPreflight (env : DaemonEnvironment) (request : JsonRpcRequest)
    (session : RepositorySession) (daemon : Daemon) : Option Handled :=
  daemon.beginRemotePreflight env request [session.identity.repositoryRootUrl]
    session.identity.workingCopyRoot

/-- `dispatch_status_check_remote`. -/
def dispatchCheckRemote (env : DaemonEnvironment) (request : JsonRpcRequest) (daemon : Daemon) :
    Handled :=
  match daemon.sessionRequest ["repositoryId", "epoch", "remote"] [] request.params with
  | .error error => daemon.refuse error
  | .ok session =>
    match daemon.sessionPreflight env request session with
    | some handled => handled
    | none =>
      match session.checkRemote env.platform env.status env.now with
      | .error failure =>
        daemon.reply [session.identity.workingCopyRoot] (.error (.bridge failure))
      | .ok (delta, session') =>
        { daemon with repositories := daemon.repositories.insert session' }.reply
          [session.identity.workingCopyRoot] (.ok (.delta delta))

/-! ## Contents, properties and history -/

/-- A request that reads through the bridge, with a preflight if `remote` says so.  A request that
stays local must not carry an envelope. -/
def readSession (env : DaemonEnvironment) (request : JsonRpcRequest) (remote : Bool)
    (session : RepositorySession) (daemon : Daemon) : Handled :=
  if remote then
    match daemon.sessionPreflight env request session with
    | some handled => handled
    | none => nativeReply env daemon [session.identity.workingCopyRoot]
  else if (envelopeValue request.params).isSome then daemon.refuse (.invalidParams "remote")
  else nativeReply env daemon [session.identity.workingCopyRoot]

/-- `dispatch_content_get`. -/
def dispatchContentGet (env : DaemonEnvironment) (request : JsonRpcRequest) (daemon : Daemon) :
    Handled :=
  match daemon.sessionRequest ["repositoryId", "epoch", "path", "revision", "remote"]
    contentGetChecks request.params with
  | .error error => daemon.refuse error
  | .ok session =>
    daemon.readSession env request
      (!textValue request.params "revision" fun revision => revision = "base") session

/-- `dispatch_properties_list`; an envelope is an unexpected parameter here. -/
def dispatchPropertiesList (env : DaemonEnvironment) (request : JsonRpcRequest) (daemon : Daemon) :
    Handled :=
  match daemon.sessionRequest ["repositoryId", "epoch", "path"] propertiesListChecks
    request.params with
  | .error error => daemon.refuse error
  | .ok session => nativeReply env daemon [session.identity.workingCopyRoot]

/-- `dispatch_history_log`. -/
def dispatchHistoryLog (env : DaemonEnvironment) (request : JsonRpcRequest) (daemon : Daemon) :
    Handled :=
  match daemon.sessionRequest
    ["repositoryId", "epoch", "path", "startRevision", "endRevision", "limit",
     "discoverChangedPaths", "strictNodeHistory", "includeMergedRevisions", "remote"]
    historyLogChecks request.params with
  | .error error => daemon.refuse error
  | .ok session => daemon.readSession env request true session

/-- `dispatch_history_blame`. -/
def dispatchHistoryBlame (env : DaemonEnvironment) (request : JsonRpcRequest) (daemon : Daemon) :
    Handled :=
  match daemon.sessionRequest
    ["repositoryId", "epoch", "path", "pegRevision", "startRevision", "endRevision", "lineStart",
     "lineLimit", "ignoreWhitespace", "ignoreEolStyle", "ignoreMimeType", "includeMergedRevisions",
     "remote"]
    historyBlameChecks request.params with
  | .error error => daemon.refuse error
  | .ok session => daemon.readSession env request true session

/-! ## Operations -/

/-- `refresh_relocated_session_identity`. -/
def refreshRelocatedSessionIdentity (env : DaemonEnvironment) (expected : Text) (epoch : Nat)
    (workingCopyRoot : Text) (daemon : Daemon) : Except BridgeFailure Daemon :=
  match env.opening.openWorkingCopy 0 workingCopyRoot with
  | .error failure => .error failure
  | .ok refreshed =>
    let notOpen : BridgeFailure := ⟨"SVN_OPERATION_RELOCATE_SESSION_NOT_OPEN", "lifecycle",
      "error.operation.relocateSessionNotOpen", false⟩
    if repositoryId refreshed ≠ expected then
      .error ⟨"SVN_OPERATION_RELOCATE_IDENTITY_MISMATCH", "protocol",
        "error.operation.relocateIdentityMismatch", false⟩
    else
      match daemon.repositories.get? expected with
      | none => .error notOpen
      | some session =>
        if session.epoch ≠ epoch then .error notOpen
        else .ok { daemon with
          repositories := daemon.repositories.insert { session with identity := refreshed } }

/-- The call of the bridge an operation ends in.  A relocation opens the working copy again. -/
def performOperation (env : DaemonEnvironment) (kind : OperationKind) (session : RepositorySession)
    (daemon : Daemon) : Handled :=
  let root := session.identity.workingCopyRoot
  match kind, env.native with
  | .relocate, .ok value =>
    match daemon.refreshRelocatedSessionIdentity env session.repositoryId session.epoch root with
    | .error failure => daemon.reply [root, root] (.error (.bridge failure))
    | .ok relocated => relocated.reply [root, root] (.ok (.native value))
  | _, _ => nativeReply env daemon [root]

/-- The session, kind and options of an operation request. -/
def operationRequest (daemon : Daemon) (params : Json) :
    Except DaemonError (RepositorySession × OperationKind × Json) :=
  match unexpectedParam params ["repositoryId", "epoch", "kind", "options", "remote"] with
  | some field => .error (.invalidParams field)
  | none =>
    match sessionParams params with
    | .error error => .error error
    | .ok (repositoryId, epoch) =>
      match stringParamWith params "kind" fun _ => true with
      | none => .error (.invalidParams "kind")
      | some word =>
        match OperationKind.ofText? word with
        | none =>
          .error (.bridge ⟨"OPERATION_KIND_UNSUPPORTED", "unsupported",
            "error.operation.kindUnsupported", false⟩)
        | some kind =>
          match kind.options params with
          | .error field => .error (.invalidParams field)
          | .ok options =>
            match daemon.requireSession repositoryId epoch with
            | .error error => .error error
            | .ok session => .ok (session, kind, options)

/-- `dispatch_operation_run`. -/
def dispatchOperationRun (env : DaemonEnvironment) (request : JsonRpcRequest) (daemon : Daemon) :
    Handled :=
  match daemon.operationRequest request.params with
  | .error error => daemon.refuse error
  | .ok (session, kind, options) =>
    match remotePreflightUrls kind session.identity.repositoryRootUrl options with
    | some urls =>
      match daemon.beginRemotePreflight env request urls session.identity.workingCopyRoot with
      | some handled => handled
      | none => daemon.performOperation env kind session
    | none =>
      if (envelopeValue request.params).isSome then daemon.refuse (.invalidParams "remote")
      else daemon.performOperation env kind session

/-! ## The rest, and the dispatcher -/

/-- `dispatch_remote_recover_working_copy` with its answer. -/
def dispatchRemoteRecoverWorkingCopy (env : DaemonEnvironment) (params : Json) (daemon : Daemon) :
    Handled :=
  match daemon.recoverWorkingCopy env.platform params with
  | (.refused error, daemon) => daemon.refuse error
  | (.answered outcome, daemon) => daemon.reply [] (.ok (.recovery outcome))
  | (.launched launch, daemon) => ⟨.ok .pending, [], [], none, some launch, daemon⟩

/-- `dispatch_diagnostics_get`, without the data of the build and the platform. -/
def dispatchDiagnosticsGet (params : Json) (daemon : Daemon) : Handled :=
  match unexpectedParam params [] with
  | some field => daemon.refuse (.invalidParams field)
  | none =>
    daemon.reply [] (.ok (.diagnostics daemon.repositories.values.length
      (daemon.repositories.values.map fun session => session.localEntries.values.length).sum))

/-- `dispatch_shutdown`. -/
def dispatchShutdown (env : DaemonEnvironment) (params : Json) (daemon : Daemon) : Handled :=
  match unexpectedParam params [] with
  | some field => daemon.refuse (.invalidParams field)
  | none =>
    match env.worker.disconnect with
    | .error failure => daemon.refuse (.bridge failure)
    | .ok _ => daemon.reply [] (.ok .accepted)

/-- The handler of a request. -/
def handle (env : DaemonEnvironment) (request : JsonRpcRequest) (daemon : Daemon) : Handled :=
  match request.method with
  | .initializeBackend => daemon.dispatchInitialize env request.params
  | .workspaceTrustUpdate => daemon.dispatchWorkspaceTrustUpdate env request.params
  | .repositoryDiscover => daemon.dispatchRepositoryDiscover env request.params
  | .repositoryOpen => daemon.dispatchOpen env request.params
  | .repositoryCheckout => daemon.dispatchRepositoryCheckout env request
  | .repositoryClose => daemon.dispatchClose request.params
  | .statusGetSnapshot => daemon.dispatchGetSnapshot env request.params
  | .statusRefresh => daemon.dispatchRefresh env request.params
  | .statusCheckRemote => daemon.dispatchCheckRemote env request
  | .contentGet => daemon.dispatchContentGet env request
  | .propertiesList => daemon.dispatchPropertiesList env request
  | .historyLog => daemon.dispatchHistoryLog env request
  | .historyBlame => daemon.dispatchHistoryBlame env request
  | .operationRun => daemon.dispatchOperationRun env request
  | .remoteRecoverWorkingCopy => daemon.dispatchRemoteRecoverWorkingCopy env request.params
  | .diagnosticsGet => daemon.dispatchDiagnosticsGet request.params
  | .shutdown => daemon.dispatchShutdown env request.params
  | .unknown _ => daemon.refuse (.bridge
      ⟨"RPC_METHOD_NOT_FOUND", "unsupported", "error.rpc.methodNotFound", false⟩)

/-- `dispatch_request_with_auth_and_cancellation`. -/
def dispatch (env : DaemonEnvironment) (request : JsonRpcRequest) (daemon : Daemon) : Handled :=
  match nativeLaneFailureForRequest env.platform daemon request with
  | some failure => daemon.refuse (.bridge failure)
  | none => daemon.handle env request

/-! ## What the gate refuses -/

theorem isDescendantPathKey_iff {child parent : Text} :
    isDescendantPathKey child parent = true ↔ ∃ rest, child = parent ++ '/' :: rest := by
  unfold isDescendantPathKey
  split
  · rename_i hsuffix
    rw [Text.stripPrefix_eq_some_iff] at hsuffix
    rw [decide_eq_true_iff, List.head?_eq_some_iff]
    constructor
    · rintro ⟨rest, rfl⟩
      exact ⟨rest, hsuffix⟩
    · rintro ⟨rest, hrest⟩
      exact ⟨rest, List.append_cancel_left (hsuffix.symm.trans hrest)⟩
  · rename_i hnone
    simp only [Bool.false_eq_true, false_iff, not_exists]
    intro rest hrest
    rw [Text.stripPrefix_eq_some_iff.mpr hrest] at hnone
    cases hnone

theorem keysOverlap_iff {left right : Text} :
    keysOverlap left right = true ↔ Overlaps '/' left right := by
  unfold keysOverlap Overlaps AtOrBelow
  simp only [Bool.or_eq_true, decide_eq_true_eq, isDescendantPathKey_iff]
  constructor
  · rintro ((heq | hbelow) | habove)
    · exact .inl (.inl heq)
    · exact .inl (.inr hbelow)
    · exact .inr (.inr habove)
  · rintro ((heq | hbelow) | (heq | habove))
    · exact .inl (.inl heq)
    · exact .inl (.inr hbelow)
    · exact .inl (.inl heq.symm)
    · exact .inr habove

/-- Some lane overlaps the key. -/
def MeetsLane (daemon : Daemon) (key : Text) : Prop :=
  ∃ laneKey state, daemon.laneAt laneKey = some state ∧ Overlaps '/' key laneKey

variable {daemon : Daemon}

theorem meetsLane_iff {key : Text} :
    daemon.MeetsLane key ↔
      ∃ lane ∈ daemon.remoteNativeLanes.values, keysOverlap key lane.laneKey = true := by
  constructor
  · rintro ⟨laneKey, state, hlane, hoverlap⟩
    obtain ⟨lane, hget, -⟩ := Option.map_eq_some_iff.mp hlane
    have hkey : lane.laneKey = laneKey := key_of_get? hget
    subst hkey
    exact ⟨lane, mem_values_iff.mpr hget, keysOverlap_iff.mpr hoverlap⟩
  · rintro ⟨lane, hmem, hoverlap⟩
    have hlane : daemon.laneAt lane.laneKey = some lane.state := by
      unfold laneAt
      rw [mem_values_iff.mp hmem]
      rfl
    exact ⟨lane.laneKey, lane.state, hlane, keysOverlap_iff.mp hoverlap⟩

variable {platform : Platform} {request : JsonRpcRequest}

/-- **The gate** refuses a request exactly when the method is not exempt and one of the keys it
reads from the request overlaps a lane. -/
theorem nativeLaneFailureForRequest_isSome_iff :
    (nativeLaneFailureForRequest platform daemon request).isSome = true ↔
      gateExempt request.method = false ∧
        ∃ key ∈ requestPathKeys platform daemon request, daemon.MeetsLane key := by
  unfold nativeLaneFailureForRequest
  cases hexempt : gateExempt request.method with
  | true => simp
  | false =>
    simp only [Bool.false_eq_true, if_false, true_and, List.isSome_findSome?, List.any_eq_true,
      Option.isSome_map, List.find?_isSome, meetsLane_iff]

/-- What a request that passed the gate knows about the keys it names. -/
theorem not_meetsLane_of_gate (hgate : nativeLaneFailureForRequest platform daemon request = none)
    (hexempt : gateExempt request.method = false) {key : Text}
    (hkey : key ∈ requestPathKeys platform daemon request) : ¬ daemon.MeetsLane key := by
  intro hmeets
  have hsome := nativeLaneFailureForRequest_isSome_iff.mpr ⟨hexempt, key, hkey, hmeets⟩
  rw [hgate] at hsome
  cases hsome

/-! ## The keys of a request -/

/-- The request names the session. -/
structure Names (params : Json) (daemon : Daemon) (session : RepositorySession) : Prop where
  param : params.prop "repositoryId" = some (.str session.repositoryId)
  isOpen : daemon.repositories.get? session.repositoryId = some session

variable {session : RepositorySession}

theorem names_of_repositoryIdParam {params : Json} {repositoryId : Text}
    (hparam : repositoryIdParam params = some repositoryId)
    (hget : daemon.repositories.get? repositoryId = some session) :
    Names params daemon session := by
  have hkey : session.repositoryId = repositoryId := key_of_get? hget
  subst hkey
  refine ⟨?_, hget⟩
  unfold repositoryIdParam at hparam
  split at hparam
  · rename_i hid
    split at hparam
    · cases hparam
      exact hid
    · cases hparam
  · cases hparam

theorem names_of_requireSession {params : Json} {repositoryId : Text} {epoch : Nat}
    (hparams : sessionParams params = .ok (repositoryId, epoch))
    (hsession : daemon.requireSession repositoryId epoch = .ok session) :
    Names params daemon session :=
  names_of_repositoryIdParam (sessionParams_eq_ok hparams).1
    (requireSession_eq_ok_iff.mp hsession).1

theorem namedSession_eq_some_iff {params : Json} :
    daemon.namedSession params = some session ↔ Names params daemon session := by
  unfold namedSession
  constructor
  · intro h
    split at h
    · rename_i hid
      have hkey : session.repositoryId = _ := key_of_get? h
      exact ⟨hkey ▸ hid, hkey ▸ h⟩
    · cases h
  · intro h
    rw [h.param]
    exact h.isOpen

/-- **The keys the gate reads** are those of the session the request names and of the absolute paths
among its parameters. -/
theorem mem_requestPathKeys_iff {key : Text} :
    key ∈ requestPathKeys platform daemon request ↔
      (∃ session, Names request.params daemon session ∧
        absolutePathKey platform session.identity.workingCopyRoot = key) ∨
      ∃ read ∈ readPaths platform request, absolutePathKey platform read = key := by
  simp only [requestPathKeys, List.mem_mergeSort, List.map_append, List.mem_append, List.map_map,
    List.mem_map, Option.mem_toList, namedSession_eq_some_iff, Function.comp_apply]

/-- The working copy of a session a request names is among the keys the gate reads. -/
theorem Names.mem_requestPathKeys (h : Names request.params daemon session) :
    absolutePathKey platform session.identity.workingCopyRoot ∈
      requestPathKeys platform daemon request := by
  exact mem_requestPathKeys_iff.mpr (.inl ⟨session, h, rfl⟩)

/-- So is the target of a checkout. -/
theorem checkout_mem_requestPathKeys {checkout : RepositoryCheckoutRequest}
    (h : repositoryCheckoutRequest platform request.params = .ok checkout) :
    absolutePathKey platform checkout.targetPath ∈ requestPathKeys platform daemon request := by
  unfold repositoryCheckoutRequest at h
  split at h
  · cases h
  split at h
  · cases h
  split at h
  · cases h
  rename_i targetPath htarget
  split at h
  · cases h
  cases h
  unfold stringParamWith at htarget
  split at htarget
  · rename_i text htext
    split at htarget
    · rename_i hvalid
      have htarget := Option.some.inj htarget
      subst htarget
      -- the reader has checked that the path is absolute
      have habsolute : isAbsoluteRustPath platform text = true := by
        simp only [validCheckoutTargetPath, Bool.and_eq_true] at hvalid
        exact hvalid.2.2
      refine mem_requestPathKeys_iff.mpr (.inr ⟨text, ?_, rfl⟩)
      simp [readPaths, namedPath, htext, habsolute]
    · cases htarget
  · cases htarget

/-! ## What a handler does to the state -/

/-- The trust state a request may leave behind: the first one, or the successor of the last. -/
def TrustStep (before : Option RemoteTrustState) (after : RemoteTrustState) : Prop :=
  match before with
  | none => after.currentEpoch = 1 ∧ after.acknowledgedEpoch = 1
  | some trust => after.currentEpoch = trust.currentEpoch + 1 ∧
      after.acknowledgedEpoch = trust.currentEpoch + 1

/-- **Everything a handler can do.**  The state stays, the trust state moves on, a session is added,
the session the request names is changed or removed, a worker is launched in a free lane the request
names, or a recovery request does its step. -/
inductive Effect (env : DaemonEnvironment) (request : JsonRpcRequest) (daemon : Daemon)
    (handled : Handled) : Prop where
  | stays (state : handled.daemon = daemon) (launch : handled.remoteLaunch = none)
      (recovery : handled.remoteRecoveryLaunch = none)
  | trust (trust : RemoteTrustState) (step : TrustStep daemon.remoteTrust trust)
      (state : handled.daemon = { daemon with remoteTrust := some trust })
      (launch : handled.remoteLaunch = none) (recovery : handled.remoteRecoveryLaunch = none)
  | opened (session : RepositorySession) (fresh : daemon.repositories.get?
    session.repositoryId = none)
      (epoch : session.epoch = daemon.nextEpoch)
      (state : handled.daemon = { daemon with
        repositories := daemon.repositories.insert session, nextEpoch := daemon.nextEpoch + 1 })
      (launch : handled.remoteLaunch = none) (recovery : handled.remoteRecoveryLaunch = none)
  | changed (gated : gateExempt request.method = false) (session session' : RepositorySession)
      (named : Names request.params daemon session)
      (repositoryId : session'.repositoryId = session.repositoryId)
      (epoch : session'.epoch = session.epoch)
      (state : handled.daemon = { daemon with
        repositories := daemon.repositories.insert session' })
      (launch : handled.remoteLaunch = none) (recovery : handled.remoteRecoveryLaunch = none)
  | closed (gated : gateExempt request.method = false) (session : RepositorySession)
      (named : Names request.params daemon session)
      (state : handled.daemon = { daemon with
        repositories := daemon.repositories.erase session.repositoryId })
      (launch : handled.remoteLaunch = none) (recovery : handled.remoteRecoveryLaunch = none)
  | launched (gated : gateExempt request.method = false) (plan : RemoteLaunchPlan)
      (named : plan.laneKey ∈ requestPathKeys env.platform daemon request)
      (urls : handled.preflightUrls ≠ [])
      (preflight : preflightRepositoryUrls env.codec request.params handled.preflightUrls
        daemon.remoteTrust = .ok (some plan.operation))
      (unused : plan.operation.envelope.operationId ∉ daemon.activeRemoteOperationIds)
      (free : daemon.laneAt plan.laneKey = none)
      (attributed : plan.repositoryId.isNone = plan.epoch.isNone)
      (state : handled.daemon =
        (daemon.useOperationId plan.operation.envelope.operationId).setLane plan.laneKey
          (.active plan.operation.envelope.operationId plan.effect plan.repositoryId plan.epoch))
      (launch : handled.remoteLaunch = some plan) (recovery : handled.remoteRecoveryLaunch = none)
  | recovers (method : request.method = .remoteRecoverWorkingCopy) (start : RecoveryStart)
      (step : daemon.recoverWorkingCopy env.platform request.params = (start, handled.daemon))
      (launch : handled.remoteLaunch = none)
      (recovery : ∀ launch, handled.remoteRecoveryLaunch = some launch ↔ start = .launched launch)

def QuietAnswer (answer : Except DaemonError DaemonResult) : Prop :=
  ∀ result, answer = .ok result → result.isQuiet = true

/-- What a request can do to an open session, with what it answers. -/
inductive SessionChange (env : DaemonEnvironment) (session : RepositorySession) :
    RepositorySession → Except DaemonError DaemonResult → Prop where
  /-- The generation is used up although the bridge may have failed. -/
  | snapshot : SessionChange env session (session.getSnapshot env.platform env.status env.now).2
      (((session.getSnapshot env.platform env.status env.now).1.mapError .bridge).map .snapshot)
  | refresh (targets : List StatusRefreshTarget) (delta : StatusDelta)
      (session' : RepositorySession)
      (step : session.refresh env.platform env.status env.now targets = .ok (delta, session')) :
      SessionChange env session session' (.ok (.delta delta))
  | check (delta : StatusDelta) (session' : RepositorySession)
      (step : session.checkRemote env.platform env.status env.now = .ok (delta, session')) :
      SessionChange env session session' (.ok (.delta delta))
  /-- A relocation replaces the identity and nothing else. -/
  | relocate (identity : RepositoryIdentity) (answer : Except DaemonError DaemonResult)
      (quiet : QuietAnswer answer) : SessionChange env session { session with identity } answer

theorem SessionChange.keeps {env : DaemonEnvironment} {session session' : RepositorySession}
    {answer : Except DaemonError DaemonResult} (h : SessionChange env session session' answer) :
    session'.repositoryId = session.repositoryId ∧ session'.epoch = session.epoch ∧
      session'.boundaryRoots = session.boundaryRoots := by
  cases h with
  | snapshot =>
    unfold RepositorySession.getSnapshot
    dsimp only
    split <;> exact ⟨rfl, rfl, rfl⟩
  | refresh targets delta session' step =>
    obtain ⟨_, -, rfl, -⟩ := refresh_eq_ok step
    exact ⟨rfl, rfl, rfl⟩
  | check delta session' step =>
    unfold RepositorySession.checkRemote at step
    dsimp only at step
    split at step
    · cases step
    · cases step
      exact ⟨rfl, rfl, rfl⟩
  | relocate identity answer quiet => exact ⟨rfl, rfl, rfl⟩

/-- What a handler can do to the sessions, with what it answers. -/
inductive SessionMove (env : DaemonEnvironment) (daemon : Daemon) (handled : Handled) : Prop where
  | quiet (state : handled.daemon.toDaemonState = daemon.toDaemonState)
      (answer : QuietAnswer handled.answer)
  | opened (identity : RepositoryIdentity) (roots : BoundaryRoots)
      (state : handled.daemon.toDaemonState = ⟨daemon.repositories.insert
        (.opened (repositoryId identity) daemon.nextEpoch identity roots), daemon.nextEpoch + 1⟩)
      (answer : handled.answer = .ok (.opened ⟨repositoryId identity, daemon.nextEpoch, identity⟩))
  | closed (repositoryId : Text)
      (state : handled.daemon.toDaemonState =
        ⟨daemon.repositories.erase repositoryId, daemon.nextEpoch⟩)
      (answer : QuietAnswer handled.answer)
  | changed (session session' : RepositorySession)
      (isOpen : daemon.repositories.get? session.repositoryId = some session)
      (state : handled.daemon.toDaemonState =
        ⟨daemon.repositories.insert session', daemon.nextEpoch⟩)
      (change : SessionChange env session session' handled.answer)

/-- **What one request can do**: to the lanes and the trust, and to the sessions. -/
structure Outcome (env : DaemonEnvironment) (request : JsonRpcRequest) (daemon : Daemon)
    (handled : Handled) : Prop where
  effect : Effect env request daemon handled
  move : SessionMove env daemon handled

section

variable {env : DaemonEnvironment} {request : JsonRpcRequest} {daemon : Daemon}

theorem quietAnswer_error (error : DaemonError) : QuietAnswer (.error error) := by
  intro _ h
  cases h

theorem quietAnswer_ok {result : DaemonResult} (hquiet : result.isQuiet = true) :
    QuietAnswer (.ok result) := by
  intro _ h
  cases h
  exact hquiet

/-- The sessions stay. -/
theorem Effect.quietly {handled : Handled} (h : Effect env request daemon handled)
    (hstate : handled.daemon.toDaemonState = daemon.toDaemonState)
    (hquiet : QuietAnswer handled.answer) : Outcome env request daemon handled :=
  ⟨h, .quiet hstate hquiet⟩

variable {urls : List Text}

theorem Outcome.refuse {bridgePaths : List Text} (error : DaemonError) :
    Outcome env request daemon ⟨.error error, bridgePaths, urls, none, none, daemon⟩ :=
  Effect.quietly (.stays rfl rfl rfl) rfl (quietAnswer_error error)

theorem Outcome.reply (bridgePaths : List Text) {answer : Except DaemonError DaemonResult}
    (hquiet : QuietAnswer answer) : Outcome env request daemon (daemon.reply bridgePaths answer) :=
  Effect.quietly (.stays rfl rfl rfl) rfl hquiet

theorem nativeReply_outcome (bridgePaths : List Text) :
    Outcome env request daemon (nativeReply env daemon bridgePaths) := by
  refine .reply _ ?_
  cases env.native with
  | error failure => exact quietAnswer_error _
  | ok value => exact quietAnswer_ok rfl

theorem dispatchInitialize_outcome :
    Outcome env request daemon (daemon.dispatchInitialize env request.params) := by
  unfold dispatchInitialize
  split
  · exact .refuse _
  rename_i hfirst
  have hnone : daemon.remoteTrust = none := by simpa using hfirst
  split
  · dsimp only
    split
    · exact .refuse _
    split
    · exact .refuse _
    split
    · exact .refuse _
    rename_i trust htrust
    split
    · exact .refuse _
    cases htrust
    refine (Effect.trust _ ?_ rfl rfl rfl).quietly rfl (quietAnswer_ok rfl)
    rw [hnone]
    exact ⟨rfl, rfl⟩
  · exact .refuse _

theorem dispatchWorkspaceTrustUpdate_outcome :
    Outcome env request daemon (daemon.dispatchWorkspaceTrustUpdate env request.params) := by
  unfold dispatchWorkspaceTrustUpdate
  split
  · exact .refuse _
  split
  · exact .refuse _
  rename_i trust htrust
  split
  · exact .refuse _
  rename_i hvalid
  split
  · exact .refuse _
  obtain ⟨-, hepoch⟩ := RemoteTrustState.validateUpdate_eq_ok_iff.mp hvalid
  refine (Effect.trust _ ?_ rfl rfl rfl).quietly rfl (quietAnswer_ok rfl)
  rw [htrust]
  exact ⟨hepoch, hepoch⟩

/-- A preflight that answers leaves the state alone or launches a worker in the lane of the path it
was given. -/
theorem beginRemotePreflight_outcome {lanePath : Text} {handled : Handled}
    (hgated : gateExempt request.method = false) (hurls : urls ≠ [])
    (hnamed : absolutePathKey env.platform lanePath ∈ requestPathKeys env.platform daemon request)
    (h : daemon.beginRemotePreflight env request urls lanePath = some handled) :
    Outcome env request daemon handled := by
  unfold beginRemotePreflight at h
  dsimp only at h
  split at h
  · cases h
  · cases h
    exact .refuse _
  · rename_i hpreflight
    split at h
    · cases h
      exact .refuse _
    · split at h
      · split at h
        · cases h
          exact .refuse _
        · rename_i hreserve
          cases h
          obtain ⟨hunused, hfree, rfl⟩ := reserveRemoteLane_eq_ok_iff.mp hreserve
          exact (Effect.launched hgated _ hnamed hurls hpreflight hunused hfree (by simp) rfl rfl
            rfl).quietly rfl (quietAnswer_ok rfl)
      · split at h
        · cases h
          exact .refuse _
        · cases h
          exact .refuse _

theorem dispatchRepositoryDiscover_outcome :
    Outcome env request daemon (daemon.dispatchRepositoryDiscover env request.params) := by
  unfold dispatchRepositoryDiscover
  split
  · exact .refuse _
  split
  · exact .refuse _
  · exact .reply _ (quietAnswer_ok rfl)

theorem dispatchOpen_outcome :
    Outcome env request daemon (daemon.dispatchOpen env request.params) := by
  unfold dispatchOpen
  rcases hopen : daemon.toDaemonState.dispatchRepositoryOpen env.platform
    (env.opening.openWorkingCopy 0) request.params with ⟨answer, state⟩
  cases answer with
  | error error =>
    have hstate := (dispatchRepositoryOpen_error hopen).1
    subst hstate
    exact .refuse _
  | ok response =>
    obtain ⟨path, given, identity, roots, -, -, -, -, hfresh, rfl, rfl⟩ :=
      dispatchRepositoryOpen_eq_ok_iff.mp hopen
    exact ⟨.opened (.opened (repositoryId identity) daemon.nextEpoch identity roots) hfresh rfl
      rfl rfl rfl, .opened identity roots rfl rfl⟩

theorem dispatchRepositoryCheckout_outcome (hgated : gateExempt request.method = false) :
    Outcome env request daemon (daemon.dispatchRepositoryCheckout env request) := by
  unfold dispatchRepositoryCheckout
  split
  · exact .refuse _
  rename_i hcheckout
  split
  · rename_i hpreflight
    exact beginRemotePreflight_outcome hgated (by simp) (checkout_mem_requestPathKeys hcheckout)
      hpreflight
  · exact nativeReply_outcome _

theorem dispatchClose_outcome (hgated : gateExempt request.method = false) :
    Outcome env request daemon (daemon.dispatchClose request.params) := by
  unfold dispatchClose
  rcases hclose : daemon.toDaemonState.dispatchRepositoryClose request.params with ⟨answer, state⟩
  have hquiet : QuietAnswer (answer.map DaemonResult.closed) := by
    cases answer with
    | error error => exact quietAnswer_error _
    | ok response => exact quietAnswer_ok rfl
  rcases dispatchRepositoryClose_cases hclose with
    ⟨error, rfl, rfl⟩ | ⟨repositoryId, session, hparam, hget, rfl⟩
  · exact .reply _ hquiet
  · have hkey : session.repositoryId = repositoryId := key_of_get? hget
    subst hkey
    exact ⟨.closed hgated session (names_of_repositoryIdParam hparam hget) rfl rfl rfl,
      .closed session.repositoryId rfl hquiet⟩

/-- A handler that changes the session the request names. -/
theorem SessionChange.outcome {session session' : RepositorySession} {repositoryId : Text}
    {bridgePaths : List Text} {answer : Except DaemonError DaemonResult}
    (h : SessionChange env session session' answer) (hgated : gateExempt request.method = false)
    (hparam : repositoryIdParam request.params = some repositoryId)
    (hget : daemon.repositories.get? repositoryId = some session) :
    Outcome env request daemon ({ daemon with
      repositories := daemon.repositories.insert session' }.reply bridgePaths answer) := by
  have hkey : session.repositoryId = repositoryId := key_of_get? hget
  subst hkey
  obtain ⟨hid, hepoch, -⟩ := h.keeps
  exact ⟨.changed hgated session session' (names_of_repositoryIdParam hparam hget) hid hepoch rfl
    rfl rfl, .changed session session' hget rfl h⟩

theorem dispatchGetSnapshot_outcome (hgated : gateExempt request.method = false) :
    Outcome env request daemon (daemon.dispatchGetSnapshot env request.params) := by
  unfold dispatchGetSnapshot
  rcases hsnapshot : daemon.toDaemonState.dispatchStatusGetSnapshot env.platform env.status env.now
    request.params with ⟨answer, state⟩
  rcases dispatchStatusGetSnapshot_cases hsnapshot with
    ⟨error, rfl, rfl⟩ | ⟨repositoryId, session, hparam, hget, rfl, rfl⟩
  · exact .refuse _
  · exact SessionChange.snapshot.outcome hgated hparam hget

theorem dispatchRefresh_outcome (hgated : gateExempt request.method = false) :
    Outcome env request daemon (daemon.dispatchRefresh env request.params) := by
  unfold dispatchRefresh
  rcases hrefresh : daemon.toDaemonState.dispatchStatusRefresh env.platform env.status env.now
    request.params with ⟨answer, state⟩
  rcases dispatchStatusRefresh_cases hrefresh with
    ⟨error, rfl, rfl⟩ | ⟨id, session, session', delta, targets, hparam, hget, hstep, rfl, rfl⟩
  · exact .refuse _
  · exact (SessionChange.refresh targets delta session' hstep).outcome hgated hparam hget

variable {session : RepositorySession}

/-- The session of a request is the one its parameters name. -/
theorem sessionRequest_get? {expected : List String} {checks : List FieldCheck} {params : Json}
    (h : daemon.sessionRequest expected checks params = .ok session) :
    ∃ repositoryId, repositoryIdParam params = some repositoryId ∧
      daemon.repositories.get? repositoryId = some session := by
  unfold sessionRequest at h
  split at h
  · cases h
  split at h
  · cases h
  rename_i hparams
  split at h
  · cases h
  · exact ⟨_, (sessionParams_eq_ok hparams).1,
      (requireSession_eq_ok_iff.mp h).1⟩

theorem names_of_sessionRequest {expected : List String} {checks : List FieldCheck} {params : Json}
    (h : daemon.sessionRequest expected checks params = .ok session) :
    Names params daemon session := by
  obtain ⟨_, hparam, hget⟩ := sessionRequest_get? h
  exact names_of_repositoryIdParam hparam hget

/-- Only a request without an envelope goes on locally. -/
theorem beginRemotePreflight_eq_none {lanePath : Text}
    (h : daemon.beginRemotePreflight env request urls lanePath = none) :
    envelopeValue request.params = none := by
  unfold beginRemotePreflight at h
  dsimp only at h
  split at h
  · rename_i hlocal
    unfold preflightRepositoryUrls at hlocal
    obtain ⟨⟨endpoint, sawFile⟩, -, hrest⟩ := Fallible.bind_eq_ok_iff.mp hlocal
    cases endpoint with
    | none =>
      obtain ⟨_, hnone, -⟩ := Fallible.bind_eq_ok_iff.mp hrest
      exact require_eq_ok_iff.mp hnone
    | some endpoint =>
      obtain ⟨_, -, hrest⟩ := Fallible.bind_eq_ok_iff.mp hrest
      obtain ⟨_, -, hrest⟩ := Fallible.bind_eq_ok_iff.mp hrest
      cases hrest
  · cases h
  · split at h
    · cases h
    split at h
    · split at h <;> cases h
    · split at h <;> cases h

/-- A preflight that answers leaves the sessions alone and sends no status. -/
theorem beginRemotePreflight_quiet {lanePath : Text} {handled : Handled}
    (h : daemon.beginRemotePreflight env request urls lanePath = some handled) :
    handled.daemon.toDaemonState = daemon.toDaemonState ∧ QuietAnswer handled.answer := by
  unfold beginRemotePreflight at h
  dsimp only at h
  split at h
  · cases h
  · cases h
    exact ⟨rfl, quietAnswer_error _⟩
  · split at h
    · cases h
      exact ⟨rfl, quietAnswer_error _⟩
    split at h
    · split at h
      · cases h
        exact ⟨rfl, quietAnswer_error _⟩
      · rename_i hreserve
        cases h
        obtain ⟨-, -, rfl⟩ := reserveRemoteLane_eq_ok_iff.mp hreserve
        exact ⟨rfl, quietAnswer_ok rfl⟩
    · split at h
      · cases h
        exact ⟨rfl, quietAnswer_error _⟩
      · cases h
        exact ⟨rfl, quietAnswer_error _⟩

/-- **A remote check in the daemon**: it is refused or left to a worker and no session changes, or
the request has no envelope and the session is checked. -/
theorem dispatchCheckRemote_cases :
    ((daemon.dispatchCheckRemote env request).daemon.toDaemonState = daemon.toDaemonState ∧
      QuietAnswer (daemon.dispatchCheckRemote env request).answer) ∨
    envelopeValue request.params = none ∧ ∃ repositoryId session session' delta,
      daemon.repositories.get? repositoryId = some session ∧
      session.checkRemote env.platform env.status env.now = .ok (delta, session') ∧
      (daemon.dispatchCheckRemote env request).answer = .ok (.delta delta) ∧
      (daemon.dispatchCheckRemote env request).daemon.toDaemonState =
        ⟨daemon.repositories.insert session', daemon.nextEpoch⟩ := by
  unfold dispatchCheckRemote
  split
  · exact .inl ⟨rfl, quietAnswer_error _⟩
  rename_i session hrequest
  split
  · rename_i hpreflight
    exact .inl (beginRemotePreflight_quiet hpreflight)
  rename_i hpreflight
  split
  · exact .inl ⟨rfl, quietAnswer_error _⟩
  · rename_i delta session' hcheck
    obtain ⟨repositoryId, -, hget⟩ := sessionRequest_get? hrequest
    exact .inr ⟨beginRemotePreflight_eq_none hpreflight, repositoryId, session, session', delta,
      hget, hcheck, rfl, rfl⟩

section

variable (hgated : gateExempt request.method = false)

include hgated

theorem sessionPreflight_outcome {handled : Handled} (hnamed : Names request.params daemon session)
    (h : daemon.sessionPreflight env request session = some handled) :
    Outcome env request daemon handled :=
  beginRemotePreflight_outcome hgated (by simp) hnamed.mem_requestPathKeys h

theorem dispatchCheckRemote_outcome :
    Outcome env request daemon (daemon.dispatchCheckRemote env request) := by
  unfold dispatchCheckRemote
  split
  · exact .refuse _
  rename_i hrequest
  have hnamed := names_of_sessionRequest hrequest
  split
  · rename_i hpreflight
    exact sessionPreflight_outcome hgated hnamed hpreflight
  · split
    · exact .reply _ (quietAnswer_error _)
    · rename_i delta session' hcheck
      obtain ⟨repositoryId, hparam, hget⟩ := sessionRequest_get? hrequest
      exact (SessionChange.check delta session' hcheck).outcome hgated hparam hget

theorem readSession_outcome {remote : Bool} (hnamed : Names request.params daemon session) :
    Outcome env request daemon (daemon.readSession env request remote session) := by
  unfold readSession
  split
  · split
    · rename_i hpreflight
      exact sessionPreflight_outcome hgated hnamed hpreflight
    · exact nativeReply_outcome _
  · split
    · exact .refuse _
    · exact nativeReply_outcome _

end

variable {kind : OperationKind}

theorem performOperation_outcome (hgated : gateExempt request.method = false)
    (hnamed : Names request.params daemon session) :
    Outcome env request daemon (daemon.performOperation env kind session) := by
  unfold performOperation
  dsimp only
  split
  · split
    · exact .refuse _
    rename_i hrelocated
    unfold refreshRelocatedSessionIdentity at hrelocated
    split at hrelocated
    · cases hrelocated
    rename_i refreshed _
    split at hrelocated
    · cases hrelocated
    rw [hnamed.isOpen] at hrelocated
    dsimp only at hrelocated
    split at hrelocated
    · cases hrelocated
    cases hrelocated
    exact ⟨.changed hgated session { session with identity := refreshed } hnamed rfl rfl rfl
      rfl rfl, .changed session _ hnamed.isOpen rfl
        (.relocate refreshed _ (quietAnswer_ok rfl))⟩
  · exact nativeReply_outcome _

theorem names_of_operationRequest {params : Json} {options : Json}
    (h : daemon.operationRequest params = .ok (session, kind, options)) :
    Names params daemon session := by
  unfold operationRequest at h
  split at h
  · cases h
  split at h
  · cases h
  rename_i hparams
  split at h
  · cases h
  split at h
  · cases h
  split at h
  · cases h
  split at h
  · cases h
  rename_i hsession
  cases h
  exact names_of_requireSession hparams hsession

theorem remotePreflightUrls_ne_nil {rootUrl : Text} {options : Json}
    (h : remotePreflightUrls kind rootUrl options = some urls) : urls ≠ [] := by
  unfold remotePreflightUrls at h
  split at h
  all_goals cases h
  all_goals simp

theorem dispatchOperationRun_outcome (hgated : gateExempt request.method = false) :
    Outcome env request daemon (daemon.dispatchOperationRun env request) := by
  unfold dispatchOperationRun
  split
  · exact .refuse _
  rename_i hrequest
  have hnamed := names_of_operationRequest hrequest
  split
  · rename_i hurls
    split
    · rename_i hpreflight
      exact beginRemotePreflight_outcome hgated (remotePreflightUrls_ne_nil hurls)
        hnamed.mem_requestPathKeys hpreflight
    · exact performOperation_outcome hgated hnamed
  · split
    · exact .refuse _
    · exact performOperation_outcome hgated hnamed

theorem dispatchRemoteRecoverWorkingCopy_outcome
    (hmethod : request.method = .remoteRecoverWorkingCopy) :
    Outcome env request daemon (daemon.dispatchRemoteRecoverWorkingCopy env request.params) := by
  have hsame : ∀ {start : RecoveryStart} {daemon' : Daemon},
      daemon.recoverWorkingCopy env.platform request.params = (start, daemon') →
        daemon'.toDaemonState = daemon.toDaemonState := by
    intro start daemon' h
    rcases recoverWorkingCopy_cases h with ⟨rfl, -⟩ | ⟨request, _, _, -, hcases⟩
    · rfl
    · rcases hcases with ⟨-, -, -, rfl⟩ | ⟨-, -, -, rfl⟩ <;> rfl
  unfold dispatchRemoteRecoverWorkingCopy
  split
  · rename_i daemon' h
    exact (Effect.recovers hmethod _ h rfl (by simp [Daemon.refuse])).quietly (hsame h)
      (quietAnswer_error _)
  · rename_i daemon' h
    exact (Effect.recovers hmethod _ h rfl (by simp [Daemon.reply])).quietly (hsame h)
      (quietAnswer_ok rfl)
  · rename_i daemon' h
    exact (Effect.recovers hmethod _ h rfl (by simp)).quietly (hsame h) (quietAnswer_ok rfl)

/-- A handler that needs a session and answers through `k`. -/
theorem sessionRequest_outcome {expected : List String} {checks : List FieldCheck}
    {k : RepositorySession → Handled}
    (hk : ∀ session, Names request.params daemon session → Outcome env request daemon (k session)) :
    Outcome env request daemon
      (match daemon.sessionRequest expected checks request.params with
        | .error error => daemon.refuse error
        | .ok session => k session) := by
  split
  · exact .refuse _
  · rename_i session hrequest
    exact hk session (names_of_sessionRequest hrequest)

/-- **What one request can do**, whatever the surroundings answer. -/
theorem handle_outcome : Outcome env request daemon (daemon.handle env request) := by
  unfold handle
  cases hmethod : request.method with
  | initializeBackend => exact dispatchInitialize_outcome
  | workspaceTrustUpdate => exact dispatchWorkspaceTrustUpdate_outcome
  | repositoryDiscover => exact dispatchRepositoryDiscover_outcome
  | repositoryOpen => exact dispatchOpen_outcome
  | repositoryCheckout => exact dispatchRepositoryCheckout_outcome (by rw [hmethod]; rfl)
  | repositoryClose => exact dispatchClose_outcome (by rw [hmethod]; rfl)
  | statusGetSnapshot => exact dispatchGetSnapshot_outcome (by rw [hmethod]; rfl)
  | statusRefresh => exact dispatchRefresh_outcome (by rw [hmethod]; rfl)
  | statusCheckRemote => exact dispatchCheckRemote_outcome (by rw [hmethod]; rfl)
  | contentGet =>
    exact sessionRequest_outcome fun session hnamed =>
      readSession_outcome (by rw [hmethod]; rfl) hnamed
  | propertiesList => exact sessionRequest_outcome fun session _ => nativeReply_outcome _
  | historyLog | historyBlame =>
    exact sessionRequest_outcome fun session hnamed =>
      readSession_outcome (by rw [hmethod]; rfl) hnamed
  | operationRun => exact dispatchOperationRun_outcome (by rw [hmethod]; rfl)
  | remoteRecoverWorkingCopy => exact dispatchRemoteRecoverWorkingCopy_outcome hmethod
  | diagnosticsGet =>
    show Outcome env request daemon (daemon.dispatchDiagnosticsGet request.params)
    unfold dispatchDiagnosticsGet
    split
    · exact .refuse _
    · exact .reply _ (quietAnswer_ok rfl)
  | shutdown =>
    show Outcome env request daemon (daemon.dispatchShutdown env request.params)
    unfold dispatchShutdown
    split
    · exact .refuse _
    split
    · exact .refuse _
    · exact .reply _ (quietAnswer_ok rfl)
  | unknown name => exact .refuse _

theorem handle_effect : Effect env request daemon (daemon.handle env request) :=
  handle_outcome.effect

/-- A request is stopped by the gate, or it has the effect of its handler. -/
theorem dispatch_cases :
    (∃ failure, daemon.dispatch env request = daemon.refuse (.bridge failure)) ∨
      (nativeLaneFailureForRequest env.platform daemon request = none ∧
        daemon.dispatch env request = daemon.handle env request) := by
  unfold dispatch
  cases hgate : nativeLaneFailureForRequest env.platform daemon request with
  | some failure => exact .inl ⟨failure, rfl⟩
  | none => exact .inr ⟨rfl, rfl⟩

theorem dispatch_move : SessionMove env daemon (daemon.dispatch env request) := by
  rcases @dispatch_cases env request daemon with ⟨_, heq⟩ | ⟨-, heq⟩
  · rw [heq]
    exact .quiet rfl (quietAnswer_error _)
  · rw [heq]
    exact handle_outcome.move

/-- A request that launches a worker. -/
structure Launches (env : DaemonEnvironment) (request : JsonRpcRequest) (daemon : Daemon)
    (plan : RemoteLaunchPlan) : Prop where
  urls : (daemon.dispatch env request).preflightUrls ≠ []
  preflight : preflightRepositoryUrls env.codec request.params
    (daemon.dispatch env request).preflightUrls daemon.remoteTrust = .ok (some plan.operation)
  unused : plan.operation.envelope.operationId ∉ daemon.activeRemoteOperationIds
  free : daemon.laneAt plan.laneKey = none
  state : (daemon.dispatch env request).daemon =
    (daemon.useOperationId plan.operation.envelope.operationId).setLane plan.laneKey
      (.active plan.operation.envelope.operationId plan.effect plan.repositoryId plan.epoch)

theorem launches_of_remoteLaunch {plan : RemoteLaunchPlan}
    (h : (daemon.dispatch env request).remoteLaunch = some plan) :
    Launches env request daemon plan := by
  rcases @dispatch_cases env request daemon with ⟨_, heq⟩ | ⟨-, heq⟩
  · rw [heq] at h
    cases h
  · rw [heq] at h
    cases @handle_effect env request daemon with
    | stays _ launch => simp [launch] at h
    | trust _ _ _ launch => simp [launch] at h
    | opened _ _ _ _ launch => simp [launch] at h
    | changed _ _ _ _ _ _ _ launch => simp [launch] at h
    | closed _ _ _ _ launch => simp [launch] at h
    | recovers _ _ _ launch => simp [launch] at h
    | launched gated plan' named urls preflight unused free attributed state launch =>
      rw [launch] at h
      cases h
      exact ⟨heq ▸ urls, heq ▸ preflight, unused, free, heq ▸ state⟩

/-- A request that launches a recovery. -/
theorem startsRecovery_of_remoteRecoveryLaunch {launch : RemoteRecoveryLaunch}
    (h : (daemon.dispatch env request).remoteRecoveryLaunch = some launch) :
    ∃ recover session used,
      StartsRecovery env.platform request.params daemon recover session used ∧
      launch = recoveryLaunch recover session
        (absolutePathKey env.platform session.identity.workingCopyRoot) ∧
      (daemon.dispatch env request).daemon = (daemon.useOperationId recover.operationId).setLane
        (absolutePathKey env.platform session.identity.workingCopyRoot)
        (.recovering recover.originOperationId (some recover.operationId) used) := by
  rcases @dispatch_cases env request daemon with ⟨_, heq⟩ | ⟨-, heq⟩
  · rw [heq] at h
    cases h
  · rw [heq] at h ⊢
    cases @handle_effect env request daemon with
    | stays _ _ recovery => simp [recovery] at h
    | trust _ _ _ _ recovery => simp [recovery] at h
    | opened _ _ _ _ _ recovery => simp [recovery] at h
    | changed _ _ _ _ _ _ _ _ recovery => simp [recovery] at h
    | closed _ _ _ _ _ recovery => simp [recovery] at h
    | launched _ _ _ _ _ _ _ _ _ _ recovery => simp [recovery] at h
    | recovers method start step launches recovery =>
      obtain rfl := (recovery launch).mp h
      rcases recoverWorkingCopy_cases step with
        ⟨-, hnone, -⟩ | ⟨recover, session, used, hstarts, ⟨-, hnone, -⟩ | ⟨-, hlaunch, -, hstate⟩⟩
      · exact absurd rfl (hnone launch)
      · exact absurd rfl (hnone launch)
      · cases hlaunch
        exact ⟨recover, session, used, hstarts, rfl, hstate⟩

section

variable (hmethod : request.method = .remoteRecoverWorkingCopy)

include hmethod

/-- A recovery request is exempt from the gate. -/
theorem dispatch_recover :
    daemon.dispatch env request = daemon.dispatchRemoteRecoverWorkingCopy env request.params := by
  unfold dispatch nativeLaneFailureForRequest handle
  rw [hmethod]
  rfl

theorem dispatch_recover_daemon :
    (daemon.dispatch env request).daemon =
      (daemon.recoverWorkingCopy env.platform request.params).2 := by
  rw [dispatch_recover hmethod]
  unfold dispatchRemoteRecoverWorkingCopy
  split
  all_goals
    rename_i h
    exact (congrArg Prod.snd h).symm

theorem dispatch_recover_remoteLaunch : (daemon.dispatch env request).remoteLaunch = none := by
  rw [dispatch_recover hmethod]
  unfold dispatchRemoteRecoverWorkingCopy
  split
  all_goals rfl

end

end

end Daemon

end SubversionR

import SubversionR.Daemon.State
import SubversionR.Daemon.RemoteAccess

/-!
# Native lanes — which working copies a worker may hold

A remote operation runs in a worker process, after the request that asked for it has returned.
Until the worker *settles*, its working copy is marked by a *lane*: `Active` while the worker runs,
`Recovering` when it may have left the working copy in an unknown state, `Blocked` when that state
can no longer be repaired.  `Daemon` is `DaemonState` with the lanes, the operation ids in use and
the workspace trust.

* `settleRemoteLaunch_cases` — the settlement of a worker touches the lane it ran in only;
* `recoverWorkingCopy_cases` — what a recovery request can do;
* `settleRemoteRecovery_cases` — what the settlement of a recovery can do.
-/

namespace SubversionR

open KeyedMaps KeyedMap JsonValues

/-! ## State -/

inductive RemoteOperationEffect where
  | readOnly
  | mutation
deriving DecidableEq, Inhabited

inductive RemoteNativeLaneState where
  | active (operationId : Text) (effect : RemoteOperationEffect) (repositoryId : Option Text)
      (epoch : Option Nat)
  | recovering (originOperationId : Text) (recoveryOperationId : Option Text)
      (usedRecoveryOperationIds : Finset Text)
  | blocked (originOperationId : Text) (reason : NativeRemoteFailureReason)
      (cleanupAppropriate : Bool)
deriving DecidableEq

/-- A lane with the key it is stored under. -/
structure RemoteNativeLane where
  laneKey : Text
  state : RemoteNativeLaneState

structure Daemon extends DaemonState where
  remoteTrust : Option RemoteTrustState
  remoteNativeLanes : KeyedMap RemoteNativeLane.laneKey
  activeRemoteOperationIds : Finset Text

/-- The key of a working copy root, or of another absolute path. -/
def absolutePathKey (platform : Platform) (path : Text) : Text :=
  foldCase platform (normalizeAbsolutePathText path)

structure RemoteLaunchPlan where
  laneKey : Text
  repositoryId : Option Text
  epoch : Option Nat
  effect : RemoteOperationEffect
  operation : ValidatedRemoteOperation
deriving DecidableEq

/-- A recovery on its way: what the session needs and the lane it holds. -/
structure RemoteRecoveryLaunch extends RemoteRecoveryLaunchPlan where
  laneKey : Text
  originOperationId : Text
  operationId : Text
  identity : RepositoryIdentity
deriving DecidableEq

/-! ## Failures -/

/-- A failure with the part of its diagnostics that is read: whether the cause was a failed
authentication. -/
structure DiagnosedFailure extends BridgeFailure where
  authenticationFailed : Bool

inductive RemoteFailureCategory where
  | authentication
  | cancellation
  | deadline
  | policy
  | credential
  | process
  | recovery
  | configuration
  | capability
  | unknown
deriving DecidableEq

structure RemoteFailure where
  category : RemoteFailureCategory
  reason : NativeRemoteFailureReason
  cleanupAppropriate : Bool

/-- The table of `classify_remote_failure`: codes, category and reason. -/
def remoteFailureTable :
    List (List String × RemoteFailureCategory × NativeRemoteFailureReason) :=
  [(["SUBVERSIONR_REMOTE_WORKER_CANCELLED", "SUBVERSIONR_CREDENTIAL_CANCELLED"],
      .cancellation, .operationCancelled),
   (["SUBVERSIONR_REMOTE_WORKER_TIMED_OUT", "SUBVERSIONR_CREDENTIAL_TIMEOUT"],
      .deadline, .operationDeadlineExceeded),
   (["SUBVERSIONR_REMOTE_RECOVERY_BLOCKED"], .recovery, .remoteRecoveryBlocked),
   (["SUBVERSIONR_REMOTE_TRANSPORT_UNSUPPORTED"], .capability, .remoteCapabilityUnsupported),
   (["SUBVERSIONR_REMOTE_ORIGIN_MISMATCH"], .policy, .crossAuthorityRejected),
   (["SUBVERSIONR_REMOTE_REDIRECT_REJECTED"], .policy, .redirectRejected),
   (["SUBVERSIONR_REMOTE_WORKER_CRASHED", "SUBVERSIONR_REMOTE_WORKER_DISCONNECTED",
      "SUBVERSIONR_REMOTE_WORKER_PROTOCOL_INVALID", "SUBVERSIONR_REMOTE_WORKER_START_FAILED"],
      .process, .workerContainmentFailed),
   (["SUBVERSIONR_CREDENTIAL_ACCOUNT_UNAVAILABLE", "SUBVERSIONR_CREDENTIAL_NON_INTERACTIVE"],
      .authentication, .authenticationRequired),
   (["SUBVERSIONR_CREDENTIAL_LEASE_UNKNOWN", "SUBVERSIONR_CREDENTIAL_LEASE_FOREIGN",
      "SUBVERSIONR_CREDENTIAL_LEASE_EXPIRED", "SUBVERSIONR_CREDENTIAL_SETTLEMENT_CONFLICT",
      "SUBVERSIONR_CREDENTIAL_RETRY_INVALID", "SUBVERSIONR_CREDENTIAL_SECRET_INVALID"],
      .credential, .credentialRejected),
   (["SUBVERSIONR_CREDENTIAL_LEGACY_BLOCKED", "SUBVERSIONR_CREDENTIAL_LEGACY_CLEAR_DECLINED",
      "SUBVERSIONR_CREDENTIAL_REMOTE_WORKER_REQUIRED", "SUBVERSIONR_CREDENTIAL_STORAGE_INTEGRITY",
      "SUBVERSIONR_CREDENTIAL_UNTRUSTED_WORKSPACE", "SUBVERSIONR_REMOTE_CONFIG_UNAVAILABLE",
      "SUBVERSIONR_REMOTE_CONFIG_CREATE_FAILED", "SUBVERSIONR_REMOTE_CONFIG_CREATE_NULL",
      "SUBVERSIONR_REMOTE_CONFIG_INSPECTION_FAILED", "SUBVERSIONR_REMOTE_CONFIG_INSPECTION_INVALID",
      "SUBVERSIONR_REMOTE_CONTRACT_INVALID", "SUBVERSIONR_REMOTE_ENVELOPE_FORBIDDEN",
      "SUBVERSIONR_REMOTE_ENVELOPE_REQUIRED", "SUBVERSIONR_REMOTE_TRUST_EPOCH_EXHAUSTED",
      "SUBVERSIONR_REMOTE_TRUST_EPOCH_MISMATCH",
      "SUBVERSIONR_REMOTE_WORKER_CONFIGURATION_INVALID"],
      .configuration, .remoteConfigurationInvalid),
   (["SUBVERSIONR_REMOTE_AUTH_UNSUPPORTED", "SUBVERSIONR_REMOTE_PROXY_UNSUPPORTED",
      "SUBVERSIONR_REMOTE_REDIRECT_POLICY_UNSUPPORTED",
      "SUBVERSIONR_REMOTE_SSH_PROFILE_UNSUPPORTED", "SUBVERSIONR_REMOTE_TLS_POLICY_UNSUPPORTED"],
      .capability, .remoteCapabilityUnsupported),
   (["SUBVERSIONR_REMOTE_OPERATION_INDETERMINATE"], .recovery, .remoteOperationIndeterminate)]

/-- `classify_remote_failure`. -/
def classifyRemoteFailure (failure : DiagnosedFailure) : RemoteFailure :=
  if failure.authenticationFailed then ⟨.authentication, .authenticationRequired, false⟩
  else
    match remoteFailureTable.find? fun row =>
      decide (failure.code ∈ row.1.map String.toList) with
    | some (_, category, reason) => ⟨category, reason, false⟩
    | none => ⟨.unknown, .unknownRemote, false⟩

namespace BridgeFailure

def nativeLaneBusy : BridgeFailure :=
  ⟨"SUBVERSIONR_REMOTE_NATIVE_LANE_BUSY", "state", "error.remote.nativeLaneBusy", true⟩

def operationIndeterminate : BridgeFailure :=
  ⟨"SUBVERSIONR_REMOTE_OPERATION_INDETERMINATE", "state", "error.remote.operationIndeterminate",
    false⟩

def recoveryBlocked : BridgeFailure :=
  ⟨"SUBVERSIONR_REMOTE_RECOVERY_BLOCKED", "state", "error.remote.recoveryBlocked", false⟩

def operationInProgress : BridgeFailure :=
  ⟨"SUBVERSIONR_REMOTE_OPERATION_IN_PROGRESS", "state", "error.remote.operationInProgress", false⟩

def recoveryOperationIdReused : BridgeFailure :=
  ⟨"SUBVERSIONR_REMOTE_RECOVERY_OPERATION_ID_REUSED", "protocol",
    "error.remote.recoveryOperationIdReused", false⟩

def recoveryOriginMismatch : BridgeFailure :=
  ⟨"SUBVERSIONR_REMOTE_RECOVERY_ORIGIN_MISMATCH", "protocol",
    "error.remote.recoveryOriginMismatch", false⟩

end BridgeFailure

/-- How a request is refused that meets a lane. -/
def RemoteNativeLaneState.failure : RemoteNativeLaneState → BridgeFailure
  | .active .. => .nativeLaneBusy
  | .recovering .. => .operationIndeterminate
  | .blocked .. => .recoveryBlocked

namespace Daemon

/-- `DaemonState::new`. -/
def new : Daemon := { DaemonState.new with
  remoteTrust := none
  remoteNativeLanes := KeyedMap.empty
  activeRemoteOperationIds := ∅ }

def laneAt (daemon : Daemon) (laneKey : Text) : Option RemoteNativeLaneState :=
  (daemon.remoteNativeLanes.get? laneKey).map RemoteNativeLane.state

def setLane (daemon : Daemon) (laneKey : Text) (state : RemoteNativeLaneState) : Daemon :=
  { daemon with remoteNativeLanes := daemon.remoteNativeLanes.insert ⟨laneKey, state⟩ }

def freeLane (daemon : Daemon) (laneKey : Text) : Daemon :=
  { daemon with remoteNativeLanes := daemon.remoteNativeLanes.erase laneKey }

def useOperationId (daemon : Daemon) (operationId : Text) : Daemon :=
  { daemon with
    activeRemoteOperationIds := insert operationId daemon.activeRemoteOperationIds }

def releaseOperationId (daemon : Daemon) (operationId : Text) : Daemon :=
  { daemon with activeRemoteOperationIds := daemon.activeRemoteOperationIds.erase operationId }

theorem laneAt_setLane (daemon : Daemon) (laneKey key : Text) (state : RemoteNativeLaneState) :
    (daemon.setLane laneKey state).laneAt key =
      if key = laneKey then some state else daemon.laneAt key := by
  unfold laneAt setLane
  rw [get?_insert]
  by_cases hkey : key = laneKey
  · subst hkey
    simp
  · simp [hkey, Ne.symm hkey]

theorem laneAt_freeLane (daemon : Daemon) (laneKey key : Text) :
    (daemon.freeLane laneKey).laneAt key = if key = laneKey then none else daemon.laneAt key := by
  unfold laneAt freeLane
  rw [get?_erase]
  by_cases hkey : key = laneKey
  · subst hkey
    simp
  · simp [hkey, Ne.symm hkey]

@[simp]
theorem laneAt_useOperationId (daemon : Daemon) (operationId key : Text) :
    (daemon.useOperationId operationId).laneAt key = daemon.laneAt key := rfl

@[simp]
theorem laneAt_releaseOperationId (daemon : Daemon) (operationId key : Text) :
    (daemon.releaseOperationId operationId).laneAt key = daemon.laneAt key := rfl

@[simp]
theorem laneAt_new (key : Text) : Daemon.new.laneAt key = none := by
  unfold laneAt Daemon.new
  simp

/-! ## Launching a worker -/

/-- `reserve_remote_lane`. -/
def reserveRemoteLane (daemon : Daemon) (laneKey operationId : Text)
    (effect : RemoteOperationEffect) (repositoryId : Option Text) (epoch : Option Nat) :
    Except BridgeFailure Daemon :=
  if operationId ∈ daemon.activeRemoteOperationIds then .error .operationInProgress
  else
    match daemon.laneAt laneKey with
    | some state => .error state.failure
    | none =>
      .ok ((daemon.useOperationId operationId).setLane laneKey
        (.active operationId effect repositoryId epoch))

theorem reserveRemoteLane_eq_ok_iff {daemon daemon' : Daemon} {laneKey operationId : Text}
    {effect : RemoteOperationEffect} {repositoryId : Option Text} {epoch : Option Nat} :
    daemon.reserveRemoteLane laneKey operationId effect repositoryId epoch = .ok daemon' ↔
      operationId ∉ daemon.activeRemoteOperationIds ∧ daemon.laneAt laneKey = none ∧
        daemon' = (daemon.useOperationId operationId).setLane laneKey
          (.active operationId effect repositoryId epoch) := by
  unfold reserveRemoteLane
  split
  · rename_i hactive
    simp [hactive]
  · rename_i hfree
    split
    · rename_i hlane
      simp [hlane]
    · rename_i hlane
      simp [hfree, hlane, @eq_comm _ daemon']

/-- What a worker reports when it has ended. -/
structure RemoteWorkerSettlement where
  result : Except DiagnosedFailure Unit
  effect : RemoteOperationEffect
  workerWasResumed : Bool
  executionOriginKnown : Bool
  jobDescendantsZero : Bool
  tempRootRemoved : Bool

end Daemon

namespace Daemon.RemoteWorkerSettlement

def failed (settlement : RemoteWorkerSettlement) : Bool :=
  match settlement.result with
  | .ok _ => false
  | .error _ => true

def cleanupSafe (settlement : RemoteWorkerSettlement) : Bool :=
  settlement.jobDescendantsZero && settlement.tempRootRemoved

def mayHaveMutated (settlement : RemoteWorkerSettlement) : Bool :=
  decide (settlement.effect = .mutation) &&
    (settlement.workerWasResumed || !settlement.executionOriginKnown)

/-- The settlement leaves the working copy in a state the daemon does not know. -/
def Indeterminate (settlement : RemoteWorkerSettlement) (reserved : RemoteOperationEffect) : Prop :=
  (settlement.failed = true ∧ settlement.mayHaveMutated = true) ∨ settlement.cleanupSafe = false ∨
    reserved ≠ settlement.effect

instance (settlement : RemoteWorkerSettlement) (reserved : RemoteOperationEffect) :
    Decidable (settlement.Indeterminate reserved) :=
  inferInstanceAs (Decidable (_ ∨ _ ∨ _))

end Daemon.RemoteWorkerSettlement

namespace Daemon

/-- Some other lane runs a worker under this operation id. -/
def ownedByAnotherLane (daemon : Daemon) (laneKey operationId : Text) : Bool :=
  daemon.remoteNativeLanes.values.any fun lane =>
    decide (lane.laneKey ≠ laneKey) &&
      match lane.state with
      | .active active _ _ _ => decide (active = operationId)
      | _ => false

/-- `settle_remote_launch`. -/
def settleRemoteLaunch (daemon : Daemon) (laneKey operationId : Text)
    (settlement : RemoteWorkerSettlement) : Option BridgeFailure × Daemon :=
  let unmatched : Daemon :=
    if daemon.ownedByAnotherLane laneKey operationId then daemon
    else daemon.releaseOperationId operationId
  match daemon.laneAt laneKey with
  | some (.active active effect repositoryId epoch) =>
    if active = operationId then
      let released := daemon.releaseOperationId operationId
      if repositoryId.isNone ≠ epoch.isNone then
        (some .recoveryBlocked, released.setLane laneKey
          (.blocked operationId .remoteOperationIndeterminate false))
      else if effect ≠ settlement.effect ∨ settlement.cleanupSafe = false then
        (some .recoveryBlocked, released.setLane laneKey
          (.blocked operationId .remoteRecoveryBlocked false))
      else if settlement.failed ∧ settlement.mayHaveMutated then
        if repositoryId.isNone then
          (some .recoveryBlocked, released.setLane laneKey
            (.blocked operationId .remoteOperationIndeterminate false))
        else (none, released.setLane laneKey (.recovering operationId none ∅))
      else (none, released.freeLane laneKey)
    else (none, unmatched)
  | _ => (none, unmatched)

/-- **What the settlement of a worker does to the lanes.**  Either no active lane matches and every
lane stays, or the lane of the worker is freed, made recovering or blocked. -/
theorem settleRemoteLaunch_cases (daemon : Daemon) (laneKey operationId : Text)
    (settlement : RemoteWorkerSettlement) :
    ((∀ effect repositoryId epoch,
        daemon.laneAt laneKey ≠ some (.active operationId effect repositoryId epoch)) ∧
      ∀ key, (daemon.settleRemoteLaunch laneKey operationId settlement).2.laneAt key =
        daemon.laneAt key) ∨
      ∃ effect repositoryId epoch,
        daemon.laneAt laneKey = some (.active operationId effect repositoryId epoch) ∧
        ∃ next : Option RemoteNativeLaneState,
          (∀ key, (daemon.settleRemoteLaunch laneKey operationId settlement).2.laneAt key =
            if key = laneKey then next else daemon.laneAt key) ∧
          ((next = none ∧ ¬ settlement.Indeterminate effect) ∨
            next = some (.recovering operationId none ∅) ∨
            ∃ reason cleanup, next = some (.blocked operationId reason cleanup)) := by
  -- a settlement for no active lane may free an operation id, never a lane
  have hunmatched : ∀ key, (if daemon.ownedByAnotherLane laneKey operationId then daemon
      else daemon.releaseOperationId operationId).laneAt key = daemon.laneAt key := by
    intro key
    split
    · rfl
    · rfl
  unfold settleRemoteLaunch
  cases hlane : daemon.laneAt laneKey with
  | none => exact .inl ⟨by simp, hunmatched⟩
  | some state =>
    cases state with
    | recovering origin recovery used => exact .inl ⟨by simp, hunmatched⟩
    | blocked origin reason cleanup => exact .inl ⟨by simp, hunmatched⟩
    | active active effect repositoryId epoch =>
      dsimp only
      by_cases hid : active = operationId
      · subst hid
        rw [if_pos rfl]
        refine .inr ⟨effect, repositoryId, epoch, rfl, ?_⟩
        by_cases hattribution : repositoryId.isNone ≠ epoch.isNone
        · rw [if_pos hattribution]
          exact ⟨_, fun key => laneAt_setLane _ _ key _, .inr (.inr ⟨_, _, rfl⟩)⟩
        · rw [if_neg hattribution]
          by_cases hunsafe : effect ≠ settlement.effect ∨ settlement.cleanupSafe = false
          · rw [if_pos hunsafe]
            exact ⟨_, fun key => laneAt_setLane _ _ key _, .inr (.inr ⟨_, _, rfl⟩)⟩
          · rw [if_neg hunsafe]
            by_cases hmutated : settlement.failed ∧ settlement.mayHaveMutated
            · rw [if_pos hmutated]
              by_cases hnone : repositoryId.isNone
              · rw [if_pos hnone]
                exact ⟨_, fun key => laneAt_setLane _ _ key _, .inr (.inr ⟨_, _, rfl⟩)⟩
              · rw [if_neg hnone]
                exact ⟨_, fun key => laneAt_setLane _ _ key _, .inr (.inl rfl)⟩
            · rw [if_neg hmutated]
              -- the one way to free the lane: all three signs of an unknown outcome are absent
              refine ⟨none, laneAt_freeLane _ _, .inl ⟨rfl, ?_⟩⟩
              rintro (hmut | hcleanup | heffect)
              · exact hmutated hmut
              · exact hunsafe (.inr hcleanup)
              · exact hunsafe (.inl heffect)
      · rw [if_neg hid]
        refine .inl ⟨?_, hunmatched⟩
        intro _ _ _ heq
        cases heq
        exact hid rfl

/-- The settlement of a worker leaves the sessions and the trust state alone. -/
theorem settleRemoteLaunch_frame (daemon : Daemon) (laneKey operationId : Text)
    (settlement : RemoteWorkerSettlement) :
    (daemon.settleRemoteLaunch laneKey operationId settlement).2.toDaemonState =
        daemon.toDaemonState ∧
      (daemon.settleRemoteLaunch laneKey operationId settlement).2.remoteTrust =
        daemon.remoteTrust := by
  unfold settleRemoteLaunch
  repeat' split
  all_goals exact ⟨rfl, rfl⟩

/-! ## Recovering a working copy -/

/-- The checked parameters of `remote/recoverWorkingCopy`. -/
structure RecoverRequest where
  repositoryId : Text
  epoch : Nat
  operationId : Text
  originOperationId : Text

/-- A parameter that must be a canonical uuid. -/
def uuidParam (params : Json) (field : String) : Option Text :=
  match params.prop field with
  | some (.str text) => if isCanonicalUuidRust text then some text else none
  | _ => none

def recoverRequest (params : Json) : Except Text RecoverRequest :=
  match unexpectedParam params
    ["repositoryId", "epoch", "originOperationId", "operationId", "timeoutMs"] with
  | some field => .error field
  | none =>
    match repositoryIdParam params with
    | none => .error "repositoryId"
    | some repositoryId =>
      match epochParam params with
      | none => .error "epoch"
      | some epoch =>
        match uuidParam params "operationId" with
        | none => .error "operationId"
        | some operationId =>
          match uuidParam params "originOperationId" with
          | none => .error "originOperationId"
          | some originOperationId =>
            if originOperationId = operationId then .error "operationId"
            else
              match params.prop "timeoutMs" with
              | some (.int n) =>
                if 0 < n ∧ n ≤ maxRemoteTimeoutMs then
                  .ok ⟨repositoryId, epoch, operationId, originOperationId⟩
                else .error "timeoutMs"
              | _ => .error "timeoutMs"

/-- What the lane of a working copy says to a recovery request. -/
inductive RecoveryAdmission where
  | start (usedRecoveryOperationIds : Finset Text)
  | refused (failure : BridgeFailure)
  | blocked (cleanupAppropriate : Bool)

/-- The recovery id was used for this lane before. -/
def recoveryIdReused (lane : Option RemoteNativeLaneState) (operationId : Text) : Bool :=
  match lane with
  | some (.recovering origin recovery used) =>
    decide (origin = operationId) || decide (recovery = some operationId)
      || decide (operationId ∈ used)
  | _ => false

def recoveryAdmission (lane : Option RemoteNativeLaneState) (activeRemoteOperationIds : Finset Text)
    (operationId originOperationId : Text) : RecoveryAdmission :=
  if recoveryIdReused lane operationId ∨ operationId ∈ activeRemoteOperationIds then
    .refused .recoveryOperationIdReused
  else
    match lane with
    | some (.recovering origin none used) =>
      if origin = originOperationId then .start used else .refused .recoveryOriginMismatch
    | some (.blocked _ _ cleanupAppropriate) => .blocked cleanupAppropriate
    | some (.recovering _ (some _) _) => .refused .nativeLaneBusy
    | some (.active ..) => .refused .nativeLaneBusy
    | none => .start ∅

/-- `MAX_REMOTE_RECOVERY_OPERATION_IDS`. -/
def maxRemoteRecoveryOperationIds : Nat := 64

/-- The session a recovery request names and the lane of its working copy. -/
def recoveryTarget (platform : Platform) (daemon : Daemon) (params : Json) :
    Except DaemonError (RecoverRequest × RepositorySession × Text) :=
  match recoverRequest params with
  | .error field => .error (.invalidParams field)
  | .ok request =>
    match daemon.requireSession request.repositoryId request.epoch with
    | .error error => .error error
    | .ok session =>
      .ok (request, session, absolutePathKey platform session.identity.workingCopyRoot)

/-- The launch a recovery request stores. -/
def recoveryLaunch (request : RecoverRequest) (session : RepositorySession) (laneKey : Text) :
    RemoteRecoveryLaunch where
  repositoryId := request.repositoryId
  epoch := request.epoch
  boundaryRoots := session.boundaryRoots
  generation := session.nextGeneration
  laneKey := laneKey
  originOperationId := request.originOperationId
  operationId := request.operationId
  identity := session.identity

/-- The answers of a recovery. -/
inductive RemoteRecoveryOutcome where
  | safe (operationId : Text)
  | indeterminate (operationId : Text) (failure : RemoteFailure)
  | blocked (operationId : Text) (failure : RemoteFailure)

/-- What a recovery request leads to: an answer, or a launch that is answered when it settles. -/
inductive RecoveryStart where
  | refused (error : DaemonError)
  | answered (outcome : RemoteRecoveryOutcome)
  | launched (launch : RemoteRecoveryLaunch)

/-- `dispatch_remote_recover_working_copy`. -/
def recoverWorkingCopy (platform : Platform) (params : Json) (daemon : Daemon) :
    RecoveryStart × Daemon :=
  match daemon.recoveryTarget platform params with
  | .error error => (.refused error, daemon)
  | .ok (request, session, laneKey) =>
    match recoveryAdmission (daemon.laneAt laneKey) daemon.activeRemoteOperationIds
      request.operationId request.originOperationId with
    | .refused failure => (.refused (.bridge failure), daemon)
    | .blocked cleanupAppropriate =>
      (.answered (.blocked request.operationId
        ⟨.recovery, .remoteRecoveryBlocked, cleanupAppropriate⟩), daemon)
    | .start used =>
      if maxRemoteRecoveryOperationIds ≤ used.card then
        (.answered (.blocked request.operationId ⟨.recovery, .remoteRecoveryBlocked, false⟩),
          daemon.setLane laneKey (.blocked request.originOperationId .remoteRecoveryBlocked false))
      else
        (.launched (recoveryLaunch request session laneKey),
          (daemon.useOperationId request.operationId).setLane laneKey
            (.recovering request.originOperationId (some request.operationId) used))

/-- The lane in which a recovery request would start a recovery. -/
def recoveryLaneKey (platform : Platform) (daemon : Daemon) (params : Json) : Option Text :=
  match daemon.recoveryTarget platform params with
  | .error _ => none
  | .ok (request, _, laneKey) =>
    match recoveryAdmission (daemon.laneAt laneKey) daemon.activeRemoteOperationIds
      request.operationId request.originOperationId with
    | .start used => if used.card < maxRemoteRecoveryOperationIds then some laneKey else none
    | _ => none

/-- The lane lets a recovery start. -/
theorem recoveryAdmission_eq_start_iff {lane : Option RemoteNativeLaneState}
    {activeRemoteOperationIds used : Finset Text} {operationId originOperationId : Text} :
    recoveryAdmission lane activeRemoteOperationIds operationId originOperationId = .start used ↔
      operationId ∉ activeRemoteOperationIds ∧
        ((lane = none ∧ used = ∅) ∨
          (lane = some (.recovering originOperationId none used) ∧
            originOperationId ≠ operationId ∧ operationId ∉ used)) := by
  unfold recoveryAdmission
  by_cases hactive : operationId ∈ activeRemoteOperationIds
  · simp [hactive]
  · cases lane with
    | none => simp [hactive, recoveryIdReused, @eq_comm _ used]
    | some state =>
      cases state with
      -- only an idle recovering lane admits an attempt
      | active id effect repositoryId epoch => simp [hactive, recoveryIdReused]
      | blocked origin reason cleanup => simp [hactive, recoveryIdReused]
      | recovering origin recovery used' =>
        cases recovery with
        | some id =>
          by_cases hreused : recoveryIdReused (some (.recovering origin (some id) used'))
            operationId
          · simp [hreused]
          · simp [hactive, hreused]
        | none =>
          -- an id is used up by the launch itself and by each earlier attempt
          by_cases hreused : origin = operationId ∨ operationId ∈ used'
          · have htrue : recoveryIdReused (some (.recovering origin none used')) operationId := by
              simpa [recoveryIdReused] using hreused
            rw [if_pos (.inl htrue)]
            simp only [reduceCtorEq, false_and, false_or, Option.some.injEq,
              RemoteNativeLaneState.recovering.injEq, true_and, false_iff, not_and]
            rintro - ⟨rfl, rfl⟩ hne
            rcases hreused with rfl | hused
            · exact absurd rfl hne
            · exact fun h => h hused
          · push Not at hreused
            have hfalse : recoveryIdReused (some (.recovering origin none used')) operationId
                = false := by
              simp [recoveryIdReused, hreused]
            rw [if_neg (by simp [hfalse, hactive])]
            dsimp only
            by_cases horigin : origin = originOperationId
            · subst horigin
              rw [if_pos rfl]
              constructor
              · intro h
                cases h
                exact ⟨hactive, .inr ⟨rfl, hreused⟩⟩
              · rintro ⟨-, ⟨h, -⟩ | ⟨h, -⟩⟩
                · cases h
                · cases h
                  rfl
            · rw [if_neg horigin]
              simp [horigin]

/-- A recovery request that starts a recovery: the checks it has passed. -/
structure StartsRecovery (platform : Platform) (params : Json) (daemon : Daemon)
    (request : RecoverRequest) (session : RepositorySession) (used : Finset Text) : Prop where
  reads : recoverRequest params = .ok request
  isOpen : daemon.repositories.get? request.repositoryId = some session
  epoch : session.epoch = request.epoch
  unused : request.operationId ∉ daemon.activeRemoteOperationIds
  lane : daemon.laneAt (absolutePathKey platform session.identity.workingCopyRoot) = none ∧
    used = ∅ ∨
    daemon.laneAt (absolutePathKey platform session.identity.workingCopyRoot) =
      some (.recovering request.originOperationId none used) ∧
    request.originOperationId ≠ request.operationId ∧ request.operationId ∉ used

/-- **What a recovery request can do**: nothing, give the lane up after too many attempts, or mark
the lane and launch a recovery. -/
theorem recoverWorkingCopy_cases {platform : Platform} {params : Json} {daemon daemon' : Daemon}
    {start : RecoveryStart} (h : daemon.recoverWorkingCopy platform params = (start, daemon')) :
    (daemon' = daemon ∧ (∀ launch, start ≠ .launched launch) ∧
      daemon.recoveryLaneKey platform params = none) ∨
      ∃ request session used, StartsRecovery platform params daemon request session used ∧
        ((maxRemoteRecoveryOperationIds ≤ used.card ∧ (∀ launch, start ≠ .launched launch) ∧
            daemon.recoveryLaneKey platform params = none ∧
            daemon' = daemon.setLane (absolutePathKey platform session.identity.workingCopyRoot)
              (.blocked request.originOperationId .remoteRecoveryBlocked false)) ∨
          (used.card < maxRemoteRecoveryOperationIds ∧
            start = .launched (recoveryLaunch request session
              (absolutePathKey platform session.identity.workingCopyRoot)) ∧
            daemon.recoveryLaneKey platform params =
              some (absolutePathKey platform session.identity.workingCopyRoot) ∧
            daemon' = (daemon.useOperationId request.operationId).setLane
              (absolutePathKey platform session.identity.workingCopyRoot)
              (.recovering request.originOperationId (some request.operationId) used))) := by
  unfold recoverWorkingCopy at h
  unfold recoveryLaneKey
  cases htarget : daemon.recoveryTarget platform params with
  | error error =>
    rw [htarget] at h
    cases h
    exact .inl ⟨rfl, by simp, rfl⟩
  | ok target =>
    obtain ⟨request, session, _⟩ := target
    rw [htarget] at h
    dsimp only at h ⊢
    unfold recoveryTarget at htarget
    split at htarget
    · cases htarget
    rename_i hrequest
    split at htarget
    · cases htarget
    rename_i hsession
    cases htarget
    obtain ⟨hopen, hepoch⟩ := DaemonState.requireSession_eq_ok_iff.mp hsession
    -- the admission decides; only `start` changes the daemon
    cases hadmission : recoveryAdmission
        (daemon.laneAt (absolutePathKey platform session.identity.workingCopyRoot))
        daemon.activeRemoteOperationIds request.operationId request.originOperationId with
    | refused | blocked =>
      rw [hadmission] at h
      cases h
      exact .inl ⟨rfl, by simp, rfl⟩
    | start used =>
      rw [hadmission] at h
      dsimp only at h ⊢
      obtain ⟨hunused, hlane⟩ := recoveryAdmission_eq_start_iff.mp hadmission
      refine .inr ⟨request, session, used, ⟨hrequest, hopen, hepoch, hunused, hlane⟩, ?_⟩
      -- too many attempts block the lane in place of starting another
      by_cases hmany : maxRemoteRecoveryOperationIds ≤ used.card
      · rw [if_pos hmany] at h
        cases h
        exact .inl ⟨hmany, by simp, if_neg (by omega), rfl⟩
      · rw [if_neg hmany] at h
        cases h
        have hfew : used.card < maxRemoteRecoveryOperationIds := by omega
        exact .inr ⟨hfew, rfl, if_pos hfew, rfl⟩

/-! ## Settling a recovery -/

/-- The exits of `settle_remote_recovery`. -/
inductive RecoverySettled where
  | settlementInvalid
  | sessionLost
  | outcome (outcome : RemoteRecoveryOutcome)

/-- The lane still holds the launch. -/
def laneMatches (daemon : Daemon) (launch : RemoteRecoveryLaunch) : Bool :=
  match daemon.laneAt launch.laneKey with
  | some (.recovering origin (some recovery) _) =>
    decide (origin = launch.originOperationId) && decide (recovery = launch.operationId)
  | _ => false

/-- The recovery ids the lane has seen. -/
def usedRecoveryIds (daemon : Daemon) (laneKey : Text) : Finset Text :=
  match daemon.laneAt laneKey with
  | some (.recovering _ _ used) => used
  | _ => ∅

/-- `finish_indeterminate_recovery`. -/
def finishIndeterminateRecovery (daemon : Daemon) (launch : RemoteRecoveryLaunch)
    (failure : DiagnosedFailure) : RecoverySettled × Daemon :=
  let remoteFailure := classifyRemoteFailure failure
  if remoteFailure.reason = .remoteRecoveryBlocked then
    (.outcome (.blocked launch.operationId remoteFailure),
      daemon.setLane launch.laneKey (.blocked launch.originOperationId remoteFailure.reason
        remoteFailure.cleanupAppropriate))
  else
    (.outcome (.indeterminate launch.operationId remoteFailure),
      daemon.setLane launch.laneKey (.recovering launch.originOperationId none
        (insert launch.operationId (daemon.usedRecoveryIds launch.laneKey))))

/-- `settle_remote_recovery`. -/
def settleRemoteRecovery (platform : Platform) (launch : RemoteRecoveryLaunch)
    (recovery : Except DiagnosedFailure StatusSnapshot) (daemon : Daemon) :
    RecoverySettled × Daemon :=
  let released := daemon.releaseOperationId launch.operationId
  if daemon.laneMatches launch then
    match recovery with
    | .ok snapshot =>
      match (daemon.repositories.get? launch.repositoryId).bind
        (RepositorySession.settleRemoteRecovery platform launch.toRemoteRecoveryLaunchPlan
          snapshot) with
      | none => (.sessionLost, released)
      | some session =>
        (.outcome (.safe launch.operationId),
          { released with repositories := released.repositories.insert session }.freeLane
            launch.laneKey)
    | .error failure => released.finishIndeterminateRecovery launch failure
  else (.settlementInvalid, released)

theorem laneMatches_iff {daemon : Daemon} {launch : RemoteRecoveryLaunch} :
    daemon.laneMatches launch = true ↔
      ∃ used, daemon.laneAt launch.laneKey =
        some (.recovering launch.originOperationId (some launch.operationId) used) := by
  unfold laneMatches
  split
  · rename_i used hlane
    rw [hlane]
    simp
  · rename_i hother
    simp only [reduceCtorEq, false_iff, not_exists]
    intro used hlane
    exact hother _ _ _ hlane

/-- **What the settlement of a recovery can do.** -/
theorem settleRemoteRecovery_cases {platform : Platform} {launch : RemoteRecoveryLaunch}
    {recovery : Except DiagnosedFailure StatusSnapshot} {daemon daemon' : Daemon}
    {settled : RecoverySettled}
    (h : daemon.settleRemoteRecovery platform launch recovery = (settled, daemon')) :
    (daemon.laneMatches launch = false ∧ settled = .settlementInvalid ∧
        daemon' = daemon.releaseOperationId launch.operationId) ∨
      (∃ snapshot, recovery = .ok snapshot ∧ daemon.laneMatches launch = true ∧
        (daemon.repositories.get? launch.repositoryId).bind
          (RepositorySession.settleRemoteRecovery platform launch.toRemoteRecoveryLaunchPlan
            snapshot) = none ∧ settled = .sessionLost ∧
        daemon' = daemon.releaseOperationId launch.operationId) ∨
      (∃ snapshot session session', recovery = .ok snapshot ∧ daemon.laneMatches launch = true ∧
        daemon.repositories.get? launch.repositoryId = some session ∧
        session.settleRemoteRecovery platform launch.toRemoteRecoveryLaunchPlan snapshot =
          some session' ∧
        settled = .outcome (.safe launch.operationId) ∧
        daemon' = { daemon.releaseOperationId launch.operationId with
          repositories := daemon.repositories.insert session' }.freeLane launch.laneKey) ∨
      (∃ failure outcome state, recovery = .error failure ∧ daemon.laneMatches launch = true ∧
        settled = .outcome outcome ∧
        daemon' = (daemon.releaseOperationId launch.operationId).setLane launch.laneKey state ∧
        ((∃ reason cleanup, state = .blocked launch.originOperationId reason cleanup) ∨
          state = .recovering launch.originOperationId none
            (insert launch.operationId (daemon.usedRecoveryIds launch.laneKey)))) := by
  unfold settleRemoteRecovery at h
  -- an answer whose lane has moved on is invalid and only frees its id
  by_cases hmatches : daemon.laneMatches launch = true
  · rw [if_pos hmatches] at h
    cases recovery with
    | ok snapshot =>
      dsimp only at h
      cases hsession : (daemon.repositories.get? launch.repositoryId).bind
        (RepositorySession.settleRemoteRecovery platform launch.toRemoteRecoveryLaunchPlan
          snapshot) with
      | none =>
        rw [hsession] at h
        cases h
        exact .inr (.inl ⟨snapshot, rfl, hmatches, hsession, rfl, rfl⟩)
      | some session' =>
        rw [hsession] at h
        cases h
        obtain ⟨session, hget, hsettle⟩ := Option.bind_eq_some_iff.mp hsession
        exact .inr (.inr (.inl ⟨snapshot, session, session', rfl, hmatches, hget, hsettle,
          rfl, rfl⟩))
    | error failure =>
      -- a failed recovery keeps the lane: blocked, or ready for a next attempt
      unfold finishIndeterminateRecovery at h
      dsimp only at h
      split at h
      · cases h
        exact .inr (.inr (.inr ⟨failure, _, _, rfl, hmatches, rfl, rfl, .inl ⟨_, _, rfl⟩⟩))
      · cases h
        exact .inr (.inr (.inr ⟨failure, _, _, rfl, hmatches, rfl, rfl, .inr rfl⟩))
  · rw [if_neg hmatches] at h
    cases h
    exact .inl ⟨by simpa using hmatches, rfl, rfl⟩

end Daemon

end SubversionR

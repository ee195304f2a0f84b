import SubversionR.Protocol
import SubversionR.Client.Values

/-!
# Remote connection states — `remoteConnectionStateStore.ts`

For each open repository the extension keeps one connection state: whether a remote check runs, how
the last one ended, how fresh the incoming changes are, and whether a recovery of the working copy
is due.  `Date.parse` is the parameter `dateParse`; `none` is `NaN`.

* `rebindRepository_eq_ok_iff` — a state follows its repository to a new epoch, and only to a new
  one;
* `beginCheck_eq_ok` — one check at a time, and none while a recovery is due.
-/

namespace SubversionR

open KeyedMaps KeyedMap

/-! ## Types -/

inductive RemoteAttentionReason where
  | authRequired
  | certificateRequired
  | hostKeyRequired
  | configurationInvalid
  | unsupportedCapability
deriving DecidableEq

inductive RemoteUnreachableReason where
  | dns
  | refused
  | proxy
  | timeout
  | tunnel
deriving DecidableEq

inductive RemoteIndeterminateReason where
  | cancelledAfterMutation
  | workerTerminated
deriving DecidableEq

inductive NativeRemoteFailureCategory where
  | attention
  | unreachable
  | indeterminate
  | cancelled
deriving DecidableEq

structure NativeRemoteFailure where
  category : NativeRemoteFailureCategory
  reason : NativeRemoteFailureReason
  cleanupAppropriate : Bool

inductive RemoteRecoveryState where
  | notRequired
  | required (operationId requiredAt : Text)
  | checking (operationId originOperationId startedAt deadlineAt : Text)
  | safe (operationId completedAt : Text)
  | blocked (operationId completedAt : Text)
deriving DecidableEq

inductive IncomingRemoteKind where
  | unchecked
  | fresh
  | stale
deriving DecidableEq

structure IncomingRemoteFreshness where
  kind : IncomingRemoteKind
  lastSuccessfulCheckAt : Option Text
deriving DecidableEq

structure RemoteFailureRecord where
  reason : NativeRemoteFailureReason
  cleanupAppropriate : Bool
  occurredAt : Text
deriving DecidableEq

/-- The alternatives of a connection state with the fields only they have. -/
inductive RemoteConnectionKind where
  | unchecked
  | checking (operationId startedAt : Text)
  | online (transport : RemoteScheme) (checkedAt : Text)
  | attention (reason : RemoteAttentionReason)
  | unreachable (reason : RemoteUnreachableReason)
  | indeterminate (reason : RemoteIndeterminateReason)
deriving DecidableEq

structure RemoteConnectionState where
  repositoryId : Text
  epoch : Nat
  kind : RemoteConnectionKind
  incoming : IncomingRemoteFreshness
  recovery : RemoteRecoveryState
  lastFailure : Option RemoteFailureRecord
deriving DecidableEq

inductive RemoteConnectionStateStoreError where
  | inputInvalid (field : Text)
  | repositoryAlreadyRegistered (repositoryId : Text)
  | repositoryNotRegistered (repositoryId : Text)
  | repositoryEpochUnchanged (repositoryId : Text)
  | checkInProgress (repositoryId : Text)
  | recoveryRequired (repositoryId : Text) (recovery : RemoteRecoveryState)
  | recoveryNotRequired (repositoryId : Text)
  | recoveryOperationReused (repositoryId : Text)
  | failureInvalid (field : Text)
deriving DecidableEq

def RemoteConnectionStateStoreError.code : RemoteConnectionStateStoreError → Text
  | .inputInvalid _ => "SUBVERSIONR_REMOTE_STATE_INPUT_INVALID"
  | .repositoryAlreadyRegistered _ => "SUBVERSIONR_REMOTE_STATE_REPOSITORY_ALREADY_REGISTERED"
  | .repositoryNotRegistered _ => "SUBVERSIONR_REMOTE_STATE_REPOSITORY_NOT_REGISTERED"
  | .repositoryEpochUnchanged _ => "SUBVERSIONR_REMOTE_STATE_REPOSITORY_EPOCH_UNCHANGED"
  | .checkInProgress _ => "SUBVERSIONR_REMOTE_STATE_CHECK_IN_PROGRESS"
  | .recoveryRequired _ _ => "SUBVERSIONR_REMOTE_STATE_RECOVERY_REQUIRED"
  | .recoveryNotRequired _ => "SUBVERSIONR_REMOTE_STATE_RECOVERY_NOT_REQUIRED"
  | .recoveryOperationReused _ => "SUBVERSIONR_REMOTE_STATE_RECOVERY_OPERATION_REUSED"
  | .failureInvalid _ => "SUBVERSIONR_REMOTE_FAILURE_INVALID"

inductive DaemonRecovery where
  | notRequired
  | pending
  | blocked
deriving DecidableEq

/-- The state the daemon announces in `remoteConnection/state`. -/
inductive DaemonRemoteConnectionState where
  | unchecked
  | checking (operationId startedAt : Text)
  | online (transport : RemoteScheme) (checkedAt : Text)
  | attention (reason : RemoteAttentionReason)
  | unreachable (reason : RemoteUnreachableReason)
  | indeterminate (reason : RemoteIndeterminateReason) (originOperationId : Text)
      (recovery : DaemonRecovery) (cleanupAppropriate : Bool)
deriving DecidableEq

/-! ## Classifying failures -/

def categoryForReason : NativeRemoteFailureReason → NativeRemoteFailureCategory
  | .operationCancelled => .cancelled
  | .networkDns | .networkRefused | .networkTimeout | .proxyUnreachable | .sshTunnelFailed
  | .operationDeadlineExceeded => .unreachable
  | .sshTunnelCleanupFailed | .workerContainmentFailed | .remoteRecoveryBlocked
  | .remoteOperationIndeterminate => .indeterminate
  | _ => .attention

def attentionReason : NativeRemoteFailureReason → RemoteAttentionReason
  | .authenticationRequired | .authorizationDenied | .credentialRejected
  | .proxyAuthenticationRequired => .authRequired
  | .tlsUntrusted | .tlsChanged | .tlsProtocol => .certificateRequired
  | .sshHostKeyRequired | .sshHostKeyChanged => .hostKeyRequired
  | .remoteCapabilityUnsupported => .unsupportedCapability
  | _ => .configurationInvalid

def unreachableReason : NativeRemoteFailureReason → RemoteUnreachableReason
  | .networkDns => .dns
  | .networkRefused => .refused
  | .proxyUnreachable => .proxy
  | .sshTunnelFailed => .tunnel
  | _ => .timeout

def indeterminateReason : NativeRemoteFailureReason → RemoteIndeterminateReason
  | .remoteOperationIndeterminate => .cancelledAfterMutation
  | _ => .workerTerminated

/-! ## Validation -/

/-- The pattern of an operation id. -/
def isCanonicalUuid (value : Text) : Bool :=
  let hex (c : Char) : Bool := decide (c ∈ "0123456789abcdef".toList)
  match value.splitOn '-' with
  | [a, b, c, d, e] =>
    [a, b, c, d, e].all (·.all hex) &&
      decide ([a, b, c, d, e].map List.length = [8, 4, 4, 4, 12]) &&
      (c.head?.any fun version => decide (version ∈ "12345".toList)) &&
      d.head?.any fun variant => decide (variant ∈ "89ab".toList)
  | _ => false

def validateRepository (repositoryId : Text) (epoch : Nat) :
    Except RemoteConnectionStateStoreError Unit :=
  if repositoryId.nonBlankJs = false then .error (.inputInvalid "repositoryId")
  else if isSafeInteger epoch = false then .error (.inputInvalid "epoch")
  else .ok ()

def validateNativeRemoteFailure (failure : NativeRemoteFailure) :
    Except RemoteConnectionStateStoreError Unit :=
  if failure.category ≠ categoryForReason failure.reason then
    .error (.failureInvalid "remoteFailure.category")
  else .ok ()

section Dates

variable (dateParse : Text → Option Int)

def validateTimestamp (value field : Text) : Except RemoteConnectionStateStoreError Unit :=
  if value.utf16.length > 64 ∨ dateParse value = none then .error (.inputInvalid field) else .ok ()

def validateOperation (repositoryId : Text) (epoch : Nat) (operationId startedAt : Text) :
    Except RemoteConnectionStateStoreError Unit := do
  validateRepository repositoryId epoch
  if isCanonicalUuid operationId then validateTimestamp dateParse startedAt "timestamp"
  else .error (.inputInvalid "operationId")

end Dates

/-! ## The store -/

def isCurrentCheck (state : RemoteConnectionState) (operationId : Text) : Bool :=
  match state.kind with
  | .checking current _ => decide (current = operationId)
  | _ => false

/-- The time of the last successful check stays; an empty one is falsy. -/
def staleIncoming (incoming : IncomingRemoteFreshness) : IncomingRemoteFreshness where
  kind := .stale
  lastSuccessfulCheckAt := incoming.lastSuccessfulCheckAt.filter (· ≠ [])

/-- Whether a recovery stands in the way of a check. -/
def RemoteRecoveryState.isDue : RemoteRecoveryState → Bool
  | .required .. | .checking .. | .blocked .. => true
  | .notRequired | .safe .. => false

structure RemoteConnectionStateStore where
  repositories : KeyedMap RemoteConnectionState.repositoryId

/-- What the operations that may come too late return: whether they applied, and the state. -/
structure RemoteConnectionStateApplyResult where
  applied : Bool
  state : Option RemoteConnectionState

inductive RemoteRecoveryResult where
  | safe
  | indeterminate
  | blocked
deriving DecidableEq

namespace RemoteConnectionStateStore

def empty : RemoteConnectionStateStore := ⟨KeyedMap.empty⟩

instance : Inhabited RemoteConnectionStateStore := ⟨empty⟩

def update (store : RemoteConnectionStateStore) (state : RemoteConnectionState) :
    RemoteConnectionStateStore :=
  ⟨store.repositories.insert state⟩

def getState (store : RemoteConnectionStateStore) (repositoryId : Text) :
    Option RemoteConnectionState :=
  store.repositories.get? repositoryId

def currentRepository (store : RemoteConnectionStateStore) (repositoryId : Text) (epoch : Nat) :
    Option RemoteConnectionState :=
  (store.repositories.get? repositoryId).filter fun state => decide (state.epoch = epoch)

def requireRepository (store : RemoteConnectionStateStore) (repositoryId : Text) (epoch : Nat) :
    Except RemoteConnectionStateStoreError RemoteConnectionState :=
  match store.currentRepository repositoryId epoch with
  | none => .error (.repositoryNotRegistered repositoryId)
  | some state => .ok state

/-- The end of an operation that applies to the current state of a repository. -/
def applying (store : RemoteConnectionStateStore) (state : RemoteConnectionState) :
    RemoteConnectionStateApplyResult × RemoteConnectionStateStore :=
  (⟨true, some state⟩, store.update state)

/-- The end of an operation that came too late. -/
def ignoring (store : RemoteConnectionStateStore) (state : Option RemoteConnectionState) :
    RemoteConnectionStateApplyResult × RemoteConnectionStateStore :=
  (⟨false, state⟩, store)

def registerRepository (store : RemoteConnectionStateStore) (repositoryId : Text) (epoch : Nat) :
    Except RemoteConnectionStateStoreError RemoteConnectionStateStore := do
  validateRepository repositoryId epoch
  if store.repositories.contains repositoryId then
    .error (.repositoryAlreadyRegistered repositoryId)
  else
    .ok (store.update
      { repositoryId, epoch, kind := .unchecked, incoming := ⟨.unchecked, none⟩,
        recovery := .notRequired, lastFailure := none })

def unregisterRepository (store : RemoteConnectionStateStore) (repositoryId : Text) :
    RemoteConnectionStateStore :=
  ⟨store.repositories.erase repositoryId⟩

/-- The state of a repository that was reopened under another epoch.  A recovery that is still due
is kept, and one that was running is due again. -/
def rebound (current : RemoteConnectionState) (epoch : Nat) : RemoteConnectionState :=
  match current.kind, current.recovery with
  | .indeterminate _, .checking _ originOperationId startedAt _ =>
    { current with
      epoch
      incoming := staleIncoming current.incoming
      recovery := .required originOperationId startedAt }
  | .indeterminate _, .required .. | .indeterminate _, .blocked .. =>
    { current with epoch, incoming := staleIncoming current.incoming }
  | _, _ =>
    { current with
      epoch
      kind := .unchecked
      incoming := staleIncoming current.incoming
      recovery := .notRequired }

def rebindRepository (store : RemoteConnectionStateStore) (repositoryId : Text) (epoch : Nat) :
    Except RemoteConnectionStateStoreError
      (RemoteConnectionState × RemoteConnectionStateStore) := do
  validateRepository repositoryId epoch
  match store.repositories.get? repositoryId with
  | none => .error (.repositoryNotRegistered repositoryId)
  | some current =>
    if current.epoch = epoch then .error (.repositoryEpochUnchanged repositoryId)
    else
      let state := rebound current epoch
      .ok (state, store.update state)

section Dates

variable (dateParse : Text → Option Int)

def beginCheck (store : RemoteConnectionStateStore) (repositoryId : Text) (epoch : Nat)
    (operationId startedAt : Text) :
    Except RemoteConnectionStateStoreError
      (RemoteConnectionState × RemoteConnectionStateStore) := do
  validateOperation dateParse repositoryId epoch operationId startedAt
  let current ← store.requireRepository repositoryId epoch
  match current.kind with
  | .checking .. => .error (.checkInProgress repositoryId)
  | _ =>
    if current.recovery.isDue then .error (.recoveryRequired repositoryId current.recovery)
    else
      let state := { current with kind := .checking operationId startedAt }
      .ok (state, store.update state)

def completeOnline (store : RemoteConnectionStateStore) (repositoryId : Text) (epoch : Nat)
    (operationId : Text) (transport : RemoteScheme) (checkedAt : Text) (incomingApplied : Bool) :
    Except RemoteConnectionStateStoreError
      (RemoteConnectionStateApplyResult × RemoteConnectionStateStore) := do
  validateOperation dateParse repositoryId epoch operationId checkedAt
  match store.currentRepository repositoryId epoch with
  | none => .ok (store.ignoring none)
  | some current =>
    if isCurrentCheck current operationId = false then .ok (store.ignoring (some current))
    else
      .ok (store.applying
        { repositoryId, epoch
          kind := .online transport checkedAt
          incoming :=
            if incomingApplied then ⟨.fresh, some checkedAt⟩ else staleIncoming current.incoming
          recovery := .notRequired
          lastFailure := none })

/-- The kind a failed check leaves when the working copy needs no recovery. -/
def failureKind (failure : NativeRemoteFailure) : RemoteConnectionKind :=
  if failure.category = .cancelled ∨ failure.reason = .unknownRemote then .unchecked
  else
    match failure.category with
    | .attention => .attention (attentionReason failure.reason)
    | .unreachable => .unreachable (unreachableReason failure.reason)
    | _ => .indeterminate (indeterminateReason failure.reason)

def completeFailure (store : RemoteConnectionStateStore) (repositoryId : Text) (epoch : Nat)
    (operationId failedAt : Text) (failure : NativeRemoteFailure)
    (workingCopyRecoveryRequired : Bool) :
    Except RemoteConnectionStateStoreError
      (RemoteConnectionStateApplyResult × RemoteConnectionStateStore) := do
  validateOperation dateParse repositoryId epoch operationId failedAt
  validateNativeRemoteFailure failure
  match store.currentRepository repositoryId epoch with
  | none => .ok (store.ignoring none)
  | some current =>
    if isCurrentCheck current operationId = false then .ok (store.ignoring (some current))
    else
      .ok (store.applying
        { repositoryId, epoch
          kind :=
            if workingCopyRecoveryRequired then
              .indeterminate (if failure.reason = .operationCancelled then .cancelledAfterMutation
                else .workerTerminated)
            else failureKind failure
          incoming := staleIncoming current.incoming
          recovery :=
            if workingCopyRecoveryRequired then .required operationId failedAt else .notRequired
          lastFailure := some ⟨failure.reason, failure.cleanupAppropriate, failedAt⟩ })

def beginRecovery (store : RemoteConnectionStateStore) (repositoryId : Text) (epoch : Nat)
    (operationId startedAt deadlineAt : Text) :
    Except RemoteConnectionStateStoreError
      (RemoteConnectionState × RemoteConnectionStateStore) := do
  validateOperation dateParse repositoryId epoch operationId startedAt
  validateTimestamp dateParse deadlineAt "deadlineAt"
  let current ← store.requireRepository repositoryId epoch
  match current.kind, current.recovery with
  | .indeterminate _, .required originOperationId _ =>
    if originOperationId = operationId then .error (.recoveryOperationReused repositoryId)
    else
      let state :=
        { current with recovery := .checking operationId originOperationId startedAt deadlineAt }
      .ok (state, store.update state)
  | _, _ => .error (.recoveryNotRequired repositoryId)

/-- The failure a recovery that is not safe must carry. -/
def recoveryFailure (result : RemoteRecoveryResult) (failure : Option NativeRemoteFailure) :
    Except RemoteConnectionStateStoreError (Option NativeRemoteFailure) :=
  match result, failure with
  | .safe, _ => .ok none
  | _, none => .error (.failureInvalid "recovery.failure")
  | _, some failure => do
    validateNativeRemoteFailure failure
    .ok (some failure)

def completeRecovery (store : RemoteConnectionStateStore) (repositoryId : Text) (epoch : Nat)
    (operationId completedAt : Text) (result : RemoteRecoveryResult)
    (failure : Option NativeRemoteFailure) :
    Except RemoteConnectionStateStoreError
      (RemoteConnectionStateApplyResult × RemoteConnectionStateStore) := do
  validateOperation dateParse repositoryId epoch operationId completedAt
  let failure ← recoveryFailure result failure
  match store.currentRepository repositoryId epoch with
  | none => .ok (store.ignoring none)
  | some current =>
    match current.kind, current.recovery with
    | .indeterminate _, .checking recoveryOperationId originOperationId _ _ =>
      if recoveryOperationId ≠ operationId then .ok (store.ignoring (some current))
      else
        let lastFailure := failure.map fun failure =>
          (⟨failure.reason, failure.cleanupAppropriate, completedAt⟩ : RemoteFailureRecord)
        match result with
        | .safe =>
          .ok (store.applying
            { current with
              kind := .unchecked
              incoming := staleIncoming current.incoming
              recovery := .safe operationId completedAt })
        | .blocked =>
          .ok (store.applying
            { current with recovery := .blocked originOperationId completedAt, lastFailure })
        | .indeterminate =>
          .ok (store.applying
            { current with recovery := .required originOperationId completedAt, lastFailure })
    | _, _ => .ok (store.ignoring (some current))

/-- Whether an announced check started no later than the one the extension runs. -/
def startedNoLater (announced current : Text) : Bool :=
  match dateParse announced, dateParse current with
  | some a, some b => decide (a ≤ b)
  | _, _ => false

/-- The state after a notification of the daemon; `none` when it is out of date. -/
def announced (current : RemoteConnectionState) (receivedAt : Text) :
    DaemonRemoteConnectionState → Option RemoteConnectionState
  | .checking operationId startedAt =>
    match current.kind with
    | .checking currentOperationId currentStartedAt =>
      if currentOperationId ≠ operationId ∧
          startedNoLater dateParse startedAt currentStartedAt = true then none
      else some { current with kind := .checking operationId startedAt }
    | _ => some { current with kind := .checking operationId startedAt }
  | .online transport checkedAt =>
    some { current with
      kind := .online transport checkedAt, recovery := .notRequired, lastFailure := none }
  | .attention reason =>
    some { current with
      kind := .attention reason, incoming := staleIncoming current.incoming,
      recovery := .notRequired }
  | .unreachable reason =>
    some { current with
      kind := .unreachable reason, incoming := staleIncoming current.incoming,
      recovery := .notRequired }
  | .indeterminate reason originOperationId recovery cleanupAppropriate =>
    some { current with
      kind := .indeterminate reason
      incoming := staleIncoming current.incoming
      recovery :=
        match recovery, current.recovery with
        | .notRequired, _ => .notRequired
        | .blocked, _ => .blocked originOperationId receivedAt
        | .pending, .checking a b c d => .checking a b c d
        | .pending, _ => .required originOperationId receivedAt
      lastFailure := some
        ⟨if recovery = .blocked then .remoteRecoveryBlocked
          else if reason = .workerTerminated then .workerContainmentFailed
          else .remoteOperationIndeterminate, cleanupAppropriate, receivedAt⟩ }
  | .unchecked =>
    match current.recovery with
    | .checking .. => none
    | _ =>
      some { current with
        kind := .unchecked, incoming := staleIncoming current.incoming, recovery := .notRequired }

def applyDaemonState (store : RemoteConnectionStateStore) (repositoryId : Text) (epoch : Nat)
    (daemon : DaemonRemoteConnectionState) (receivedAt : Text) :
    Except RemoteConnectionStateStoreError
      (RemoteConnectionStateApplyResult × RemoteConnectionStateStore) := do
  validateTimestamp dateParse receivedAt "receivedAt"
  match store.currentRepository repositoryId epoch with
  | none => .ok (store.ignoring none)
  | some current =>
    match announced dateParse current receivedAt daemon with
    | none => .ok (store.ignoring (some current))
    | some state => .ok (store.applying state)

end Dates

/-! ## What the operations check -/

variable {repositoryId : Text} {epoch : Nat}

theorem validateRepository_eq_ok_iff :
    validateRepository repositoryId epoch = .ok () ↔
      repositoryId.nonBlankJs = true ∧ isSafeInteger epoch = true := by
  unfold validateRepository
  cases repositoryId.nonBlankJs <;> cases isSafeInteger epoch <;> simp

variable {store : RemoteConnectionStateStore} {state : RemoteConnectionState}

theorem currentRepository_eq_some_iff :
    store.currentRepository repositoryId epoch = some state ↔
      store.repositories.get? repositoryId = some state ∧ state.epoch = epoch := by
  unfold currentRepository
  rw [Option.filter_eq_some_iff, decide_eq_true_eq]

theorem requireRepository_eq_ok_iff :
    store.requireRepository repositoryId epoch = .ok state ↔
      store.repositories.get? repositoryId = some state ∧ state.epoch = epoch := by
  rw [← currentRepository_eq_some_iff]
  unfold requireRepository
  cases store.currentRepository repositoryId epoch with
  | none => simp
  | some current => simp

/-- **Starting a check**: the repository is registered, no check runs and no recovery is due. -/
theorem beginCheck_eq_ok {dateParse : Text → Option Int} {store' : RemoteConnectionStateStore}
    {operationId startedAt : Text}
    (h : store.beginCheck dateParse repositoryId epoch operationId startedAt =
      .ok (state, store')) :
    ∃ current, store.repositories.get? repositoryId = some current ∧ current.epoch = epoch ∧
      (∀ running at', current.kind ≠ .checking running at') ∧ current.recovery.isDue = false ∧
      state = { current with kind := .checking operationId startedAt } ∧
      store' = store.update state := by
  obtain ⟨_, -, h⟩ := Fallible.bind_eq_ok_iff.mp h
  obtain ⟨current, hcurrent, h⟩ := Fallible.bind_eq_ok_iff.mp h
  obtain ⟨hget, hepoch⟩ := requireRepository_eq_ok_iff.mp hcurrent
  split at h
  · cases h
  rename_i hkind
  split at h
  · cases h
  rename_i hdue
  cases h
  exact ⟨current, hget, hepoch, hkind, Bool.not_eq_true _ ▸ hdue, rfl, rfl⟩

theorem rebound_epoch (current : RemoteConnectionState) (epoch : Nat) :
    (rebound current epoch).epoch = epoch := by
  unfold rebound
  split <;> rfl

theorem rebound_repositoryId (current : RemoteConnectionState) (epoch : Nat) :
    (rebound current epoch).repositoryId = current.repositoryId := by
  unfold rebound
  split <;> rfl

/-- **Following a repository to a new epoch**: the repository must be registered under another
one. -/
theorem rebindRepository_eq_ok_iff {result : RemoteConnectionState × RemoteConnectionStateStore} :
    store.rebindRepository repositoryId epoch = .ok result ↔
      repositoryId.nonBlankJs = true ∧ isSafeInteger epoch = true ∧
        ∃ current, store.repositories.get? repositoryId = some current ∧
          current.epoch ≠ epoch ∧
          result = (rebound current epoch, store.update (rebound current epoch)) := by
  unfold rebindRepository
  rw [Fallible.bind_eq_ok_iff]
  cases hget : store.repositories.get? repositoryId with
  | none => simp
  | some current =>
    by_cases hepoch : current.epoch = epoch
    · simp [hepoch]
    · simp only [hepoch, if_false, Except.ok.injEq, Option.some.injEq, exists_eq_left', ne_eq,
        not_false_eq_true, true_and]
      constructor
      · intro ⟨_, hvalid, hresult⟩
        have hfields := validateRepository_eq_ok_iff.mp hvalid
        exact ⟨hfields.1, hfields.2, hresult.symm⟩
      · intro ⟨h1, h2, hresult⟩
        exact ⟨(), validateRepository_eq_ok_iff.mpr ⟨h1, h2⟩, hresult.symm⟩

end RemoteConnectionStateStore

end SubversionR

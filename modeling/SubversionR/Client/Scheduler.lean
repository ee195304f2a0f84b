import SubversionR.Client.DirtyPathSet
import SubversionR.Client.Projection
import SubversionR.Client.Transport

/-!
# Refresh scheduler — `statusRefreshScheduler.ts` for one registered repository

The scheduler collects the paths that file events made dirty, turns them into `status/refresh`
requests, and applies the deltas to the snapshot store and the projection.  One refresh runs at a
time.  It is a chain of promise callbacks, and `RefreshPhase` says which callback comes next: the
request is answered, then the delta is applied or its targets are merged back, then the projection
is updated, then the refresh ends.  An accepted file event, or the caller, may abort it in between.

An exception keeps what was done before it, so the operations return the new state next to their
result.  A call that finds a refresh running waits for its end and starts again; the model has only
the last attempt.  Timers are left out: a flush may happen at any time.

* `settleRefresh_cases`, `abortRefresh_cases`, … — what the callbacks do;
* `Quiet`, `Marks` — the operations that leave the entries, the transport and the current refresh
  alone;
* `recordFileEvent_cases`, `Starts` — a file event is recorded quietly and may abort the refresh; a
  call may start one.
-/

namespace SubversionR

open KeyedMaps KeyedMap

/-! ## Types -/

/-- What the host provides, and what an error of the daemon says about the remote side. -/
structure Runtime where
  platform : Platform
  toLocaleLowerCase : Text → Text
  toISOString : Int → Text
  dateParse : Text → Option Int
  remoteFailure : DaemonError → NativeRemoteFailure

inductive CancelReason where
  | dirtyGenerationSuperseded
  | userCancelled
deriving DecidableEq

inductive FullReconcileReason where
  | manual
  | scheduled
deriving DecidableEq

def FullReconcileReason.word : FullReconcileReason → Text
  | manual => "manualFullReconcile"
  | scheduled => "scheduledFullReconcile"

inductive StatusRefreshSchedulerError where
  | fullReconcileEpochMismatch (repositoryId : Text) (expected actual : Nat)
  | resourceRefreshEpochMismatch (repositoryId : Text) (expected actual : Nat)
  | resourceRefreshPathInvalid (path : Text)
  | targetRefreshEpochMismatch (repositoryId : Text) (expected actual : Nat)
  | targetRefreshTargetInvalid (field : Text)
  | fullReconcileResponseInvalid (field : Text)
  | notificationStateUnavailable (repositoryId state : Text)
  | refreshCancelled (repositoryId : Text) (reason : CancelReason)
deriving DecidableEq

/-- Why a call of the scheduler was rejected. -/
inductive RefreshError where
  | scheduler (error : StatusRefreshSchedulerError)
  | store (error : StatusSnapshotStoreError)
  | projection (error : SourceControlResourceStoreError)
  | request (failure : RequestFailure)
deriving DecidableEq

/-- The two kinds of refresh differ in the check of the delta and in what is merged back. -/
inductive RefreshKind where
  | ofTargets
  | fullReconcile (reason : FullReconcileReason) (pendingTargets : List StatusRefreshTarget)
deriving DecidableEq

/-- The next callback of a refresh: the request is open, it has settled, its delta is applied, or
only the `finally` block is left. -/
inductive RefreshPhase where
  | awaiting (requestId : Nat)
  | settled (result : Except RequestFailure StatusDelta)
  | applied (delta : StatusDelta)
  | closing

/-- A phase that waits for no reply and holds no delta. -/
def RefreshPhase.isPassive : RefreshPhase → Bool
  | awaiting _ | settled (.ok _) => false
  | settled (.error _) | applied _ | closing => true

/-- The refresh that runs.  Its signal is aborted exactly when there is a reason; `callerSignal`
says that the caller can still abort it. -/
structure CurrentRefresh where
  kind : RefreshKind
  targets : List StatusRefreshTarget
  cancelReason : Option CancelReason
  callerSignal : Bool
  phase : RefreshPhase

/-- The signal a caller passes. -/
inductive CallerSignal where
  | absent
  | live
  | aborted
deriving DecidableEq

/-- The parts of the extension a refresh touches, for one registered repository.  `flushing` is set
exactly while a refresh is current. -/
structure StatusClient where
  scope : RepositoryWatchScope
  store : StatusSnapshotStore
  projection : SourceControlProjection
  dirtyPaths : DirtyPathSet
  currentRefresh : Option CurrentRefresh
  overflowStaleMarked : Bool
  overflowStaleTimestamp : Option Int
  transport : Transport

/-- The phase of the current refresh. -/
def StatusClient.phase (client : StatusClient) : Option RefreshPhase :=
  client.currentRefresh.map CurrentRefresh.phase

def fullReconcileTarget (reason : FullReconcileReason) : StatusRefreshTarget :=
  ⟨".", .infinity, reason.word⟩

/-- What is merged back into the dirty paths when a refresh fails. -/
def CurrentRefresh.mergedBack (refresh : CurrentRefresh) : List StatusRefreshTarget :=
  match refresh.kind with
  | .ofTargets => refresh.targets
  | .fullReconcile reason pendingTargets =>
    if refresh.cancelReason.isSome then fullReconcileTarget reason :: pendingTargets
    else pendingTargets

def requireFullReconcileDelta (delta : StatusDelta) (reason : FullReconcileReason) :
    Except StatusRefreshSchedulerError Unit :=
  if delta.completeness ≠ "complete" then .error (.fullReconcileResponseInvalid "completeness")
  else
    match delta.coverage with
    | [coverage] =>
      let target := fullReconcileTarget reason
      if coverage.path ≠ target.path ∨ coverage.depth ≠ target.depth.word ∨
          coverage.reason ≠ target.reason ∨ coverage.generation ≠ delta.generation then
        .error (.fullReconcileResponseInvalid "coverage.0")
      else .ok ()
    | _ => .error (.fullReconcileResponseInvalid "coverage")

def isRepositoryRelativeRefreshPath (path : Text) : Bool :=
  if path.nonBlankJs = false then false
  else if '\\' ∈ path ∨ path.head? = some '/' ∨ path.getLast? = some '/' then false
  else
    ((path.splitOn '/').all fun segment =>
      !segment.isEmpty && decide (segment ≠ ".") && decide (segment ≠ "..")) ||
      decide (path = ".")

/-- `validateRefreshTargets` on targets of the declared type. -/
def validateRefreshTargetsFrom : Nat → List StatusRefreshTarget →
    Except StatusRefreshSchedulerError Unit
  | _, [] => .ok ()
  | index, target :: rest =>
    let field := Text.item "targets" index
    if isRepositoryRelativeRefreshPath target.path = false then
      .error (.targetRefreshTargetInvalid (field.dot "path"))
    else if target.reason.nonBlankJs = false then
      .error (.targetRefreshTargetInvalid (field.dot "reason"))
    else validateRefreshTargetsFrom (index + 1) rest

def validateRefreshTargets (targets : List StatusRefreshTarget) :
    Except StatusRefreshSchedulerError Unit :=
  if targets = [] then .error (.targetRefreshTargetInvalid "targets")
  else validateRefreshTargetsFrom 0 targets

namespace StatusClient

variable (runtime : Runtime)

/-! ## Stale marks -/

def staleStateUnavailable (client : StatusClient) (state : Text) : RefreshError :=
  .scheduler (.notificationStateUnavailable client.scope.repositoryId state)

/-- `replaceProjectionFromCanonicalSnapshot`; its own exceptions replace the one it handles. -/
def replaceProjectionFromCanonicalSnapshot (client : StatusClient) (epoch : Nat)
    (expectedGeneration : Option Nat) : Except RefreshError StatusClient :=
  match client.store.getSnapshot client.scope.repositoryId with
  | none => .error (client.staleStateUnavailable "status")
  | some snapshot =>
    if snapshot.epoch ≠ epoch ∨ expectedGeneration.any (fun g => decide (g ≠ snapshot.generation))
    then .error (client.staleStateUnavailable "status")
    else
      match client.projection.replaceSnapshot snapshot.header with
      | .error error => .error (.projection error)
      | .ok projection => .ok { client with projection }

/-- What follows an update of the projection that threw `error`. -/
def recoverProjection (client : StatusClient) (error : SourceControlResourceStoreError)
    (epoch : Nat) (expectedGeneration : Option Nat) : RefreshError × StatusClient :=
  match client.replaceProjectionFromCanonicalSnapshot epoch expectedGeneration with
  | .error replacementError => (replacementError, client)
  | .ok client => (.projection error, client)

def markStaleIfInitialized (client : StatusClient) (mark : StatusStaleMark) :
    Except RefreshError Bool × StatusClient :=
  let snapshot := client.store.getSnapshot mark.repositoryId
  let projection := client.projection.getProjection mark.repositoryId
  if snapshot.isNone ∧ projection.isNone then (.ok false, client)
  else if snapshot.map StoredStatusSnapshot.epoch ≠ some client.scope.epoch then
    (.error (client.staleStateUnavailable "status"), client)
  else if projection.map RepositoryProjectionState.epoch ≠ some client.scope.epoch then
    (.error (client.staleStateUnavailable "projection"), client)
  else
    match client.store.markStale mark with
    | .error error => (.error (.store error), client)
    | .ok store =>
      let client := { client with store }
      match client.projection.markStale mark with
      | .error error =>
        let (error, client) := client.recoverProjection error mark.epoch none
        (.error error, client)
      | .ok projection => (.ok true, { client with projection })

def staleMark (client : StatusClient) (reason : Text) (timestamp : Int) (source : Text) :
    StatusStaleMark where
  repositoryId := client.scope.repositoryId
  epoch := client.scope.epoch
  reason := reason
  timestamp := runtime.toISOString timestamp
  source := source

def markOverflowStaleIfInitialized (client : StatusClient) :
    Except RefreshError Unit × StatusClient :=
  if client.dirtyPaths.overflowed = false ∨ client.overflowStaleMarked then (.ok (), client)
  else
    match client.overflowStaleTimestamp <|> client.dirtyPaths.overflowedAt with
    | none => (.ok (), client)
    | some timestamp =>
      match client.markStaleIfInitialized
          (client.staleMark runtime "watcherOverflow" timestamp "vscode-watcher") with
      | (.error error, client) => (.error error, client)
      | (.ok false, client) => (.ok (), client)
      | (.ok true, client) =>
        (.ok (), { client with
          overflowStaleMarked := true, overflowStaleTimestamp := some timestamp })

/-! ## Aborting a refresh -/

/-- Abort the signal of the current refresh.  A request that is still open is forgotten and rejected
at once. -/
def abortRefresh (client : StatusClient) (reason : CancelReason) : StatusClient :=
  match client.currentRefresh with
  | none => client
  | some refresh =>
    if refresh.cancelReason.isSome then client
    else
      let refresh := { refresh with cancelReason := some reason }
      match refresh.phase with
      | .awaiting id =>
        match client.transport.cancelRequest id with
        | some transport =>
          { client with
            currentRefresh := some { refresh with phase := .settled (.error (.cancelled id)) }
            transport }
        | none => { client with currentRefresh := some refresh }
      | _ => { client with currentRefresh := some refresh }

def cancelInFlightRefreshForDirtyGeneration (client : StatusClient) (timestamp : Int) :
    Except RefreshError Unit × StatusClient :=
  match client.currentRefresh with
  | none => (.ok (), client)
  | some refresh =>
    if refresh.cancelReason.isSome then (.ok (), client)
    else
      match client.markStaleIfInitialized
          (client.staleMark runtime "refreshCancelled" timestamp "vscode-status-scheduler") with
      | (.error error, client) => (.error error, client)
      | (.ok _, client) => (.ok (), client.abortRefresh .dirtyGenerationSuperseded)

/-- The paths a file event leaves dirty, with the time of an overflow it causes. -/
def recordDirtyPath (client : StatusClient) (event : DirtyFileEvent) : Bool × StatusClient :=
  let wasOverflowed := client.dirtyPaths.overflowed
  let (accepted, dirtyPaths) := client.dirtyPaths.record runtime.toLocaleLowerCase event
  let client := { client with dirtyPaths }
  if accepted && !wasOverflowed && dirtyPaths.overflowed then
    (accepted, { client with
      overflowStaleTimestamp := some (dirtyPaths.overflowedAt.getD event.timestamp) })
  else (accepted, client)

def recordFileEvent (client : StatusClient) (event : DirtyFileEvent) :
    Except RefreshError Bool × StatusClient :=
  match client.recordDirtyPath runtime event with
  | (false, client) => (.ok false, client)
  | (true, client) =>
    match client.markOverflowStaleIfInitialized runtime with
    | (.error error, client) => (.error error, client)
    | (.ok _, client) =>
      match client.cancelInFlightRefreshForDirtyGeneration runtime event.timestamp with
      | (.error error, client) => (.error error, client)
      | (.ok _, client) => (.ok true, client)

/-! ## Starting a refresh -/

def refreshRequest (client : StatusClient) (targets : List StatusRefreshTarget) :
    StatusRefreshRequest :=
  ⟨client.scope.repositoryId, client.scope.epoch, targets⟩

/-- `beginRefresh` and the call of `refreshStatus`: a request the client refuses, or one whose
signal is already aborted, is not sent. -/
def beginRefresh (client : StatusClient) (kind : RefreshKind) (targets : List StatusRefreshTarget)
    (signal : CallerSignal) : StatusClient :=
  let refresh (phase : RefreshPhase) : CurrentRefresh :=
    { kind, targets
      cancelReason := if signal = .aborted then some .userCancelled else none
      callerSignal := decide (signal = .live)
      phase }
  match validateRefreshRequest (client.refreshRequest targets).toJson with
  | .error error =>
    { client with currentRefresh := some (refresh (.settled (.error (.message error)))) }
  | .ok request =>
    if signal = .aborted then
      { client with
        currentRefresh := some
          (refresh (.settled (.error (.cancelled client.transport.nextId)))) }
    else
      let (id, transport) := client.transport.sendRequest fun id => .refresh id request
      { client with currentRefresh := some (refresh (.awaiting id)), transport }

def flushRepository (client : StatusClient) (signal : CallerSignal) :
    Except RefreshError Unit × StatusClient :=
  match client.markOverflowStaleIfInitialized runtime with
  | (.error error, client) => (.error error, client)
  | (.ok _, client) =>
    let (targets, dirtyPaths) := client.dirtyPaths.drainToRefreshTargets
    let client := { client with dirtyPaths }
    if targets = [] then (.ok (), client)
    else (.ok (), client.beginRefresh .ofTargets targets signal)

def refreshTargets (client : StatusClient) (epoch : Nat) (targets : List StatusRefreshTarget)
    (signal : CallerSignal) : Except RefreshError Unit × StatusClient :=
  if client.scope.epoch ≠ epoch then
    (.error (.scheduler
      (.targetRefreshEpochMismatch client.scope.repositoryId client.scope.epoch epoch)), client)
  else
    match validateRefreshTargets targets with
    | .error error => (.error (.scheduler error), client)
    | .ok _ => (.ok (), client.beginRefresh .ofTargets targets signal)

def refreshResource (client : StatusClient) (epoch : Nat) (path : Text) :
    Except RefreshError Unit × StatusClient :=
  if client.scope.epoch ≠ epoch then
    (.error (.scheduler
      (.resourceRefreshEpochMismatch client.scope.repositoryId client.scope.epoch epoch)), client)
  else if isRepositoryRelativeRefreshPath path = false then
    (.error (.scheduler (.resourceRefreshPathInvalid path)), client)
  else (.ok (), client.beginRefresh .ofTargets [⟨path, .empty, "resourceRefresh"⟩] .absent)

def runFullReconcile (client : StatusClient) (reason : FullReconcileReason)
    (signal : CallerSignal) : StatusClient :=
  let (pendingTargets, dirtyPaths) := client.dirtyPaths.drainToRefreshTargets
  let client := { client with dirtyPaths }
  client.beginRefresh (.fullReconcile reason pendingTargets) [fullReconcileTarget reason] signal

def fullReconcileRepository (client : StatusClient) (epoch : Nat) (signal : CallerSignal) :
    Except RefreshError Unit × StatusClient :=
  if client.scope.epoch ≠ epoch then
    (.error (.scheduler
      (.fullReconcileEpochMismatch client.scope.repositoryId client.scope.epoch epoch)), client)
  else (.ok (), client.runFullReconcile .manual signal)

/-! ## Settling a refresh -/

def requireRefreshCurrent (client : StatusClient) (refresh : CurrentRefresh) :
    Except RefreshError Unit :=
  match refresh.cancelReason with
  | some reason => .error (.scheduler (.refreshCancelled client.scope.repositoryId reason))
  | none => .ok ()

/-- The check only a full reconcile makes of its delta. -/
def requireDeltaOfKind (kind : RefreshKind) (delta : StatusDelta) : Except RefreshError Unit :=
  match kind with
  | .fullReconcile reason _ => (requireFullReconcileDelta delta reason).mapError .scheduler
  | .ofTargets => .ok ()

/-- The callback that receives the delta: the store it leaves. -/
def acceptDelta (client : StatusClient) (refresh : CurrentRefresh) (delta : StatusDelta) :
    Except RefreshError StatusSnapshotStore := do
  client.requireRefreshCurrent refresh
  requireDeltaOfKind refresh.kind delta
  (client.store.applyDelta delta).mapError .store

/-- The callbacks after the request has settled: apply the delta, or merge the targets back. -/
def settleRefresh (client : StatusClient) (refresh : CurrentRefresh)
    (result : Except RequestFailure StatusDelta) : StatusClient :=
  let failed :=
    { client with
      dirtyPaths := client.dirtyPaths.mergeTargets refresh.mergedBack
      currentRefresh := some { refresh with phase := .closing } }
  match result with
  | .error _ => failed
  | .ok delta =>
    match client.acceptDelta refresh delta with
    | .error _ => failed
    | .ok store =>
      { client with store, currentRefresh := some { refresh with phase := .applied delta } }

/-- The callback that updates the projection. -/
def publishRefresh (client : StatusClient) (refresh : CurrentRefresh) (delta : StatusDelta) :
    StatusClient :=
  let closing := { client with currentRefresh := some { refresh with phase := .closing } }
  match client.requireRefreshCurrent refresh with
  | .error _ => closing
  | .ok _ =>
    match client.projection.applyDelta delta with
    | .error error => (closing.recoverProjection error delta.epoch (some delta.generation)).2
    | .ok projection => { closing with projection }

/-- The `finally` block. -/
def finishRefresh (client : StatusClient) : StatusClient :=
  let client := { client with currentRefresh := none }
  if client.dirtyPaths.overflowed then client
  else { client with overflowStaleMarked := false, overflowStaleTimestamp := none }

/-- A delta that is accepted belongs to a refresh that was not aborted, and the store takes it. -/
theorem acceptDelta_eq_ok {client : StatusClient} {refresh : CurrentRefresh} {delta : StatusDelta}
    {store : StatusSnapshotStore} (h : client.acceptDelta refresh delta = .ok store) :
    refresh.cancelReason = none ∧ client.store.applyDelta delta = .ok store := by
  obtain ⟨_, hcurrent, h⟩ := Fallible.bind_eq_ok_iff.mp h
  obtain ⟨_, -, happly⟩ := Fallible.bind_eq_ok_iff.mp h
  constructor
  · unfold requireRefreshCurrent at hcurrent
    split at hcurrent
    · cases hcurrent
    · assumption
  · cases hresult : client.store.applyDelta delta with
    | error error =>
      rw [hresult] at happly
      cases happly
    | ok store' =>
      rw [hresult] at happly
      cases happly
      rfl

/-- What a passive phase, or no refresh at all, is not. -/
theorem ne_of_passive {phase : Option RefreshPhase} (h : phase.all RefreshPhase.isPassive = true) :
    (∀ id, phase ≠ some (.awaiting id)) ∧ ∀ delta, phase ≠ some (.settled (.ok delta)) := by
  constructor
  · rintro id rfl
    cases h
  · rintro delta rfl
    cases h

theorem phase_of_idle {client : StatusClient} (h : client.currentRefresh = none) :
    client.phase = none := by
  unfold phase
  rw [h]
  rfl

theorem phase_of_current {client : StatusClient} {refresh : CurrentRefresh}
    (h : client.currentRefresh = some refresh) : client.phase = some refresh.phase := by
  unfold phase
  rw [h]
  rfl

/-! ## Callbacks -/

section

variable (client : StatusClient)

include client

theorem recoverProjection_eq (error : SourceControlResourceStoreError) (epoch : Nat)
    (expectedGeneration : Option Nat) :
    ∃ projection, (client.recoverProjection error epoch expectedGeneration).2 =
      { client with projection } := by
  unfold recoverProjection
  split
  · exact ⟨client.projection, rfl⟩
  rename_i hreplaced
  unfold replaceProjectionFromCanonicalSnapshot at hreplaced
  split at hreplaced
  · cases hreplaced
  split at hreplaced
  · cases hreplaced
  split at hreplaced
  · cases hreplaced
  · cases hreplaced
    exact ⟨_, rfl⟩

/-- The request has settled: its delta is applied, or the targets are merged back. -/
theorem settleRefresh_cases (refresh : CurrentRefresh)
    (result : Except RequestFailure StatusDelta) :
    (∃ delta store, result = .ok delta ∧ client.acceptDelta refresh delta = .ok store ∧
      client.settleRefresh refresh result =
        { client with store, currentRefresh := some { refresh with phase := .applied delta } }) ∨
      ((∀ delta, result = .ok delta → (client.acceptDelta refresh delta).isOk = false) ∧
        client.settleRefresh refresh result =
          { client with
            dirtyPaths := client.dirtyPaths.mergeTargets refresh.mergedBack
            currentRefresh := some { refresh with phase := .closing } }) := by
  unfold settleRefresh
  cases result with
  | error failure => exact .inr ⟨fun _ hne => (by cases hne), rfl⟩
  | ok delta =>
    dsimp only
    cases haccept : client.acceptDelta refresh delta with
    | error error => exact .inr ⟨fun _ hdelta => (by cases hdelta; rw [haccept]; rfl), rfl⟩
    | ok store => exact .inl ⟨delta, store, rfl, haccept, rfl⟩

/-- Updating the projection only moves the refresh to its last phase. -/
theorem publishRefresh_eq (refresh : CurrentRefresh) (delta : StatusDelta) :
    ∃ projection, client.publishRefresh refresh delta =
      { client with projection, currentRefresh := some { refresh with phase := .closing } } := by
  unfold publishRefresh
  split
  · exact ⟨client.projection, rfl⟩
  split
  · exact recoverProjection_eq _ _ _ _
  · exact ⟨_, rfl⟩

/-- The `finally` block ends the refresh and may forget an overflow. -/
theorem finishRefresh_eq :
    ∃ marked timestamp, client.finishRefresh =
      { client with
        currentRefresh := none
        overflowStaleMarked := marked
        overflowStaleTimestamp := timestamp } := by
  unfold finishRefresh
  dsimp only
  split
  · exact ⟨_, _, rfl⟩
  · exact ⟨_, _, rfl⟩

/-- An abort changes nothing, or the refresh has its reason from now on; then a request that was
still open is forgotten. -/
theorem abortRefresh_cases (reason : CancelReason) :
    client.abortRefresh reason = client ∨
      ∃ refresh phase transport, client.currentRefresh = some refresh ∧
        client.abortRefresh reason =
          { client with
            currentRefresh := some { refresh with cancelReason := some reason, phase }
            transport } ∧
        (phase = refresh.phase ∧ transport = client.transport ∨
          ∃ id, refresh.phase = .awaiting id ∧ phase = .settled (.error (.cancelled id)) ∧
            client.transport.cancelRequest id = some transport) := by
  unfold abortRefresh
  cases hcurrent : client.currentRefresh with
  | none => exact .inl rfl
  | some refresh =>
    dsimp only
    split
    · exact .inl rfl
    right
    split
    · rename_i id hphase
      split
      · rename_i transport hcancel
        exact ⟨refresh, _, transport, rfl, rfl, .inr ⟨id, hphase, rfl, hcancel⟩⟩
      · exact ⟨refresh, _, _, rfl, rfl, .inl ⟨rfl, rfl⟩⟩
    · exact ⟨refresh, _, _, rfl, rfl, .inl ⟨rfl, rfl⟩⟩

/-- A refresh begins with an open request, or with one that was not sent. -/
theorem beginRefresh_cases (kind : RefreshKind) (targets : List StatusRefreshTarget)
    (signal : CallerSignal) :
    ∃ refresh transport, client.beginRefresh kind targets signal =
        { client with currentRefresh := some refresh, transport } ∧
      refresh.kind = kind ∧ refresh.targets = targets ∧
      ((∃ failure, refresh.phase = .settled (.error failure)) ∧ transport = client.transport ∨
        ∃ id, refresh.phase = .awaiting id ∧
          client.transport.sendRequest (fun id => .refresh id (client.refreshRequest targets)) =
            (id, transport)) := by
  unfold beginRefresh
  dsimp only
  split
  · exact ⟨_, _, rfl, rfl, rfl, .inl ⟨⟨_, rfl⟩, rfl⟩⟩
  rename_i request hvalid
  obtain rfl : request = client.refreshRequest targets :=
    validateRefreshRequest_accepts.eq_of_ok hvalid
  split
  · exact ⟨_, _, rfl, rfl, rfl, .inl ⟨⟨_, rfl⟩, rfl⟩⟩
  · exact ⟨_, _, rfl, rfl, rfl, .inr ⟨_, rfl, rfl⟩⟩

end

/-! ## Quiet operations -/

/-- Nothing that another process or a later callback could see has changed: the dirty paths and the
stale marks may have. -/
structure Quiet (client client' : StatusClient) : Prop where
  scope : client'.scope = client.scope
  core : ∀ id, client'.store.core id = client.store.core id
  position : ∀ id, client'.projection.position id = client.projection.position id
  currentRefresh : client'.currentRefresh = client.currentRefresh
  transport : client'.transport = client.transport

theorem Quiet.trans {a b c : StatusClient} (h : Quiet a b) (h' : Quiet b c) : Quiet a c :=
  ⟨h'.scope.trans h.scope, fun id => (h'.core id).trans (h.core id),
    fun id => (h'.position id).trans (h.position id), h'.currentRefresh.trans h.currentRefresh,
    h'.transport.trans h.transport⟩

/-- Only stale marks have changed. -/
structure Marks (client client' : StatusClient) : Prop extends Quiet client client' where
  dirtyPaths : client'.dirtyPaths = client.dirtyPaths

section

variable (client : StatusClient)

include client

theorem Marks.refl : Marks client client := ⟨⟨rfl, fun _ => rfl, fun _ => rfl, rfl, rfl⟩, rfl⟩

/-- The projection shows the epoch of a mark the scheduler makes, and takes it. -/
theorem markStaleIfInitialized_marks (reason : Text) (timestamp : Int) (source : Text) :
    Marks client (client.markStaleIfInitialized
      (client.staleMark runtime reason timestamp source)).2 := by
  unfold markStaleIfInitialized
  dsimp only
  split
  · exact .refl client
  split
  · exact .refl client
  split
  · exact .refl client
  rename_i hshown
  split
  · exact .refl client
  rename_i hstore
  obtain ⟨_, hget, hepoch⟩ := Option.map_eq_some_iff.mp (not_not.mp hshown)
  obtain ⟨projection, hmark⟩ := SourceControlProjection.markStale_of_getProjection hget hepoch
  rw [hmark]
  exact ⟨⟨rfl, StatusSnapshotStore.core_of_markStale hstore,
    SourceControlProjection.position_of_markStale hmark, rfl, rfl⟩, rfl⟩

theorem markOverflowStaleIfInitialized_marks :
    Marks client (client.markOverflowStaleIfInitialized runtime).2 := by
  unfold markOverflowStaleIfInitialized
  split
  · exact .refl client
  split
  · exact .refl client
  rename_i timestamp _
  have hmark := markStaleIfInitialized_marks runtime client "watcherOverflow" timestamp
    "vscode-watcher"
  split <;> rename_i marked <;> rw [marked] at hmark
  · exact hmark
  · exact hmark
  · exact ⟨⟨hmark.scope, hmark.core, hmark.position, hmark.currentRefresh, hmark.transport⟩,
      hmark.dirtyPaths⟩

theorem recordDirtyPath_quiet (event : DirtyFileEvent) :
    Quiet client (client.recordDirtyPath runtime event).2 ∧
      ((client.recordDirtyPath runtime event).1,
        (client.recordDirtyPath runtime event).2.dirtyPaths) =
          client.dirtyPaths.record runtime.toLocaleLowerCase event := by
  unfold recordDirtyPath
  dsimp only
  split <;> exact ⟨⟨rfl, fun _ => rfl, fun _ => rfl, rfl, rfl⟩, rfl⟩

/-- The refresh that runs is aborted, unless its repository cannot be marked stale. -/
theorem cancelInFlightRefresh_cases (timestamp : Int) :
    ∃ mid, Marks client mid ∧
      ((client.cancelInFlightRefreshForDirtyGeneration runtime timestamp).2 = mid ∨
        (client.cancelInFlightRefreshForDirtyGeneration runtime timestamp).2 =
          mid.abortRefresh .dirtyGenerationSuperseded) := by
  unfold cancelInFlightRefreshForDirtyGeneration
  split
  · exact ⟨client, .refl client, .inl rfl⟩
  split
  · exact ⟨client, .refl client, .inl rfl⟩
  have hstale := markStaleIfInitialized_marks runtime client "refreshCancelled" timestamp
    "vscode-status-scheduler"
  split <;> rename_i stale heq <;> rw [heq] at hstale
  · exact ⟨stale, hstale, .inl rfl⟩
  · exact ⟨stale, hstale, .inr rfl⟩

/-- **A file event** is recorded quietly; if it is accepted, the current refresh may be aborted. -/
theorem recordFileEvent_cases (event : DirtyFileEvent) :
    ∃ mid, Quiet client mid ∧
      mid.dirtyPaths = (client.dirtyPaths.record runtime.toLocaleLowerCase event).2 ∧
      ((client.recordFileEvent runtime event).2 = mid ∨
        (client.dirtyPaths.record runtime.toLocaleLowerCase event).1 = true ∧
          (client.recordFileEvent runtime event).2 =
            mid.abortRefresh .dirtyGenerationSuperseded) := by
  obtain ⟨hrecorded, hpaths⟩ := recordDirtyPath_quiet runtime client event
  rw [← hpaths]
  unfold recordFileEvent
  split <;> rename_i recorded heq <;> rw [heq] at hrecorded ⊢
  · exact ⟨recorded, hrecorded, rfl, .inl rfl⟩
  · have hmarked := markOverflowStaleIfInitialized_marks runtime recorded
    split <;> rename_i marked heq' <;> rw [heq'] at hmarked
    · exact ⟨marked, hrecorded.trans hmarked.toQuiet, hmarked.dirtyPaths, .inl rfl⟩
    · obtain ⟨mid, hmid, hcancel⟩ := cancelInFlightRefresh_cases runtime marked event.timestamp
      refine ⟨mid, (hrecorded.trans hmarked.toQuiet).trans hmid.toQuiet,
        hmid.dirtyPaths.trans hmarked.dirtyPaths, ?_⟩
      split <;> rename_i final heq'' <;> rw [heq''] at hcancel
      · exact hcancel.imp_right fun habort => ⟨rfl, habort⟩
      · exact hcancel.imp_right fun habort => ⟨rfl, habort⟩

end

/-! ## Calls -/

/-- The paths that were dirty become a refresh of this kind and these targets. -/
def Drained (dirty : List StatusRefreshTarget) (kind : RefreshKind)
    (targets : List StatusRefreshTarget) : Prop :=
  kind = .ofTargets ∧ targets = dirty ∨
    ∃ reason, kind = .fullReconcile reason dirty ∧ targets = [fullReconcileTarget reason]

/-- **A call** that may start a refresh does nothing else: the refresh has the targets it was given
or those of the dirty paths, which are drained. -/
inductive Starts (client : StatusClient) : StatusClient → Prop
  | stays {mid : StatusClient} (hmarks : Marks client mid) : Starts client mid
  | issues (targets : List StatusRefreshTarget) (signal : CallerSignal) :
      Starts client (client.beginRefresh .ofTargets targets signal)
  | drainsNothing {mid : StatusClient} (hmarks : Marks client mid)
      (hnothing : client.dirtyPaths.toRefreshTargets = []) :
      Starts client { mid with dirtyPaths := client.dirtyPaths.clear }
  | drains {mid : StatusClient} (hmarks : Marks client mid) {kind : RefreshKind}
      {targets : List StatusRefreshTarget} (signal : CallerSignal)
      (hdrained : Drained client.dirtyPaths.toRefreshTargets kind targets) :
      Starts client ({ mid with dirtyPaths := client.dirtyPaths.clear }.beginRefresh kind targets
        signal)

theorem Starts.refl (client : StatusClient) : Starts client client := .stays (.refl client)

/-- A quiet step, followed at most by the start of a refresh. -/
theorem Starts.quiet {client client' : StatusClient} (h : Starts client client') :
    ∃ mid, Quiet client mid ∧
      (client' = mid ∨ ∃ kind targets signal, client' = mid.beginRefresh kind targets signal) := by
  have hdrained : ∀ {mid : StatusClient}, Marks client mid →
      Quiet client { mid with dirtyPaths := client.dirtyPaths.clear } :=
    fun h => ⟨h.scope, h.core, h.position, h.currentRefresh, h.transport⟩
  cases h with
  | stays hmarks => exact ⟨_, hmarks.toQuiet, .inl rfl⟩
  | issues targets signal => exact ⟨client, (Marks.refl client).toQuiet, .inr ⟨_, _, _, rfl⟩⟩
  | drainsNothing hmarks => exact ⟨_, hdrained hmarks, .inl rfl⟩
  | drains hmarks signal => exact ⟨_, hdrained hmarks, .inr ⟨_, _, _, rfl⟩⟩

section

variable (client : StatusClient)

include client

theorem flushRepository_starts (signal : CallerSignal) :
    Starts client (client.flushRepository runtime signal).2 := by
  have hmarked := markOverflowStaleIfInitialized_marks runtime client
  unfold flushRepository
  split <;> rename_i marked heq <;> rw [heq] at hmarked
  · exact .stays hmarked
  · dsimp only [DirtyPathSet.drainToRefreshTargets]
    rw [hmarked.dirtyPaths]
    split
    · exact .drainsNothing hmarked ‹_›
    · exact .drains hmarked signal (.inl ⟨rfl, rfl⟩)

theorem refreshTargets_starts (epoch : Nat) (targets : List StatusRefreshTarget)
    (signal : CallerSignal) : Starts client (client.refreshTargets epoch targets signal).2 := by
  unfold refreshTargets
  split
  · exact .refl client
  split
  · exact .refl client
  · exact .issues targets signal

theorem refreshResource_starts (epoch : Nat) (path : Text) :
    Starts client (client.refreshResource epoch path).2 := by
  unfold refreshResource
  split
  · exact .refl client
  split
  · exact .refl client
  · exact .issues _ _

theorem runFullReconcile_starts (reason : FullReconcileReason) (signal : CallerSignal) :
    Starts client (client.runFullReconcile reason signal) :=
  .drains (.refl client) signal (.inr ⟨reason, rfl, rfl⟩)

theorem fullReconcileRepository_starts (epoch : Nat) (signal : CallerSignal) :
    Starts client (client.fullReconcileRepository epoch signal).2 := by
  unfold fullReconcileRepository
  split
  · exact .refl client
  · exact runFullReconcile_starts client .manual signal

end

end StatusClient

end SubversionR

import SubversionR.Client.Scheduler
import SubversionR.Daemon.Dispatch

/-!
# The status system — the extension and the daemon around one repository

One registered repository of the extension (scheduler, snapshot store, projection, remote checks)
and the daemon, joined by the two message queues.  Every event of `SystemEvent` is one atomic piece
of the code: a call, a callback, one request handled by the daemon, one reply read by the extension.
Any interleaving of the events is a run.

The daemon handles requests one by one in the order they were sent, with the gate and the preflight
in front of its handlers.  A remote check that passes them is left to a worker; its reply is written
when the worker settles, and it is an error in every case.  A `$/cancelRequest` changes nothing by
itself: it may let the native call that runs fail, and what the bridge answers is chosen with every
`execute` anyway.

* `System.step` — the events;
* `start_cases`, `settle_cases`, `execute_cases`, … — what the events can do.
-/

namespace SubversionR

open KeyedMaps KeyedMap

/-- How far a remote check has come: its envelope is being made, its request is open, or its delta
waits for the refresh that runs. -/
inductive CheckPhase where
  | preparing
  | awaiting (requestId : Nat) (request : StatusRemoteCheckRequest)
  | answered (request : StatusRemoteCheckRequest) (delta : StatusDelta)

/-- A call of `checkRemoteChanges` that has begun. -/
structure RemoteCheck where
  operationId : Text
  epoch : Nat
  phase : CheckPhase

structure System where
  client : StatusClient
  connection : RemoteConnectionStateStore
  checks : List RemoteCheck
  daemon : Daemon
  /-- The requests of the daemon whose workers run. -/
  launches : List (Nat × RemoteLaunchPlan)

inductive SystemEvent where
  /-- The watcher reports a file event. -/
  | fileEvent (event : DirtyFileEvent)
  /-- A call of the scheduler that finds no refresh running. -/
  | flush (signal : CallerSignal)
  | refreshTargets (epoch : Nat) (targets : List StatusRefreshTarget) (signal : CallerSignal)
  | refreshResource (epoch : Nat) (path : Text)
  | fullReconcile (epoch : Nat) (signal : CallerSignal)
  | scheduledFullReconcile
  /-- The caller of the current refresh aborts it. -/
  | abort
  /-- The callbacks of the current refresh, in their order. -/
  | settle
  | publish
  | finish
  /-- The daemon handles the next message. -/
  | execute (env : DaemonEnvironment)
  /-- The worker of a remote check settles. -/
  | settleLaunch (id : Nat) (settlement : Daemon.RemoteWorkerSettlement)
  /-- The extension reads the next reply. -/
  | deliver (now : Text)
  /-- `checkRemoteChanges`: its beginning, the request, an abort, and the end under the lock. -/
  | beginCheck (epoch : Nat) (operationId startedAt : Text)
  | sendCheck (operationId : Text) (envelope : Except NativeRemoteFailure RemoteOperationEnvelope)
      (now : Text)
  | abortCheck (operationId now : Text)
  | applyCheck (operationId checkedAt : Text)

/-- The events of remote checks. -/
def SystemEvent.isCheck : SystemEvent → Bool
  | .settleLaunch .. | .beginCheck .. | .sendCheck .. | .abortCheck .. | .applyCheck .. => true
  | _ => false

/-- The calls that start a refresh. -/
def SystemEvent.isStart : SystemEvent → Bool
  | .flush _ | .refreshTargets .. | .refreshResource .. | .fullReconcile ..
  | .scheduledFullReconcile => true
  | _ => false

namespace System

variable (runtime : Runtime)

/-! ## Refreshes -/

/-- A call that starts a refresh: while one runs it waits. -/
def whenIdle (s : System) (call : StatusClient → StatusClient) : Option System :=
  if s.client.currentRefresh.isNone then some { s with client := call s.client } else none

/-! ## The daemon -/

/-- The reply that is written when a status request was handled; that of a request which was left
to a worker comes later. -/
def statusReply : Except DaemonError DaemonResult → Option (Except DaemonError StatusDelta)
  | .error error => some (.error error)
  | .ok (.delta delta) => some (.ok delta)
  | .ok _ => none

def reply (s : System) (id : Nat) (rest : List ClientMessage) (handled : Handled) : System :=
  { s with
    client.transport.toDaemon := rest
    client.transport.toClient :=
      s.client.transport.toClient ++ (statusReply handled.answer).toList.map (⟨id, ·⟩)
    daemon := handled.daemon
    launches := s.launches ++ handled.remoteLaunch.toList.map (id, ·) }

def execute (s : System) (env : DaemonEnvironment) : Option System :=
  match s.client.transport.toDaemon with
  | [] => none
  | .cancelRequest _ :: rest => some { s with client.transport.toDaemon := rest }
  | .refresh id request :: rest =>
    some (s.reply id rest
      (s.daemon.dispatch (env.on runtime.platform) ⟨.statusRefresh, request.toJson⟩))
  | .checkRemote id request :: rest =>
    some (s.reply id rest
      (s.daemon.dispatch (env.on runtime.platform) ⟨.statusCheckRemote, request.toJson⟩))

/-- `settle_remote_completion`: the failure of the lane, that of the worker, or
`unsupported_transport`. -/
def settleLaunch (s : System) (id : Nat) (settlement : Daemon.RemoteWorkerSettlement) :
    Option System :=
  match s.launches.find? fun launch => decide (launch.1 = id) with
  | none => none
  | some (_, plan) =>
    let (laneFailure, daemon) := s.daemon.settleRemoteLaunch plan.laneKey
      plan.operation.envelope.operationId settlement
    let failure :=
      match laneFailure, settlement.result with
      | some failure, _ => failure
      | none, .error failure => failure.toBridgeFailure
      | none, .ok _ => ⟨"SUBVERSIONR_REMOTE_TRANSPORT_UNSUPPORTED", "unsupported",
          "error.remote.transportUnsupported", false⟩
    some { s with
      client.transport.toClient :=
        s.client.transport.toClient ++ [⟨id, .error (.bridge failure)⟩]
      daemon := daemon
      launches := s.launches.filter fun launch => decide (launch.1 ≠ id) }

/-! ## Remote checks -/

def findCheck (s : System) (operationId : Text) : Option RemoteCheck :=
  s.checks.find? fun check => decide (check.operationId = operationId)

def removeCheck (s : System) (operationId : Text) : System :=
  { s with checks := s.checks.filter fun check => decide (check.operationId ≠ operationId) }

def setCheck (s : System) (check : RemoteCheck) : System :=
  { s with checks := s.checks.map fun other =>
      if other.operationId = check.operationId then check else other }

/-- `remoteFailureFromError`: only an error of the daemon describes the remote side. -/
def remoteFailureFromError : RequestFailure → NativeRemoteFailure
  | .daemon error => runtime.remoteFailure error
  | .message _ | .cancelled _ => ⟨.attention, .unknownRemote, false⟩

/-- The end of a check that failed before its delta arrived. -/
def failCheck (s : System) (check : RemoteCheck) (failure : NativeRemoteFailure) (now : Text) :
    System :=
  let s := s.removeCheck check.operationId
  match s.connection.completeFailure runtime.dateParse s.client.scope.repositoryId check.epoch
      check.operationId now failure false with
  | .error _ => s
  | .ok (_, connection) => { s with connection }

/-- A check begins when the connection allows it and the repository is shown. -/
def beginCheck (s : System) (epoch : Nat) (operationId startedAt : Text) : System :=
  match s.connection.beginCheck runtime.dateParse s.client.scope.repositoryId epoch operationId
      startedAt with
  | .error _ => s
  | .ok (checking, connection) =>
    if s.client.projection.showsRemoteConnectionState checking then
      { s with connection, checks := s.checks ++ [⟨operationId, epoch, .preparing⟩] }
    else { s with connection }

def sendCheck (s : System) (check : RemoteCheck)
    (envelope : Except NativeRemoteFailure RemoteOperationEnvelope) (now : Text) : System :=
  match envelope with
  | .error failure => s.failCheck runtime check failure now
  | .ok remote =>
    let request : StatusRemoteCheckRequest := ⟨s.client.scope.repositoryId, check.epoch, remote⟩
    match validateCheckRequest request with
    | .error error =>
      s.failCheck runtime check (remoteFailureFromError runtime (.message error)) now
    | .ok _ =>
      let (id, transport) := s.client.transport.sendRequest fun id => .checkRemote id request
      { s with client.transport := transport }.setCheck
        { check with phase := .awaiting id request }

/-- The update of the extension under the refresh lock: whether the incoming changes were taken. -/
def applyCheckDelta (client : StatusClient) (delta : StatusDelta) : Bool × StatusClient :=
  match client.store.applyDelta delta with
  | .error _ => (false, client)
  | .ok store =>
    let client := { client with store }
    match client.projection.applyDelta delta with
    | .ok projection => (true, { client with projection })
    | .error _ =>
      match client.store.getSnapshot delta.repositoryId with
      | none => (false, client)
      | some snapshot =>
        match client.projection.replaceSnapshot snapshot.header with
        | .error _ => (false, client)
        | .ok projection => (true, { client with projection })

def applyCheck (s : System) (check : RemoteCheck) (request : StatusRemoteCheckRequest)
    (delta : StatusDelta) (checkedAt : Text) : System :=
  let (incomingApplied, client) := applyCheckDelta s.client delta
  let s := { s with client }.removeCheck check.operationId
  match s.connection.completeOnline runtime.dateParse request.repositoryId request.epoch
      request.remote.operationId request.remote.scheme checkedAt incomingApplied with
  | .error _ => s
  | .ok (_, connection) => { s with connection }

/-! ## Replies -/

/-- The check that waits for a reply. -/
def awaitingCheck (s : System) (id : Nat) : Option (RemoteCheck × StatusRemoteCheckRequest) :=
  s.checks.findSome? fun check =>
    match check.phase with
    | .awaiting requestId request => if requestId = id then some (check, request) else none
    | _ => none

/-- The reply belongs to a remote check. -/
def handToCheck (s : System) (id : Nat) (result : Except DaemonError StatusDelta) (now : Text) :
    System :=
  match s.awaitingCheck id with
  | none => s
  | some (check, request) =>
    match readCheckReply runtime.platform request result with
    | .error failure => s.failCheck runtime check (remoteFailureFromError runtime failure) now
    | .ok delta => s.setCheck { check with phase := .answered request delta }

/-- The refresh that waits for a reply. -/
def awaitingRefresh (s : System) (id : Nat) : Option CurrentRefresh :=
  match s.client.currentRefresh with
  | some refresh =>
    match refresh.phase with
    | .awaiting requestId => if requestId = id then some refresh else none
    | _ => none
  | none => none

/-- Hand the answer of a pending request to whoever waits for it. -/
def handOver (s : System) (id : Nat) (result : Except DaemonError StatusDelta) (now : Text) :
    System :=
  match s.awaitingRefresh id with
  | some refresh =>
    let read := readRefreshReply runtime.platform (s.client.refreshRequest refresh.targets) result
    { s with client.currentRefresh := some { refresh with phase := .settled read } }
  | none => s.handToCheck runtime id result now

def deliver (s : System) (now : Text) : Option System :=
  match s.client.transport.receive with
  | none => none
  -- nobody waits for the reply: it is dropped
  | some (_, false, transport) => some { s with client.transport := transport }
  | some (reply, true, transport) =>
    some ({ s with client.transport := transport }.handOver runtime reply.id reply.result now)

/-! ## The events -/

def step (s : System) : SystemEvent → Option System
  | .fileEvent event => some { s with client := (s.client.recordFileEvent runtime event).2 }
  | .flush signal => s.whenIdle fun client => (client.flushRepository runtime signal).2
  | .refreshTargets epoch targets signal =>
    s.whenIdle fun client => (client.refreshTargets epoch targets signal).2
  | .refreshResource epoch path =>
    s.whenIdle fun client => (client.refreshResource epoch path).2
  | .fullReconcile epoch signal =>
    s.whenIdle fun client => (client.fullReconcileRepository epoch signal).2
  | .scheduledFullReconcile =>
    s.whenIdle fun client => client.runFullReconcile .scheduled .absent
  | .abort =>
    match s.client.currentRefresh with
    | some refresh =>
      if refresh.callerSignal then some { s with client := s.client.abortRefresh .userCancelled }
      else none
    | none => none
  | .settle =>
    match s.client.currentRefresh with
    | some refresh =>
      match refresh.phase with
      | .settled result => some { s with client := s.client.settleRefresh refresh result }
      | _ => none
    | none => none
  | .publish =>
    match s.client.currentRefresh with
    | some refresh =>
      match refresh.phase with
      | .applied delta => some { s with client := s.client.publishRefresh refresh delta }
      | _ => none
    | none => none
  | .finish =>
    match s.client.currentRefresh with
    | some refresh =>
      match refresh.phase with
      | .closing => some { s with client := s.client.finishRefresh }
      | _ => none
    | none => none
  | .execute env => s.execute runtime env
  | .settleLaunch id settlement => s.settleLaunch id settlement
  | .deliver now => s.deliver runtime now
  | .beginCheck epoch operationId startedAt =>
    some (s.beginCheck runtime epoch operationId startedAt)
  | .sendCheck operationId envelope now =>
    match s.findCheck operationId with
    | some check =>
      match check.phase with
      | .preparing => some (s.sendCheck runtime check envelope now)
      | _ => none
    | none => none
  | .abortCheck operationId now =>
    match s.findCheck operationId with
    | some check =>
      match check.phase with
      | .awaiting id _ =>
        (s.client.transport.cancelRequest id).map fun transport =>
          { s with client.transport := transport }.failCheck runtime check
            (remoteFailureFromError runtime (.cancelled id)) now
      | _ => none
    | none => none
  | .applyCheck operationId checkedAt =>
    -- `runExclusive`: the lock is free
    if s.client.currentRefresh.isSome then none
    else
      match s.findCheck operationId with
      | some check =>
        match check.phase with
        | .answered request delta => some (s.applyCheck runtime check request delta checkedAt)
        | _ => none
      | none => none

/-! ## What the events can do -/

variable {runtime} {s s' : System}

theorem whenIdle_eq_some {call : StatusClient → StatusClient} (h : s.whenIdle call = some s') :
    s.client.currentRefresh = none ∧ s' = { s with client := call s.client } := by
  unfold whenIdle at h
  split at h
  · rename_i hidle
    cases h
    exact ⟨Option.isNone_iff_eq_none.mp hidle, rfl⟩
  · cases h

/-- **A call of the scheduler** finds no refresh running and at most starts one. -/
theorem start_cases {e : SystemEvent} (he : e.isStart = true) (h : s.step runtime e = some s') :
    s.client.currentRefresh = none ∧
      ∃ client', s.client.Starts client' ∧ s' = { s with client := client' } := by
  cases e with
  | flush signal =>
    dsimp only [step] at h
    obtain ⟨hidle, rfl⟩ := whenIdle_eq_some h
    exact ⟨hidle, _, s.client.flushRepository_starts runtime signal, rfl⟩
  | refreshTargets epoch targets signal =>
    dsimp only [step] at h
    obtain ⟨hidle, rfl⟩ := whenIdle_eq_some h
    exact ⟨hidle, _, s.client.refreshTargets_starts epoch targets signal, rfl⟩
  | refreshResource epoch path =>
    dsimp only [step] at h
    obtain ⟨hidle, rfl⟩ := whenIdle_eq_some h
    exact ⟨hidle, _, s.client.refreshResource_starts epoch path, rfl⟩
  | fullReconcile epoch signal =>
    dsimp only [step] at h
    obtain ⟨hidle, rfl⟩ := whenIdle_eq_some h
    exact ⟨hidle, _, s.client.fullReconcileRepository_starts epoch signal, rfl⟩
  | scheduledFullReconcile =>
    dsimp only [step] at h
    obtain ⟨hidle, rfl⟩ := whenIdle_eq_some h
    exact ⟨hidle, _, s.client.runFullReconcile_starts .scheduled .absent, rfl⟩
  | _ => cases he

theorem abort_cases (h : s.step runtime .abort = some s') :
    ∃ refresh, s.client.currentRefresh = some refresh ∧
      s' = { s with client := s.client.abortRefresh .userCancelled } := by
  dsimp only [step] at h
  split at h
  · rename_i refresh hcurrent
    split at h
    · cases h
      exact ⟨refresh, hcurrent, rfl⟩
    · cases h
  · cases h

theorem settle_cases (h : s.step runtime .settle = some s') :
    ∃ refresh result, s.client.currentRefresh = some refresh ∧ refresh.phase = .settled result ∧
      s' = { s with client := s.client.settleRefresh refresh result } := by
  dsimp only [step] at h
  split at h
  · rename_i refresh hcurrent
    split at h
    · rename_i result hphase
      cases h
      exact ⟨refresh, result, hcurrent, hphase, rfl⟩
    · cases h
  · cases h

theorem publish_cases (h : s.step runtime .publish = some s') :
    ∃ refresh delta, s.client.currentRefresh = some refresh ∧ refresh.phase = .applied delta ∧
      s' = { s with client := s.client.publishRefresh refresh delta } := by
  dsimp only [step] at h
  split at h
  · rename_i refresh hcurrent
    split at h
    · rename_i delta hphase
      cases h
      exact ⟨refresh, delta, hcurrent, hphase, rfl⟩
    · cases h
  · cases h

theorem finish_cases (h : s.step runtime .finish = some s') :
    ∃ refresh, s.client.currentRefresh = some refresh ∧ refresh.phase = .closing ∧
      s' = { s with client := s.client.finishRefresh } := by
  dsimp only [step] at h
  split at h
  · rename_i refresh hcurrent
    split at h
    · rename_i hphase
      cases h
      exact ⟨refresh, hcurrent, hphase, rfl⟩
    · cases h
  · cases h

/-- **The daemon handles a message**: it reads past a cancellation, or handles one of the two
requests. -/
theorem execute_cases {env : DaemonEnvironment} (h : s.step runtime (.execute env) = some s') :
    (∃ id rest, s.client.transport.toDaemon = .cancelRequest id :: rest ∧
      s' = { s with client.transport.toDaemon := rest }) ∨
    (∃ id request rest, s.client.transport.toDaemon = .refresh id request :: rest ∧
      s' = s.reply id rest
        (s.daemon.dispatch (env.on runtime.platform) ⟨.statusRefresh, request.toJson⟩)) ∨
    ∃ id request rest, s.client.transport.toDaemon = .checkRemote id request :: rest ∧
      s' = s.reply id rest
        (s.daemon.dispatch (env.on runtime.platform) ⟨.statusCheckRemote, request.toJson⟩) := by
  dsimp only [step] at h
  unfold execute at h
  split at h
  · cases h
  · rename_i id rest hqueue
    cases h
    exact .inl ⟨id, rest, hqueue, rfl⟩
  · rename_i id request rest hqueue
    cases h
    exact .inr (.inl ⟨id, request, rest, hqueue, rfl⟩)
  · rename_i id request rest hqueue
    cases h
    exact .inr (.inr ⟨id, request, rest, hqueue, rfl⟩)

/-- **A refresh in the daemon**: it is refused, by the gate or by its handler, and nothing changes,
or the session it names is refreshed. -/
theorem dispatch_refresh_cases (env : DaemonEnvironment) (request : StatusRefreshRequest)
    (daemon : Daemon) :
    (∃ error, statusReply (daemon.dispatch env ⟨.statusRefresh, request.toJson⟩).answer =
        some (.error error) ∧
      (daemon.dispatch env ⟨.statusRefresh, request.toJson⟩).daemon = daemon) ∨
    ∃ session session' delta targets,
      daemon.repositories.get? request.repositoryId = some session ∧
      session.refresh env.platform env.status env.now targets = .ok (delta, session') ∧
      statusReply (daemon.dispatch env ⟨.statusRefresh, request.toJson⟩).answer =
        some (.ok delta) ∧
      (daemon.dispatch env ⟨.statusRefresh, request.toJson⟩).daemon.repositories =
        daemon.repositories.insert session' := by
  rcases @Daemon.dispatch_cases env ⟨.statusRefresh, request.toJson⟩ daemon with
    ⟨failure, heq⟩ | ⟨-, heq⟩
  · rw [heq]
    exact .inl ⟨_, rfl, rfl⟩
  rw [heq]
  unfold Daemon.handle Daemon.dispatchRefresh
  rcases hdispatch : daemon.toDaemonState.dispatchStatusRefresh env.platform env.status env.now
      request.toJson with ⟨answer, state⟩
  rcases DaemonState.dispatchStatusRefresh_cases hdispatch with ⟨error, rfl, rfl⟩ |
    ⟨repositoryId, session, session', delta, targets, hparam, hsession, hrefresh, rfl, rfl⟩
  · exact .inl ⟨error, rfl, rfl⟩
  · obtain rfl : repositoryId = request.repositoryId := eq_of_repositoryIdParam rfl hparam
    exact .inr ⟨session, session', delta, targets, hsession, hrefresh, rfl, rfl⟩

/-- **A worker settles**: the reply is an error, and the sessions stay as they are. -/
theorem settleLaunch_cases {id : Nat} {settlement : Daemon.RemoteWorkerSettlement}
    (h : s.step runtime (.settleLaunch id settlement) = some s') :
    ∃ failure daemon launches, daemon.toDaemonState = s.daemon.toDaemonState ∧
      s' = { s with
        client.transport.toClient :=
          s.client.transport.toClient ++ [⟨id, .error (.bridge failure)⟩]
        daemon, launches } := by
  dsimp only [step] at h
  unfold settleLaunch at h
  split at h
  · cases h
  · rename_i plan _
    have hframe := (s.daemon.settleRemoteLaunch_frame plan.laneKey
      plan.operation.envelope.operationId settlement).1
    cases h
    exact ⟨_, _, _, hframe, rfl⟩

/-- The state once the oldest reply is taken from the queue. -/
def takeReply (s : System) (pending : List Nat) (rest : List DaemonReply) : System :=
  { s with client.transport.pending := pending, client.transport.toClient := rest }

/-- **The extension reads a reply**: nobody waits for it, or it is handed over. -/
theorem deliver_cases {now : Text} (h : s.step runtime (.deliver now) = some s') :
    ∃ reply rest, s.client.transport.toClient = reply :: rest ∧
      (reply.id ∉ s.client.transport.pending ∧ s' = s.takeReply s.client.transport.pending rest ∨
        reply.id ∈ s.client.transport.pending ∧
          s' = (s.takeReply (s.client.transport.pending.filter (· ≠ reply.id)) rest).handOver
            runtime reply.id reply.result now) := by
  dsimp only [step] at h
  unfold deliver Transport.receive at h
  cases hqueue : s.client.transport.toClient with
  | nil =>
    rw [hqueue] at h
    cases h
  | cons reply rest =>
    rw [hqueue] at h
    dsimp only at h
    by_cases hpending : reply.id ∈ s.client.transport.pending
    · rw [if_pos hpending] at h
      cases h
      exact ⟨reply, rest, rfl, .inr ⟨hpending, rfl⟩⟩
    · rw [if_neg hpending] at h
      cases h
      exact ⟨reply, rest, rfl, .inl ⟨hpending, rfl⟩⟩

theorem sendCheck_cases {operationId now : Text}
    {envelope : Except NativeRemoteFailure RemoteOperationEnvelope}
    (h : s.step runtime (.sendCheck operationId envelope now) = some s') :
    ∃ check, s.findCheck operationId = some check ∧ check.phase = .preparing ∧
      s' = s.sendCheck runtime check envelope now := by
  dsimp only [step] at h
  split at h
  · rename_i check hfound
    split at h
    · rename_i hphase
      cases h
      exact ⟨check, hfound, hphase, rfl⟩
    · cases h
  · cases h

theorem applyCheck_cases {operationId checkedAt : Text}
    (h : s.step runtime (.applyCheck operationId checkedAt) = some s') :
    s.client.currentRefresh = none ∧ ∃ check request delta,
      s.findCheck operationId = some check ∧ check.phase = .answered request delta ∧
      s' = s.applyCheck runtime check request delta checkedAt := by
  dsimp only [step] at h
  split at h
  · cases h
  rename_i hbusy
  refine ⟨by simpa using hbusy, ?_⟩
  split at h
  · rename_i check hfound
    split at h
    · rename_i request delta hphase
      cases h
      exact ⟨check, request, delta, hfound, hphase, rfl⟩
    · cases h
  · cases h

end System

end SubversionR

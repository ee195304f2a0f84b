import SubversionR.Text

/-!
# The backend service — one connection, started, watched and shut down

`BackendService` starts a backend process on demand, keeps the connection the starter returns, and
gives it up when the process terminates, a heartbeat fails, or the service is shut down or disposed.
Everything it awaits may end in any order, so the model has one event for each piece of code that
runs without interruption.

* `StartupAttempt` — one call of `initializeConnection`: the starter's answer, the race against the
  cancellation, and the two handlers attached to them;
* `ConnectionState` — the connection an attempt returns, under the same number;
* `BackendService` — the fields of the class, with the attempts, the connections, the shutdowns and
  the heartbeats that are still awaited;
* `BackendService.step` — one event.

A termination marks the connection as disposed before it reports itself, as `emitTermination` does.
The listeners of the service are not modelled: they read, and call the service again later.
-/

namespace SubversionR

/-! ## Life cycle -/

inductive BackendDegradedReason where
  | startupFailed
  | terminated
  | heartbeatFailed
  | protocolFault
deriving DecidableEq

inductive BackendLifecycleState where
  | idle
  | ready (since : Nat)
  | degraded (reason : BackendDegradedReason) (since consecutiveFailures restartAfter : Nat)
      (lastErrorCode : Text)
deriving DecidableEq

inductive BackendConnectionTerminationReason where
  | processExit
  | processClose
  | processError
  | protocolFault
  | heartbeatFailed
deriving DecidableEq

structure BackendConnectionTermination where
  reason : BackendConnectionTerminationReason
  message : Option Text

/-- `errorCode`, of an error with this `code` property. -/
def errorCode (code : Option Text) (fallback : Text) : Text :=
  match code with
  | some code => if code.nonBlankJs then code else fallback
  | none => fallback

def degradationFromTermination (event : BackendConnectionTermination) :
    BackendDegradedReason × Text :=
  match event.reason with
  | .protocolFault => (.protocolFault, errorCode event.message "SUBVERSIONR_BACKEND_PROTOCOL_FAULT")
  | _ => (.terminated, "SUBVERSIONR_BACKEND_TERMINATED")

/-- The policies among `BackendServiceOptions`. -/
structure BackendServiceOptions where
  heartbeatEnabled : Bool
  initialBackoffMs : Nat
  maxBackoffMs : Nat

/-! ## Attempts and connections -/

/-- What the race between the attempt and its cancellation settles with. -/
inductive RaceOutcome where
  | undecided
  | connected
  | failed (code : Option Text)
  | cancelled
deriving DecidableEq

inductive AttemptPhase where
  /-- No such attempt yet. -/
  | absent
  /-- The back-off delay is awaited. -/
  | sleeping
  /-- The starter is awaited. -/
  | starting
  /-- The starter has returned the connection. -/
  | returned
  | failed
deriving DecidableEq

/-- Where the handlers attached to the race stand. -/
inductive RaceStage where
  | pending
  /-- The handler of the race has passed a rejection on; `cancellation` says of which kind. -/
  | rejecting (cancellation : Bool) (code : Option Text)
  | done
deriving DecidableEq

structure StartupAttempt where
  phase : AttemptPhase
  /-- `startupCancellation.cancelled`. -/
  cancelled : Bool
  outcome : RaceOutcome
  stage : RaceStage
  /-- The handler attached to the attempt itself has run. -/
  handled : Bool

namespace StartupAttempt

def absent : StartupAttempt := ⟨.absent, false, .undecided, .pending, false⟩

/-- The race is decided by what settles first. -/
def decideRace (attempt : StartupAttempt) (outcome : RaceOutcome) : StartupAttempt :=
  match attempt.outcome with
  | .undecided => { attempt with outcome }
  | _ => attempt

/-- `cancel` of a `BackendStartupCancellation`. -/
def cancel (attempt : StartupAttempt) : StartupAttempt :=
  { attempt.decideRace .cancelled with cancelled := true }

end StartupAttempt

structure ConnectionState where
  disposed : Bool
  terminated : Bool
  /-- The service listens to its termination. -/
  subscribed : Bool

namespace ConnectionState

def new : ConnectionState := ⟨false, false, false⟩

def dispose (connection : ConnectionState) : ConnectionState := { connection with disposed := true }

end ConnectionState

/-! ## The service -/

structure BackendService where
  options : BackendServiceOptions
  startup : Option Nat
  startupCancellation : Option Nat
  connection : Option Nat
  connectionTerminationSubscription : Option Nat
  /-- The connection `shutdownPromise` shuts down. -/
  shutdownPromise : Option Nat
  disposed : Bool
  lifecycleState : BackendLifecycleState
  consecutiveFailures : Nat
  heartbeatTimer : Option (Nat × Nat)
  heartbeatToken : Nat
  /-- The number of attempts so far; attempt `n` returns connection `n`. -/
  attemptCount : Nat
  attempts : Nat → StartupAttempt
  connections : Nat → ConnectionState
  /-- The connections whose `shutdown` is awaited. -/
  shutdowns : List Nat
  /-- The heartbeats in flight, each with its connection and its token. -/
  heartbeats : List (Nat × Nat)

namespace BackendService

def new (options : BackendServiceOptions) : BackendService where
  options := options
  startup := none
  startupCancellation := none
  connection := none
  connectionTerminationSubscription := none
  shutdownPromise := none
  disposed := false
  lifecycleState := .idle
  consecutiveFailures := 0
  heartbeatTimer := none
  heartbeatToken := 0
  attemptCount := 0
  attempts := fun _ => .absent
  connections := fun _ => .new
  shutdowns := []
  heartbeats := []

def setAttempt (service : BackendService) (n : Nat) (attempt : StartupAttempt) : BackendService :=
  { service with attempts := Function.update service.attempts n attempt }

def setConnection (service : BackendService) (n : Nat) (connection : ConnectionState) :
    BackendService :=
  { service with connections := Function.update service.connections n connection }

/-- `connection.dispose()`. -/
def disposeConnection (service : BackendService) (n : Nat) : BackendService :=
  service.setConnection n (service.connections n).dispose

/-- `startupCancellation?.cancel(..)`, and the field is cleared. -/
def cancelStartup (service : BackendService) : BackendService :=
  match service.startupCancellation with
  | none => service
  | some n =>
    { service.setAttempt n (service.attempts n).cancel with startupCancellation := none }

def clearConnectionTerminationSubscription (service : BackendService) : BackendService :=
  match service.connectionTerminationSubscription with
  | none => service
  | some n =>
    { service.setConnection n { service.connections n with subscribed := false } with
      connectionTerminationSubscription := none }

def stopHeartbeat (service : BackendService) : BackendService :=
  { service with heartbeatToken := service.heartbeatToken + 1, heartbeatTimer := none }

def isHeartbeatCurrent (service : BackendService) (connection token : Nat) : Bool :=
  !service.disposed && decide (service.connection = some connection) &&
    decide (service.heartbeatToken = token)

def scheduleHeartbeat (service : BackendService) (connection token : Nat) : BackendService :=
  if service.isHeartbeatCurrent connection token && service.options.heartbeatEnabled then
    { service with heartbeatTimer := some (connection, token) }
  else service

def startHeartbeat (service : BackendService) (connection : Nat) : BackendService :=
  let service := service.stopHeartbeat
  if service.options.heartbeatEnabled then
    service.scheduleHeartbeat connection service.heartbeatToken
  else service

def markReady (service : BackendService) (now : Nat) : BackendService :=
  { service with lifecycleState := .ready now, consecutiveFailures := 0 }

def markDegraded (service : BackendService) (reason : BackendDegradedReason) (lastErrorCode : Text)
    (now : Nat) : BackendService :=
  let failures := service.consecutiveFailures + 1
  let backoffMs := min (service.options.initialBackoffMs * 2 ^ (failures - 1))
    service.options.maxBackoffMs
  { service with
    consecutiveFailures := failures
    lifecycleState := .degraded reason now failures (now + backoffMs) lastErrorCode }

def restartBackoffDelayMs (service : BackendService) (now : Nat) : Nat :=
  match service.lifecycleState with
  | .degraded _ _ _ restartAfter _ => restartAfter - now
  | _ => 0

/-- The fields that name a connection or a startup are cleared. -/
def forgetConnection (service : BackendService) : BackendService :=
  { service with connection := none, startup := none, shutdownPromise := none }

/-! ### Starting -/

/-- `initialize`: nothing if there is a connection or a startup to share. -/
def initializeService (service : BackendService) (now : Nat) : BackendService :=
  if service.disposed || service.connection.isSome || service.startup.isSome then service
  else
    let n := service.attemptCount
    let phase := if 0 < service.restartBackoffDelayMs now then .sleeping else .starting
    { service.setAttempt n { StartupAttempt.absent with phase } with
      attemptCount := n + 1
      startupCancellation := some n
      startup := some n }

/-- `initializeConnection` after its delay. -/
def wake (service : BackendService) (n : Nat) : BackendService :=
  let attempt := service.attempts n
  if service.disposed then
    service.setAttempt n { attempt.decideRace (.failed none) with phase := .failed }
  else service.setAttempt n { attempt with phase := .starting }

/-- The starter returns the connection of the attempt. -/
def started (service : BackendService) (n : Nat) : BackendService :=
  (service.setAttempt n { (service.attempts n).decideRace .connected with phase := .returned })
    |>.setConnection n .new

def startFails (service : BackendService) (n : Nat) (code : Option Text) : BackendService :=
  service.setAttempt n { (service.attempts n).decideRace (.failed code) with phase := .failed }

/-- The handler of `startupAttempt.then`. -/
def attemptSettled (service : BackendService) (n : Nat) : BackendService :=
  let attempt := service.attempts n
  let service := service.setAttempt n { attempt with handled := true }
  if attempt.cancelled then service.disposeConnection n else service

/-- The connection is taken over. -/
def connect (service : BackendService) (n now : Nat) : BackendService :=
  let service :=
    if service.startupCancellation = some n then { service with startupCancellation := none }
    else service
  let service := { service with connection := some n, connectionTerminationSubscription := some n }
  let service := service.setConnection n { service.connections n with subscribed := true }
  (service.startHeartbeat n).markReady now

/-- The handler of the race for a value; a rejection is passed on. -/
def raceSettled (service : BackendService) (n now : Nat) : Option BackendService :=
  let attempt := service.attempts n
  match attempt.outcome with
  | .undecided => none
  | .connected =>
    if service.disposed || attempt.cancelled then
      let service := service.setAttempt n { attempt with stage := .rejecting true none }
      some (service.disposeConnection n)
    else some ((service.setAttempt n { attempt with stage := .done }).connect n now)
  | .failed code => some (service.setAttempt n { attempt with stage := .rejecting false code })
  | .cancelled => some (service.setAttempt n { attempt with stage := .rejecting true none })

/-- The handler of the race for an error. -/
def raceRejected (service : BackendService) (n : Nat) (cancellation : Bool) (code : Option Text)
    (now : Nat) : BackendService :=
  let service := service.setAttempt n { service.attempts n with stage := .done }
  let service := if service.startup = some n then { service with startup := none } else service
  let service :=
    if service.startupCancellation = some n then { service with startupCancellation := none }
    else service
  if !service.disposed && !cancellation then
    service.markDegraded .startupFailed (errorCode code "SUBVERSIONR_BACKEND_STARTUP_FAILED") now
  else service

/-! ### Ending -/

/-- `shutdown`, and `shutdownInitializedConnection` up to its await. -/
def shutdown (service : BackendService) : BackendService :=
  if service.shutdownPromise.isSome then service
  else
    match service.connection with
    | none =>
      if service.startup.isSome then
        { service.cancelStartup with startup := none, lifecycleState := .idle }
      else service
    | some n =>
      { service.stopHeartbeat.clearConnectionTerminationSubscription with
        shutdowns := service.shutdowns ++ [n]
        shutdownPromise := some n }

/-- `shutdownInitializedConnection` after its await, however that ends. -/
def shutdownSettled (service : BackendService) (n : Nat) : BackendService :=
  let service := { service with shutdowns := service.shutdowns.erase n }
  { (service.disposeConnection n).forgetConnection with lifecycleState := .idle }

def dispose (service : BackendService) : BackendService :=
  let service := { service with disposed := true }
  let service := service.cancelStartup.stopHeartbeat.clearConnectionTerminationSubscription
  let service :=
    match service.connection with
    | some n => service.disposeConnection n
    | none => service
  service.forgetConnection

/-- The process of a connection terminates; the service hears of it while it is subscribed. -/
def terminated (service : BackendService) (n : Nat) (event : BackendConnectionTermination)
    (now : Nat) : BackendService :=
  let connection := service.connections n
  let service := service.setConnection n { connection with disposed := true, terminated := true }
  if connection.subscribed && decide (service.connection = some n) then
    let service := service.stopHeartbeat.clearConnectionTerminationSubscription.forgetConnection
    let degradation := degradationFromTermination event
    service.markDegraded degradation.1 degradation.2 now
  else service

/-! ### Heartbeats -/

/-- The timer fires: `runHeartbeat` up to its await. -/
def heartbeatDue (service : BackendService) (n token : Nat) : BackendService :=
  let service := { service with heartbeatTimer := none }
  if service.isHeartbeatCurrent n token && service.options.heartbeatEnabled then
    { service with heartbeats := service.heartbeats ++ [(n, token)] }
  else service

def heartbeatSucceeds (service : BackendService) (n token : Nat) : BackendService :=
  { service with heartbeats := service.heartbeats.erase (n, token) }.scheduleHeartbeat n token

/-- `handleHeartbeatFailure`. -/
def heartbeatFails (service : BackendService) (n token : Nat) (code : Option Text) (now : Nat) :
    BackendService :=
  let service := { service with heartbeats := service.heartbeats.erase (n, token) }
  if service.connection = some n ∧ service.disposed = false then
    let service := service.stopHeartbeat.clearConnectionTerminationSubscription.forgetConnection
    (service.markDegraded .heartbeatFailed (errorCode code "SUBVERSIONR_BACKEND_HEARTBEAT_FAILED")
      now).disposeConnection n
  else service

end BackendService

/-! ## Events -/

inductive BackendEvent where
  | initializeService (now : Nat)
  | wake (attempt : Nat)
  | started (attempt : Nat)
  | startFails (attempt : Nat) (code : Option Text)
  | attemptSettled (attempt : Nat)
  | raceSettled (attempt now : Nat)
  | raceRejected (attempt now : Nat)
  | shutdown
  | shutdownSettled (connection : Nat)
  | dispose
  | terminated (connection : Nat) (event : BackendConnectionTermination) (now : Nat)
  | heartbeatDue
  | heartbeatSucceeds (connection token : Nat)
  | heartbeatFails (connection token : Nat) (code : Option Text) (now : Nat)

namespace BackendService

/-- One event, if the service is in a state in which it can happen. -/
def step (service : BackendService) : BackendEvent → Option BackendService
  | .initializeService now => some (service.initializeService now)
  | .wake n => if (service.attempts n).phase = .sleeping then some (service.wake n) else none
  | .started n => if (service.attempts n).phase = .starting then some (service.started n) else none
  | .startFails n code =>
    if (service.attempts n).phase = .starting then some (service.startFails n code) else none
  | .attemptSettled n =>
    if (service.attempts n).phase = .returned ∧ (service.attempts n).handled = false then
      some (service.attemptSettled n)
    else none
  | .raceSettled n now =>
    if (service.attempts n).stage = .pending then service.raceSettled n now else none
  | .raceRejected n now =>
    match (service.attempts n).stage with
    | .rejecting cancellation code => some (service.raceRejected n cancellation code now)
    | _ => none
  | .shutdown => some service.shutdown
  | .shutdownSettled n => if n ∈ service.shutdowns then some (service.shutdownSettled n) else none
  | .dispose => some service.dispose
  | .terminated n event now =>
    if (service.attempts n).phase = .returned ∧ (service.connections n).disposed = false then
      some (service.terminated n event now)
    else none
  | .heartbeatDue =>
    match service.heartbeatTimer with
    | some (n, token) => some (service.heartbeatDue n token)
    | none => none
  | .heartbeatSucceeds n token =>
    if (n, token) ∈ service.heartbeats then some (service.heartbeatSucceeds n token) else none
  | .heartbeatFails n token code now =>
    if (n, token) ∈ service.heartbeats then some (service.heartbeatFails n token code now) else none

end BackendService

end SubversionR

import SubversionR.Daemon.Lanes
import SubversionR.Lib.OrderedMap

/-!
# Workers — the registry of active jobs and the threads that use it

`ActiveWorkerRegistry` is a mutex around a launch gate, a counter of launches in flight and the
jobs of the running workers.  Every call of `execute_worker` runs on a thread of its own and passes
through it three times: it reserves a launch, registers the job of its suspended child, and removes
the job when it has no process any more.  Another thread revokes: it blocks the gate, terminates the
jobs it finds and waits until neither a job nor a launch is left.

* `ActiveState` — what the mutex guards, one function for each critical section;
* `WorkerPhase`, `WorkerCall` — where a call of `execute_worker` stands, with its processes;
* `Revoker` — where the revoking thread stands;
* `WorkerSystem.step` — one atomic action of one thread, or of the operating system.

A job is named by the call that created it.  Terminating a job and dropping a suspended child kill
the processes, and a process without a living parent in its job is not created.
-/

namespace SubversionR

open OrderedMaps

namespace BridgeFailure

def workerStartFailed : BridgeFailure :=
  ⟨"SUBVERSIONR_REMOTE_WORKER_START_FAILED", "process", "error.remote.workerStartFailed", false⟩

def workerDisconnected : BridgeFailure :=
  ⟨"SUBVERSIONR_REMOTE_WORKER_DISCONNECTED", "state", "error.remote.workerDisconnected", false⟩

end BridgeFailure

/-! ## What the mutex guards -/

/-- `u64::checked_add(1)`. -/
def checkedSucc (n : Nat) : Option Nat := if n + 1 < 2 ^ 64 then some (n + 1) else none

structure ActiveState where
  nextId : Nat
  launchAllowed : Bool
  launchesInFlight : Nat
  jobs : OrderedMap Nat Nat

namespace ActiveState

def new : ActiveState := ⟨0, false, 0, .empty⟩

/-- `reserve_launch`, with what it reads from the two flags. -/
def reserveLaunch (state : ActiveState) (disconnected parentDisconnected : Bool) :
    Except BridgeFailure ActiveState :=
  if !state.launchAllowed || disconnected || parentDisconnected then .error .workerDisconnected
  else
    match checkedSucc state.launchesInFlight with
    | some launches => .ok { state with launchesInFlight := launches }
    | none => .error .workerStartFailed

/-- The critical section of `register`: the id of the job, or the failure with which the caller
terminates it. -/
def register (state : ActiveState) (job : Nat) (disconnected parentDisconnected : Bool) :
    Except BridgeFailure (Nat × ActiveState) :=
  if !state.launchAllowed || disconnected || parentDisconnected then .error .workerDisconnected
  else
    match checkedSucc state.nextId with
    | some id => .ok (id, { state with nextId := id, jobs := state.jobs.set id job })
    | none => .error .workerStartFailed

def allowLaunches (state : ActiveState) (disconnected : Bool) : Except BridgeFailure ActiveState :=
  if disconnected then .error .workerDisconnected else .ok { state with launchAllowed := true }

/-- `block_launches_and_terminate_all`, up to the end of its critical section. -/
def blockLaunches (state : ActiveState) : ActiveState := { state with launchAllowed := false }

/-- `Drop for LaunchReservation`. -/
def dropReservation (state : ActiveState) : ActiveState :=
  { state with launchesInFlight := state.launchesInFlight - 1 }

/-- `Drop for ActiveRegistration`, unless the registration was retained. -/
def dropRegistration (state : ActiveState) (id : Nat) : ActiveState :=
  { state with jobs := state.jobs.delete id }

/-- The jobs `wait_for_zero` has found without a process are removed. -/
def removeCompleted (state : ActiveState) (completed : List Nat) : ActiveState :=
  completed.foldl dropRegistration state

/-- The condition under which `wait_for_zero` returns. -/
def isZero (state : ActiveState) : Bool :=
  state.jobs.items.isEmpty && decide (state.launchesInFlight = 0)

end ActiveState

/-! ## A call of `execute_worker` -/

inductive WorkerPhase where
  /-- Before `reserve_launch`. -/
  | entering
  /-- The launch is reserved. -/
  | reserved
  /-- There is a suspended child. -/
  | spawned
  /-- The child is in its job. -/
  | contained
  /-- `register` has refused the job. -/
  | refused
  /-- The refused job is terminated. -/
  | rejected
  /-- The child is dropped, the reservation is not. -/
  | abandoned
  /-- The job is registered, the reservation not dropped. -/
  | registered (id : Nat)
  /-- The reservation is dropped, the child is not resumed. -/
  | launched (id : Nat)
  /-- The child was resumed and is supervised. -/
  | running (id : Nat)
  /-- `ResumeThread` has not returned 1. -/
  | notResumed (id : Nat)
  /-- The job is terminated; `finish_hard_stop` waits for its processes. -/
  | stopping (id : Nat)
  /-- The job has no process. -/
  | finishing (id : Nat)
  /-- `retain_blocked`: the call has returned and left its job in the registry. -/
  | retained (id : Nat)
  /-- The call has returned. -/
  | returned
deriving DecidableEq

namespace WorkerPhase

/-- The call holds a `LaunchReservation`. -/
def holdsReservation : WorkerPhase → Bool
  | .reserved | .spawned | .contained | .refused | .rejected | .abandoned | .registered _ => true
  | _ => false

/-- The id under which the call has registered its job. -/
def jobId : WorkerPhase → Option Nat
  | .registered id | .launched id | .running id | .notResumed id | .stopping id | .finishing id
  | .retained id => some id
  | _ => none

/-- The call has made sure that it has no process. -/
def isSpent : WorkerPhase → Bool
  | .abandoned | .finishing _ => true
  | _ => false

end WorkerPhase

/-- A call with the number of its processes: the child, and those it has created in its job. -/
structure WorkerCall where
  phase : WorkerPhase
  processes : Nat
  wasResumed : Bool

namespace WorkerCall

def new : WorkerCall := ⟨.entering, 0, false⟩

/-- `TerminateJobObject`, and `TerminateProcess` of a suspended child. -/
def kill (call : WorkerCall) : WorkerCall := { call with processes := 0 }

end WorkerCall

/-- What a thread in `execute_worker` does next, with what it reads from outside. -/
inductive WorkerAction where
  | reserve (disconnected parentDisconnected : Bool)
  | spawnSuspended
  /-- `new_kill_on_close_job` and `assign_and_verify`. -/
  | assign
  /-- A failure before the job is registered: the child is dropped, if there is one. -/
  | dropChild
  | register (disconnected parentDisconnected : Bool)
  | dropReservation
  /-- `ResumeThread`, with the suspend count it returns. -/
  | resume (previous : Nat)
  /-- A disconnect, a cancellation, the deadline or a failure: the job is terminated. -/
  | terminate
  /-- `wait_job_zero_until` has seen no process. -/
  | observeZero
  /-- `wait_job_zero_until` has failed in `finish_hard_stop`. -/
  | retainBlocked
  | dropRegistration
  /-- A process ends on its own. -/
  | exit
  /-- A running process creates another. -/
  | fork
deriving DecidableEq

/-- The action needs the mutex. -/
def WorkerAction.locks : WorkerAction → Bool
  | .reserve .. | .register .. | .dropReservation | .dropRegistration => true
  | _ => false

/-- One action of a call, the job of which is named `job`. -/
def WorkerCall.step (job : Nat) (state : ActiveState) (call : WorkerCall) :
    WorkerAction → Option (ActiveState × WorkerCall)
  | .reserve disconnected parentDisconnected =>
    if call.phase = .entering then
      match state.reserveLaunch disconnected parentDisconnected with
      | .error _ => some (state, { call with phase := .returned })
      | .ok state => some (state, { call with phase := .reserved })
    else none
  | .spawnSuspended =>
    if call.phase = .reserved then some (state, ⟨.spawned, 1, false⟩) else none
  | .assign =>
    if call.phase = .spawned then some (state, { call with phase := .contained }) else none
  | .dropChild =>
    match call.phase with
    | .reserved | .spawned | .rejected => some (state, { call.kill with phase := .abandoned })
    | _ => none
  | .register disconnected parentDisconnected =>
    if call.phase = .contained then
      match state.register job disconnected parentDisconnected with
      | .error _ => some (state, { call with phase := .refused })
      | .ok (id, state) => some (state, { call with phase := .registered id })
    else none
  | .dropReservation =>
    match call.phase with
    | .abandoned => some (state.dropReservation, { call with phase := .returned })
    | .registered id => some (state.dropReservation, { call with phase := .launched id })
    | _ => none
  | .resume previous =>
    match call.phase with
    | .launched id =>
      some (state,
        { call with
          phase := if previous = 1 then .running id else .notResumed id
          wasResumed := call.wasResumed || decide (previous ≤ 1) })
    | _ => none
  | .terminate =>
    match call.phase with
    | .refused => some (state, { call.kill with phase := .rejected })
    | .launched id | .running id | .notResumed id =>
      some (state, { call.kill with phase := .stopping id })
    | _ => none
  | .observeZero =>
    match call.phase with
    | .running id | .stopping id =>
      if call.processes = 0 then some (state, { call with phase := .finishing id }) else none
    | _ => none
  | .retainBlocked =>
    match call.phase with
    | .stopping id => some (state, { call with phase := .retained id })
    | _ => none
  | .dropRegistration =>
    match call.phase with
    | .finishing id => some (state.dropRegistration id, { call with phase := .returned })
    | _ => none
  | .exit =>
    if 0 < call.processes then some (state, { call with processes := call.processes - 1 }) else none
  | .fork =>
    if 0 < call.processes ∧ call.wasResumed then
      some (state, { call with processes := call.processes + 1 })
    else none

/-! ## The threads together -/

/-- Where the revoking thread stands. -/
inductive Revoker where
  | idle
  /-- `block_launches_and_terminate_all` goes through the jobs it has copied. -/
  | terminating (jobs : List Nat)
  /-- `wait_for_zero` is about to lock. -/
  | waiting
  /-- `wait_for_zero` holds the mutex and has yet to look at some jobs. -/
  | scanning (rest : List (Nat × Nat)) (completed : List Nat)
  /-- The mutex is free again; the deadline is checked next. -/
  | unlocked
  /-- `wait_for_zero` has returned `Ok`. -/
  | zero
  /-- `wait_for_zero` has returned a failure. -/
  | failed (failure : BridgeFailure)
deriving DecidableEq

structure WorkerSystem where
  active : ActiveState
  calls : Nat → WorkerCall
  revoker : Revoker

inductive WorkerEvent where
  | call (thread : Nat) (action : WorkerAction)
  | allowLaunches (disconnected : Bool)
  /-- The revoking thread blocks the launches. -/
  | blockLaunches
  /-- It terminates the next of the jobs it has copied, or has terminated them all. -/
  | terminateNext
  | lock
  /-- It asks for the processes of the next job. -/
  | account (succeeds : Bool)
  | unlock
  /-- It looks at the clock. -/
  | checkDeadline (passed : Bool)
deriving DecidableEq

namespace WorkerSystem

def start : WorkerSystem := ⟨.new, fun _ => .new, .idle⟩

/-- The mutex is held across several actions only by `wait_for_zero`. -/
def isLocked (system : WorkerSystem) : Bool :=
  match system.revoker with
  | .scanning .. => true
  | _ => false

def setCall (system : WorkerSystem) (thread : Nat) (call : WorkerCall) : WorkerSystem :=
  { system with calls := Function.update system.calls thread call }

def step (system : WorkerSystem) : WorkerEvent → Option WorkerSystem
  | .call thread action =>
    if action.locks && system.isLocked then none
    else
      match (system.calls thread).step thread system.active action with
      | none => none
      | some (active, call) => some { system.setCall thread call with active }
  | .allowLaunches disconnected =>
    if system.isLocked then none
    else
      match system.active.allowLaunches disconnected with
      | .error _ => some system
      | .ok active => some { system with active }
  | .blockLaunches =>
    match system.revoker with
    | .idle | .zero | .failed _ =>
      some { system with
        active := system.active.blockLaunches
        revoker := .terminating system.active.jobs.values }
    | _ => none
  | .terminateNext =>
    match system.revoker with
    | .terminating [] => some { system with revoker := .waiting }
    | .terminating (job :: jobs) =>
      some { system.setCall job (system.calls job).kill with revoker := .terminating jobs }
    | _ => none
  | .lock =>
    match system.revoker with
    | .waiting => some { system with revoker := .scanning system.active.jobs.items [] }
    | _ => none
  | .account succeeds =>
    match system.revoker with
    | .scanning ((id, job) :: rest) completed =>
      if succeeds ∧ (system.calls job).processes = 0 then
        some { system with revoker := .scanning rest (completed ++ [id]) }
      else some { system with revoker := .scanning rest completed }
    | _ => none
  | .unlock =>
    match system.revoker with
    | .scanning [] completed =>
      let active := system.active.removeCompleted completed
      some { system with active, revoker := if active.isZero then .zero else .unlocked }
    | _ => none
  | .checkDeadline passed =>
    match system.revoker with
    | .unlocked =>
      some { system with revoker := if passed then .failed .recoveryBlocked else .waiting }
    | _ => none

end WorkerSystem

end SubversionR

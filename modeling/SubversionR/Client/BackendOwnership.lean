import SubversionR.Client.BackendService

/-!
# Who owns a backend connection — the events of the service without its timers

The service may lose a connection in five ways and start another at once.  What its connections
depend on is who owns which attempt: the field `startup` with its cancellation, or the field
`connection`.  The timers, the tokens and the life cycle drop out.

* `Ownership` — that part of the state, with the attempts and the connections that are closed;
* `OwnershipStep` — what one event does to it;
* `step_ownership` — every event of the service is one of these steps.
-/

namespace SubversionR

open Option (ite_none_right_eq_some)

/-- Who owns which attempt and which connection. -/
structure Ownership where
  startup : Option Nat
  cancellation : Option Nat
  connection : Option Nat
  disposed : Bool
  count : Nat
  attempts : Nat → StartupAttempt
  closed : Nat → Bool

namespace Ownership

def setAttempt (owner : Ownership) (n : Nat) (attempt : StartupAttempt) : Ownership :=
  { owner with attempts := Function.update owner.attempts n attempt }

def setClosed (owner : Ownership) (n : Nat) (closed : Bool) : Ownership :=
  { owner with closed := Function.update owner.closed n closed }

/-- The startup that can be cancelled is cancelled. -/
def cancelStartup (owner : Ownership) : Ownership :=
  match owner.cancellation with
  | none => owner
  | some n => { owner.setAttempt n (owner.attempts n).cancel with cancellation := none }

def forget (owner : Ownership) : Ownership := { owner with connection := none, startup := none }

/-- The startup is cancelled and the connection closed, for good. -/
def dispose (owner : Ownership) : Ownership :=
  match owner.connection with
  | some n => { (owner.cancelStartup.setClosed n true).forget with disposed := true }
  | none => { owner.cancelStartup.forget with disposed := true }

theorem setClosed_self (owner : Ownership) (n : Nat) :
    owner.setClosed n (owner.closed n) = owner := by
  unfold setClosed
  rw [Function.update_eq_self]

end Ownership

namespace BackendService

def ownership (service : BackendService) : Ownership where
  startup := service.startup
  cancellation := service.startupCancellation
  connection := service.connection
  disposed := service.disposed
  count := service.attemptCount
  attempts := service.attempts
  closed n := (service.connections n).disposed

/-! ## What the helpers do to it -/

section

variable (service : BackendService)

theorem ownership_setConnection (n : Nat) (connection : ConnectionState) :
    (service.setConnection n connection).ownership =
      service.ownership.setClosed n connection.disposed := by
  unfold setConnection ownership Ownership.setClosed
  congr 1
  funext m
  by_cases hm : m = n
  · simp [hm]
  · simp [hm]

theorem ownership_disposeConnection (n : Nat) :
    (service.disposeConnection n).ownership = service.ownership.setClosed n true :=
  service.ownership_setConnection n _

theorem ownership_cancelStartup :
    service.cancelStartup.ownership = service.ownership.cancelStartup := by
  unfold cancelStartup Ownership.cancelStartup
  show _ = match service.startupCancellation with
    | none => service.ownership
    | some n => _
  cases service.startupCancellation <;> rfl

/-- Ending a subscription closes no connection. -/
theorem ownership_clearConnectionTerminationSubscription :
    service.clearConnectionTerminationSubscription.ownership = service.ownership := by
  unfold clearConnectionTerminationSubscription
  cases service.connectionTerminationSubscription with
  | none => rfl
  | some n =>
    unfold setConnection ownership
    congr 1
    funext m
    by_cases hm : m = n
    · simp [hm]
    · simp [hm]

theorem ownership_stopHeartbeat : service.stopHeartbeat.ownership = service.ownership := rfl

theorem ownership_scheduleHeartbeat (n token : Nat) :
    (service.scheduleHeartbeat n token).ownership = service.ownership := by
  unfold scheduleHeartbeat
  split <;> rfl

theorem ownership_startHeartbeat (n : Nat) :
    (service.startHeartbeat n).ownership = service.ownership := by
  unfold startHeartbeat
  dsimp only
  split
  · exact ownership_scheduleHeartbeat _ _ _
  · rfl

theorem ownership_markReady (now : Nat) :
    (service.markReady now).ownership = service.ownership := rfl

theorem ownership_markDegraded (reason : BackendDegradedReason) (code : Text) (now : Nat) :
    (service.markDegraded reason code now).ownership = service.ownership := rfl

theorem ownership_forgetConnection :
    service.forgetConnection.ownership = service.ownership.forget := rfl

end

end BackendService

/-! ## What an event does -/

/-- **What an event does to the ownership.** -/
inductive OwnershipStep (owner : Ownership) : BackendEvent → Ownership → Prop
  | stays (event : BackendEvent) : OwnershipStep owner event owner
  /-- A startup begins; there is neither a connection nor another startup. -/
  | begins (now : Nat) (phase : AttemptPhase) (running : phase = .sleeping ∨ phase = .starting)
      (disposed : owner.disposed = false) (connection : owner.connection = none)
      (startup : owner.startup = none) :
      OwnershipStep owner (.initializeService now)
        { owner.setAttempt owner.count { StartupAttempt.absent with phase } with
          count := owner.count + 1
          cancellation := some owner.count
          startup := some owner.count }
  | wakes (n : Nat) (phase : (owner.attempts n).phase = .sleeping)
      (disposed : owner.disposed = false) :
      OwnershipStep owner (.wake n)
        (owner.setAttempt n { owner.attempts n with phase := .starting })
  | fails (event : BackendEvent) (n : Nat) (code : Option Text)
      (phase : (owner.attempts n).phase = .sleeping ∨ (owner.attempts n).phase = .starting) :
      OwnershipStep owner event
        (owner.setAttempt n { (owner.attempts n).decideRace (.failed code) with phase := .failed })
  | returns (n : Nat) (phase : (owner.attempts n).phase = .starting) :
      OwnershipStep owner (.started n)
        ((owner.setAttempt n
          { (owner.attempts n).decideRace .connected with phase := .returned }).setClosed n false)
  | handles (n : Nat) (phase : (owner.attempts n).phase = .returned)
      (cancelled : (owner.attempts n).cancelled = false) :
      OwnershipStep owner (.attemptSettled n)
        (owner.setAttempt n { owner.attempts n with handled := true })
  /-- The handler of a cancelled attempt closes the connection. -/
  | handlesCancelled (n : Nat) (phase : (owner.attempts n).phase = .returned) :
      OwnershipStep owner (.attemptSettled n)
        ((owner.setAttempt n { owner.attempts n with handled := true }).setClosed n true)
  /-- The connection of a startup that was given up is closed. -/
  | discards (n now : Nat) (stage : (owner.attempts n).stage = .pending)
      (outcome : (owner.attempts n).outcome = .connected) :
      OwnershipStep owner (.raceSettled n now)
        ((owner.setAttempt n { owner.attempts n with stage := .rejecting true none }).setClosed n
          true)
  | connects (n now : Nat) (stage : (owner.attempts n).stage = .pending)
      (outcome : (owner.attempts n).outcome = .connected)
      (disposed : owner.disposed = false) (cancelled : (owner.attempts n).cancelled = false) :
      OwnershipStep owner (.raceSettled n now)
        { owner.setAttempt n { owner.attempts n with stage := .done } with
          connection := some n
          cancellation := if owner.cancellation = some n then none else owner.cancellation }
  | rejects (n now : Nat) (cancellation : Bool) (code : Option Text)
      (stage : (owner.attempts n).stage = .pending)
      (outcome : (owner.attempts n).outcome = .failed code ∨
        (owner.attempts n).outcome = .cancelled) :
      OwnershipStep owner (.raceSettled n now)
        (owner.setAttempt n { owner.attempts n with stage := .rejecting cancellation code })
  | caught (n now : Nat) (stage : (owner.attempts n).stage ≠ .pending) :
      OwnershipStep owner (.raceRejected n now)
        { owner.setAttempt n { owner.attempts n with stage := .done } with
          startup := if owner.startup = some n then none else owner.startup
          cancellation := if owner.cancellation = some n then none else owner.cancellation }
  | cancels (connection : owner.connection = none) :
      OwnershipStep owner .shutdown { owner.cancelStartup with startup := none }
  /-- A connection ends while the service holds it. -/
  | gives (event : BackendEvent) (n : Nat) (connection : owner.connection = some n) :
      OwnershipStep owner event (owner.setClosed n true).forget
  /-- A connection ends and the service does not hear of it. -/
  | closes (event : BackendEvent) (n : Nat) : OwnershipStep owner event (owner.setClosed n true)
  | settles (n : Nat) : OwnershipStep owner (.shutdownSettled n) (owner.setClosed n true).forget
  | disposes : OwnershipStep owner .dispose owner.dispose

namespace BackendService

section

variable {service service' : BackendService}

theorem ownership_connect (service : BackendService) (n now : Nat) :
    (service.connect n now).ownership = { service.ownership with
      connection := some n
      cancellation := if service.startupCancellation = some n then none
        else service.startupCancellation } := by
  unfold connect
  rw [ownership_markReady, ownership_startHeartbeat, ownership_setConnection]
  split <;> exact Ownership.setClosed_self _ _

theorem raceSettled_ownership {n now : Nat} (hstage : (service.attempts n).stage = .pending)
    (h : service.raceSettled n now = some service') :
    OwnershipStep service.ownership (.raceSettled n now) service'.ownership := by
  unfold raceSettled at h
  dsimp only at h
  split at h
  · cases h
  · rename_i houtcome
    split at h
    · cases h
      rw [ownership_disposeConnection]
      exact .discards n now hstage houtcome
    · rename_i hgoes
      cases h
      simp only [Bool.or_eq_true, not_or, Bool.not_eq_true] at hgoes
      rw [ownership_connect]
      exact .connects n now hstage houtcome hgoes.1 hgoes.2
  · rename_i code houtcome
    cases h
    exact .rejects n now false code hstage (.inl houtcome)
  · rename_i houtcome
    cases h
    exact .rejects n now true none hstage (.inr houtcome)

theorem raceRejected_ownership {n now : Nat} {cancellation : Bool} {code : Option Text}
    (hstage : (service.attempts n).stage = .rejecting cancellation code) :
    OwnershipStep service.ownership (.raceRejected n now)
      (service.raceRejected n cancellation code now).ownership := by
  have hcaught : (service.raceRejected n cancellation code now).ownership =
      { service.ownership.setAttempt n { service.attempts n with stage := .done } with
        startup := if service.startup = some n then none else service.startup
        cancellation := if service.startupCancellation = some n then none
          else service.startupCancellation } := by
    unfold raceRejected setAttempt
    by_cases hstartup : service.startup = some n <;>
      by_cases hcancellation : service.startupCancellation = some n <;>
      simp only [hstartup, hcancellation, if_true, if_false] <;> split <;> rfl
  rw [hcaught]
  refine .caught n now ?_
  show (service.attempts n).stage ≠ .pending
  rw [hstage]
  nofun

theorem shutdown_ownership :
    OwnershipStep service.ownership .shutdown service.shutdown.ownership := by
  unfold shutdown
  split
  · exact .stays _
  split
  · rename_i hconnection
    split
    · have hcancels := @OwnershipStep.cancels service.ownership hconnection
      rw [← ownership_cancelStartup] at hcancels
      exact hcancels
    · exact .stays _
  · show OwnershipStep _ _
      service.stopHeartbeat.clearConnectionTerminationSubscription.ownership
    rw [ownership_clearConnectionTerminationSubscription]
    exact .stays _

theorem ownership_dispose (service : BackendService) :
    service.dispose.ownership = service.ownership.dispose := by
  let cleared : BackendService :=
    { service with disposed := true }.cancelStartup.stopHeartbeat
      |>.clearConnectionTerminationSubscription
  have hcleared :
      cleared.ownership = { service.ownership.cancelStartup with disposed := true } := by
    show BackendService.ownership (clearConnectionTerminationSubscription _) = _
    rw [ownership_clearConnectionTerminationSubscription, ownership_stopHeartbeat,
      ownership_cancelStartup]
    unfold Ownership.cancelStartup ownership
    cases service.startupCancellation <;> rfl
  have hconnection : cleared.connection = service.connection := by
    show cleared.ownership.connection = _
    rw [hcleared]
    unfold Ownership.cancelStartup ownership
    cases service.startupCancellation <;> rfl
  have hdispose : service.dispose = (match cleared.connection with
      | some n => cleared.disposeConnection n
      | none => cleared).forgetConnection := rfl
  rw [hdispose, hconnection]
  show _ = match service.connection with
    | some n => _
    | none => _
  cases service.connection with
  | none =>
    show cleared.forgetConnection.ownership = _
    rw [ownership_forgetConnection, hcleared]
    rfl
  | some n =>
    show (cleared.disposeConnection n).forgetConnection.ownership = _
    rw [ownership_forgetConnection, ownership_disposeConnection, hcleared]
    rfl

theorem terminated_ownership {n now : Nat} {event : BackendConnectionTermination} :
    OwnershipStep service.ownership (.terminated n event now)
      (service.terminated n event now).ownership := by
  unfold terminated
  dsimp only
  split
  · rename_i hheard
    rw [ownership_markDegraded, ownership_forgetConnection,
      ownership_clearConnectionTerminationSubscription, ownership_stopHeartbeat,
      ownership_setConnection]
    simp only [Bool.and_eq_true, decide_eq_true_eq] at hheard
    exact .gives _ n hheard.2
  · rw [ownership_setConnection]
    exact .closes _ n

theorem heartbeatFails_ownership {n token now : Nat} {code : Option Text} :
    OwnershipStep service.ownership (.heartbeatFails n token code now)
      (service.heartbeatFails n token code now).ownership := by
  unfold heartbeatFails
  dsimp only
  split
  · rename_i hcurrent
    rw [ownership_disposeConnection, ownership_markDegraded, ownership_forgetConnection,
      ownership_clearConnectionTerminationSubscription, ownership_stopHeartbeat]
    exact .gives _ n hcurrent.1
  · exact .stays _

/-- **Every event of the service is an ownership step.** -/
theorem step_ownership {event : BackendEvent} (h : service.step event = some service') :
    OwnershipStep service.ownership event service'.ownership := by
  -- the guard of each event in `step` is the premise of its constructor
  cases event with
  | initializeService now =>
    cases h
    unfold initializeService
    split
    · exact .stays _
    rename_i hidle
    simp only [Bool.or_eq_true, not_or, Bool.not_eq_true, Option.isSome_eq_false_iff,
      Option.isNone_iff_eq_none] at hidle
    refine .begins now _ ?_ hidle.1.1 hidle.1.2 hidle.2
    split
    · exact .inl rfl
    · exact .inr rfl
  | wake n =>
    obtain ⟨hphase, ⟨⟩⟩ := ite_none_right_eq_some.mp h
    unfold wake
    split
    · exact .fails _ n none (.inl hphase)
    · rename_i hdisposed
      exact .wakes n hphase (Bool.not_eq_true _ ▸ hdisposed)
  | started n =>
    obtain ⟨hphase, ⟨⟩⟩ := ite_none_right_eq_some.mp h
    unfold started
    rw [ownership_setConnection]
    exact .returns n hphase
  | startFails n code =>
    obtain ⟨hphase, ⟨⟩⟩ := ite_none_right_eq_some.mp h
    exact .fails _ n code (.inr hphase)
  -- a run cancelled while it started gives its connection up
  | attemptSettled n =>
    obtain ⟨hphase, ⟨⟩⟩ := ite_none_right_eq_some.mp h
    unfold attemptSettled
    dsimp only
    split
    · rw [ownership_disposeConnection]
      exact .handlesCancelled n hphase.1
    · rename_i hcancelled
      exact .handles n hphase.1 (Bool.not_eq_true _ ▸ hcancelled)
  | raceSettled n now =>
    obtain ⟨hstage, h⟩ := ite_none_right_eq_some.mp h
    exact raceSettled_ownership hstage h
  | raceRejected n now =>
    simp only [step] at h
    split at h
    · rename_i hstage
      cases h
      exact raceRejected_ownership hstage
    · cases h
  | shutdown =>
    cases h
    exact shutdown_ownership
  | shutdownSettled n =>
    obtain ⟨-, ⟨⟩⟩ := ite_none_right_eq_some.mp h
    have hsettles := @OwnershipStep.settles service.ownership n
    rw [← ownership_disposeConnection] at hsettles
    exact hsettles
  | dispose =>
    cases h
    rw [ownership_dispose]
    exact .disposes
  | terminated n event now =>
    obtain ⟨-, ⟨⟩⟩ := ite_none_right_eq_some.mp h
    exact terminated_ownership
  -- heartbeats only touch the timer until one fails
  | heartbeatDue =>
    simp only [step] at h
    split at h
    · cases h
      unfold heartbeatDue
      dsimp only
      split <;> exact .stays _
    · cases h
  | heartbeatSucceeds n token =>
    obtain ⟨-, ⟨⟩⟩ := ite_none_right_eq_some.mp h
    unfold heartbeatSucceeds
    rw [ownership_scheduleHeartbeat]
    exact .stays _
  | heartbeatFails n token code now =>
    obtain ⟨-, ⟨⟩⟩ := ite_none_right_eq_some.mp h
    exact heartbeatFails_ownership

end

end BackendService

end SubversionR

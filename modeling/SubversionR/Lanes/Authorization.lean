import SubversionR.Lanes.Steps

/-!
# Launch authorization — which requests may start a remote worker

A worker is launched only for a request whose envelope the trust state permits at that moment.  The
trust epoch never goes back, so that an envelope issued under an earlier epoch is dead for good once
a later one has been acknowledged.

* `launch_authorized` — what the envelope of a launched request has been checked for;
* `trustReaches_step`, `trustReaches_run` — an epoch that was reached stays reached;
* `remote_launch_authorization` — the three together, over every run.
-/

namespace SubversionR

open JsonValues

namespace Daemon

/-- The request launches a worker under an envelope that is authorized in the state it meets: the
workspace is trusted, the epoch of the envelope is the acknowledged one, and every URL of the
preflight belongs to the one endpoint the envelope names as origin and as authority. -/
structure LaunchAuthorized (daemon : Daemon) (env : DaemonEnvironment) (request : JsonRpcRequest)
    (envelope : RemoteEnvelope) : Prop where
  carried : ∃ value, envelopeValue request.params = some value ∧
    env.codec.decodeEnvelope value = some envelope
  trusted : ∃ trust, daemon.remoteTrust = some trust ∧ trust.trusted = true ∧
    envelope.trustEpoch = trust.currentEpoch ∧ envelope.trustEpoch = trust.acknowledgedEpoch
  urls : (daemon.dispatch env request).preflightUrls ≠ []
  endpoint : ∀ url ∈ (daemon.dispatch env request).preflightUrls,
    classifyRepositoryUrl env.codec url = .ok (.remote envelope.expectedOrigin)
  authority : envelope.profile.authority = envelope.expectedOrigin

section

variable {platform : Platform} {daemon : Daemon} {env : DaemonEnvironment}
  {request : JsonRpcRequest}

/-- **A launch has passed the preflight.** -/
theorem launch_authorized {plan : RemoteLaunchPlan}
    (h : (daemon.dispatch env request).remoteLaunch = some plan) :
    LaunchAuthorized daemon env request plan.operation.envelope := by
  have hlaunches := launches_of_remoteLaunch h
  obtain ⟨hendpoint, hcarried, hauthorized⟩ := preflightRepositoryUrls_eq_some hlaunches.preflight
  refine ⟨hcarried, hauthorized.trusted, hlaunches.urls, ?_, ?_⟩
  · rw [hauthorized.origin]
    exact hendpoint
  · rw [hauthorized.authority, hauthorized.origin]

/-! ## The trust epoch -/

/-- The trust state has reached the epoch. -/
def TrustReaches (epoch : Nat) (daemon : Daemon) : Prop :=
  ∃ trust, daemon.remoteTrust = some trust ∧ epoch ≤ trust.currentEpoch

theorem remoteTrust_recoverWorkingCopy {params : Json} {start : RecoveryStart} {daemon' : Daemon}
    (h : daemon.recoverWorkingCopy platform params = (start, daemon')) :
    daemon'.remoteTrust = daemon.remoteTrust := by
  rcases recoverWorkingCopy_cases h with ⟨rfl, -⟩ | ⟨_, _, _, -, hcase⟩
  · rfl
  · rcases hcase with ⟨-, -, -, rfl⟩ | ⟨-, -, -, rfl⟩
    · rfl
    · rfl

theorem remoteTrust_settleRemoteRecovery {launch : RemoteRecoveryLaunch}
    {recovery : Except DiagnosedFailure StatusSnapshot} {settled : RecoverySettled}
    {daemon' : Daemon} (h : daemon.settleRemoteRecovery platform launch recovery =
      (settled, daemon')) :
    daemon'.remoteTrust = daemon.remoteTrust := by
  rcases settleRemoteRecovery_cases h with
    ⟨-, -, rfl⟩ | ⟨-, -, -, -, -, rfl⟩ | ⟨-, -, -, -, -, -, -, -, rfl⟩ | ⟨-, -, -, -, -, -, rfl, -⟩
  all_goals rfl

/-- What an event does to the trust state: nothing, or one step. -/
theorem remoteTrust_step (event : DaemonEvent) :
    (daemon.step platform event).remoteTrust = daemon.remoteTrust ∨
      ∃ trust, (daemon.step platform event).remoteTrust = some trust ∧
        TrustStep daemon.remoteTrust trust := by
  cases event with
  | settleLaunch laneKey operationId settlement =>
    exact .inl (settleRemoteLaunch_frame daemon laneKey operationId settlement).2
  | settleRecovery launch recovery =>
    rcases hsettle : daemon.settleRemoteRecovery platform launch recovery with ⟨settled, daemon'⟩
    refine .inl ?_
    show (daemon.settleRemoteRecovery platform launch recovery).2.remoteTrust = _
    rw [hsettle]
    exact remoteTrust_settleRemoteRecovery hsettle
  | dispatch env request =>
    show (daemon.dispatch (env.on platform) request).daemon.remoteTrust = _ ∨ ∃ trust,
      (daemon.dispatch (env.on platform) request).daemon.remoteTrust = some trust ∧ _
    rcases @dispatch_cases (env.on platform) request daemon with ⟨_, heq⟩ | ⟨-, heq⟩
    · rw [heq]
      exact .inl rfl
    · rw [heq]
      cases @handle_effect (env.on platform) request daemon with
      | stays state => exact .inl (by rw [state])
      | trust trust step state => exact .inr ⟨trust, by rw [state], step⟩
      | opened session fresh epoch state => exact .inl (by rw [state])
      | changed gated session session' named repositoryId epoch state => exact .inl (by rw [state])
      | closed gated session named state => exact .inl (by rw [state])
      | launched gated plan named urls preflight unused free attributed state =>
        exact .inl (by rw [state]; rfl)
      | recovers method start step => exact .inl (remoteTrust_recoverWorkingCopy step)

/-- No event takes the trust state behind an epoch it has reached. -/
theorem trustReaches_step {epoch : Nat} (event : DaemonEvent) (h : TrustReaches epoch daemon) :
    TrustReaches epoch (daemon.step platform event) := by
  obtain ⟨trust, htrust, hepoch⟩ := h
  rcases @remoteTrust_step platform daemon event with hsame | ⟨next, hnext, hstep⟩
  · exact ⟨trust, hsame.trans htrust, hepoch⟩
  · rw [htrust] at hstep
    have hlater : next.currentEpoch = trust.currentEpoch + 1 := hstep.1
    exact ⟨next, hnext, by omega⟩

theorem trustReaches_run {epoch : Nat} (events : List DaemonEvent)
    (h : TrustReaches epoch daemon) : TrustReaches epoch (daemon.run platform events) :=
  Runs.foldl_invariant (TrustReaches epoch) (fun _ h event _ => trustReaches_step event h) h

/-- Where an epoch is reached, an envelope of an earlier one launches nothing. -/
theorem no_launch_of_earlier_epoch {epoch : Nat} {value : Json} {envelope : RemoteEnvelope}
    (h : TrustReaches epoch daemon) (hvalue : envelopeValue request.params = some value)
    (henvelope : env.codec.decodeEnvelope value = some envelope)
    (hearlier : envelope.trustEpoch < epoch) :
    (daemon.dispatch env request).remoteLaunch = none := by
  cases hlaunch : (daemon.dispatch env request).remoteLaunch with
  | none => rfl
  | some plan =>
    have hauthorized := launch_authorized hlaunch
    -- the request carries one envelope only
    obtain ⟨_, hvalue', henvelope'⟩ := hauthorized.carried
    rw [hvalue] at hvalue'
    cases hvalue'
    rw [henvelope] at henvelope'
    cases henvelope'
    -- and its epoch is the current one
    obtain ⟨_, htrust, _⟩ := h
    obtain ⟨_, htrust', _⟩ := hauthorized.trusted
    rw [htrust] at htrust'
    cases htrust'
    omega

/-! ## Trust updates -/

/-- A trust update is exempt from the gate. -/
theorem dispatch_trustUpdate (hmethod : request.method = .workspaceTrustUpdate) :
    daemon.dispatch env request = daemon.dispatchWorkspaceTrustUpdate env request.params := by
  unfold dispatch nativeLaneFailureForRequest handle
  rw [hmethod]
  rfl

/-- A trust update that fails changes nothing; one that succeeds acknowledges its epoch. -/
theorem trustUpdate_cases (hmethod : request.method = .workspaceTrustUpdate) :
    (∃ error, (daemon.dispatch env request).answer = .error error ∧
      (daemon.dispatch env request).daemon = daemon) ∨
    ∃ trusted epoch, (daemon.dispatch env request).answer = .ok (.acknowledged epoch) ∧
      (daemon.dispatch env request).daemon =
        { daemon with remoteTrust := some ⟨trusted, epoch, epoch⟩ } := by
  rw [dispatch_trustUpdate hmethod]
  unfold dispatchWorkspaceTrustUpdate
  split
  · exact .inl ⟨_, rfl, rfl⟩
  split
  · exact .inl ⟨_, rfl, rfl⟩
  split
  · exact .inl ⟨_, rfl, rfl⟩
  split
  · exact .inl ⟨_, rfl, rfl⟩
  · exact .inr ⟨_, _, rfl, rfl⟩

end

/-- **Remote launches are authorized.**  In every state `daemon`, and with that in every state of
every run:

* a request launches a worker only under an envelope that is authorized in this state;
* after a trust update that has been answered with its epoch, and any further events, no request
  with an envelope of an earlier epoch launches a worker;
* a trust update that is answered with an error leaves the trust state as it was. -/
theorem remote_launch_authorization (platform : Platform) (daemon : Daemon)
    (env : DaemonEnvironment)
    (request : JsonRpcRequest) :
    (∀ plan, (daemon.dispatch (env.on platform) request).remoteLaunch = some plan →
      LaunchAuthorized daemon (env.on platform) request plan.operation.envelope) ∧
    (∀ epoch, request.method = .workspaceTrustUpdate →
      (daemon.dispatch (env.on platform) request).answer = .ok (.acknowledged epoch) →
      ∀ (events : List DaemonEvent) (env' : DaemonEnvironment) (request' : JsonRpcRequest)
        (value : Json) (envelope : RemoteEnvelope),
        envelopeValue request'.params = some value →
        env'.codec.decodeEnvelope value = some envelope →
        envelope.trustEpoch < epoch →
        (((daemon.step platform (.dispatch env request)).run platform events).dispatch
          (env'.on platform) request').remoteLaunch = none) ∧
    (∀ error, request.method = .workspaceTrustUpdate →
      (daemon.dispatch (env.on platform) request).answer = .error error →
      (daemon.dispatch (env.on platform) request).daemon.remoteTrust = daemon.remoteTrust) := by
  refine ⟨?_, ?_, ?_⟩
  · intro plan hlaunch
    exact launch_authorized hlaunch
  · intro epoch hmethod hanswer events env' request' value envelope hvalue henvelope hearlier
    -- the epoch never falls again, so an earlier envelope stays refused
    have hreached : TrustReaches epoch (daemon.step platform (.dispatch env request)) := by
      rcases @trustUpdate_cases daemon (env.on platform) request hmethod with
        ⟨error, herror, -⟩ | ⟨trusted, epoch', hok, hstate⟩
      · rw [hanswer] at herror
        cases herror
      · rw [hanswer] at hok
        cases hok
        refine ⟨⟨trusted, epoch, epoch⟩, ?_, le_rfl⟩
        show (daemon.dispatch (env.on platform) request).daemon.remoteTrust = _
        rw [hstate]
    exact no_launch_of_earlier_epoch (trustReaches_run events hreached) hvalue henvelope hearlier
  · intro error hmethod hanswer
    rcases @trustUpdate_cases daemon (env.on platform) request hmethod with
      ⟨error', -, hstate⟩ | ⟨trusted, epoch, hok, -⟩
    · rw [hstate]
    · rw [hanswer] at hok
      cases hok

end Daemon

namespace LaneExample

open JsonValues

/-- A trust update to the second epoch. -/
def trustAgain : JsonRpcRequest :=
  ⟨.workspaceTrustUpdate, .obj [("trusted", .bool true), ("trustEpoch", .int 2)]⟩

/-- An update with an envelope of the first epoch is refused once the second is acknowledged. -/
theorem late_update_launches_nothing :
    ((((Daemon.new.run .posix [start]).step .posix (.dispatch environment trustAgain)).run .posix
      [openAt "/wc"]).dispatch (environment.on .posix) (updateRequest "u:/wc" 1)).remoteLaunch =
        none :=
  (Daemon.remote_launch_authorization .posix (Daemon.new.run .posix [start]) environment
    trustAgain).2.1 2 rfl rfl [openAt "/wc"] environment (updateRequest "u:/wc" 1) envelopeJson
    envelope rfl rfl (by decide)

end LaneExample

end SubversionR

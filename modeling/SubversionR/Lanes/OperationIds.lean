import SubversionR.Lanes.Settlement

/-!
# Operation ids in flight — the set and the lanes keep the same books

The daemon remembers the operation ids in use twice: in the set `activeRemoteOperationIds`, which
every launch consults, and in the lanes, which the settlements consult.  Launches, recoveries and
their settlements write the two separately.

* `idAt` — the operation id a lane has in flight;
* `Balanced` — the set holds exactly the ids of the lanes, and no two lanes share one;
* `Balanced.take`, `Balanced.release` — the two ways the books change;
* `active_ids_are_in_flight` — they agree in every run in which each launch settles once.
-/

namespace SubversionR

open KeyedMaps KeyedMap

/-- The operation id in flight in a lane: that of its worker, or that of its recovery. -/
def RemoteNativeLaneState.idInFlight : RemoteNativeLaneState → Option Text
  | .active operationId _ _ _ => some operationId
  | .recovering _ recoveryOperationId _ => recoveryOperationId
  | .blocked .. => none

namespace Daemon

def idAt (daemon : Daemon) (key : Text) : Option Text :=
  (daemon.laneAt key).bind RemoteNativeLaneState.idInFlight

/-- The set of active ids and the lanes agree. -/
structure Balanced (daemon : Daemon) : Prop where
  mem_iff : ∀ id, id ∈ daemon.activeRemoteOperationIds ↔ ∃ key, daemon.idAt key = some id
  unique : ∀ {id key key'}, daemon.idAt key = some id → daemon.idAt key' = some id → key = key'

theorem balanced_new : Daemon.new.Balanced where
  mem_iff id := by
    constructor
    · intro h
      cases h
    · rintro ⟨key, h⟩
      simp [idAt] at h
  unique := by
    intro id key _ h
    simp [idAt] at h

section

variable {daemon daemon' : Daemon}

/-- Neither book changes. -/
theorem Balanced.same (h : daemon.Balanced)
    (hactive : daemon'.activeRemoteOperationIds = daemon.activeRemoteOperationIds)
    (hids : ∀ key, daemon'.idAt key = daemon.idAt key) : daemon'.Balanced where
  mem_iff id := by
    rw [hactive, h.mem_iff]
    simp only [hids]
  unique hkey hkey' := by
    rw [hids] at hkey hkey'
    exact h.unique hkey hkey'

variable {laneKey operationId : Text}

/-- A lane without an id takes one that is not active. -/
theorem Balanced.take (h : daemon.Balanced)
    (hunused : operationId ∉ daemon.activeRemoteOperationIds) (hidle : daemon.idAt laneKey = none)
    (hactive : daemon'.activeRemoteOperationIds =
      insert operationId daemon.activeRemoteOperationIds)
    (hids : ∀ key, daemon'.idAt key = if key = laneKey then some operationId else daemon.idAt key) :
    daemon'.Balanced := by
  -- no lane has the new id so far
  have hnew : ∀ key, daemon.idAt key ≠ some operationId := fun key hkey =>
    hunused ((h.mem_iff operationId).mpr ⟨key, hkey⟩)
  refine ⟨fun id => ?_, fun {id key key'} hkey hkey' => ?_⟩
  · rw [hactive, Finset.mem_insert, h.mem_iff]
    constructor
    · rintro (rfl | ⟨key, hkey⟩)
      · exact ⟨laneKey, by rw [hids, if_pos rfl]⟩
      · refine ⟨key, ?_⟩
        have hne : key ≠ laneKey := by
          rintro rfl
          rw [hidle] at hkey
          cases hkey
        rw [hids, if_neg hne, hkey]
    · rintro ⟨key, hkey⟩
      rw [hids] at hkey
      split at hkey
      · exact .inl (Option.some.inj hkey).symm
      · exact .inr ⟨key, hkey⟩
  · rw [hids] at hkey hkey'
    split at hkey
    · rename_i heq
      split at hkey'
      · rename_i heq'
        rw [heq, heq']
      · exact absurd (hkey'.trans hkey.symm) (hnew key')
    · split at hkey'
      · exact absurd (hkey.trans hkey'.symm) (hnew key)
      · exact h.unique hkey hkey'

/-- A lane gives its id back. -/
theorem Balanced.release (h : daemon.Balanced) (hlane : daemon.idAt laneKey = some operationId)
    (hactive : daemon'.activeRemoteOperationIds = daemon.activeRemoteOperationIds.erase operationId)
    (hids : ∀ key, daemon'.idAt key = if key = laneKey then none else daemon.idAt key) :
    daemon'.Balanced := by
  refine ⟨fun id => ?_, fun {id key key'} hkey hkey' => ?_⟩
  · rw [hactive, Finset.mem_erase, h.mem_iff]
    constructor
    · rintro ⟨hne, key, hkey⟩
      have hother : key ≠ laneKey := by
        rintro rfl
        exact hne (Option.some.inj (hkey.symm.trans hlane))
      exact ⟨key, by rw [hids, if_neg hother, hkey]⟩
    · rintro ⟨key, hkey⟩
      rw [hids] at hkey
      split at hkey
      · cases hkey
      rename_i hother
      refine ⟨?_, key, hkey⟩
      -- another lane has another id
      rintro rfl
      exact hother (h.unique hkey hlane)
  · rw [hids] at hkey hkey'
    split at hkey
    · cases hkey
    split at hkey'
    · cases hkey'
    · exact h.unique hkey hkey'

theorem idAt_setLane (daemon : Daemon) (laneKey key : Text) (state : RemoteNativeLaneState) :
    (daemon.setLane laneKey state).idAt key =
      if key = laneKey then state.idInFlight else daemon.idAt key := by
  unfold idAt
  rw [laneAt_setLane]
  split <;> rfl

theorem idAt_freeLane (daemon : Daemon) (laneKey key : Text) :
    (daemon.freeLane laneKey).idAt key = if key = laneKey then none else daemon.idAt key := by
  unfold idAt
  rw [laneAt_freeLane]
  split <;> rfl

/-- The ids a request may take are none of those in flight. -/
theorem launch_unused {env : DaemonEnvironment} {request : JsonRpcRequest} :
    (∀ plan, (daemon.dispatch env request).remoteLaunch = some plan →
        plan.operation.envelope.operationId ∉ daemon.activeRemoteOperationIds) ∧
      ∀ launch, (daemon.dispatch env request).remoteRecoveryLaunch = some launch →
        launch.operationId ∉ daemon.activeRemoteOperationIds := by
  refine ⟨fun plan h => (launches_of_remoteLaunch h).unused, fun launch h => ?_⟩
  obtain ⟨_, _, _, hstarts, rfl, -⟩ := startsRecovery_of_remoteRecoveryLaunch h
  exact hstarts.unused

/-- A request keeps the books balanced. -/
theorem Balanced.dispatch {env : DaemonEnvironment} {request : JsonRpcRequest}
    (h : daemon.Balanced) : (daemon.dispatch env request).daemon.Balanced := by
  rcases @dispatch_cases env request daemon with ⟨_, heq⟩ | ⟨-, heq⟩
  · rw [heq]
    exact h
  · rw [heq]
    cases @handle_effect env request daemon with
    | stays state => rw [state]; exact h
    | trust trust step state => rw [state]; exact h.same rfl fun _ => rfl
    | opened session fresh epoch state => rw [state]; exact h.same rfl fun _ => rfl
    | changed gated session session' named repositoryId epoch state =>
      rw [state]
      exact h.same rfl fun _ => rfl
    | closed gated session named state => rw [state]; exact h.same rfl fun _ => rfl
    | launched gated plan named urls preflight unused free attributed state =>
      rw [state]
      have hidle : daemon.idAt plan.laneKey = none := by
        unfold idAt
        rw [free]
        rfl
      exact h.take unused hidle rfl fun key => idAt_setLane _ _ key _
    | recovers method start step =>
      rcases recoverWorkingCopy_cases step with
        ⟨hsame, -⟩ | ⟨recover, session, used, hstarts, hcase⟩
      · rw [hsame]
        exact h
      · -- the lane is free or recovers without a recovery in flight
        have hidle : daemon.idAt (absolutePathKey env.platform session.identity.workingCopyRoot) =
            none := by
          unfold idAt
          rcases hstarts.lane with ⟨hnone, -⟩ | ⟨hrecovering, -⟩
          · rw [hnone]
            rfl
          · rw [hrecovering]
            rfl
        rcases hcase with ⟨-, -, -, hstate⟩ | ⟨-, -, -, hstate⟩
        · rw [hstate]
          refine h.same rfl fun key => ?_
          rw [idAt_setLane]
          split
          · rename_i heq
            rw [heq, hidle]
            rfl
          · rfl
        · rw [hstate]
          exact h.take hstarts.unused hidle rfl fun key => idAt_setLane _ _ key _

/-- The settlement of the worker of an active lane. -/
theorem Balanced.settleLaunch {effect : RemoteOperationEffect} {repositoryId : Option Text}
    {epoch : Option Nat} (h : daemon.Balanced)
    (hlane : daemon.laneAt laneKey = some (.active operationId effect repositoryId epoch))
    (settlement : RemoteWorkerSettlement) :
    (daemon.settleRemoteLaunch laneKey operationId settlement).2.Balanced := by
  have hid : daemon.idAt laneKey = some operationId := by
    unfold idAt
    rw [hlane]
    rfl
  have hactive :
      (daemon.settleRemoteLaunch laneKey operationId settlement).2.activeRemoteOperationIds =
        daemon.activeRemoteOperationIds.erase operationId := by
    unfold settleRemoteLaunch
    rw [hlane]
    dsimp only
    rw [if_pos rfl]
    repeat' split
    all_goals rfl
  refine h.release hid hactive fun key => ?_
  rcases settleRemoteLaunch_cases daemon laneKey operationId settlement with
    ⟨hnot, -⟩ | ⟨effect', repositoryId', epoch', -, next, hnext, hcase⟩
  · exact absurd hlane (hnot _ _ _)
  · unfold idAt
    rw [hnext]
    split
    · rcases hcase with ⟨rfl, -⟩ | rfl | ⟨_, _, rfl⟩
      · rfl
      · rfl
      · rfl
    · rfl

/-- The settlement of an awaited recovery. -/
theorem Balanced.settleRecovery {platform : Platform} {launch : RemoteRecoveryLaunch}
    {session : RepositorySession} (h : daemon.Balanced)
    (hawaited : Awaited platform daemon launch session)
    (recovery : Except DiagnosedFailure StatusSnapshot) :
    (daemon.settleRemoteRecovery platform launch recovery).2.Balanced := by
  obtain ⟨_, hlane⟩ := hawaited.lane
  have hid : daemon.idAt launch.laneKey = some launch.operationId := by
    unfold idAt
    rw [hlane]
    rfl
  obtain ⟨⟨_, houtcome⟩, -⟩ := hawaited.settles recovery
  rcases hsettle : daemon.settleRemoteRecovery platform launch recovery with ⟨settled, after⟩
  rw [hsettle] at houtcome
  rcases settleRemoteRecovery_cases hsettle with
    ⟨-, rfl, -⟩ | ⟨-, -, -, -, rfl, -⟩ |
    ⟨snapshot, opened, recovered, -, -, -, -, -, rfl⟩ |
    ⟨failure, outcome', state, -, -, -, rfl, hstate⟩
  · cases houtcome
  · cases houtcome
  · exact h.release hid rfl fun key => idAt_freeLane _ _ key
  · refine h.release hid rfl fun key => ?_
    rw [idAt_setLane]
    split
    · rcases hstate with ⟨_, _, rfl⟩ | rfl
      · rfl
      · rfl
    · rfl

end

end Daemon

/-! ## Runs in which every launch settles once -/

/-- A daemon with the workers and the recoveries it has launched that are not settled yet. -/
structure LaunchRun where
  daemon : Daemon
  launches : List RemoteLaunchPlan
  recoveries : List RemoteRecoveryLaunch

namespace LaunchRun

open Daemon

def start : LaunchRun := ⟨Daemon.new, [], []⟩

/-- The plan of a worker that settles with this lane key and operation id. -/
def planOf (run : LaunchRun) (laneKey operationId : Text) : Option RemoteLaunchPlan :=
  run.launches.find? fun plan =>
    decide (plan.laneKey = laneKey) && decide (plan.operation.envelope.operationId = operationId)

/-- A worker or a recovery settles with the lane key and the operation id of a launch that has not
settled yet. -/
def step (platform : Platform) (run : LaunchRun) (event : DaemonEvent) : Option LaunchRun :=
  match event with
  | .dispatch env request =>
    some ⟨run.daemon.step platform event,
      run.launches ++ (run.daemon.dispatch (env.on platform) request).remoteLaunch.toList,
      run.recoveries ++ (run.daemon.dispatch (env.on platform) request).remoteRecoveryLaunch.toList⟩
  | .settleLaunch laneKey operationId _ =>
    (run.planOf laneKey operationId).map fun plan =>
      ⟨run.daemon.step platform event, run.launches.erase plan, run.recoveries⟩
  | .settleRecovery launch _ =>
    if launch ∈ run.recoveries then
      some ⟨run.daemon.step platform event, run.launches, run.recoveries.erase launch⟩
    else none

/-- The run, with an eye on the recoveries only. -/
def recoveryRun (run : LaunchRun) : RecoveryRun := ⟨run.daemon, run.recoveries⟩

/-- The lane of a worker that has not settled yet. -/
def Runs (daemon : Daemon) (plan : RemoteLaunchPlan) : Prop :=
  daemon.laneAt plan.laneKey = some (.active plan.operation.envelope.operationId plan.effect
    plan.repositoryId plan.epoch)

/-- What holds along every run. -/
structure Booked (platform : Platform) (run : LaunchRun) : Prop where
  tracks : run.recoveryRun.Tracks platform
  runs : ∀ plan ∈ run.launches, LaunchRun.Runs run.daemon plan
  apart : (run.launches.map RemoteLaunchPlan.laneKey).Nodup
  balanced : run.daemon.Balanced

theorem booked_start (platform : Platform) : start.Booked platform where
  tracks := RecoveryRun.tracks_start
  runs := by
    intro _ hplan
    cases hplan
  apart := List.nodup_nil
  balanced := balanced_new

section

variable {platform : Platform} {run run' : LaunchRun}

variable {event : DaemonEvent}

theorem recoveryRun_step (h : run.step platform event = some run') :
    run.recoveryRun.step platform event = some run'.recoveryRun := by
  cases event with
  | dispatch env request =>
    cases h
    rfl
  | settleLaunch laneKey operationId settlement =>
    obtain ⟨_, -, rfl⟩ := Option.map_eq_some_iff.mp h
    rfl
  | settleRecovery launch recovery =>
    unfold step at h
    dsimp only at h
    split at h
    · rename_i hmem
      cases h
      exact if_pos hmem
    · cases h

/-- A worker goes on through every event but its own settlement. -/
theorem Runs.kept {daemon : Daemon} {plan : RemoteLaunchPlan} (h : LaunchRun.Runs daemon plan)
    (hother : ∀ settlement, event ≠ .settleLaunch plan.laneKey
      plan.operation.envelope.operationId settlement) :
    LaunchRun.Runs (daemon.step platform event) plan := by
  unfold LaunchRun.Runs at h ⊢
  cases @lane_step platform daemon plan.laneKey event with
  | stays hsame => rw [hsame, h]
  | launched _ _ _ _ _ _ _ before_eq => simp [h] at before_eq
  | settled operationId settlement effect repositoryId epoch event_eq before_eq =>
    rw [h] at before_eq
    cases before_eq
    exact absurd event_eq (hother settlement)
  | recoveryStarted _ _ _ _ _ _ _ _ before_eq => simp [h] at before_eq
  | givenUp _ _ before_eq => simp [h] at before_eq
  | recovered _ _ _ _ _ _ before_eq => simp [h] at before_eq
  | recoveryFailed _ _ _ before_eq => simp [h] at before_eq

/-- The worker a request launches runs, in a lane that was free. -/
theorem runs_launch {daemon : Daemon} {env : DaemonEnvironment} {request : JsonRpcRequest}
    {plan : RemoteLaunchPlan} (h : (daemon.dispatch env request).remoteLaunch = some plan) :
    LaunchRun.Runs (daemon.dispatch env request).daemon plan ∧
      daemon.laneAt plan.laneKey = none := by
  have hlaunches := launches_of_remoteLaunch h
  refine ⟨?_, hlaunches.free⟩
  unfold LaunchRun.Runs
  rw [hlaunches.state, laneAt_setLane, if_pos rfl]

section

variable (h : run.Booked platform)

include h

theorem booked_dispatch {env : DaemonEnvironment} {request : JsonRpcRequest}
    (hstep : run.step platform (.dispatch env request) = some run') : run'.Booked platform := by
  have htracks := RecoveryRun.tracks_step h.tracks (recoveryRun_step hstep)
  cases hstep
  have hkept : ∀ plan ∈ run.launches,
      LaunchRun.Runs (run.daemon.step platform (.dispatch env request)) plan := fun plan hplan =>
    (h.runs plan hplan).kept fun settlement heq => by cases heq
  have hbalanced : (run.daemon.step platform (.dispatch env request)).Balanced :=
    h.balanced.dispatch
  cases hlaunch : (run.daemon.dispatch (env.on platform) request).remoteLaunch with
  | none =>
    refine ⟨htracks, ?_, ?_, hbalanced⟩
    · intro plan hplan
      rw [Option.toList_none, List.append_nil] at hplan
      exact hkept plan hplan
    · rw [Option.toList_none, List.append_nil]
      exact h.apart
  | some new =>
    obtain ⟨hruns, hfree⟩ := runs_launch hlaunch
    refine ⟨htracks, ?_, ?_, hbalanced⟩
    · intro plan hplan
      rw [Option.toList_some, List.mem_append, List.mem_singleton] at hplan
      rcases hplan with hold | rfl
      · exact hkept plan hold
      · exact hruns
    · rw [Option.toList_some, List.map_append, List.map_cons, List.map_nil]
      refine List.nodup_append.mpr ⟨h.apart, List.nodup_singleton _, ?_⟩
      intro _ hkey _ hkey'
      -- the lanes of the running workers are not free
      obtain ⟨plan, hplan, rfl⟩ := List.mem_map.mp hkey
      rw [List.mem_singleton.mp hkey']
      intro hsame
      have hactive := h.runs plan hplan
      unfold LaunchRun.Runs at hactive
      rw [hsame, hfree] at hactive
      cases hactive

theorem booked_settleLaunch {laneKey operationId : Text} {settlement : RemoteWorkerSettlement}
    (hstep : run.step platform (.settleLaunch laneKey operationId settlement) = some run') :
    run'.Booked platform := by
  have htracks := RecoveryRun.tracks_step h.tracks (recoveryRun_step hstep)
  obtain ⟨plan, hfind, rfl⟩ := Option.map_eq_some_iff.mp hstep
  have hmem : plan ∈ run.launches := List.mem_of_find?_eq_some hfind
  have hmatch := List.find?_some hfind
  simp only [Bool.and_eq_true, decide_eq_true_eq] at hmatch
  obtain ⟨rfl, rfl⟩ := hmatch
  refine ⟨htracks, ?_, ?_, h.balanced.settleLaunch (h.runs plan hmem) settlement⟩
  · intro other hother
    have hnodup : run.launches.Nodup := h.apart.of_map
    obtain ⟨hne, hother⟩ := hnodup.mem_erase_iff.mp hother
    refine (h.runs other hother).kept fun settlement' heq => ?_
    -- another worker settles in another lane
    have hkey : other.laneKey = plan.laneKey := by
      injection heq with hkey
      exact hkey.symm
    exact hne (List.inj_on_of_nodup_map h.apart hother hmem hkey)
  · exact h.apart.sublist (List.erase_sublist.map _)

theorem booked_settleRecovery {launch : RemoteRecoveryLaunch}
    {recovery : Except DiagnosedFailure StatusSnapshot}
    (hstep : run.step platform (.settleRecovery launch recovery) = some run') :
    run'.Booked platform := by
  have htracks := RecoveryRun.tracks_step h.tracks (recoveryRun_step hstep)
  unfold step at hstep
  dsimp only at hstep
  split at hstep
  · rename_i hmem
    cases hstep
    obtain ⟨_, hawaited⟩ := h.tracks.awaited launch hmem
    refine ⟨htracks, ?_, h.apart, h.balanced.settleRecovery hawaited recovery⟩
    intro plan hplan
    exact (h.runs plan hplan).kept fun settlement heq => by cases heq
  · cases hstep

theorem booked_step (hstep : run.step platform event = some run') : run'.Booked platform := by
  cases event with
  | dispatch env request => exact booked_dispatch h hstep
  | settleLaunch laneKey operationId settlement => exact booked_settleLaunch h hstep
  | settleRecovery launch recovery => exact booked_settleRecovery h hstep

end

theorem booked_run {events : List DaemonEvent}
    (hrun : Runs.run (step platform) start events = some run) : run.Booked platform :=
  Runs.run_invariant (fun _ _ _ h _ hstep => booked_step h hstep) (booked_start platform)
    (Runs.along_of_forall_mem (p := fun _ => True) start fun _ _ => trivial) hrun

end

/-! ## Both books agree -/

/-- The lane runs the operation, or recovers under its id. -/
def InFlight (daemon : Daemon) (key id : Text) : Prop :=
  (∃ effect repositoryId epoch,
      daemon.laneAt key = some (.active id effect repositoryId epoch)) ∨
    ∃ origin used, daemon.laneAt key = some (.recovering origin (some id) used)

theorem inFlight_iff {daemon : Daemon} {key id : Text} :
    InFlight daemon key id ↔ daemon.idAt key = some id := by
  unfold InFlight idAt
  cases daemon.laneAt key with
  | none => simp
  | some lane =>
    cases lane with
    | active | recovering | blocked =>
      simp [RemoteNativeLaneState.idInFlight]

/-- **The active operation ids are the ids in flight.**  In every run in which each launch settles
once, the set holds exactly the ids of the active lanes and of the recoveries in flight, each of
them in one lane, and a request that is launched brings an id that is not in the set. -/
theorem active_ids_are_in_flight (platform : Platform) (events : List DaemonEvent) (run : LaunchRun)
    (hrun : Runs.run (step platform) start events = some run) :
    (∀ id, id ∈ run.daemon.activeRemoteOperationIds ↔ ∃ key, InFlight run.daemon key id) ∧
      (∀ id ∈ run.daemon.activeRemoteOperationIds, ∃! key, InFlight run.daemon key id) ∧
      ∀ env request,
        (∀ plan, (run.daemon.dispatch env request).remoteLaunch = some plan →
          plan.operation.envelope.operationId ∉ run.daemon.activeRemoteOperationIds) ∧
        ∀ launch, (run.daemon.dispatch env request).remoteRecoveryLaunch = some launch →
          launch.operationId ∉ run.daemon.activeRemoteOperationIds := by
  have hbalanced : run.daemon.Balanced := (booked_run hrun).balanced
  simp only [inFlight_iff]
  refine ⟨hbalanced.mem_iff, fun id hid => ?_, fun env request => launch_unused⟩
  obtain ⟨key, hkey⟩ := (hbalanced.mem_iff id).mp hid
  exact ⟨key, hkey, fun key' hkey' => hbalanced.unique hkey' hkey⟩

/-- **One launch for each lane.**  In every run in which each launch settles once, no two of the
workers and recoveries in flight have the same lane. -/
theorem lanes_in_flight_nodup (platform : Platform) (events : List DaemonEvent) (run : LaunchRun)
    (hrun : Runs.run (step platform) start events = some run) :
    (run.launches.map (·.laneKey) ++ run.recoveries.map (·.laneKey)).Nodup := by
  have h := booked_run hrun
  refine List.nodup_append.mpr ⟨h.apart, h.tracks.apart, ?_⟩
  intro _ hlaunch _ hrecovery heq
  obtain ⟨plan, hplan, rfl⟩ := List.mem_map.mp hlaunch
  obtain ⟨launch, hmem, rfl⟩ := List.mem_map.mp hrecovery
  obtain ⟨_, hawaited⟩ := h.tracks.awaited launch hmem
  obtain ⟨_, hlane⟩ := hawaited.lane
  -- the lane of a worker is active, that of a recovery is recovering
  have hruns : run.daemon.laneAt plan.laneKey = _ := h.runs plan hplan
  rw [heq] at hruns
  cases hlane.symm.trans hruns

end LaunchRun

namespace LaneExample

open LaunchRun

/-- An update of the other working copy runs while the outer one is being recovered. -/
def twoInFlight : LaunchRun :=
  (Runs.run (LaunchRun.step .posix) .start
    [start, openAt "/wc", openAt "/other", recoverOuter, update "u:/other" 2]).get rfl

theorem two_ids_in_flight :
    firstId ∈ twoInFlight.daemon.activeRemoteOperationIds ∧
      ∃! key, InFlight twoInFlight.daemon key firstId := by
  have hmem : firstId ∈ twoInFlight.daemon.activeRemoteOperationIds := by decide +kernel
  exact ⟨hmem, (active_ids_are_in_flight .posix
    [start, openAt "/wc", openAt "/other", recoverOuter, update "u:/other" 2] twoInFlight
    (Option.some_get _).symm).2.1 firstId hmem⟩

theorem two_lanes_in_flight : (twoInFlight.launches.map (·.laneKey) ++
    twoInFlight.recoveries.map (·.laneKey)).Nodup :=
  lanes_in_flight_nodup .posix _ twoInFlight (Option.some_get _).symm

end LaneExample

end SubversionR

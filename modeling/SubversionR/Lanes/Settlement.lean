import SubversionR.Lanes.Steps
import SubversionR.Sync.Recovery

/-!
# Recovery settlement — a launched recovery always finds its lane and its session

A recovery is launched by one request and settled later, when its worker has come back.  In the
meantime other requests are dispatched and other workers settle.  The settlement looks the lane and
the session up again and has two exits for the case that they are gone.

* `Awaited` — what a launch that is not settled yet can rely on;
* `Awaited.dispatch`, `Awaited.settleLaunch`, `Awaited.settleRecovery` — no event takes it away: a
  request that could touch the session names it, so that the gate finds the lane of its working
  copy;
* `recovery_settlement_finds_its_lane` — along every run in which no launch is settled twice, the
  two exits are not taken and the lane is not left with a recovery in flight.
-/

namespace SubversionR

open KeyedMaps KeyedMap JsonValues PathOrder

namespace Daemon

/-- What the settlement of a launch relies on: the session is open as it was when the launch was
made, and the lane of its working copy holds the ids of the launch. -/
structure Awaited (platform : Platform) (daemon : Daemon) (launch : RemoteRecoveryLaunch)
    (session : RepositorySession) : Prop where
  isOpen : daemon.repositories.get? launch.repositoryId = some session
  epoch : session.epoch = launch.epoch
  generation : session.nextGeneration = launch.generation
  root : absolutePathKey platform session.identity.workingCopyRoot = launch.laneKey
  lane : ∃ used, daemon.laneAt launch.laneKey =
    some (.recovering launch.originOperationId (some launch.operationId) used)

section

variable {platform : Platform} {daemon daemon' : Daemon} {launch : RemoteRecoveryLaunch}
  {session : RepositorySession}

section

variable (h : Awaited platform daemon launch session)

include h

theorem Awaited.frame
    (hrepositories : daemon'.repositories.get? launch.repositoryId =
      daemon.repositories.get? launch.repositoryId)
    (hlane : daemon'.laneAt launch.laneKey = daemon.laneAt launch.laneKey) :
    Awaited platform daemon' launch session where
  isOpen := hrepositories.trans h.isOpen
  epoch := h.epoch
  generation := h.generation
  root := h.root
  lane := by
    rw [hlane]
    exact h.lane

theorem Awaited.repositoryId : session.repositoryId = launch.repositoryId :=
  key_of_get? h.isOpen

theorem Awaited.meetsLane :
    daemon.MeetsLane (absolutePathKey platform session.identity.workingCopyRoot) := by
  obtain ⟨_, hlane⟩ := h.lane
  rw [h.root]
  exact ⟨launch.laneKey, _, hlane, .inl (.refl _)⟩

end

/-- A request that passes the gate names another session. -/
theorem Awaited.names_other {env : DaemonEnvironment} {request : JsonRpcRequest}
    {other : RepositorySession} (h : Awaited env.platform daemon launch session)
    (hgate : nativeLaneFailureForRequest env.platform daemon request = none)
    (hgated : gateExempt request.method = false) (hnamed : Names request.params daemon other) :
    other.repositoryId ≠ launch.repositoryId := by
  intro hsame
  have hopen := hnamed.isOpen
  rw [hsame, h.isOpen] at hopen
  cases hopen
  exact not_meetsLane_of_gate hgate hgated hnamed.mem_requestPathKeys h.meetsLane

/-- The lane of an awaited launch is none in which a worker or a recovery could start. -/
theorem Awaited.laneKey_ne {key : Text} (h : Awaited platform daemon launch session)
    (hlane : daemon.laneAt key = none ∨
      ∃ origin used, daemon.laneAt key = some (.recovering origin none used)) :
    launch.laneKey ≠ key := by
  rintro rfl
  obtain ⟨used, hawaited⟩ := h.lane
  rw [hawaited] at hlane
  rcases hlane with hlane | ⟨origin, _, hlane⟩
  · cases hlane
  · cases hlane

/-- The lane a recovery starts in has no recovery in flight. -/
theorem StartsRecovery.lane_idle {params : Json} {request : RecoverRequest} {used : Finset Text}
    (h : StartsRecovery platform params daemon request session used) :
    daemon.laneAt (absolutePathKey platform session.identity.workingCopyRoot) = none ∨
      ∃ origin used, daemon.laneAt (absolutePathKey platform session.identity.workingCopyRoot) =
        some (.recovering origin none used) := by
  rcases h.lane with ⟨hnone, -⟩ | ⟨hrecovering, -⟩
  · exact .inl hnone
  · exact .inr ⟨_, _, hrecovering⟩

/-- **A request leaves every awaited launch alone.** -/
theorem Awaited.dispatch {env : DaemonEnvironment} {request : JsonRpcRequest}
    (h : Awaited env.platform daemon launch session) :
    Awaited env.platform (daemon.dispatch env request).daemon launch session := by
  rcases @dispatch_cases env request daemon with ⟨_, heq⟩ | ⟨hgate, heq⟩
  · rw [heq]
    exact h
  · rw [heq]
    cases @handle_effect env request daemon with
    | stays state =>
      rw [state]
      exact h
    | trust trust step state =>
      rw [state]
      exact h.frame rfl rfl
    | opened opened fresh epoch state =>
      rw [state]
      refine h.frame ?_ rfl
      -- the repository id of an opened session was free
      have hne : opened.repositoryId ≠ launch.repositoryId := by
        intro hsame
        rw [hsame, h.isOpen] at fresh
        cases fresh
      exact (get?_insert _ _ _).trans (if_neg hne)
    | changed gated other other' named repositoryId epoch state =>
      rw [state]
      have hne := h.names_other hgate gated named
      rw [← repositoryId] at hne
      exact h.frame ((get?_insert _ _ _).trans (if_neg hne)) rfl
    | closed gated other named state =>
      rw [state]
      have hne := h.names_other hgate gated named
      exact h.frame ((get?_erase _ _ _).trans (if_neg hne)) rfl
    | launched gated plan named urls preflight unused free attributed state =>
      rw [state]
      refine h.frame rfl ?_
      rw [laneAt_setLane, if_neg (h.laneKey_ne (.inl free))]
      rfl
    | recovers method start step =>
      rcases recoverWorkingCopy_cases step with ⟨hsame, -⟩ | ⟨_, other, _, hstarts, hcase⟩
      · rw [hsame]
        exact h
      · have hne := h.laneKey_ne hstarts.lane_idle
        rcases hcase with ⟨-, -, -, hstate⟩ | ⟨-, -, -, hstate⟩
        · rw [hstate]
          exact h.frame rfl (by rw [laneAt_setLane, if_neg hne])
        · rw [hstate]
          exact h.frame rfl (by rw [laneAt_setLane, if_neg hne, laneAt_useOperationId])

section

variable (h : Awaited platform daemon launch session)

include h

/-- The settlement of a worker does, too: it changes an active lane only. -/
theorem Awaited.settleLaunch (laneKey operationId : Text) (settlement : RemoteWorkerSettlement) :
    Awaited platform (daemon.settleRemoteLaunch laneKey operationId settlement).2 launch
      session := by
  obtain ⟨hstate, -⟩ := settleRemoteLaunch_frame daemon laneKey operationId settlement
  refine h.frame (by rw [hstate]) ?_
  rcases settleRemoteLaunch_cases daemon laneKey operationId settlement with
    ⟨-, hsame⟩ | ⟨effect, repositoryId, epoch, hlane, next, hnext, -⟩
  · exact hsame launch.laneKey
  · have hne : launch.laneKey ≠ laneKey := by
      rintro rfl
      obtain ⟨_, hawaited⟩ := h.lane
      rw [hawaited] at hlane
      cases hlane
    rw [hnext, if_neg hne]

/-- Two awaited launches for one repository hold the same lane. -/
theorem Awaited.repositoryId_ne {other : RemoteRecoveryLaunch} {session' : RepositorySession}
    (h' : Awaited platform daemon other session') (hne : launch.laneKey ≠ other.laneKey) :
    other.repositoryId ≠ launch.repositoryId := by
  intro hsame
  have hopen := h'.isOpen
  rw [hsame, h.isOpen] at hopen
  cases hopen
  exact hne (h.root.symm.trans h'.root)

/-- And so does the settlement of another awaited recovery. -/
theorem Awaited.settleRecovery {other : RemoteRecoveryLaunch} {session' : RepositorySession}
    (h' : Awaited platform daemon other session') (hne : launch.laneKey ≠ other.laneKey)
    (recovery : Except DiagnosedFailure StatusSnapshot) :
    Awaited platform (daemon.settleRemoteRecovery platform other recovery).2 launch session := by
  rcases hsettle : daemon.settleRemoteRecovery platform other recovery with ⟨settled, daemon'⟩
  rcases settleRemoteRecovery_cases hsettle with
    ⟨-, -, rfl⟩ | ⟨-, -, -, -, -, rfl⟩ |
    ⟨snapshot, opened, recovered, rfl, -, hopen, hrecovered, -, rfl⟩ |
    ⟨failure, outcome, state, rfl, -, -, rfl, -⟩
  · exact h.frame rfl rfl
  · exact h.frame rfl rfl
  · have hid : recovered.repositoryId ≠ launch.repositoryId := by
      have hother : opened.repositoryId = other.repositoryId := key_of_get? hopen
      rw [settleRemoteRecovery_eq_some hrecovered]
      exact hother ▸ h.repositoryId_ne h' hne
    refine h.frame ((get?_insert _ _ _).trans (if_neg hid)) ?_
    rw [laneAt_freeLane, if_neg hne]
    rfl
  · refine h.frame rfl ?_
    rw [laneAt_setLane, if_neg hne, laneAt_releaseOperationId]

end

/-- **The settlement of an awaited launch** takes neither of the exits for a lost lane or session,
and no recovery is in flight in the lane afterwards. -/
theorem Awaited.settles (h : Awaited platform daemon launch session)
    (recovery : Except DiagnosedFailure StatusSnapshot) :
    (∃ outcome, (daemon.settleRemoteRecovery platform launch recovery).1 = .outcome outcome) ∧
      ((daemon.settleRemoteRecovery platform launch recovery).2.laneAt launch.laneKey = none ∨
        (∃ origin used,
          (daemon.settleRemoteRecovery platform launch recovery).2.laneAt launch.laneKey =
            some (.recovering origin none used)) ∨
        ∃ origin reason cleanup,
          (daemon.settleRemoteRecovery platform launch recovery).2.laneAt launch.laneKey =
            some (.blocked origin reason cleanup)) := by
  have hmatches : daemon.laneMatches launch = true := laneMatches_iff.mpr h.lane
  rcases hsettle : daemon.settleRemoteRecovery platform launch recovery with ⟨settled, daemon'⟩
  rcases settleRemoteRecovery_cases hsettle with
    ⟨hlost, -⟩ | ⟨snapshot, -, -, hlost, -⟩ |
    ⟨snapshot, opened, recovered, -, -, -, -, rfl, rfl⟩ |
    ⟨failure, outcome, state, -, -, rfl, rfl, hstate⟩
  · rw [hmatches] at hlost
    cases hlost
  · -- the session is open under the epoch of the launch, so that it settles
    rw [h.isOpen] at hlost
    have hfound : ¬ (session.repositoryId ≠ launch.repositoryId ∨
      session.epoch ≠ launch.epoch) := by
      rintro (hid | hepoch)
      · exact hid h.repositoryId
      · exact hepoch h.epoch
    unfold RepositorySession.settleRemoteRecovery at hlost
    rw [Option.bind_some, if_neg hfound] at hlost
    cases hlost
  · refine ⟨⟨_, rfl⟩, .inl ?_⟩
    rw [laneAt_freeLane, if_pos rfl]
  · refine ⟨⟨_, rfl⟩, .inr ?_⟩
    rw [laneAt_setLane, if_pos rfl]
    rcases hstate with ⟨reason, cleanup, rfl⟩ | rfl
    · exact .inr ⟨_, _, _, rfl⟩
    · exact .inl ⟨_, _, rfl⟩

end

end Daemon

/-! ## Runs in which no launch settles twice -/

/-- A daemon and the recoveries it has launched that are not settled yet. -/
structure RecoveryRun where
  daemon : Daemon
  inFlight : List RemoteRecoveryLaunch

namespace RecoveryRun

open Daemon

def start : RecoveryRun := ⟨Daemon.new, []⟩

/-- A recovery can only be settled while it is in flight; everything else may happen at any time. -/
def step (platform : Platform) (run : RecoveryRun) (event : DaemonEvent) : Option RecoveryRun :=
  match event with
  | .dispatch env request =>
    some ⟨run.daemon.step platform event, run.inFlight ++
      (run.daemon.dispatch (env.on platform) request).remoteRecoveryLaunch.toList⟩
  | .settleLaunch .. => some ⟨run.daemon.step platform event, run.inFlight⟩
  | .settleRecovery launch _ =>
    if launch ∈ run.inFlight then
      some ⟨run.daemon.step platform event, run.inFlight.erase launch⟩
    else none

/-- Every launch in flight is awaited, each in its own lane. -/
structure Tracks (platform : Platform) (run : RecoveryRun) : Prop where
  awaited : ∀ launch ∈ run.inFlight, ∃ session, Awaited platform run.daemon launch session
  apart : (run.inFlight.map RemoteRecoveryLaunch.laneKey).Nodup

section

variable {platform : Platform} {run run' : RecoveryRun}

theorem tracks_start : start.Tracks platform where
  awaited := by
    intro _ hmem
    cases hmem
  apart := List.nodup_nil

/-- The launch a request makes is awaited, in a lane that held no recovery. -/
theorem awaited_launch {daemon : Daemon} {env : DaemonEnvironment} {request : JsonRpcRequest}
    {launch : RemoteRecoveryLaunch}
    (h : (daemon.dispatch env request).remoteRecoveryLaunch = some launch) :
    (∃ session, Awaited env.platform (daemon.dispatch env request).daemon launch session) ∧
      (daemon.laneAt launch.laneKey = none ∨
        ∃ origin used, daemon.laneAt launch.laneKey = some (.recovering origin none used)) := by
  obtain ⟨recover, session, used, hstarts, rfl, hstate⟩ := startsRecovery_of_remoteRecoveryLaunch h
  refine ⟨⟨session, ?_⟩, hstarts.lane_idle⟩
  rw [hstate]
  exact
    { isOpen := hstarts.isOpen
      epoch := hstarts.epoch
      generation := rfl
      root := rfl
      lane := ⟨used, (laneAt_setLane _ _ _ _).trans (if_pos rfl)⟩ }

/-- A request appends the launch it makes. -/
theorem tracks_dispatch {env : DaemonEnvironment} {request : JsonRpcRequest}
    (h : run.Tracks platform) (hstep : run.step platform (.dispatch env request) = some run') :
    run'.Tracks platform := by
  cases hstep
  set handled := run.daemon.dispatch (env.on platform) request with hhandled
  have hkept : ∀ launch ∈ run.inFlight, ∃ session,
    Awaited platform handled.daemon launch session := by
    intro launch hmem
    obtain ⟨session, hawaited⟩ := h.awaited launch hmem
    have hon : Awaited (env.on platform).platform run.daemon launch session := hawaited
    exact ⟨session, hon.dispatch⟩
  cases hlaunch : handled.remoteRecoveryLaunch with
  | none =>
    rw [Option.toList_none, List.append_nil]
    exact ⟨hkept, h.apart⟩
  | some launch =>
    obtain ⟨hnew, hidle⟩ := awaited_launch hlaunch
    refine ⟨?_, ?_⟩
    · intro other hmem
      rcases List.mem_append.mp hmem with hmem | hmem
      · exact hkept other hmem
      · rw [Option.mem_toList.mp hmem |> Option.some.inj |>.symm]
        exact hnew
    · -- the new lane was idle, those of the launches in flight were not
      simp only [Option.toList_some, List.map_append, List.map_cons, List.map_nil]
      refine List.nodup_append.mpr ⟨h.apart, List.nodup_singleton _, ?_⟩
      intro _ hkey _ hkey'
      obtain ⟨other, hmem, rfl⟩ := List.mem_map.mp hkey
      obtain ⟨session, hawaited⟩ := h.awaited other hmem
      rw [List.mem_singleton.mp hkey']
      exact hawaited.laneKey_ne hidle

/-- A settlement removes its launch and keeps the others. -/
theorem tracks_settleRecovery {launch : RemoteRecoveryLaunch}
    {recovery : Except DiagnosedFailure StatusSnapshot} (h : run.Tracks platform)
    (hstep : run.step platform (.settleRecovery launch recovery) = some run') :
    run'.Tracks platform := by
  unfold step at hstep
  split at hstep
  all_goals try (rename_i heq; cases heq)
  split at hstep
  · rename_i hmem
    cases hstep
    obtain ⟨_, hawaited⟩ := h.awaited launch hmem
    refine ⟨?_, ?_⟩
    · intro other hother
      have hnodup : run.inFlight.Nodup := h.apart.of_map
      obtain ⟨hne, hother⟩ := hnodup.mem_erase_iff.mp hother
      obtain ⟨session', hawaited'⟩ := h.awaited other hother
      have hkey : other.laneKey ≠ launch.laneKey :=
        fun hkey => hne (List.inj_on_of_nodup_map h.apart hother hmem hkey)
      exact ⟨session', hawaited'.settleRecovery hawaited hkey recovery⟩
    · exact h.apart.sublist (List.erase_sublist.map _)
  · cases hstep

theorem tracks_step {event : DaemonEvent} (h : run.Tracks platform)
    (hstep : run.step platform event = some run') : run'.Tracks platform := by
  cases event with
  | dispatch env request => exact tracks_dispatch h hstep
  | settleRecovery launch recovery => exact tracks_settleRecovery h hstep
  | settleLaunch laneKey operationId settlement =>
    cases hstep
    refine ⟨?_, h.apart⟩
    intro launch hmem
    obtain ⟨session, hawaited⟩ := h.awaited launch hmem
    exact ⟨session, hawaited.settleLaunch laneKey operationId settlement⟩

/-- Along every run the launches in flight are awaited. -/
theorem tracks_run {events : List DaemonEvent}
    (hrun : Runs.run (step platform) start events = some run) : run.Tracks platform :=
  Runs.run_invariant (fun _ _ _ h _ hstep => tracks_step h hstep) tracks_start
    (Runs.along_of_forall_mem (p := fun _ => True) start fun _ _ => trivial) hrun

end

/-- **A recovery settlement never strands its lane.**  In every run in which no launch is settled
twice, and for every launch that is in flight at its end:

* the session of the launch is open with the same epoch, its next generation is the launch's, and
  the lane holds the ids of the launch;
* whatever the recovery has come to, its settlement finds lane and session, and leaves the lane
  free, recovering without a recovery in flight, or blocked. -/
theorem recovery_settlement_finds_its_lane (platform : Platform) (events : List DaemonEvent)
    (run : RecoveryRun) (hrun : Runs.run (step platform) start events = some run)
    (launch : RemoteRecoveryLaunch) (hlaunch : launch ∈ run.inFlight)
    (recovery : Except DiagnosedFailure StatusSnapshot) :
    ((∃ session, run.daemon.repositories.get? launch.repositoryId = some session ∧
        session.epoch = launch.epoch ∧ session.nextGeneration = launch.generation) ∧
      ∃ used, run.daemon.laneAt launch.laneKey =
        some (.recovering launch.originOperationId (some launch.operationId) used)) ∧
    (∃ outcome,
      (run.daemon.settleRemoteRecovery platform launch recovery).1 = .outcome outcome) ∧
    ((run.daemon.settleRemoteRecovery platform launch recovery).2.laneAt launch.laneKey = none ∨
      (∃ origin used,
        (run.daemon.settleRemoteRecovery platform launch recovery).2.laneAt launch.laneKey =
          some (.recovering origin none used)) ∨
      ∃ origin reason cleanup,
        (run.daemon.settleRemoteRecovery platform launch recovery).2.laneAt launch.laneKey =
          some (.blocked origin reason cleanup)) := by
  obtain ⟨session, hawaited⟩ := (tracks_run hrun).awaited launch hlaunch
  exact ⟨⟨⟨session, hawaited.isOpen, hawaited.epoch, hawaited.generation⟩, hawaited.lane⟩,
    hawaited.settles recovery⟩

end RecoveryRun

namespace LaneExample

/-- The outer working copy is being recovered. -/
def recoveringOuter : RecoveryRun :=
  (Runs.run (RecoveryRun.step .posix) .start [start, openAt "/wc", recoverOuter]).get rfl

def outerLaunch : RemoteRecoveryLaunch where
  repositoryId := "u:/wc"
  epoch := 1
  boundaryRoots := .none
  generation := 1
  laneKey := "/wc"
  originOperationId := thirdId
  operationId := secondId
  identity := ⟨"u", "svn://host/repository", "/wc", "/wc", 31⟩

/-- The recovery has failed; its settlement reports that and leaves no recovery in flight. -/
theorem failed_recovery_settles :
    ∃ outcome, (recoveringOuter.daemon.settleRemoteRecovery .posix outerLaunch
      (.error ⟨⟨"SVN_STATUS_FAILED", "native", "error.svn", false⟩, false⟩)).1 = .outcome outcome :=
  (RecoveryRun.recovery_settlement_finds_its_lane .posix [start, openAt "/wc", recoverOuter]
    recoveringOuter (Option.some_get _).symm outerLaunch (by decide +kernel) _).2.1

end LaneExample

end SubversionR

import SubversionR.Daemon.Dispatch
import SubversionR.Lib.Run

/-!
# Lane steps — how a lane changes along a run of the daemon

A run of the daemon is a list of events: requests, each with what the surroundings answer to it, and
settlements of workers and recoveries, which may carry any lane key and any operation id.

* `lane_step` — the complete list of what one event does to one lane;
* `Daemon.indeterminate_lane_is_held` — a lane whose worker left the working copy in an unknown
  state is given free by a proven recovery of its own origin only.
-/

namespace SubversionR

open PathOrder

/-- What can happen to a daemon. -/
inductive DaemonEvent where
  | dispatch (env : DaemonEnvironment) (request : JsonRpcRequest)
  | settleLaunch (laneKey operationId : Text) (settlement : Daemon.RemoteWorkerSettlement)
  | settleRecovery (launch : RemoteRecoveryLaunch)
      (recovery : Except DiagnosedFailure StatusSnapshot)

namespace Daemon

def step (platform : Platform) (daemon : Daemon) : DaemonEvent → Daemon
  | .dispatch env request => (daemon.dispatch (env.on platform) request).daemon
  | .settleLaunch laneKey operationId settlement =>
    (daemon.settleRemoteLaunch laneKey operationId settlement).2
  | .settleRecovery launch recovery => (daemon.settleRemoteRecovery platform launch recovery).2

/-- The daemon after a list of events. -/
def run (platform : Platform) (daemon : Daemon) (events : List DaemonEvent) : Daemon :=
  events.foldl (step platform) daemon

@[simp]
theorem run_cons (platform : Platform) (daemon : Daemon) (event : DaemonEvent)
    (events : List DaemonEvent) :
    daemon.run platform (event :: events) = (daemon.step platform event).run platform events := rfl

theorem run_append (platform : Platform) (daemon : Daemon) (earlier later : List DaemonEvent) :
    daemon.run platform (earlier ++ later) =
      (daemon.run platform earlier).run platform later :=
  List.foldl_append

/-! ## One lane, one event -/

/-- **What an event does to the lane under `key`.** -/
inductive LaneStep (platform : Platform) (daemon : Daemon) (event : DaemonEvent) (key : Text)
    (before after : Option RemoteNativeLaneState) : Prop where
  /-- Nothing. -/
  | stays (h : after = before)
  /-- A request launches a worker; no lane overlapped the key. -/
  | launched (env : DaemonEnvironment) (request : JsonRpcRequest) (plan : RemoteLaunchPlan)
      (event_eq : event = .dispatch env request)
      (launch : (daemon.dispatch (env.on platform) request).remoteLaunch = some plan)
      (key_eq : plan.laneKey = key) (clear : ¬ daemon.MeetsLane key) (before_eq : before = none)
      (after_eq : after = some (.active plan.operation.envelope.operationId plan.effect
        plan.repositoryId plan.epoch))
  /-- The worker of the lane settles. -/
  | settled (operationId : Text) (settlement : RemoteWorkerSettlement)
      (effect : RemoteOperationEffect) (repositoryId : Option Text) (epoch : Option Nat)
      (event_eq : event = .settleLaunch key operationId settlement)
      (before_eq : before = some (.active operationId effect repositoryId epoch))
      (after_eq : (after = none ∧ ¬ settlement.Indeterminate effect) ∨
        after = some (.recovering operationId none ∅) ∨
        ∃ reason cleanup, after = some (.blocked operationId reason cleanup))
  /-- A recovery request starts a recovery in the lane. -/
  | recoveryStarted (env : DaemonEnvironment) (request : JsonRpcRequest) (origin operationId : Text)
      (used : Finset Text) (event_eq : event = .dispatch env request)
      (method : request.method = .remoteRecoverWorkingCopy)
      (key_eq : daemon.recoveryLaneKey platform request.params = some key)
      (before_eq : before = none ∨ before = some (.recovering origin none used))
      (after_eq : after = some (.recovering origin (some operationId) used))
  /-- A recovery request finds that too many recoveries have failed. -/
  | givenUp (origin : Text) (used : Finset Text)
      (before_eq : before = some (.recovering origin none used))
      (after_eq : after = some (.blocked origin .remoteRecoveryBlocked false))
  /-- The recovery of the lane has ended with a safe working copy. -/
  | recovered (launch : RemoteRecoveryLaunch) (snapshot : StatusSnapshot) (used : Finset Text)
      (event_eq : event = .settleRecovery launch (.ok snapshot)) (key_eq : launch.laneKey = key)
      (safe : (daemon.settleRemoteRecovery platform launch (.ok snapshot)).1 =
        .outcome (.safe launch.operationId))
      (before_eq : before =
        some (.recovering launch.originOperationId (some launch.operationId) used))
      (after_eq : after = none)
  /-- The recovery of the lane has failed. -/
  | recoveryFailed (launch : RemoteRecoveryLaunch) (used : Finset Text)
      (key_eq : launch.laneKey = key)
      (before_eq : before =
        some (.recovering launch.originOperationId (some launch.operationId) used))
      (after_eq : (∃ reason cleanup,
          after = some (.blocked launch.originOperationId reason cleanup)) ∨
        after = some (.recovering launch.originOperationId none (insert launch.operationId used)))

section

variable {platform : Platform} {daemon : Daemon} {key : Text}

/-- A recovery request: nothing but the lane of its working copy can change. -/
theorem lane_step_recover {env : DaemonEnvironment} {request : JsonRpcRequest}
    {start : RecoveryStart}
    {daemon' : Daemon} (hmethod : request.method = .remoteRecoverWorkingCopy)
    (h : daemon.recoverWorkingCopy platform request.params = (start, daemon')) :
    LaneStep platform daemon (.dispatch env request) key (daemon.laneAt key)
      (daemon'.laneAt key) := by
  rcases recoverWorkingCopy_cases h with ⟨rfl, _⟩ | ⟨recover, session, used, hstarts, hcase⟩
  · exact .stays rfl
  · set laneKey := absolutePathKey platform session.identity.workingCopyRoot with hlaneKey
    by_cases hkey : key = laneKey
    · subst hkey
      rcases hcase with ⟨hmany, -, -, rfl⟩ | ⟨-, -, hstart, rfl⟩
      · -- an absent lane has used no recovery id, so the lane was recovering
        rcases hstarts.lane with ⟨-, rfl⟩ | ⟨hlane, _⟩
        · simp [maxRemoteRecoveryOperationIds] at hmany
        · exact .givenUp _ used hlane (by rw [laneAt_setLane, if_pos rfl])
      · refine .recoveryStarted env request recover.originOperationId recover.operationId used rfl
          hmethod hstart ?_ (by rw [laneAt_setLane, if_pos rfl])
        rcases hstarts.lane with ⟨hnone, -⟩ | ⟨hlane, _⟩
        · exact .inl hnone
        · exact .inr hlane
    · rcases hcase with ⟨-, -, -, rfl⟩ | ⟨-, -, -, rfl⟩
      · exact .stays (by rw [laneAt_setLane, if_neg hkey])
      · exact .stays (by rw [laneAt_setLane, if_neg hkey, laneAt_useOperationId])

/-- A request. -/
theorem lane_step_dispatch (env : DaemonEnvironment) (request : JsonRpcRequest) :
    LaneStep platform daemon (.dispatch env request) key (daemon.laneAt key)
      ((daemon.dispatch (env.on platform) request).daemon.laneAt key) := by
  rcases @dispatch_cases (env.on platform) request daemon with ⟨_, heq⟩ | ⟨hgate, heq⟩
  · exact .stays (by rw [heq]; rfl)
  · rw [heq]
    cases @handle_effect (env.on platform) request daemon with
    | stays state => exact .stays (by rw [state])
    | trust trust step state => exact .stays (by rw [state]; rfl)
    | opened session fresh epoch state => exact .stays (by rw [state]; rfl)
    | changed gated session session' named repositoryId epoch state =>
      exact .stays (by rw [state]; rfl)
    | closed gated session named state => exact .stays (by rw [state]; rfl)
    | launched gated plan named urls preflight unused free attributed state launch =>
      rw [state]
      by_cases hkey : key = plan.laneKey
      · subst hkey
        refine .launched env request plan rfl (by rw [heq, launch]) rfl
          (not_meetsLane_of_gate hgate gated named) free (by rw [laneAt_setLane, if_pos rfl])
      · exact .stays (by rw [laneAt_setLane, if_neg hkey, laneAt_useOperationId])
    | recovers method start step => exact lane_step_recover method step

/-- The settlement of a recovery. -/
theorem lane_step_settleRecovery (launch : RemoteRecoveryLaunch)
    (recovery : Except DiagnosedFailure StatusSnapshot) :
    LaneStep platform daemon (.settleRecovery launch recovery) key (daemon.laneAt key)
      ((daemon.settleRemoteRecovery platform launch recovery).2.laneAt key) := by
  rcases hsettle : daemon.settleRemoteRecovery platform launch recovery with ⟨settled, daemon'⟩
  rcases settleRemoteRecovery_cases hsettle with
    ⟨-, -, rfl⟩ | ⟨-, -, -, -, -, rfl⟩ |
    ⟨snapshot, session, session', rfl, hmatches, -, -, rfl, rfl⟩ |
    ⟨failure, outcome, state, rfl, hmatches, -, rfl, hstate⟩
  · exact .stays rfl
  · exact .stays rfl
  · show LaneStep platform daemon _ key _ ((Daemon.freeLane _ launch.laneKey).laneAt key)
    rw [laneAt_freeLane]
    by_cases hkey : key = launch.laneKey
    · subst hkey
      obtain ⟨used, hlane⟩ := laneMatches_iff.mp hmatches
      exact .recovered launch snapshot used rfl rfl (by rw [hsettle]) hlane (if_pos rfl)
    · exact .stays (by rw [if_neg hkey]; rfl)
  · show LaneStep platform daemon _ key _ ((Daemon.setLane _ launch.laneKey state).laneAt key)
    rw [laneAt_setLane]
    by_cases hkey : key = launch.laneKey
    · subst hkey
      obtain ⟨used, hlane⟩ := laneMatches_iff.mp hmatches
      have hused : daemon.usedRecoveryIds launch.laneKey = used := by
        unfold usedRecoveryIds
        rw [hlane]
      refine .recoveryFailed launch used rfl hlane ?_
      rcases hstate with ⟨reason, cleanup, rfl⟩ | rfl
      · exact .inl ⟨reason, cleanup, if_pos rfl⟩
      · exact .inr (by rw [if_pos rfl, hused])
    · exact .stays (by rw [if_neg hkey]; rfl)

/-- **One event, one lane.** -/
theorem lane_step (event : DaemonEvent) :
    LaneStep platform daemon event key (daemon.laneAt key)
      ((daemon.step platform event).laneAt key) := by
  cases event with
  | dispatch env request => exact lane_step_dispatch env request
  | settleRecovery launch recovery => exact lane_step_settleRecovery launch recovery
  | settleLaunch laneKey operationId settlement =>
    show LaneStep platform daemon _ key _
      ((daemon.settleRemoteLaunch laneKey operationId settlement).2.laneAt key)
    rcases settleRemoteLaunch_cases daemon laneKey operationId settlement with
      ⟨-, hsame⟩ | ⟨effect, repositoryId, epoch, hlane, next, hnext, hcase⟩
    · exact .stays (hsame key)
    · rw [hnext]
      by_cases hkey : key = laneKey
      · subst hkey
        rw [if_pos rfl]
        exact .settled operationId settlement effect repositoryId epoch rfl hlane hcase
      · exact .stays (if_neg hkey)

/-! ## Lanes of unknown working copies -/

/-- The lane is recovering or blocked, on account of the operation `origin`. -/
def Held (origin : Text) : Option RemoteNativeLaneState → Prop
  | some (.recovering origin' _ _) => origin' = origin
  | some (.blocked origin' _ _) => origin' = origin
  | _ => False

/-- The event is the settlement of a successful recovery: its launch carries the origin of the lane
and the recovery id the lane holds at that moment. -/
def Releases (platform : Platform) (key origin : Text) (daemon : Daemon) (event : DaemonEvent) :
    Prop :=
  ∃ launch snapshot used, event = .settleRecovery launch (.ok snapshot) ∧ launch.laneKey = key ∧
    launch.originOperationId = origin ∧
    daemon.laneAt key = some (.recovering origin (some launch.operationId) used) ∧
    (daemon.settleRemoteRecovery platform launch (.ok snapshot)).1 =
      .outcome (.safe launch.operationId)

/-- A held lane stays held, unless the event releases it. -/
theorem held_step {origin : Text} {event : DaemonEvent} (hheld : Held origin (daemon.laneAt key)) :
    Releases platform key origin daemon event ∨
      Held origin ((daemon.step platform event).laneAt key) := by
  cases @lane_step platform daemon key event with
  | stays h => exact .inr (by rw [h]; exact hheld)
  | launched env request plan event_eq launch key_eq clear before_eq =>
    rw [before_eq] at hheld
    exact hheld.elim
  | settled operationId settlement effect repositoryId epoch event_eq before_eq =>
    rw [before_eq] at hheld
    exact hheld.elim
  | recoveryStarted env request origin' operationId used event_eq method key_eq before_eq
    after_eq =>
    rcases before_eq with hnone | hrecovering
    · rw [hnone] at hheld
      exact hheld.elim
    · rw [hrecovering] at hheld
      exact .inr (by rw [after_eq]; exact hheld)
  | givenUp origin' used before_eq after_eq =>
    rw [before_eq] at hheld
    exact .inr (by rw [after_eq]; exact hheld)
  | recovered launch snapshot used event_eq key_eq safe before_eq after_eq =>
    rw [before_eq] at hheld
    have horigin : launch.originOperationId = origin := hheld
    exact .inl ⟨launch, snapshot, used, event_eq, key_eq, horigin, horigin ▸ before_eq, safe⟩
  | recoveryFailed launch used key_eq before_eq after_eq =>
    rw [before_eq] at hheld
    rcases after_eq with ⟨_, _, hafter⟩ | hafter
    · exact .inr (by rw [hafter]; exact hheld)
    · exact .inr (by rw [hafter]; exact hheld)

/-- Along a run a held lane stays held until an event releases it. -/
theorem held_run {origin : Text} (events : List DaemonEvent)
    (hheld : Held origin (daemon.laneAt key)) :
    (∃ earlier event later, events = earlier ++ event :: later ∧
        Releases platform key origin (daemon.run platform earlier) event) ∨
      Held origin ((daemon.run platform events).laneAt key) := by
  induction events generalizing daemon with
  | nil => exact .inr hheld
  | cons event events ih =>
    rcases held_step hheld with hreleases | hheld'
    · exact .inl ⟨[], event, events, rfl, hreleases⟩
    · rcases ih hheld' with ⟨earlier, event', later, rfl, hreleases⟩ | hend
      · exact .inl ⟨event :: earlier, event', later, rfl, hreleases⟩
      · exact .inr hend

/-- No event changes a blocked lane. -/
theorem blocked_step {origin : Text} {reason : NativeRemoteFailureReason} {cleanup : Bool}
    (event : DaemonEvent) (hblocked : daemon.laneAt key = some (.blocked origin reason cleanup)) :
    (daemon.step platform event).laneAt key = some (.blocked origin reason cleanup) := by
  cases @lane_step platform daemon key event with
  | stays h => rw [h, hblocked]
  | launched _ _ _ _ _ _ _ before_eq => simp [hblocked] at before_eq
  | settled _ _ _ _ _ _ before_eq => simp [hblocked] at before_eq
  | recoveryStarted _ _ _ _ _ _ _ _ before_eq => simp [hblocked] at before_eq
  | givenUp _ _ before_eq => simp [hblocked] at before_eq
  | recovered _ _ _ _ _ _ before_eq => simp [hblocked] at before_eq
  | recoveryFailed _ _ _ before_eq => simp [hblocked] at before_eq

/-- The settlement of an active worker that leaves the working copy unknown holds its lane. -/
theorem held_of_indeterminate {operationId : Text} {effect : RemoteOperationEffect}
    {repositoryId : Option Text} {epoch : Option Nat} {settlement : RemoteWorkerSettlement}
    (hactive : daemon.laneAt key = some (.active operationId effect repositoryId epoch))
    (hunknown : settlement.Indeterminate effect) :
    Held operationId ((daemon.settleRemoteLaunch key operationId settlement).2.laneAt key) := by
  rcases settleRemoteLaunch_cases daemon key operationId settlement with
    ⟨hnot, -⟩ | ⟨effect', repositoryId', epoch', hlane, next, hnext, hcase⟩
  · exact absurd hactive (hnot _ _ _)
  · have heq := hlane.symm.trans hactive
    cases heq
    rw [hnext, if_pos rfl]
    rcases hcase with ⟨-, hknown⟩ | rfl | ⟨_, _, rfl⟩
    · exact absurd hunknown hknown
    · rfl
    · rfl

end

/-- **An indeterminate lane is released only by a proven-safe recovery.**  In every state and for
every continuation:

* when the worker of an active lane settles with an error after it may have mutated the working
  copy, with an unsafe cleanup or with another effect than the reserved one, then after any further
  events the lane is recovering or blocked on account of that operation, unless one of the events
  was the settlement of a successful recovery that carries this origin and the recovery id the lane
  held at that moment;
* no event removes or changes a blocked lane;
* a settlement whose lane key or operation ids match no lane leaves every lane as it is. -/
theorem indeterminate_lane_is_held (platform : Platform) (daemon : Daemon) :
    (∀ key operationId effect repositoryId epoch settlement events,
      daemon.laneAt key = some (.active operationId effect repositoryId epoch) →
      settlement.Indeterminate effect →
      (∃ earlier event later, events = earlier ++ event :: later ∧
          Releases platform key operationId
            ((daemon.step platform (.settleLaunch key operationId settlement)).run platform earlier)
            event) ∨
        Held operationId (((daemon.step platform (.settleLaunch key operationId settlement)).run
          platform events).laneAt key)) ∧
    (∀ key origin reason cleanup event,
      daemon.laneAt key = some (.blocked origin reason cleanup) →
      (daemon.step platform event).laneAt key = some (.blocked origin reason cleanup)) ∧
    (∀ laneKey operationId settlement,
      (∀ effect repositoryId epoch,
        daemon.laneAt laneKey ≠ some (.active operationId effect repositoryId epoch)) →
      ∀ key, (daemon.step platform (.settleLaunch laneKey operationId settlement)).laneAt key =
        daemon.laneAt key) ∧
    (∀ launch recovery,
      (∀ used, daemon.laneAt launch.laneKey ≠
        some (.recovering launch.originOperationId (some launch.operationId) used)) →
      ∀ key, (daemon.step platform (.settleRecovery launch recovery)).laneAt key =
        daemon.laneAt key) := by
  refine ⟨?_, ?_, ?_, ?_⟩
  · intro key operationId effect repositoryId epoch settlement events hactive hunknown
    exact held_run events (held_of_indeterminate hactive hunknown)
  · intro key origin reason cleanup event hblocked
    exact blocked_step event hblocked
  · intro laneKey operationId settlement hnot key
    rcases settleRemoteLaunch_cases daemon laneKey operationId settlement with
      ⟨-, hsame⟩ | ⟨effect, repositoryId, epoch, hlane, -⟩
    · exact hsame key
    · exact absurd hlane (hnot _ _ _)
  · intro launch recovery hnot key
    -- without a matching lane the settlement only frees its id
    have hmatches : daemon.laneMatches launch = false := by
      rw [Bool.eq_false_iff]
      intro hmatches
      obtain ⟨used, hlane⟩ := laneMatches_iff.mp hmatches
      exact hnot used hlane
    show (daemon.settleRemoteRecovery platform launch recovery).2.laneAt key = daemon.laneAt key
    unfold settleRemoteRecovery
    rw [hmatches]
    rfl

end Daemon

/-! ## A daemon at work

The working copy `/wc` with a second working copy `/wc/sub` inside it, both from one server. -/

namespace LaneExample

open JsonValues

def endpoint : CanonicalEndpoint := ⟨.svn, "host", 3690⟩

def firstId : Text := "11111111-1111-1111-1111-111111111111"
def secondId : Text := "22222222-2222-2222-2222-222222222222"
def thirdId : Text := "33333333-3333-3333-3333-333333333333"

def envelope : RemoteEnvelope where
  version := 1
  operationId := firstId
  intent := .foreground
  interaction := .allowed
  timeoutMs := 1000
  trustEpoch := 1
  profile :=
    { schema := remoteProfileSchema, profileId := "p", authority := endpoint,
      serverAuth := .anonymous, serverAccount := .none, tls := none, proxy := .none, ssh := .none,
      redirectPolicy := .rejectAll }
  expectedOrigin := endpoint

def endpointJson : Json :=
  .obj [("scheme", .str "svn".toList), ("canonicalHost", .str "host".toList),
    ("effectivePort", .int 3690)]

def profileJson : Json :=
  .obj [("schema", .str remoteProfileSchema), ("profileId", .str "p".toList),
    ("authority", endpointJson), ("serverAuth", .str "anonymous".toList),
    ("serverAccount", .str "none".toList),
    ("serverCredentialPersistence", .str "secretStorage".toList), ("tls", .null),
    ("proxy", .str "none".toList), ("ssh", .str "none".toList),
    ("redirectPolicy", .str "rejectAll".toList)]

/-- The envelope as the client writes it. -/
def envelopeJson : Json :=
  .obj [("version", .int 1), ("operationId", .str firstId), ("intent", .str "foreground".toList),
    ("interaction", .str "allowed".toList), ("timeoutMs", .int 1000),
    ("workspaceTrust", .str "trusted".toList), ("trustEpoch", .int 1), ("profile", profileJson),
    ("expectedOrigin", endpointJson)]

/-- A codec that reads envelopes with the profile of this one. -/
def decodeEnvelope (value : Json) : Option RemoteEnvelope :=
  match value.prop "operationId", value.prop "timeoutMs", value.prop "trustEpoch" with
  | some (.str operationId), some (.int timeoutMs), some (.int trustEpoch) =>
    some { envelope with
      operationId, timeoutMs := timeoutMs.toNat, trustEpoch := trustEpoch.toNat }
  | _, _, _ => none

/-- A bridge that finds a working copy at every path. -/
def environment : DaemonEnvironment where
  platform := .posix
  codec := ⟨decodeEnvelope, fun _ => none, fun _ => none⟩
  now := "now"
  status := .answering [] []
  opening := ⟨fun _ path => .ok ⟨"u", "svn://host/repository", path, path, 31⟩⟩
  native := .ok .null
  files := .empty
  worker := ⟨true, fun _ => .ok (), .ok (), .ok ()⟩

def event (method : RequestMethod) (params : List (String × Json)) : DaemonEvent :=
  .dispatch environment ⟨method, .obj params⟩

def start : DaemonEvent :=
  event .initializeBackend
    [("clientName", .str "c".toList), ("clientVersion", .str "1".toList),
     ("locale", .str "en".toList), ("workspaceTrust", .str "trusted".toList),
       ("trustEpoch", .int 1),
     ("cacheRoot", .str "/cache".toList)]

def openAt (path : Text) : DaemonEvent := event .repositoryOpen [("path", .str path)]

/-- An update of a working copy, which is launched in a worker. -/
def updateRequest (repositoryId : Text) (epoch : Int) : JsonRpcRequest :=
  ⟨.operationRun, .obj
    [("repositoryId", .str repositoryId), ("epoch", .int epoch), ("kind", .str "update".toList),
     ("options", .obj [("version", .int 1), ("path", .str ".".toList),
       ("revision", .str "head".toList), ("depth", .str "workingCopy".toList),
       ("depthIsSticky", .bool false), ("ignoreExternals", .bool false)]),
     ("remote", envelopeJson)]⟩

def update (repositoryId : Text) (epoch : Int) : DaemonEvent :=
  .dispatch environment (updateRequest repositoryId epoch)

/-- A recovery of the outer working copy, in whose lane nothing has happened. -/
def recoverOuter : DaemonEvent :=
  event .remoteRecoverWorkingCopy
    [("repositoryId", .str "u:/wc".toList), ("epoch", .int 1), ("operationId", .str secondId),
     ("originOperationId", .str thirdId), ("timeoutMs", .int 1000)]

/-- The worker runs in the inner working copy. -/
def updating : Daemon :=
  Daemon.new.run .posix [start, openAt "/wc", openAt "/wc/sub", update "u:/wc/sub" 2]

/-- The worker was stopped after it had begun to change the working copy. -/
def stopped : Daemon.RemoteWorkerSettlement where
  result := .error ⟨⟨"SUBVERSIONR_REMOTE_WORKER_CRASHED", "process", "error.remote", false⟩, false⟩
  effect := .mutation
  workerWasResumed := true
  executionOriginKnown := true
  jobDescendantsZero := true
  tempRootRemoved := true

theorem updating_lane : updating.laneAt "/wc/sub" =
    some (.active firstId .mutation (some "u:/wc/sub".toList) (some 2)) := by
  decide +kernel

/-- The lane of the stopped update is still held after another repository was opened. -/
theorem stopped_update_is_held :
    Daemon.Held firstId (((updating.step .posix (.settleLaunch "/wc/sub" firstId stopped)).run
      .posix [openAt "/other"]).laneAt "/wc/sub") := by
  have hheld := (Daemon.indeterminate_lane_is_held .posix updating).1 "/wc/sub" firstId .mutation
    (some "u:/wc/sub".toList) (some 2) stopped [openAt "/other"] updating_lane (by decide)
  rcases hheld with ⟨_, event, _, hevents, hreleases⟩ | hheld
  · -- the only event is a request, which releases nothing
    obtain ⟨_, _, _, hevent, -⟩ := hreleases
    have hmem : event ∈ [openAt "/other"] := by
      rw [hevents]
      simp
    rw [List.mem_singleton.mp hmem] at hevent
    cases hevent
  · exact hheld

end LaneExample

end SubversionR

import SubversionR.Lanes.Steps

/-!
# Recoveries of a lane — distinct ids, and a bounded number of them

From the settlement that makes a lane recovering until the lane is freed, the daemon launches
recoveries in it, one at a time.  The ids that were used stand in the lane itself, and every failed
recovery puts the set back.

* `recoveryLaunches` — the ids of the recoveries launched in a lane along a run, in order;
* `Episode` — what the lane knows about them: its used ids are those launched;
* `Episode.step` — no event loses one;
* `recovery_attempts_bounded` — distinct ids, at most `maxRemoteRecoveryOperationIds`, and the next
  attempt blocks the lane.
-/

namespace SubversionR

namespace DaemonEvent

/-- The end of a worker or of a recovery. -/
def isSettlement : DaemonEvent → Bool
  | .dispatch .. => false
  | .settleLaunch .. => true
  | .settleRecovery .. => true

end DaemonEvent

namespace Daemon

open JsonValues

/-- The id of a launched recovery, if its lane is that under `key`. -/
def launchedIn (key : Text) : Option RemoteRecoveryLaunch → List Text
  | some launch => if launch.laneKey = key then [launch.operationId] else []
  | none => []

/-- The id of the recovery an event launches in the lane under `key`. -/
def acceptedRecovery (platform : Platform) (key : Text) (daemon : Daemon) : DaemonEvent → List Text
  | .dispatch env request =>
    launchedIn key (daemon.dispatch (env.on platform) request).remoteRecoveryLaunch
  | .settleLaunch .. => []
  | .settleRecovery .. => []

/-- The ids of the recoveries launched in the lane under `key`. -/
def recoveryLaunches (platform : Platform) (key : Text) (daemon : Daemon) :
    List DaemonEvent → List Text
  | [] => []
  | event :: events =>
    daemon.acceptedRecovery platform key event ++
      (daemon.step platform event).recoveryLaunches platform key events

/-- What a request does to the lane under `key`, with the recovery it launches there. -/
inductive RecoveryStep (key : Text) (before after : Option RemoteNativeLaneState)
    (launched : Option RemoteRecoveryLaunch) : Prop where
  /-- It launches a recovery in the lane. -/
  | launches (launch : RemoteRecoveryLaunch) (used : Finset Text)
      (launched_eq : launched = some launch) (key_eq : launch.laneKey = key)
      (few : used.card < maxRemoteRecoveryOperationIds)
      (before_eq : before = none ∨ before = some (.recovering launch.originOperationId none used) ∧
        launch.originOperationId ≠ launch.operationId ∧ launch.operationId ∉ used)
      (after_eq : after =
        some (.recovering launch.originOperationId (some launch.operationId) used))
  /-- It finds that too many recoveries were launched. -/
  | givesUp (origin : Text) (used : Finset Text) (launched_eq : launched = none)
      (many : maxRemoteRecoveryOperationIds ≤ used.card)
      (before_eq : before = some (.recovering origin none used))
      (after_eq : after = some (.blocked origin .remoteRecoveryBlocked false))
  /-- It launches no recovery in the lane and leaves it as it is, if it is held. -/
  | passes (elsewhere : ∀ launch, launched = some launch → launch.laneKey ≠ key)
      (held : before = none ∨ after = before)

section

variable {platform : Platform} {daemon : Daemon} {key : Text}

/-- A recovery request, with what it launches. -/
theorem recovery_step_recover {params : Json} {start : RecoveryStart} {daemon' : Daemon}
    {launched : Option RemoteRecoveryLaunch}
    (h : daemon.recoverWorkingCopy platform params = (start, daemon'))
    (hlaunched : ∀ launch, launched = some launch ↔ start = .launched launch) :
    RecoveryStep key (daemon.laneAt key) (daemon'.laneAt key) launched := by
  rcases recoverWorkingCopy_cases h with ⟨rfl, hnone, -⟩ | ⟨_, session, used, hstarts, hcase⟩
  · exact .passes (fun launch heq => absurd ((hlaunched launch).mp heq) (hnone launch)) (.inr rfl)
  · rcases hcase with ⟨hmany, hnone, -, rfl⟩ | ⟨hfew, hstart, -, rfl⟩
    · have hempty : launched = none :=
        Option.eq_none_iff_forall_ne_some.mpr fun launch heq =>
          hnone launch ((hlaunched launch).mp heq)
      by_cases hkey : key = absolutePathKey platform session.identity.workingCopyRoot
      · -- a free lane has used no id, so the lane was recovering
        subst hkey
        rcases hstarts.lane with ⟨-, rfl⟩ | ⟨hlane, _⟩
        · simp [maxRemoteRecoveryOperationIds] at hmany
        · exact .givesUp _ used hempty hmany hlane (by rw [laneAt_setLane, if_pos rfl])
      · refine .passes (fun launch heq => ?_) (.inr (by rw [laneAt_setLane, if_neg hkey]))
        rw [hempty] at heq
        cases heq
    · have hsome := (hlaunched _).mpr hstart
      by_cases hkey : key = absolutePathKey platform session.identity.workingCopyRoot
      · subst hkey
        refine .launches _ used hsome rfl hfew ?_ (by rw [laneAt_setLane, if_pos rfl]; rfl)
        rcases hstarts.lane with ⟨hfree, -⟩ | hlane
        · exact .inl hfree
        · exact .inr hlane
      · refine .passes (fun launch heq => ?_)
          (.inr (by rw [laneAt_setLane, if_neg hkey, laneAt_useOperationId]))
        rw [hsome] at heq
        cases heq
        exact Ne.symm hkey

/-- A request, with the recovery it launches. -/
theorem recovery_step_dispatch (env : DaemonEnvironment) (request : JsonRpcRequest) :
    RecoveryStep key (daemon.laneAt key) ((daemon.dispatch env request).daemon.laneAt key)
      (daemon.dispatch env request).remoteRecoveryLaunch := by
  -- every request but a recovery launches no recovery
  have hpasses : ∀ {handled : Handled}, handled.remoteRecoveryLaunch = none →
      (daemon.laneAt key = none ∨ handled.daemon.laneAt key = daemon.laneAt key) →
      RecoveryStep key (daemon.laneAt key) (handled.daemon.laneAt key)
        handled.remoteRecoveryLaunch := by
    intro handled hnone hheld
    refine .passes (fun launch heq => ?_) hheld
    rw [hnone] at heq
    cases heq
  rcases @dispatch_cases env request daemon with ⟨_, heq⟩ | ⟨-, heq⟩
  · rw [heq]
    exact hpasses rfl (.inr rfl)
  · rw [heq]
    cases @handle_effect env request daemon with
    | stays state launch recovery => exact hpasses recovery (.inr (by rw [state]))
    | trust trust step state launch recovery => exact hpasses recovery (.inr (by rw [state]; rfl))
    | opened session fresh epoch state launch recovery =>
      exact hpasses recovery (.inr (by rw [state]; rfl))
    | changed gated session session' named repositoryId epoch state launch recovery =>
      exact hpasses recovery (.inr (by rw [state]; rfl))
    | closed gated session named state launch recovery =>
      exact hpasses recovery (.inr (by rw [state]; rfl))
    | launched gated plan named urls preflight unused free attributed state launch recovery =>
      refine hpasses recovery ?_
      by_cases hkey : key = plan.laneKey
      · rw [hkey]
        exact .inl free
      · exact .inr (by rw [state, laneAt_setLane, if_neg hkey, laneAt_useOperationId])
    | recovers method start step launch recovery => exact recovery_step_recover step recovery

end

/-! ## What the lane knows -/

/-- The lane has been held by `origin` while the recoveries `ids` were launched in it. -/
inductive Episode (lane : Option RemoteNativeLaneState) (origin : Text) (ids : List Text) : Prop
  /-- No recovery is in flight. -/
  | idle (used : Finset Text) (lane_eq : lane = some (.recovering origin none used))
      (nodup : ids.Nodup) (other : origin ∉ ids) (used_eq : used = ids.toFinset)
      (bound : ids.length ≤ maxRemoteRecoveryOperationIds)
  /-- The last recovery is in flight. -/
  | recovering (earlier : List Text) (last : Text) (used : Finset Text)
      (lane_eq : lane = some (.recovering origin (some last) used))
      (ids_eq : ids = earlier ++ [last]) (nodup : ids.Nodup) (other : origin ∉ ids)
      (used_eq : used = earlier.toFinset)
      (bound : ids.length ≤ maxRemoteRecoveryOperationIds)
  /-- The lane is given up. -/
  | blocked (reason : NativeRemoteFailureReason) (cleanup : Bool)
      (lane_eq : lane = some (.blocked origin reason cleanup))
      (nodup : ids.Nodup) (other : origin ∉ ids)
      (bound : ids.length ≤ maxRemoteRecoveryOperationIds)

namespace Episode

variable {lane lane' : Option RemoteNativeLaneState} {origin : Text} {ids : List Text}

theorem distinct (h : Episode lane origin ids) :
    ids.Nodup ∧ origin ∉ ids ∧ ids.length ≤ maxRemoteRecoveryOperationIds := by
  cases h with
  | idle used lane_eq nodup other used_eq bound => exact ⟨nodup, other, bound⟩
  | recovering earlier last used lane_eq ids_eq nodup other used_eq bound =>
    exact ⟨nodup, other, bound⟩
  | blocked reason cleanup lane_eq nodup other bound => exact ⟨nodup, other, bound⟩

theorem held (h : Episode lane origin ids) : lane ≠ none := by
  cases h with
  | idle used lane_eq => simp [lane_eq]
  | recovering earlier last used lane_eq => simp [lane_eq]
  | blocked reason cleanup lane_eq => simp [lane_eq]

/-- In a lane without a recovery in flight the used ids are those launched. -/
theorem of_idle {used : Finset Text} {origin' : Text}
    (h : Episode (some (.recovering origin' none used)) origin ids) :
    origin' = origin ∧ used = ids.toFinset := by
  cases h with
  | idle used' lane_eq nodup other used_eq bound =>
    cases lane_eq
    exact ⟨rfl, used_eq⟩
  | recovering earlier last used' lane_eq => cases lane_eq
  | blocked reason cleanup lane_eq => cases lane_eq

/-- A request. -/
theorem dispatch {key : Text} {launched : Option RemoteRecoveryLaunch} (h : Episode lane origin ids)
    (hstep : RecoveryStep key lane lane' launched) :
    Episode lane' origin (ids ++ launchedIn key launched) := by
  cases hstep with
  -- an attempt adds its id, which the lane has not seen
  | launches launch used launched_eq key_eq few before_eq after_eq =>
    rcases before_eq with hnone | ⟨hlane, hne, hfresh⟩
    · exact absurd hnone h.held
    · rw [hlane] at h
      obtain ⟨horigin, hused⟩ := h.of_idle
      obtain ⟨hnodup, hother, -⟩ := h.distinct
      rw [launched_eq, launchedIn, if_pos key_eq]
      rw [horigin] at hne after_eq
      have hnew : launch.operationId ∉ ids := by
        rw [hused, List.mem_toFinset] at hfresh
        exact hfresh
      have hlength : ids.length < maxRemoteRecoveryOperationIds := by
        rw [hused, List.toFinset_card_of_nodup hnodup] at few
        exact few
      refine .recovering ids launch.operationId used after_eq rfl ?_ ?_ hused ?_
      · refine List.nodup_append.mpr ⟨hnodup, List.nodup_singleton _, ?_⟩
        intro _ hid _ hid' heq
        rw [List.mem_singleton.mp hid'] at heq
        exact hnew (heq ▸ hid)
      · rw [List.mem_append, List.mem_singleton]
        rintro (hmem | heq)
        · exact hother hmem
        · exact hne heq
      · rw [List.length_append, List.length_singleton]
        exact hlength
  | givesUp origin' used launched_eq many before_eq after_eq =>
    rw [before_eq] at h
    obtain ⟨rfl, -⟩ := h.of_idle
    obtain ⟨hnodup, hother, hbound⟩ := h.distinct
    rw [launched_eq, launchedIn, List.append_nil]
    exact .blocked _ _ after_eq hnodup hother hbound
  -- a request for another lane leaves this episode as it is
  | passes elsewhere hheld =>
    have hsame : lane' = lane := by
      rcases hheld with hnone | hsame
      · exact absurd hnone h.held
      · exact hsame
    rw [hsame]
    cases launched with
    | none =>
      rw [launchedIn, List.append_nil]
      exact h
    | some launch =>
      rw [launchedIn, if_neg (elsewhere launch rfl), List.append_nil]
      exact h

/-- The end of a recovery, or of a worker, that does not free the lane. -/
theorem settle {platform : Platform} {daemon : Daemon} {event : DaemonEvent} {key : Text}
    (h : Episode (daemon.laneAt key) origin ids) (hsettlement : event.isSettlement)
    (hheld : (daemon.step platform event).laneAt key ≠ none) :
    Episode ((daemon.step platform event).laneAt key) origin ids := by
  obtain ⟨hnodup, hother, hbound⟩ := h.distinct
  cases @lane_step platform daemon key event with
  | stays hsame =>
    rw [hsame]
    exact h
  | launched _ _ _ event_eq =>
    rw [event_eq] at hsettlement
    cases hsettlement
  | settled operationId settlement effect repositoryId epoch event_eq before_eq =>
    -- a lane with an episode has no worker
    rw [before_eq] at h
    cases h with
    | idle used lane_eq => cases lane_eq
    | recovering earlier last used lane_eq => cases lane_eq
    | blocked reason cleanup lane_eq => cases lane_eq
  | recoveryStarted _ _ _ _ _ event_eq =>
    rw [event_eq] at hsettlement
    cases hsettlement
  | givenUp origin' used before_eq after_eq =>
    rw [before_eq] at h
    obtain ⟨rfl, -⟩ := h.of_idle
    exact .blocked _ _ after_eq hnodup hother hbound
  | recovered _ _ _ _ _ _ _ after_eq => exact absurd after_eq hheld
  | recoveryFailed launch used key_eq before_eq after_eq =>
    rw [before_eq] at h
    cases h with
    | idle used' lane_eq => cases lane_eq
    | blocked reason cleanup lane_eq => cases lane_eq
    | recovering earlier last used' lane_eq ids_eq nodup other used_eq bound =>
      cases lane_eq
      rcases after_eq with ⟨reason, cleanup, hafter⟩ | hafter
      · exact .blocked _ _ hafter nodup other bound
      · -- the id in flight joins the used ones
        refine .idle _ hafter nodup other ?_ bound
        rw [ids_eq, used_eq, List.toFinset_append, Finset.union_comm]
        rfl

/-- **One event**: the episode goes on with the recovery the event launches. -/
theorem step {platform : Platform} {daemon : Daemon} {key : Text}
    (h : Episode (daemon.laneAt key) origin ids) (event : DaemonEvent)
    (hheld : (daemon.step platform event).laneAt key ≠ none) :
    Episode ((daemon.step platform event).laneAt key) origin
      (ids ++ daemon.acceptedRecovery platform key event) := by
  cases event with
  | dispatch env request => exact h.dispatch (recovery_step_dispatch (env.on platform) request)
  | settleLaunch | settleRecovery =>
    show Episode _ origin (ids ++ [])
    rw [List.append_nil]
    exact h.settle rfl hheld

/-- A run in which the lane is not freed. -/
theorem run {platform : Platform} {key : Text} {events : List DaemonEvent} :
    ∀ {daemon : Daemon} {ids : List Text}, Episode (daemon.laneAt key) origin ids →
      (∀ earlier, earlier <+: events → (daemon.run platform earlier).laneAt key ≠ none) →
      Episode ((daemon.run platform events).laneAt key) origin
        (ids ++ daemon.recoveryLaunches platform key events) := by
  induction events with
  | nil =>
    intro daemon ids h _
    rw [recoveryLaunches, List.append_nil]
    exact h
  | cons event events ih =>
    intro daemon ids h hheld
    have hnext : (daemon.step platform event).laneAt key ≠ none := by
      have hfirst : [event] <+: event :: events := ⟨events, rfl⟩
      exact hheld [event] hfirst
    rw [recoveryLaunches, ← List.append_assoc, run_cons]
    refine ih (h.step event hnext) fun earlier hearlier => ?_
    exact hheld (event :: earlier) (List.cons_prefix_cons.mpr ⟨rfl, hearlier⟩)

end Episode

/-- The settlement that makes a lane recovering begins an episode. -/
theorem episode_of_settlement {platform : Platform} {daemon : Daemon} {event : DaemonEvent}
    {key origin : Text} {recovery : Option Text} {used : Finset Text}
    (hsettlement : event.isSettlement)
    (hbefore : ∀ origin recovery used,
      daemon.laneAt key ≠ some (.recovering origin recovery used))
    (hafter : (daemon.step platform event).laneAt key = some (.recovering origin recovery used)) :
    Episode ((daemon.step platform event).laneAt key) origin [] := by
  cases @lane_step platform daemon key event with
  | stays hsame => exact absurd (hsame.symm.trans hafter) (hbefore _ _ _)
  | launched _ _ _ event_eq =>
    rw [event_eq] at hsettlement
    cases hsettlement
  | settled operationId settlement effect repositoryId epoch event_eq before_eq after_eq =>
    rw [hafter] at after_eq ⊢
    rcases after_eq with ⟨hnone, -⟩ | hrecovering | ⟨_, _, hblocked⟩
    · cases hnone
    · cases hrecovering
      exact .idle ∅ rfl List.nodup_nil List.not_mem_nil rfl (Nat.zero_le _)
    · cases hblocked
  | recoveryStarted _ _ _ _ _ event_eq =>
    rw [event_eq] at hsettlement
    cases hsettlement
  | givenUp _ _ before_eq => exact absurd before_eq (hbefore _ _ _)
  | recovered _ _ _ _ _ _ before_eq => exact absurd before_eq (hbefore _ _ _)
  | recoveryFailed _ _ _ before_eq => exact absurd before_eq (hbefore _ _ _)

/-! ## The attempt beyond the bound -/

/-- The request attempts a recovery in the lane under `key`: it names an open session of that
working copy, an id that is not in use and was not used, and the origin of the lane, in which no
recovery is in flight. -/
def AttemptsRecovery (platform : Platform) (daemon : Daemon) (key : Text)
    (request : JsonRpcRequest) : Prop :=
  request.method = .remoteRecoverWorkingCopy ∧
    ∃ recover session used,
      daemon.recoveryTarget platform request.params = .ok (recover, session, key) ∧
      recoveryAdmission (daemon.laneAt key) daemon.activeRemoteOperationIds recover.operationId
        recover.originOperationId = .start used

/-- An attempt in a lane whose recoveries are used up. -/
theorem Episode.attempt {env : DaemonEnvironment} {daemon : Daemon} {key origin : Text}
    {ids : List Text} {request : JsonRpcRequest} (h : Episode (daemon.laneAt key) origin ids)
    (hfull : ids.length = maxRemoteRecoveryOperationIds)
    (hattempt : daemon.AttemptsRecovery env.platform key request) :
    (daemon.dispatch env request).remoteLaunch = none ∧
      (daemon.dispatch env request).remoteRecoveryLaunch = none ∧
      (daemon.dispatch env request).daemon.laneAt key =
        some (.blocked origin .remoteRecoveryBlocked false) := by
  obtain ⟨hmethod, recover, _, used, htarget, hadmission⟩ := hattempt
  obtain ⟨-, hlane⟩ := recoveryAdmission_eq_start_iff.mp hadmission
  rcases hlane with ⟨hnone, -⟩ | ⟨hlane, _⟩
  · exact absurd hnone h.held
  · have hidle := h
    rw [hlane] at hidle
    obtain ⟨horigin, hused⟩ := hidle.of_idle
    have hmany : maxRemoteRecoveryOperationIds ≤ used.card := by
      rw [hused, List.toFinset_card_of_nodup h.distinct.1, hfull]
    rw [dispatch_recover hmethod]
    unfold dispatchRemoteRecoverWorkingCopy recoverWorkingCopy
    rw [htarget]
    dsimp only
    rw [hadmission]
    dsimp only
    rw [if_pos hmany]
    refine ⟨rfl, rfl, ?_⟩
    show (daemon.setLane key
      (.blocked recover.originOperationId .remoteRecoveryBlocked false)).laneAt key = _
    rw [laneAt_setLane, if_pos rfl, horigin]

/-- **Recoveries are bounded and use fresh ids.**  From the settlement that makes a lane recovering
and as long as the lane is not freed: the ids of the recoveries launched in it are distinct and
none of them is that of the settled operation, there are at most `maxRemoteRecoveryOperationIds` of
them, once there are as many no request launches another, and the next attempt blocks the lane. -/
theorem recovery_attempts_bounded (platform : Platform) (daemon : Daemon) (event : DaemonEvent)
    (key origin : Text) (recovery : Option Text) (used : Finset Text)
    (hsettlement : event.isSettlement)
    (hbefore : ∀ origin recovery used,
      daemon.laneAt key ≠ some (.recovering origin recovery used))
    (hafter : (daemon.step platform event).laneAt key = some (.recovering origin recovery used))
    (events : List DaemonEvent)
    (hheld : ∀ earlier, earlier <+: events →
      ((daemon.step platform event).run platform earlier).laneAt key ≠ none) :
    let settled := daemon.step platform event
    let ids := settled.recoveryLaunches platform key events
    let reached := settled.run platform events
    ids.Nodup ∧ origin ∉ ids ∧ ids.length ≤ maxRemoteRecoveryOperationIds ∧
      (ids.length = maxRemoteRecoveryOperationIds →
        ∀ (env : DaemonEnvironment) (request : JsonRpcRequest),
        (∀ launch, (reached.dispatch (env.on platform) request).remoteRecoveryLaunch = some launch →
          launch.laneKey ≠ key) ∧
        (reached.AttemptsRecovery platform key request →
          (reached.dispatch (env.on platform) request).remoteLaunch = none ∧
          (reached.dispatch (env.on platform) request).remoteRecoveryLaunch = none ∧
          (reached.dispatch (env.on platform) request).daemon.laneAt key =
            some (.blocked origin .remoteRecoveryBlocked false))) := by
  intro settled ids reached
  have hepisode : Episode (reached.laneAt key) origin ids := by
    have hrun := (episode_of_settlement hsettlement hbefore hafter).run hheld
    exact hrun
  obtain ⟨hnodup, hother, hbound⟩ := hepisode.distinct
  refine ⟨hnodup, hother, hbound, fun hfull env request => ⟨fun launch hlaunch hkey => ?_,
    fun hattempt => hepisode.attempt hfull hattempt⟩⟩
  -- one more launch would be one too many
  have hnext := hepisode.dispatch (recovery_step_dispatch (env.on platform) request)
  rw [hlaunch, launchedIn, if_pos hkey] at hnext
  have htoo := hnext.distinct.2.2
  rw [List.length_append, List.length_singleton] at htoo
  omega

end Daemon

namespace LaneExample

open JsonValues

/-- A recovery of the inner working copy, whose update was stopped. -/
def recoverInner (operationId : Text) : DaemonEvent :=
  event .remoteRecoverWorkingCopy
    [("repositoryId", .str "u:/wc/sub".toList), ("epoch", .int 2),
     ("operationId", .str operationId), ("originOperationId", .str firstId),
     ("timeoutMs", .int 1000)]

/-- The stopped update leaves the lane recovering, and the recovery that follows uses a fresh id. -/
theorem stopped_update_recovers_with_fresh_id :
    (updating.step .posix (.settleLaunch "/wc/sub" firstId stopped)).recoveryLaunches .posix
        "/wc/sub" [recoverInner secondId] = [secondId] ∧
      firstId ∉ [secondId] := by
  have hids : (updating.step .posix (.settleLaunch "/wc/sub" firstId stopped)).recoveryLaunches
      .posix "/wc/sub" [recoverInner secondId] = [secondId] := by
    decide +kernel
  have hbounded := Daemon.recovery_attempts_bounded .posix updating
    (.settleLaunch "/wc/sub" firstId stopped) "/wc/sub" firstId none ∅ rfl
    (by
      intro _ _ _
      rw [updating_lane]
      simp)
    (by decide +kernel) [recoverInner secondId]
    (by
      intro _ hearlier
      rcases List.prefix_cons_iff.mp hearlier with rfl | ⟨_, rfl, hrest⟩
      · decide +kernel
      · rw [List.prefix_nil.mp hrest]
        decide +kernel)
  refine ⟨hids, ?_⟩
  have hother := hbounded.2.1
  rw [hids] at hother
  exact hother

end LaneExample

end SubversionR

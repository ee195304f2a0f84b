import SubversionR.Lanes.Steps

/-!
# Lane exclusion — workers on overlapping working copies

Two workers must not run at once in working copies one of which contains the other.  The gate sees
to that for the requests that launch a worker: it refuses a request whose working copy overlaps any
lane.  A recovery request is exempt from the gate and looks at the lane of its own working copy
only, so a recovery may start around or inside a working copy in which a worker runs.

* `exclusive_step_iff` — one event keeps the workers apart exactly when it starts no such recovery;
* `exclusive_run_iff` — the same along every run.
-/

namespace SubversionR

open PathOrder

/-- A native worker runs: the operation itself, or a recovery. -/
def RemoteNativeLaneState.inFlight : RemoteNativeLaneState → Bool
  | .active .. => true
  | .recovering _ (some _) _ => true
  | _ => false

namespace Daemon

/-- The lane has a worker in flight. -/
def WorkerAt (daemon : Daemon) (key : Text) : Prop :=
  ∃ state, daemon.laneAt key = some state ∧ state.inFlight = true

/-- No worker runs in a working copy that contains the working copy of another worker. -/
def Exclusive (daemon : Daemon) : Prop :=
  ∀ key key', daemon.WorkerAt key → daemon.WorkerAt key' → key ≠ key' → ¬ Overlaps '/' key key'

/-- The request, if it starts a recovery, starts it away from every other worker. -/
def StartsApart (platform : Platform) (daemon : Daemon) : DaemonEvent → Prop
  | .dispatch _ request =>
    request.method = .remoteRecoverWorkingCopy →
      ∀ key, daemon.recoveryLaneKey platform request.params = some key →
        ∀ other, daemon.WorkerAt other → other ≠ key → ¬ Overlaps '/' key other
  | _ => True

section

variable {platform : Platform} {daemon : Daemon} {event : DaemonEvent}

/-- A worker after an event was there before, or the event started it. -/
theorem workerAt_step {key : Text} (h : (daemon.step platform event).WorkerAt key) :
    daemon.WorkerAt key ∨
      (∃ env request plan, event = .dispatch env request ∧
        (daemon.dispatch (env.on platform) request).remoteLaunch = some plan ∧
        plan.laneKey = key ∧ ¬ daemon.MeetsLane key) ∨
      (∃ env request, event = .dispatch env request ∧
        request.method = .remoteRecoverWorkingCopy ∧
        daemon.recoveryLaneKey platform request.params = some key) := by
  obtain ⟨state, hstate, hflight⟩ := h
  cases @lane_step platform daemon key event with
  | stays h => exact .inl ⟨state, h ▸ hstate, hflight⟩
  | launched env request plan event_eq launch key_eq clear =>
    exact .inr (.inl ⟨env, request, plan, event_eq, launch, key_eq, clear⟩)
  | recoveryStarted env request origin operationId used event_eq method key_eq =>
    exact .inr (.inr ⟨env, request, event_eq, method, key_eq⟩)
  | settled operationId settlement effect repositoryId epoch event_eq before_eq after_eq =>
    -- a settled lane is free, recovering without a worker, or blocked
    rcases after_eq with ⟨hafter, -⟩ | hafter | ⟨reason, cleanup, hafter⟩
    all_goals
      rw [hafter] at hstate
      cases hstate
    all_goals cases hflight
  | givenUp origin used before_eq after_eq =>
    rw [after_eq] at hstate
    cases hstate
    cases hflight
  | recovered launch snapshot used event_eq key_eq safe before_eq after_eq =>
    rw [after_eq] at hstate
    cases hstate
  | recoveryFailed launch used key_eq before_eq after_eq =>
    rcases after_eq with ⟨reason, cleanup, hafter⟩ | hafter
    all_goals
      rw [hafter] at hstate
      cases hstate
      cases hflight

theorem meetsLane_of_workerAt {key other : Text} (h : daemon.WorkerAt other)
    (hoverlap : Overlaps '/' key other) : daemon.MeetsLane key := by
  obtain ⟨state, hstate, -⟩ := h
  exact ⟨other, state, hstate, hoverlap⟩

/-- A worker that an event has started overlaps no worker that was there before. -/
theorem started_apart {key other : Text} (hapart : daemon.StartsApart platform event)
    (hnew : (daemon.step platform event).WorkerAt key) (hold : daemon.WorkerAt other)
    (hne : key ≠ other) : daemon.WorkerAt key ∨ ¬ Overlaps '/' key other := by
  rcases workerAt_step hnew with hkey | ⟨env, request, _, -, -, -, hclear⟩ |
    ⟨env, request, rfl, hmethod, hstart⟩
  · exact .inl hkey
  · exact .inr fun hoverlap => hclear (meetsLane_of_workerAt hold hoverlap)
  · exact .inr (hapart hmethod key hstart other hold (Ne.symm hne))

/-- A request starts at most one worker. -/
theorem started_unique {key key' : Text} (hnew : (daemon.step platform event).WorkerAt key)
    (hnew' : (daemon.step platform event).WorkerAt key') (hfresh : ¬ daemon.WorkerAt key)
    (hfresh' : ¬ daemon.WorkerAt key') : key = key' := by
  rcases workerAt_step hnew with hkey | ⟨env, request, _, rfl, hlaunch, rfl, -⟩ |
    ⟨env, request, rfl, hmethod, hstart⟩
  · exact absurd hkey hfresh
  · rcases workerAt_step hnew' with hkey' | ⟨env', request', plan', heq, hlaunch', rfl, -⟩ |
      ⟨env', request', heq, hmethod, hstart⟩
    · exact absurd hkey' hfresh'
    · cases heq
      rw [hlaunch] at hlaunch'
      cases hlaunch'
      rfl
    · -- a recovery request launches no worker for an operation
      cases heq
      rw [dispatch_recover_remoteLaunch hmethod] at hlaunch
      cases hlaunch
  · rcases workerAt_step hnew' with hkey' | ⟨env', request', plan', heq, hlaunch', rfl, -⟩ |
      ⟨env', request', heq, hmethod', hstart'⟩
    · exact absurd hkey' hfresh'
    · cases heq
      rw [dispatch_recover_remoteLaunch hmethod] at hlaunch'
      cases hlaunch'
    · cases heq
      rw [hstart] at hstart'
      cases hstart'
      rfl

/-- An event that starts recoveries apart keeps the workers apart. -/
theorem exclusive_step (hexclusive : daemon.Exclusive)
    (hapart : daemon.StartsApart platform event) : (daemon.step platform event).Exclusive := by
  intro key key' hnew hnew' hne
  by_cases hold : daemon.WorkerAt key
  · by_cases hold' : daemon.WorkerAt key'
    · exact hexclusive key key' hold hold' hne
    · rcases started_apart hapart hnew' hold (Ne.symm hne) with h | h
      · exact absurd h hold'
      · exact fun hoverlap => h hoverlap.symm
  · by_cases hold' : daemon.WorkerAt key'
    · rcases started_apart hapart hnew hold' hne with h | h
      · exact absurd h hold
      · exact h
    · exact absurd (started_unique hnew hnew' hold hold') hne

/-- A worker whose lane the event does not start a recovery in goes on. -/
theorem workerAt_of_recover {env : DaemonEnvironment} {request : JsonRpcRequest} {key other : Text}
    (hmethod : request.method = .remoteRecoverWorkingCopy)
    (hstart : daemon.recoveryLaneKey platform request.params = some key) :
    (daemon.step platform (.dispatch env request)).WorkerAt key ∧
      (daemon.WorkerAt other → other ≠ key →
        (daemon.step platform (.dispatch env request)).WorkerAt other) := by
  show ((daemon.dispatch (env.on platform) request).daemon.WorkerAt key) ∧ (_ → _ →
    (daemon.dispatch (env.on platform) request).daemon.WorkerAt other)
  rw [dispatch_recover_daemon hmethod]
  show (daemon.recoverWorkingCopy platform request.params).2.WorkerAt key ∧ (_ → _ →
    (daemon.recoverWorkingCopy platform request.params).2.WorkerAt other)
  rcases hrecover : daemon.recoverWorkingCopy platform request.params with ⟨start, daemon'⟩
  rcases recoverWorkingCopy_cases hrecover with ⟨-, -, hnone⟩ | ⟨_, _, _, -, hcase⟩
  · rw [hstart] at hnone
    cases hnone
  · rcases hcase with ⟨-, -, hnone, -⟩ | ⟨-, -, hkey, rfl⟩
    · rw [hstart] at hnone
      cases hnone
    · rw [hstart] at hkey
      cases hkey
      refine ⟨⟨_, by rw [laneAt_setLane, if_pos rfl], rfl⟩, ?_⟩
      rintro ⟨state, hstate, hflight⟩ hne
      exact ⟨state, by rw [laneAt_setLane, if_neg hne]; exact hstate, hflight⟩

/-- **One event keeps the workers apart exactly when it starts its recovery apart.** -/
theorem exclusive_step_iff (hexclusive : daemon.Exclusive) :
    (daemon.step platform event).Exclusive ↔ daemon.StartsApart platform event := by
  refine ⟨?_, exclusive_step hexclusive⟩
  intro hafter
  cases event with
  | settleLaunch laneKey operationId settlement => trivial
  | settleRecovery launch recovery => trivial
  | dispatch env request =>
    intro hmethod key hstart other hother hne
    obtain ⟨hkey, hkeeps⟩ := @workerAt_of_recover platform daemon env request key other
      hmethod hstart
    exact hafter key other hkey (hkeeps hother hne) (Ne.symm hne)

end

/-- No worker runs in a new daemon. -/
theorem exclusive_new : Daemon.new.Exclusive := by
  rintro _ _ ⟨_, hstate, -⟩
  cases hstate

/-- **Workers on overlapping working copies.**  In a run of the daemon, no state ever has two
workers in flight of whose working copies one contains the other, exactly when no recovery request
of the run starts a recovery in a working copy that contains, or lies in, the working copy of a
worker in flight at that moment. -/
theorem exclusive_run_iff (platform : Platform) (events : List DaemonEvent) :
    (∀ earlier later, events = earlier ++ later → (Daemon.new.run platform earlier).Exclusive) ↔
      ∀ earlier event later, events = earlier ++ event :: later →
        (Daemon.new.run platform earlier).StartsApart platform event := by
  constructor
  · intro hall earlier event later hevents
    have hbefore := hall earlier (event :: later) hevents
    have hafter := hall (earlier ++ [event]) later (by rw [hevents]; simp)
    rw [run_append] at hafter
    exact (exclusive_step_iff hbefore).mp hafter
  · intro hapart earlier
    -- from the first event of the run to the last
    induction earlier using List.reverseRecOn with
    | nil => exact fun _ _ => exclusive_new
    | append_singleton earlier event ih =>
      intro later hevents
      rw [List.append_assoc] at hevents
      rw [run_append]
      exact exclusive_step (ih _ hevents) (hapart earlier event later hevents)

end Daemon

namespace LaneExample

/-- A worker updates `/wc/sub` while another one recovers `/wc`, which contains it. -/
theorem two_workers_overlap :
    ¬ (Daemon.new.run .posix
      [start, openAt "/wc", openAt "/wc/sub", update "u:/wc/sub" 2, recoverOuter]).Exclusive := by
  intro hexclusive
  refine hexclusive "/wc" "/wc/sub" ⟨.recovering thirdId (some secondId) ∅, ?_, rfl⟩
    ⟨.active firstId .mutation (some "u:/wc/sub".toList) (some 2), ?_, rfl⟩ (by decide) ?_
  · decide +kernel
  · decide +kernel
  · exact .inr (.inr ⟨"sub".toList, rfl⟩)

end LaneExample

end SubversionR

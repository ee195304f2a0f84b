import SubversionR.Refresh.Timers

/-!
# Stranded paths — when dirty paths wait for nothing

A dirty path is refreshed because something will flush it: the debounce timer, or a flush that waits
for the refresh that runs.  `Awake` says that this is so whenever there are dirty paths.  Two kinds
of events can break it: the end of a refresh that failed, which merges its targets back without
starting the timer, and a stale mark that is refused, which ends a file event before it starts the
timer and a flush after it has stopped it.

* `StaleMarksTaken` — the store and the projection agree with the watch scope, so that no stale mark
  is refused;
* `Awake.step` — every event that meets `StepKeepsAwake` keeps the scheduler awake;
* `no_stranded_paths` — in every run of such events dirty paths never wait for nothing;
* `failed_refresh_strands_path` — a refresh that fails leaves its path with no timer.
-/

namespace SubversionR

open Runs KeyedMaps KeyedMap RefreshScheduler

/-! ## Stale marks that are taken -/

namespace StatusClient

/-- Both sides show nothing of the repository, or both show it in the epoch of the watch scope, and
the mark has nothing the store refuses. -/
def StaleMarksTaken (runtime : Runtime) (client : StatusClient) : Prop :=
  (client.store.getSnapshot client.scope.repositoryId = none ∧
    client.projection.getProjection client.scope.repositoryId = none) ∨
  ((client.store.getSnapshot client.scope.repositoryId).map StoredStatusSnapshot.epoch =
      some client.scope.epoch ∧
    (client.projection.getProjection client.scope.repositoryId).map
      RepositoryProjectionState.epoch =
      some client.scope.epoch ∧
    client.scope.repositoryId.nonBlankJs = true ∧ isSafeInteger client.scope.epoch = true ∧
    ∀ timestamp, (runtime.toISOString timestamp).nonBlankJs = true)

end StatusClient

/-- The store takes a mark of the epoch it holds, and holds that epoch afterwards. -/
theorem StatusSnapshotStore.markStale_of_epoch {store : StatusSnapshotStore}
    {mark : StatusStaleMark}
    (hepoch : (store.getSnapshot mark.repositoryId).map StoredStatusSnapshot.epoch =
      some mark.epoch)
    (hid : mark.repositoryId.nonBlankJs = true) (hreason : mark.reason.nonBlankJs = true)
    (htimestamp : mark.timestamp.nonBlankJs = true) (hsource : mark.source.nonBlankJs = true)
    (hsafe : isSafeInteger mark.epoch = true) :
    ∃ store', store.markStale mark = .ok store' ∧
      (store'.getSnapshot mark.repositoryId).map StoredStatusSnapshot.epoch = some mark.epoch := by
  obtain ⟨_, hsnapshot, hsame⟩ := Option.map_eq_some_iff.mp hepoch
  obtain ⟨state, hget, hstate⟩ := Option.bind_eq_some_iff.mp hsnapshot
  obtain ⟨contents, hcontents, rfl⟩ := Option.map_eq_some_iff.mp hstate
  have hmark : state.markStale mark = .ok { state with contents := some { contents with
      completeness := "stale", timestamp := mark.timestamp, source := mark.source } } := by
    unfold RepositoryState.markStale
    rw [if_neg (not_not.mpr hsame), hcontents]
  have hupdate := (@update_eq_ok_iff store _ mark.repositoryId (·.markStale mark)).mpr
    ⟨state, _, hget, hmark, rfl⟩
  have htaken : store.markStale mark = store.update mark.repositoryId (·.markStale mark) := by
    unfold StatusSnapshotStore.markStale
    rw [if_neg (by simp [hid]), if_neg (by simp [hreason]), if_neg (by simp [htimestamp]),
      if_neg (by simp [hsource]), if_neg (by simp [hsafe])]
  refine ⟨_, htaken.trans hupdate, ?_⟩
  unfold StatusSnapshotStore.getSnapshot
  rw [get?_insert, if_pos (key_of_get? hget)]
  show some state.epoch = some mark.epoch
  rw [← hsame]

/-- The projection takes a mark of the epoch it shows, and shows that epoch afterwards. -/
theorem SourceControlProjection.markStale_of_epoch {projection : SourceControlProjection}
    {mark : StatusStaleMark}
    (hepoch : (projection.getProjection mark.repositoryId).map RepositoryProjectionState.epoch =
      some mark.epoch) :
    ∃ projection', projection.markStale mark = .ok projection' ∧
      (projection'.getProjection mark.repositoryId).map RepositoryProjectionState.epoch =
        some mark.epoch := by
  obtain ⟨state, hshown, hsame⟩ := Option.map_eq_some_iff.mp hepoch
  obtain ⟨hget, hsome⟩ := Option.filter_eq_some_iff.mp hshown
  obtain ⟨contents, hcontents⟩ := Option.isSome_iff_exists.mp hsome
  have hmark := RepositoryProjectionState.markStale_eq_ok_iff.mpr ⟨hsame, contents, hcontents, rfl⟩
  refine ⟨_, update_eq_ok_iff.mpr ⟨state, _, hget, hmark, rfl⟩, ?_⟩
  unfold getProjection
  rw [get?_insert, if_pos (key_of_get? hget)]
  simp [hsame]

namespace StatusClient

variable {runtime : Runtime} {client : StatusClient}

section

variable (h : client.StaleMarksTaken runtime)

include h

/-- **A stale mark is taken**, and the next one will be as well. -/
theorem StaleMarksTaken.mark {reason source : Text} (timestamp : Int)
    (hreason : reason.nonBlankJs = true) (hsource : source.nonBlankJs = true) :
    ∃ marked client', client.markStaleIfInitialized
        (client.staleMark runtime reason timestamp source) = (.ok marked, client') ∧
      client'.StaleMarksTaken runtime := by
  rcases h with ⟨hnone, hnone'⟩ | ⟨hstore, hprojection, hid, hsafe, hiso⟩
  · refine ⟨false, client, ?_, .inl ⟨hnone, hnone'⟩⟩
    unfold markStaleIfInitialized
    dsimp only [staleMark]
    rw [hnone, hnone']
    rfl
  · obtain ⟨store, hmarkStore, hstore'⟩ := @StatusSnapshotStore.markStale_of_epoch client.store
      (client.staleMark runtime reason timestamp source) hstore hid hreason (hiso timestamp) hsource
      hsafe
    obtain ⟨projection, hmarkProjection, hprojection'⟩ :=
      @SourceControlProjection.markStale_of_epoch client.projection
        (client.staleMark runtime reason timestamp source) hprojection
    refine ⟨true, { client with store := store, projection := projection }, ?_,
      .inr ⟨hstore', hprojection', hid, hsafe, hiso⟩⟩
    have hshown : ¬ ((client.store.getSnapshot client.scope.repositoryId).isNone = true ∧
        (client.projection.getProjection client.scope.repositoryId).isNone = true) := by
      obtain ⟨_, hsnapshot, -⟩ := Option.map_eq_some_iff.mp hstore
      simp [hsnapshot]
    unfold markStaleIfInitialized
    rw [show (client.staleMark runtime reason timestamp source).repositoryId =
      client.scope.repositoryId from rfl, if_neg hshown, if_neg (not_not.mpr hstore),
        if_neg (not_not.mpr hprojection), hmarkStore]
    dsimp only
    rw [hmarkProjection]

theorem StaleMarksTaken.markOverflow :
    ∃ client', client.markOverflowStaleIfInitialized runtime = (.ok (), client') ∧
      client'.StaleMarksTaken runtime := by
  unfold markOverflowStaleIfInitialized
  split
  · exact ⟨client, rfl, h⟩
  split
  · exact ⟨client, rfl, h⟩
  rename_i timestamp _
  have hreason : Text.nonBlankJs "watcherOverflow" = true := by decide
  have hsource : Text.nonBlankJs "vscode-watcher" = true := by decide
  obtain ⟨marked, client', hmark, htaken⟩ := h.mark timestamp hreason hsource
  rw [hmark]
  cases marked with
  | false => exact ⟨client', rfl, htaken⟩
  | true => exact ⟨_, rfl, htaken⟩

theorem StaleMarksTaken.cancel (timestamp : Int) :
    ∃ client', client.cancelInFlightRefreshForDirtyGeneration runtime timestamp =
      (.ok (), client') := by
  unfold cancelInFlightRefreshForDirtyGeneration
  split
  · exact ⟨client, rfl⟩
  split
  · exact ⟨client, rfl⟩
  have hreason : Text.nonBlankJs "refreshCancelled" = true := by decide
  have hsource : Text.nonBlankJs "vscode-status-scheduler" = true := by decide
  obtain ⟨_, client', hmark, -⟩ := h.mark timestamp hreason hsource
  rw [hmark]
  exact ⟨_, rfl⟩

end

end StatusClient

theorem DirtyPathSet.record_of_refused {fold : Text → Text} {set : DirtyPathSet}
    {event : DirtyFileEvent} (h : (set.record fold event).1 = false) :
    (set.record fold event).2 = set := by
  unfold record at h ⊢
  split
  · rfl
  split
  · rfl
  · rfl
  · rename_i hoverflowed _ _ _ hnormalized
    rw [if_neg hoverflowed] at h
    simp only [hnormalized] at h
    split at h
    · cases h
    · split at h <;> cases h

namespace StatusClient

variable {runtime : Runtime} {client : StatusClient}

/-- A file event is refused and changes no dirty path, or it succeeds. -/
theorem StaleMarksTaken.recordFileEvent (h : client.StaleMarksTaken runtime)
    (event : DirtyFileEvent) :
    (client.recordFileEvent runtime event).1 = .ok true ∨
      (client.recordFileEvent runtime event).2.dirtyPaths = client.dirtyPaths := by
  have hdirty := (client.recordFileEvent_records runtime event).2.1
  unfold StatusClient.recordFileEvent
  rcases hrecord : client.recordDirtyPath runtime event with ⟨accepted, recorded⟩
  cases accepted with
  | false =>
    right
    have hrefused : (client.dirtyPaths.record runtime.toLocaleLowerCase event).1 = false := by
      rw [← (client.recordDirtyPath_quiet runtime event).2, hrecord]
    rw [StatusClient.recordFileEvent, hrecord] at hdirty
    exact hdirty.trans (DirtyPathSet.record_of_refused hrefused)
  | true =>
    left
    have htaken : recorded.StaleMarksTaken runtime := by
      unfold recordDirtyPath at hrecord
      dsimp only at hrecord
      split at hrecord
      · obtain ⟨-, rfl⟩ := Prod.mk.inj hrecord
        exact h
      · obtain ⟨-, rfl⟩ := Prod.mk.inj hrecord
        exact h
    obtain ⟨_, hmarked, htaken'⟩ := htaken.markOverflow
    obtain ⟨_, hcancelled⟩ := htaken'.cancel event.timestamp
    dsimp only
    rw [hmarked]
    dsimp only
    rw [hcancelled]

theorem beginRefresh_dirtyPaths (kind : RefreshKind) (targets : List StatusRefreshTarget)
    (signal : CallerSignal) :
    (client.beginRefresh kind targets signal).dirtyPaths = client.dirtyPaths := by
  obtain ⟨_, _, heq, -⟩ := client.beginRefresh_cases kind targets signal
  rw [heq]

/-- A flush that finds the marks taken drains the dirty paths. -/
theorem StaleMarksTaken.flushRepository (h : client.StaleMarksTaken runtime)
    (signal : CallerSignal) :
    (client.flushRepository runtime signal).2.dirtyPaths.toRefreshTargets = [] := by
  obtain ⟨_, hmarked, -⟩ := h.markOverflow
  unfold StatusClient.flushRepository
  rw [hmarked]
  dsimp only [DirtyPathSet.drainToRefreshTargets]
  split
  · rfl
  · rw [beginRefresh_dirtyPaths]
    rfl

theorem runFullReconcile_drains (reason : FullReconcileReason) (signal : CallerSignal) :
    (client.runFullReconcile reason signal).dirtyPaths.toRefreshTargets = [] := by
  unfold runFullReconcile
  rw [beginRefresh_dirtyPaths]
  rfl

theorem refreshTargets_dirtyPaths (epoch : Nat) (targets : List StatusRefreshTarget)
    (signal : CallerSignal) :
    (client.refreshTargets epoch targets signal).2.dirtyPaths = client.dirtyPaths := by
  unfold refreshTargets
  split
  · rfl
  split
  · rfl
  · exact beginRefresh_dirtyPaths _ _ _

theorem refreshResource_dirtyPaths (epoch : Nat) (path : Text) :
    (client.refreshResource epoch path).2.dirtyPaths = client.dirtyPaths := by
  unfold refreshResource
  split
  · rfl
  split
  · rfl
  · exact beginRefresh_dirtyPaths _ _ _

/-- The delta of the refresh is taken; otherwise its targets are merged back. -/
def refreshSucceeds (client : StatusClient) (refresh : CurrentRefresh) : Bool :=
  match refresh.phase with
  | .settled (.ok delta) => (client.acceptDelta refresh delta).isOk
  | _ => false

theorem refreshSucceeds_of_refused {refresh : CurrentRefresh}
    {result : Except RequestFailure StatusDelta} (hphase : refresh.phase = .settled result)
    (h : ∀ delta, result = .ok delta → (client.acceptDelta refresh delta).isOk = false) :
    client.refreshSucceeds refresh = false := by
  unfold refreshSucceeds
  rw [hphase]
  cases result with
  | error failure => rfl
  | ok delta => exact h delta rfl

end StatusClient

/-! ## The scheduler stays awake -/

/-- Replacing a member by one that passes the same test. -/
theorem any_set_of_eq {α : Type} {p : α → Bool} {l : List α} {index : Nat} {a b : α}
    (h : l[index]? = some a) (hp : p b = p a) : (l.set index b).any p = l.any p := by
  induction l generalizing index with
  | nil => cases h
  | cons x rest ih =>
    cases index with
    | zero =>
      obtain rfl : x = a := Option.some.inj h
      simp [hp]
    | succ index =>
      have hrest := ih h
      simp [hrest]

/-- Removing a member that does not pass the test. -/
theorem any_eraseIdx_of_false {α : Type} {p : α → Bool} {l : List α} {index : Nat} {a : α}
    (h : l[index]? = some a) (hp : p a = false) : (l.eraseIdx index).any p = l.any p := by
  induction l generalizing index with
  | nil => cases h
  | cons x rest ih =>
    cases index with
    | zero =>
      obtain rfl : x = a := Option.some.inj h
      simp [hp]
    | succ index =>
      have hrest := ih h
      simp [hrest]

namespace RefreshScheduler

/-- A flush waits for the end of what runs. -/
def flushWaits (s : RefreshScheduler) : Bool := s.waiting.any RefreshCall.isFlush

/-- Some refresh chain or exclusive operation is running; a flush that waits is one. -/
def running (s : RefreshScheduler) : Bool := s.busy || s.flushWaits

/-- There are dirty paths, and nothing will refresh them. -/
def Stranded (s : RefreshScheduler) : Prop :=
  s.client.dirtyPaths.toRefreshTargets ≠ [] ∧ s.running = false ∧ s.timer = false

instance (s : RefreshScheduler) : Decidable s.Stranded := inferInstanceAs (Decidable (_ ∧ _ ∧ _))

/-- Whatever is dirty will be flushed. -/
def Awake (s : RefreshScheduler) : Prop :=
  s.client.dirtyPaths.toRefreshTargets ≠ [] → s.timer = true ∨ s.flushWaits = true

theorem Awake.not_stranded {s : RefreshScheduler} (h : s.Awake) : ¬ s.Stranded := by
  rintro ⟨hdirty, hrunning, htimer⟩
  unfold running at hrunning
  rw [Bool.or_eq_false_iff] at hrunning
  rcases h hdirty with h | h
  · rw [htimer] at h
    cases h
  · rw [hrunning.2] at h
    cases h

/-- A refresh that ends without success has nothing to merge back, or the timer or a flush is
waiting. -/
def SettlesAwake (s : RefreshScheduler) : RefreshEvent → Prop
  | .settle => ∀ refresh ∈ s.client.currentRefresh, s.client.refreshSucceeds refresh = true ∨
      refresh.mergedBack = [] ∨ s.timer = true ∨ s.flushWaits = true
  | _ => True

instance (s : RefreshScheduler) : DecidablePred s.SettlesAwake
  | .settle => inferInstanceAs (Decidable (∀ refresh ∈ s.client.currentRefresh, _))
  | .fileEvent _ | .call _ | .resume _ | .abort | .abortWaiting _ | .timer | .fullReconcileTimer
  | .answer _ | .publish | .finish | .endExclusive .. => isTrue trivial

/-- The condition on an event: stale marks are taken, and a refresh that fails with targets to merge
back does so while the timer or a flush is waiting. -/
def StepKeepsAwake (runtime : Runtime) (s : RefreshScheduler) (event : RefreshEvent) : Prop :=
  s.client.StaleMarksTaken runtime ∧ s.SettlesAwake event

variable {runtime : Runtime} {s s' : RefreshScheduler} {event : RefreshEvent}

/-- A state with the same dirty paths, the same timer and the same flushes waiting. -/
theorem Awake.congr (h : s.Awake) (hdirty : s'.client.dirtyPaths = s.client.dirtyPaths)
    (htimer : s'.timer = s.timer) (hwaits : s'.flushWaits = s.flushWaits) : s'.Awake := by
  unfold Awake
  rw [hdirty, htimer, hwaits]
  exact h

theorem awake_of_drained (h : s.client.dirtyPaths.toRefreshTargets = []) : s.Awake :=
  fun hdirty => absurd h hdirty

/-- A call that starts drains the dirty paths, or leaves them and the timer alone. -/
theorem start_drains (htaken : s.client.StaleMarksTaken runtime) (call : RefreshCall) :
    (s.start runtime call).client.dirtyPaths.toRefreshTargets = [] ∨
      call.isFlush = false ∧
        (s.start runtime call).client.dirtyPaths = s.client.dirtyPaths ∧
        (s.start runtime call).timer = s.timer ∧
        (s.start runtime call).waiting = s.waiting := by
  unfold start
  cases call with
  | flush signal => exact .inl (htaken.flushRepository signal)
  | refreshTargets epoch targets signal =>
    exact .inr ⟨rfl, StatusClient.refreshTargets_dirtyPaths epoch targets signal, rfl, rfl⟩
  | refreshResource epoch path =>
    exact .inr ⟨rfl, StatusClient.refreshResource_dirtyPaths epoch path, rfl, rfl⟩
  | fullReconcile epoch signal =>
    dsimp only
    split
    · exact .inl (StatusClient.runFullReconcile_drains .manual signal)
    · exact .inr ⟨rfl, rfl, rfl, rfl⟩
  | scheduledFullReconcile =>
    exact .inl (StatusClient.runFullReconcile_drains .scheduled .absent)
  | runExclusive => exact .inr ⟨rfl, rfl, rfl, rfl⟩

/-- A call keeps the scheduler awake; for a flush this does not depend on the timer. -/
theorem request_awake (htaken : s.client.StaleMarksTaken runtime) (call : RefreshCall)
    (h : s.Awake ∨ call.isFlush = true) : (s.request runtime call).Awake := by
  unfold request
  split
  · rcases start_drains htaken call with hdrained | ⟨hflush, hdirty, htimer, hwaiting⟩
    · exact awake_of_drained hdrained
    · have hawake := h.resolve_right (by simp [hflush])
      refine hawake.congr hdirty htimer ?_
      unfold flushWaits
      rw [hwaiting]
  · have hwaits : ∀ waits : Bool, call.isFlush = true ∨ waits = true →
        (waits || call.isFlush) = true := by
      intro waits hor
      rcases hor with hflush | hwaits
      · rw [hflush, Bool.or_true]
      · rw [hwaits, Bool.true_or]
    split
    · intro hdirty
      have hany : { s with waiting := s.waiting ++ [call] }.flushWaits =
          (s.flushWaits || call.isFlush) := by
        simp [flushWaits]
      rw [hany]
      rcases h with hawake | hflush
      · rcases hawake hdirty with htimer | hwaits'
        · exact .inl htimer
        · exact .inr (hwaits _ (.inr hwaits'))
      · exact .inr (hwaits _ (.inl hflush))
    · rename_i hrefused
      refine h.resolve_right ?_
      intro hflush
      cases call with
      | flush signal => exact hrefused rfl
      | _ => cases hflush

theorem flushWaits_set_aborted {index : Nat} {call : RefreshCall}
    (h : s.waiting[index]? = some call) :
    { s with waiting := s.waiting.set index call.aborted }.flushWaits = s.flushWaits := by
  have hsame : call.aborted.isFlush = call.isFlush := by
    unfold RefreshCall.aborted
    split <;> rfl
  exact any_set_of_eq h hsame

/-- **One event** that meets the condition keeps the scheduler awake. -/
theorem Awake.step (h : s.Awake) (hok : StepKeepsAwake runtime s event)
    (hstep : s.step runtime event = some s') : s'.Awake := by
  obtain ⟨htaken, hsettle⟩ := hok
  cases steps_of_step hstep with
  | fileEvent event =>
    have hcases := htaken.recordFileEvent event
    unfold recordFileEvent
    split <;> rename_i heq
    · exact fun _ => .inl rfl
    · rename_i client hnot
      rw [heq] at hcases
      refine h.congr (hcases.resolve_left ?_) rfl rfl
      intro hresult
      exact hnot hresult
  | call call => exact request_awake htaken call (.inl h)
  | @resume index call hcall =>
    rcases @start_drains runtime { s with waiting := s.waiting.eraseIdx index } htaken call with
      hdrained | ⟨hflush, hdirty, htimer, hwaiting⟩
    · exact awake_of_drained hdrained
    · refine h.congr hdirty htimer ?_
      -- the call that goes on is no flush, so the same flushes wait
      unfold flushWaits
      rw [hwaiting]
      exact any_eraseIdx_of_false hcall hflush
  | abortWaiting hcall => exact h.congr rfl rfl (flushWaits_set_aborted hcall)
  | timer =>
    exact @request_awake runtime { s with timer := false } htaken (.flush .absent) (.inr rfl)
  | fullReconcileTimer =>
    exact @request_awake runtime { s with fullReconcileTimer := false } htaken
      .scheduledFullReconcile (.inl h)
  | endExclusive store projection => exact h
  | abort => exact h.congr (s.client.abortRefresh_continues .userCancelled).2.1 rfl rfl
  | answer result => exact h
  | @settle refresh result hcurrent hphase =>
    rcases s.client.settleRefresh_cases refresh result with
      ⟨delta, store, -, -, heq⟩ | ⟨hrefused, heq⟩
    · exact h.congr (by rw [heq]) rfl rfl
    · rcases hsettle refresh hcurrent with hsucceeds | hnothing | hwaits
      · rw [StatusClient.refreshSucceeds_of_refused hphase hrefused] at hsucceeds
        cases hsucceeds
      · refine h.congr ?_ rfl rfl
        rw [heq, hnothing]
        rfl
      · exact fun _ => hwaits
  | @publish refresh delta =>
    obtain ⟨projection, heq⟩ := s.client.publishRefresh_eq refresh delta
    exact h.congr (by rw [heq]) rfl rfl
  | finish =>
    obtain ⟨_, _, heq⟩ := s.client.finishRefresh_eq
    exact h.congr (by rw [finish, heq]) rfl rfl

end RefreshScheduler

/-! ## Every run -/

/-- **No stranded dirty paths.**  In every run in which no stale mark is refused and no refresh
fails with targets to merge back while neither the timer nor a flush is waiting, dirty paths never
wait for nothing: when no refresh chain and no exclusive operation is running, the timer is pending.
-/
theorem no_stranded_paths {runtime : Runtime} {scope : RepositoryWatchScope}
    {maxDirtyPaths : Option Int} {fullReconcileIntervalMs : Option Nat}
      {store : StatusSnapshotStore}
    {projection : SourceControlProjection} {transport : Transport} {events : List RefreshEvent}
    {s : RefreshScheduler}
    (hrun : run (step runtime) (.register scope maxDirtyPaths
      fullReconcileIntervalMs store projection transport) events = some s)
    (hok : Along (step runtime) (RefreshScheduler.StepKeepsAwake runtime)
      (.register scope maxDirtyPaths fullReconcileIntervalMs store projection transport) events)
    (hdirty : s.client.dirtyPaths.toRefreshTargets ≠ []) (hidle : s.running = false) :
    s.timer = true := by
  have hinit : (register scope maxDirtyPaths fullReconcileIntervalMs store
      projection transport).Awake := awake_of_drained rfl
  have hawake : s.Awake :=
    run_invariant (fun _ _ _ h hevent hstep => h.step hevent hstep) hinit hok hrun
  have hnot := hawake.not_stranded
  by_contra htimer
  exact hnot ⟨hdirty, hidle, by simpa using htimer⟩

namespace RefreshExample

/-- **A failed refresh strands its path**: the timer has fired, the refresh has ended, the path is
dirty again and nothing will flush it. -/
theorem failed_refresh_strands_path :
    ((run (step runtime) registered
      ([.fileEvent ⟨"/wc/a.txt", .change, 0⟩, .timer] ++ failing)).map fun s =>
        (s.client.dirtyPaths.toRefreshTargets, s.running, s.timer)) =
      some ([⟨"a.txt", .empty, "fileChanged"⟩], false, false) := by
  decide +kernel

/-- A file event supersedes the refresh of another one, which ends. -/
def superseding : List RefreshEvent :=
  [.fileEvent ⟨"/wc/a.txt", .change, 0⟩, .timer, .fileEvent ⟨"/wc/b.txt", .change, 1⟩, .settle,
    .finish]

def superseded : RefreshScheduler :=
  (run (step runtime) registered superseding).get (by decide +kernel)

theorem superseded_refresh_waits_for_timer :
    superseded.client.dirtyPaths.toRefreshTargets ≠ [] ∧ superseded.running = false ∧
      superseded.timer = true := by
  have hrun : run (step runtime) registered superseding = some superseded :=
    (Option.some_get _).symm
  have hok : Along (step runtime) (fun s event =>
      (s.client.store.getSnapshot s.client.scope.repositoryId = none ∧
        s.client.projection.getProjection s.client.scope.repositoryId = none) ∧
      s.SettlesAwake event) registered superseding := by decide +kernel
  have hdirty : superseded.client.dirtyPaths.toRefreshTargets ≠ [] := by decide +kernel
  have hidle : superseded.running = false := by decide +kernel
  exact ⟨hdirty, hidle, no_stranded_paths hrun (hok.mono fun s event h => ⟨.inl h.1, h.2⟩) hdirty
    hidle⟩

end RefreshExample

end SubversionR

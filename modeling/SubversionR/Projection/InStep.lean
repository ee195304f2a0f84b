import SubversionR.Refresh.Timers
import SubversionR.Projection.Shows

/-!
# InStep — the snapshot store and the Source Control view

A refresh applies its delta twice: one promise callback gives it to the snapshot store, the next one
to the resources of the Source Control view.  Here the scheduler of `Refresh.Timers` carries the
resources along, and stale notifications arrive at any time.

Between the two callbacks the store is one delta ahead.  An abort at that point makes the second
callback throw; the targets are not merged back, and the view stays behind
(`InStepExample.abort_leaves_view_behind`).  Without such an abort the two hold the same entries
whenever no refresh runs (`store_and_view_hold_the_same`).

* `InStep`, `Ahead` — the two relations of store and view;
* `Tracks` — the phase of the refresh says which of them holds; every event keeps it.
-/

namespace SubversionR

open Runs OrderedMaps KeyedMaps KeyedMap StatusClient

/-! ## Stale marks -/

namespace StatusClient

/-- The handler of `status/stale` and `watcher/overflow`; an exception keeps what was done. -/
def staleNotification (client : StatusClient) (mark : StatusStaleMark) : StatusClient :=
  if (client.store.getSnapshot mark.repositoryId).map StoredStatusSnapshot.epoch ≠
    some mark.epoch then
    client
  else if (client.projection.getProjection mark.repositoryId).map RepositoryProjectionState.epoch ≠
      some mark.epoch then client
  else
    match client.store.markStale mark with
    | .error _ => client
    | .ok store =>
      match client.projection.markStale mark with
      | .ok projection => { client with store, projection }
      | .error _ =>
        -- the view is rebuilt from the store
        match store.getSnapshot mark.repositoryId with
        | none => { client with store }
        | some snapshot =>
          if snapshot.epoch ≠ mark.epoch then { client with store }
          else
            match client.projection.replaceSnapshot snapshot.header with
            | .error _ => { client with store }
            | .ok projection => { client with store, projection }

/-- The repository, the entries and the generations on both sides are the same. -/
structure Calm (client client' : StatusClient) : Prop where
  scope : client'.scope = client.scope
  core : ∀ id, client'.store.core id = client.store.core id
  position : ∀ id, client'.projection.position id = client.projection.position id

theorem Calm.trans {a b c : StatusClient} (h : Calm a b) (h' : Calm b c) : Calm a c :=
  ⟨h'.scope.trans h.scope, fun id => (h'.core id).trans (h.core id),
    fun id => (h'.position id).trans (h.position id)⟩

/-- The checks before a notification leave nothing for the view to refuse. -/
theorem staleNotification_quiet (client : StatusClient) (mark : StatusStaleMark) :
    Quiet client (client.staleNotification mark) := by
  have hrefl := (Marks.refl client).toQuiet
  unfold staleNotification
  split
  · exact hrefl
  split
  · exact hrefl
  rename_i hshown
  split
  · exact hrefl
  rename_i hstore
  obtain ⟨_, hget, hepoch⟩ := Option.map_eq_some_iff.mp (not_not.mp hshown)
  obtain ⟨projection, hmark⟩ := SourceControlProjection.markStale_of_getProjection hget hepoch
  rw [hmark]
  exact ⟨rfl, StatusSnapshotStore.core_of_markStale hstore,
    SourceControlProjection.position_of_markStale hmark, rfl, rfl⟩

/-! ## What the events do to the refresh that runs -/

/-- The delta that the store has and the view has not. -/
def unpublishedDelta (client : StatusClient) : Option StatusDelta :=
  match client.phase with
  | some (.applied delta) => some delta
  | _ => none

/-- The refresh goes on, or its request is forgotten. -/
structure Proceeds (client client' : StatusClient) : Prop extends Calm client client' where
  unpublishedDelta : client'.unpublishedDelta = client.unpublishedDelta
  answered : ∀ delta, client'.phase = some (.settled (.ok delta)) →
    client.phase = some (.settled (.ok delta))
  cancelReason : client.unpublishedDelta.isSome →
    client'.currentRefresh.bind CurrentRefresh.cancelReason =
      client.currentRefresh.bind CurrentRefresh.cancelReason

variable {client : StatusClient}

variable {client' : StatusClient}

theorem Quiet.proceeds (h : Quiet client client') : Proceeds client client' := by
  have hphase : client'.phase = client.phase := by
    unfold phase
    rw [h.currentRefresh]
  refine ⟨⟨h.scope, h.core, h.position⟩, ?_, fun delta => ?_, fun _ => by rw [h.currentRefresh]⟩
  · unfold unpublishedDelta
    rw [hphase]
  · rw [hphase]
    exact id

/-- Nothing is left to publish, neither before nor after. -/
theorem proceeds_of_none (h : client.unpublishedDelta = none) (hcalm : Calm client client')
    (h' : client'.unpublishedDelta = none)
    (hanswered : ∀ delta, client'.phase = some (.settled (.ok delta)) →
      client.phase = some (.settled (.ok delta))) : Proceeds client client' :=
  ⟨hcalm, h'.trans h.symm, hanswered, fun hsome => by rw [h] at hsome; cases hsome⟩

theorem abortRefresh_proceeds (h : client.unpublishedDelta = none) (reason : CancelReason) :
    Proceeds client (client.abortRefresh reason) := by
  rcases client.abortRefresh_cases reason with heq | ⟨_, _, _, hcurrent, heq, hphase⟩
  · rw [heq]
    exact (Marks.refl client).toQuiet.proceeds
  · rw [heq]
    refine proceeds_of_none h ⟨rfl, fun _ => rfl, fun _ => rfl⟩ ?_ ?_
    · rcases hphase with ⟨rfl, -⟩ | ⟨id, -, rfl, -⟩
      · unfold unpublishedDelta at h ⊢
        rw [phase_of_current hcurrent] at h
        exact h
      · rfl
    · intro _ hdelta
      rcases hphase with ⟨rfl, -⟩ | ⟨id, -, rfl, -⟩
      · rw [phase_of_current hcurrent]
        exact hdelta
      · cases hdelta

theorem Proceeds.trans {a b c : StatusClient} (h : Proceeds a b) (h' : Proceeds b c) :
    Proceeds a c where
  toCalm := h.toCalm.trans h'.toCalm
  unpublishedDelta := h'.unpublishedDelta.trans h.unpublishedDelta
  answered delta hdelta := h.answered delta (h'.answered delta hdelta)
  cancelReason hsome := (h'.cancelReason (h.unpublishedDelta ▸ hsome)).trans (h.cancelReason hsome)

theorem Proceeds.refl (client : StatusClient) : Proceeds client client :=
  (Marks.refl client).toQuiet.proceeds

/-- A file event that is not accepted aborts nothing; any other one aborts the refresh that runs. -/
theorem recordFileEvent_proceeds (runtime : Runtime) {event : DirtyFileEvent}
    (h : client.unpublishedDelta = none ∨
      (client.dirtyPaths.record runtime.toLocaleLowerCase event).1 = false) :
    Proceeds client (client.recordFileEvent runtime event).2 := by
  obtain ⟨_, hquiet, -, hmid⟩ := client.recordFileEvent_cases runtime event
  rcases hmid with hmid | ⟨haccepted, hmid⟩
  · rw [hmid]
    exact hquiet.proceeds
  · rw [hmid]
    have hnone := h.resolve_right (by simp [haccepted])
    exact hquiet.proceeds.trans
      (abortRefresh_proceeds (hquiet.proceeds.unpublishedDelta.trans hnone) _)

theorem beginRefresh_proceeds {client : StatusClient} (hidle : client.currentRefresh = none)
    (kind : RefreshKind) (targets : List StatusRefreshTarget) (signal : CallerSignal) :
    Proceeds client (client.beginRefresh kind targets signal) := by
  have hnone : client.unpublishedDelta = none := by
    unfold unpublishedDelta
    rw [phase_of_idle hidle]
  obtain ⟨_, _, heq, -, -, hphase⟩ := client.beginRefresh_cases kind targets signal
  rw [heq]
  refine proceeds_of_none hnone ⟨rfl, fun _ => rfl, fun _ => rfl⟩ ?_ fun delta hdelta => ?_
  · unfold unpublishedDelta
    rw [phase_of_current rfl]
    rcases hphase with ⟨⟨failure, hphase⟩, -⟩ | ⟨id, hphase, -⟩
    · rw [hphase]
    · rw [hphase]
  · rw [phase_of_current rfl, Option.some.injEq] at hdelta
    rcases hphase with ⟨⟨failure, hphase⟩, -⟩ | ⟨id, hphase, -⟩
    · cases hphase.symm.trans hdelta
    · cases hphase.symm.trans hdelta

theorem Starts.proceeds (h : Starts client client') (hidle : client.currentRefresh = none) :
    Proceeds client client' := by
  obtain ⟨_, hquiet, rfl | ⟨kind, targets, signal, rfl⟩⟩ := h.quiet
  · exact hquiet.proceeds
  · exact hquiet.proceeds.trans
      (beginRefresh_proceeds (hquiet.currentRefresh.trans hidle) kind targets signal)

/-- The `finally` block. -/
theorem finishRefresh_proceeds (h : client.unpublishedDelta = none) :
    Proceeds client client.finishRefresh := by
  obtain ⟨_, _, heq⟩ := client.finishRefresh_eq
  rw [heq]
  exact proceeds_of_none h ⟨rfl, fun _ => rfl, fun _ => rfl⟩ rfl fun delta hdelta => by cases hdelta

end StatusClient

namespace RefreshScheduler

variable {runtime : Runtime} {s : RefreshScheduler}

theorem request_proceeds (call : RefreshCall) :
    s.client.Proceeds (s.request runtime call).client := by
  unfold request
  split
  · rename_i hidle
    exact (start_starts call).proceeds (idle_of_not_busy hidle)
  · split
    · exact .refl s.client
    · exact .refl s.client

end RefreshScheduler

/-! ## The scheduler with the resources of its repository -/

/-- The state of a registered repository, with the resources the Source Control view has of it. -/
structure ShownScheduler where
  scheduler : RefreshScheduler
  index : ResourceIndex

inductive ShownEvent where
  /-- Anything but the end of an exclusive operation; a delta has passed the checks of the client.
  -/
  | scheduler (event : RefreshEvent)
  /-- A `status/stale` or `watcher/overflow` notification. -/
  | staleNotification (mark : StatusStaleMark)

/-- `requireDeltaMatchesRequest`. -/
def StatusDelta.Fits (delta : StatusDelta) (scope : RepositoryWatchScope) : Prop :=
  delta.repositoryId = scope.repositoryId ∧ delta.epoch = scope.epoch

instance (delta : StatusDelta) (scope : RepositoryWatchScope) : Decidable (delta.Fits scope) :=
  inferInstanceAs (Decidable (_ ∧ _))

namespace ShownScheduler

abbrev client (s : ShownScheduler) : StatusClient := s.scheduler.client

def repositoryId (s : ShownScheduler) : Text := s.client.scope.repositoryId

section

variable (runtime : Runtime) (text : TextRuntime)

/-- The resources after `publishProjectionDelta`: the delta is applied, or they are rebuilt from the
snapshot store. -/
def publishedIndex (s : ShownScheduler) (refresh : CurrentRefresh) (delta : StatusDelta) :
    ResourceIndex :=
  match s.client.requireRefreshCurrent refresh with
  | .error _ => s.index
  | .ok _ =>
    match s.client.projection.applyDelta delta with
    | .ok _ => s.index.applyDelta text s.repositoryId delta
    | .error _ =>
      match s.client.replaceProjectionFromCanonicalSnapshot delta.epoch (some delta.generation),
          s.client.store.getSnapshot s.repositoryId with
      | .ok _, some snapshot =>
        .ofSnapshot text s.repositoryId snapshot.localEntries snapshot.remoteEntries
      | _, _ => s.index

/-- The resources after an event.  Stale marks do not touch them: the checks before a mark leave
nothing for the view to refuse (`staleNotification_quiet`). -/
def nextIndex (s : ShownScheduler) : RefreshEvent → ResourceIndex
  | .publish =>
    match s.client.currentRefresh with
    | some refresh =>
      match refresh.phase with
      | .applied delta => s.publishedIndex text refresh delta
      | _ => s.index
    | none => s.index
  | _ => s.index

def admits (s : ShownScheduler) : RefreshEvent → Bool
  | .answer (.ok delta) => decide (delta.Fits s.client.scope)
  | .endExclusive .. => false
  | _ => true

def step (s : ShownScheduler) : ShownEvent → Option ShownScheduler
  | .scheduler event =>
    if s.admits event then
      (s.scheduler.step runtime event).map fun scheduler => ⟨scheduler, s.nextIndex text event⟩
    else none
  | .staleNotification mark =>
    some { s with scheduler.client := s.client.staleNotification mark }

end

/-! ### In step, or one delta ahead -/

/-- Every remote entry is one that the view shows. -/
def RemoteShown (entries : EntryMap) : Prop :=
  ∀ path entry, entries.get? path = some entry → isActionableStatus entry.remoteStatus = true

variable (text : TextRuntime)

/-- The view shows the entries and the generation of the store. -/
structure InStep (s : ShownScheduler) : Prop where
  synced : ∃ core generation summary, s.client.store.core s.repositoryId = some core ∧
    core.progress = some (generation, summary) ∧
    s.client.projection.position s.repositoryId = some (core.epoch, some generation) ∧
    s.index.Shows text s.repositoryId core.localEntries core.remoteEntries ∧
    RemoteShown core.remoteEntries

/-- The store has applied the delta, the view has not. -/
structure Ahead (delta : StatusDelta) (s : ShownScheduler) : Prop where
  repositoryId : delta.repositoryId = s.repositoryId
  behind : ∃ core generation summary before remoteBefore,
    s.client.store.core s.repositoryId = some core ∧ core.epoch = delta.epoch ∧
    core.progress = some (delta.generation, summary) ∧
    core.localEntries = before.patch delta.remove delta.upsert ∧
    core.remoteEntries = remoteBefore.patch delta.remoteRemove delta.remoteUpsert ∧
    RemoteShown core.remoteEntries ∧
    s.client.projection.position s.repositoryId = some (delta.epoch, some generation) ∧
    generation < delta.generation ∧ s.index.Shows text s.repositoryId before remoteBefore

/-- The phase of the refresh says which of the two holds. -/
structure Tracks (s : ShownScheduler) : Prop where
  inStep : s.client.unpublishedDelta = none → InStep text s
  ahead : ∀ delta, s.client.unpublishedDelta = some delta → Ahead text delta s
  current : s.client.unpublishedDelta.isSome →
    s.client.currentRefresh.bind CurrentRefresh.cancelReason = none
  answered : ∀ delta, s.client.phase = some (.settled (.ok delta)) →
    delta.repositoryId = s.repositoryId ∧
      ∀ entry ∈ delta.remoteUpsert, isActionableStatus entry.remoteStatus = true

variable {text}

variable {s s' : ShownScheduler}

theorem InStep.of_calm (h : InStep text s) (hcalm : s.client.Calm s'.client)
    (hindex : s'.index = s.index) : InStep text s' := by
  have hid : s'.repositoryId = s.repositoryId :=
    congrArg RepositoryWatchScope.repositoryId hcalm.scope
  obtain ⟨core, generation, summary, hcore, hprogress, hposition, hshows, hremote⟩ := h.synced
  refine ⟨core, generation, summary, ?_, hprogress, ?_, ?_, hremote⟩
  · rw [hid, hcalm.core, hcore]
  · rw [hid, hcalm.position, hposition]
  · rw [hid, hindex]
    exact hshows

theorem Ahead.of_calm {delta : StatusDelta} (h : Ahead text delta s)
    (hcalm : s.client.Calm s'.client) (hindex : s'.index = s.index) : Ahead text delta s' := by
  have hid : s'.repositoryId = s.repositoryId :=
    congrArg RepositoryWatchScope.repositoryId hcalm.scope
  obtain ⟨core, generation, summary, before, remoteBefore, hcore, hepoch, hprogress, hlocal,
    hremote,
    hactionable, hposition, hlt, hshows⟩ := h.behind
  refine ⟨h.repositoryId.trans hid.symm, core, generation, summary, before, remoteBefore,
    ?_, hepoch,
    hprogress, hlocal, hremote, hactionable, ?_, hlt, ?_⟩
  · rw [hid, hcalm.core, hcore]
  · rw [hid, hcalm.position, hposition]
  · rw [hid, hindex]
    exact hshows

/-- Events that neither apply nor publish a delta. -/
theorem Tracks.of_proceeds (h : Tracks text s) (hproceeds : s.client.Proceeds s'.client)
    (hindex : s'.index = s.index) : Tracks text s' where
  inStep hnone := (h.inStep (hproceeds.unpublishedDelta ▸ hnone)).of_calm hproceeds.toCalm hindex
  ahead delta hdelta := (h.ahead delta (hproceeds.unpublishedDelta ▸ hdelta)).of_calm
    hproceeds.toCalm hindex
  current hsome := by
    rw [hproceeds.unpublishedDelta] at hsome
    rw [hproceeds.cancelReason hsome]
    exact h.current hsome
  answered delta hdelta := by
    have hid : s'.repositoryId = s.repositoryId :=
      congrArg RepositoryWatchScope.repositoryId hproceeds.scope
    rw [hid]
    exact h.answered delta (hproceeds.answered delta hdelta)

/-! ### The two callbacks -/

theorem RemoteShown.patch {entries : EntryMap} (h : RemoteShown entries) (remove : List Text)
    {upsert : List StatusEntry}
    (hupsert : ∀ entry ∈ upsert, isActionableStatus entry.remoteStatus = true) :
    RemoteShown (entries.patch remove upsert) := by
  intro path entry hget
  unfold KeyedMap.patch at hget
  rw [KeyedMap.get?_insertAll] at hget
  rcases Option.or_eq_some_iff.mp hget with hnew | ⟨-, hold⟩
  · exact hupsert entry (lastWithKey_mem hnew).1
  · rw [KeyedMap.get?_eraseAll] at hold
    split at hold
    · cases hold
    · exact h path entry hold

/-- **The first callback** puts the store ahead by the delta, or leaves it. -/
theorem Tracks.settleRefresh (h : Tracks text s) {refresh : CurrentRefresh}
    {result : Except RequestFailure StatusDelta} (hcurrent : s.client.currentRefresh = some refresh)
    (hphase : refresh.phase = .settled result) :
    Tracks text { s with scheduler.client := s.client.settleRefresh refresh result } := by
  have hsettled : s.client.phase = some (.settled result) := by
    rw [phase_of_current hcurrent, hphase]
  have hnone : s.client.unpublishedDelta = none := by
    unfold unpublishedDelta
    rw [hsettled]
  rcases s.client.settleRefresh_cases refresh result with
    ⟨delta, store, rfl, haccept, heq⟩ | ⟨-, heq⟩ <;> rw [heq]
  swap
  · -- a refresh that fails changes neither side
    exact h.of_proceeds (proceeds_of_none hnone ⟨rfl, fun _ => rfl, fun _ => rfl⟩ rfl
      fun delta hdelta => by cases hdelta) rfl
  · have hinStep := h.inStep hnone
    obtain ⟨hcancel, happly⟩ := acceptDelta_eq_ok haccept
    obtain ⟨hid, hactionable⟩ := h.answered delta hsettled
    obtain ⟨core, generation, _, hcore, hprogress, hposition, hshows, hremote⟩ := hinStep.synced
    obtain ⟨core', generation', summary₀, summary', hcore', hepoch, hprogress', hlt, -, hnext⟩ :=
      StatusSnapshotStore.core_of_applyDelta happly
    rw [hid, hcore] at hcore'
    obtain rfl := Option.some.inj hcore'
    rw [hprogress] at hprogress'
    obtain ⟨rfl, rfl⟩ := Prod.mk.inj (Option.some.inj hprogress')
    refine ⟨fun hno => ?_, fun applied happlied => ?_, fun _ => ?_, fun answered hanswered => ?_⟩
    · cases hno
    · obtain rfl := Option.some.inj happlied
      refine ⟨hid, { core with
          localEntries := core.localEntries.patch delta.remove delta.upsert
          remoteEntries := core.remoteEntries.patch delta.remoteRemove delta.remoteUpsert
          progress := some (delta.generation, summary') },
        generation, summary', core.localEntries, core.remoteEntries, ?_, hepoch, rfl, rfl, rfl,
        hremote.patch _ hactionable, ?_, hlt, hshows⟩
      · rw [hid] at hnext
        exact hnext
      · rw [← hepoch]
        exact hposition
    · exact hcancel
    · cases hanswered

/-- **The second callback** brings the view to the store: its delta is taken. -/
theorem Tracks.publishRefresh (h : Tracks text s) {refresh : CurrentRefresh} {delta : StatusDelta}
    (hcurrent : s.client.currentRefresh = some refresh) (hphase : refresh.phase = .applied delta) :
    Tracks text
      { scheduler := { s.scheduler with client := s.client.publishRefresh refresh delta }
        index := s.publishedIndex text refresh delta } := by
  have happlied : s.client.unpublishedDelta = some delta := by
    unfold unpublishedDelta
    rw [phase_of_current hcurrent, hphase]
  -- a refresh with an unpublished delta is not cancelled
  have hcancel : refresh.cancelReason = none := by
    have hnone := h.current (by rw [happlied]; rfl)
    rwa [hcurrent] at hnone
  have hahead := h.ahead delta happlied
  have hrequire : s.client.requireRefreshCurrent refresh = .ok () := by
    unfold requireRefreshCurrent
    rw [hcancel]
  obtain ⟨core, generation, summary, _, _, hcore, hepoch, hprogress, hlocal, hremote,
    hactionable, hposition, hlt, hshows⟩ := hahead.behind
  have hposition' : s.client.projection.position delta.repositoryId =
      some (delta.epoch, some generation) := by
    rw [hahead.repositoryId]
    exact hposition
  -- the view stands one delta behind the store, so it takes this one
  obtain ⟨projection, htaken, hnext⟩ :=
    SourceControlProjection.applyDelta_of_position hposition' hlt
  have hclient : s.client.publishRefresh refresh delta =
      { s.client with
        currentRefresh := some { refresh with phase := .closing }, projection := projection } := by
    unfold StatusClient.publishRefresh
    rw [hrequire, htaken]
  have hindex : s.publishedIndex text refresh delta =
    s.index.applyDelta text s.repositoryId delta := by
    unfold publishedIndex
    rw [hrequire, htaken]
  rw [hclient, hindex]
  refine ⟨fun _ => ⟨core, delta.generation, summary, hcore, hprogress, ?_, ?_, hactionable⟩,
    fun other hother => ?_, fun hsome => ?_, fun answered hanswered => ?_⟩
  · rw [hepoch, ← hnext, hahead.repositoryId]
    rfl
  · rw [hlocal, hremote]
    exact hshows.applyDelta delta
  · cases hother
  · cases hsome
  · cases hanswered

/-! ### Every event -/

/-- The refresh is not aborted between its two callbacks, and the remote entries of a delta are ones
that the view shows. -/
def KeepsInStep (runtime : Runtime) (s : ShownScheduler) : ShownEvent → Prop
  | .scheduler (.fileEvent event) => s.client.unpublishedDelta = none ∨
      (s.client.dirtyPaths.record runtime.toLocaleLowerCase event).1 = false
  | .scheduler .abort => s.client.unpublishedDelta = none
  | .scheduler (.answer (.ok delta)) =>
    ∀ entry ∈ delta.remoteUpsert, isActionableStatus entry.remoteStatus = true
  | _ => True

/-- **One event** keeps the view with the store. -/
theorem Tracks.step {runtime : Runtime} {event : ShownEvent} (h : Tracks text s)
    (hkeeps : s.KeepsInStep runtime event) (hstep : s.step runtime text event = some s') :
    Tracks text s' := by
  cases event with
  | staleNotification mark =>
    cases hstep
    exact h.of_proceeds (s.client.staleNotification_quiet mark).proceeds rfl
  | scheduler event =>
    dsimp only [ShownScheduler.step] at hstep
    split at hstep
    on_goal 2 => cases hstep
    rename_i hadmits
    obtain ⟨scheduler, hnext, rfl⟩ := Option.map_eq_some_iff.mp hstep
    cases RefreshScheduler.steps_of_step hnext with
    | fileEvent event =>
      have hproceeds := recordFileEvent_proceeds runtime hkeeps
      refine h.of_proceeds ?_ rfl
      show s.client.Proceeds (s.scheduler.recordFileEvent runtime event).client
      unfold RefreshScheduler.recordFileEvent
      split <;> rename_i client heq <;> rw [heq] at hproceeds
      · exact hproceeds
      · exact hproceeds
    | call call => exact h.of_proceeds (RefreshScheduler.request_proceeds call) rfl
    | @resume index call _ hidle =>
      have hstarts := @RefreshScheduler.start_starts runtime { s.scheduler with
        waiting := s.scheduler.waiting.eraseIdx index } call
      exact h.of_proceeds (hstarts.proceeds (RefreshScheduler.idle_of_not_busy hidle)) rfl
    | abortWaiting => exact h.of_proceeds (.refl s.client) rfl
    | timer =>
      exact h.of_proceeds (@RefreshScheduler.request_proceeds runtime
        { s.scheduler with timer := false } (.flush .absent)) rfl
    | fullReconcileTimer =>
      exact h.of_proceeds (@RefreshScheduler.request_proceeds runtime
        { s.scheduler with fullReconcileTimer := false } .scheduledFullReconcile) rfl
    -- `admits` refuses this event: it would replace the projection itself
    | endExclusive store projection => cases hadmits
    | abort => exact h.of_proceeds (abortRefresh_proceeds hkeeps _) rfl
    -- the answer is only stored here; it reaches the index in the `publish` step
    | answer result hcurrent hphase =>
      have hnone : s.client.unpublishedDelta = none := by
        unfold unpublishedDelta
        rw [phase_of_current hcurrent, hphase]
      refine ⟨fun _ => (h.inStep hnone).of_calm ⟨rfl, fun _ => rfl, fun _ => rfl⟩ rfl,
        fun delta hdelta => ?_, fun hsome => ?_, fun delta hdelta => ?_⟩
      · cases hdelta
      · cases hsome
      · obtain rfl : result = .ok delta := RefreshPhase.settled.inj (Option.some.inj hdelta)
        have hfits : delta.Fits s.client.scope := of_decide_eq_true hadmits
        exact ⟨hfits.1, hkeeps⟩
    | settle hcurrent hphase => exact h.settleRefresh hcurrent hphase
    | @publish refresh delta hcurrent hphase =>
      have hindex : s.nextIndex text .publish = s.publishedIndex text refresh delta := by
        unfold nextIndex
        simp only [hcurrent, hphase]
      rw [hindex]
      exact h.publishRefresh hcurrent hphase
    | finish hcurrent hphase =>
      have hnone : s.client.unpublishedDelta = none := by
        unfold unpublishedDelta
        rw [phase_of_current hcurrent, hphase]
      exact h.of_proceeds (finishRefresh_proceeds hnone) rfl

/-! ## Whenever no refresh runs -/

/-- The snapshot store and the resource store hold the same of the repository: the same epoch and
generation, and at each path the same local and the same remote entry. -/
structure HoldsTheSame (s : ShownScheduler) : Prop where
  state : ∃ state contents shown shownContents,
    s.client.store.repositories.get? s.repositoryId = some state ∧ state.contents = some contents ∧
    s.client.projection.repositories.get? s.repositoryId = some shown ∧
    shown.contents = some shownContents ∧ shown.epoch = state.epoch ∧
    shownContents.generation = contents.generation ∧
    (∀ path, s.index.localEntriesByPath.get? path = state.localEntries.get? path) ∧
    ∀ path, (s.index.remoteResourcesByPath.get? path).map ScmProjectedResource.entry =
      state.remoteEntries.get? path

theorem remoteShown_eq_some {repositoryId : Text} {entry : StatusEntry}
    {resource : ScmProjectedResource}
    (h : ResourceIndex.remoteShown repositoryId entry = some resource) :
      resource.entry = entry := by
  obtain ⟨_, -, rfl⟩ := Option.map_eq_some_iff.mp h
  rfl

theorem remoteShown_of_actionable {repositoryId : Text} {entry : StatusEntry}
    (h : isActionableStatus entry.remoteStatus = true) :
    ∃ resource, ResourceIndex.remoteShown repositoryId entry = some resource := by
  unfold ResourceIndex.remoteShown classifyRemoteStatusEntry
  rw [h]
  exact ⟨_, rfl⟩

theorem InStep.holdsTheSame (h : InStep text s) : HoldsTheSame s := by
  obtain ⟨_, _, _, hcore, hprogress, hposition, hshows, hremote⟩ := h.synced
  obtain ⟨state, hstate, rfl⟩ := Option.map_eq_some_iff.mp hcore
  obtain ⟨contents, hcontents, hpair⟩ := Option.map_eq_some_iff.mp hprogress
  obtain ⟨rfl, -⟩ := Prod.mk.inj hpair
  obtain ⟨shown, hshown, hpair'⟩ := Option.map_eq_some_iff.mp hposition
  obtain ⟨hepoch, hgeneration⟩ := Prod.mk.inj hpair'
  obtain ⟨shownContents, hshownContents, hsame⟩ := Option.map_eq_some_iff.mp hgeneration
  refine ⟨state, contents, shown, shownContents, hstate, hcontents, hshown, hshownContents, hepoch,
    hsame, hshows.holds.entries, fun path => ?_⟩
  rw [hshows.remote]
  show ((state.remoteEntries.get? path).bind _).map _ = state.remoteEntries.get? path
  cases hget : state.remoteEntries.get? path with
  | none => rfl
  | some entry =>
    obtain ⟨resource, hresource⟩ :=
      @remoteShown_of_actionable s.repositoryId entry (hremote path entry hget)
    rw [Option.bind_some, hresource, Option.map_some, remoteShown_eq_some hresource]

/-- A view that some snapshot and deltas have built holds the same as the store: it is in step. -/
theorem HoldsTheSame.inStep (h : HoldsTheSame s) {m r : EntryMap}
    (hbuilt : s.index.Shows text s.repositoryId m r) : InStep text s := by
  obtain ⟨state, contents, shown, _, hstate, hcontents, hshown, hshownContents, hepoch,
    hsame, hlocal, hremote⟩ := h.state
  obtain rfl : m = state.localEntries := by
    ext1 path
    rw [← hbuilt.holds.entries, hlocal]
  -- an entry of the store is shown, so it is the entry that `r` has
  have hshownEntry : ∀ path entry, state.remoteEntries.get? path = some entry →
      r.get? path = some entry ∧
        s.index.remoteResourcesByPath.get? path =
          ResourceIndex.remoteShown s.repositoryId entry := by
    intro path entry hget
    rw [← hremote] at hget
    obtain ⟨resource, hresource, rfl⟩ := Option.map_eq_some_iff.mp hget
    rw [hbuilt.remote] at hresource
    obtain ⟨entry, hentry, hresource'⟩ := Option.bind_eq_some_iff.mp hresource
    rw [remoteShown_eq_some hresource']
    refine ⟨hentry, ?_⟩
    rw [hbuilt.remote, hentry]
    rfl
  refine ⟨state.core, contents.generation, contents.summary, ?_, ?_, ?_,
    ⟨hbuilt.holds, hbuilt.consistent, hbuilt.shown, fun path => ?_⟩, fun path entry hget => ?_⟩
  · unfold StatusSnapshotStore.core
    rw [hstate]
    rfl
  · show state.contents.map _ = _
    rw [hcontents]
    rfl
  · unfold SourceControlProjection.position
    rw [hshown]
    show some (shown.epoch, _) = some (state.epoch, _)
    rw [hepoch, hshownContents, Option.map_some, hsame]
  · show s.index.remoteResourcesByPath.get? path = (state.remoteEntries.get? path).bind _
    cases hget : state.remoteEntries.get? path with
    | none =>
      have hnone := hremote path
      rw [hget, Option.map_eq_none_iff] at hnone
      exact hnone
    | some entry => exact (hshownEntry path entry hget).2
  · have hsome := hremote path
    have hentry : state.remoteEntries.get? path = some entry := hget
    rw [hentry, (hshownEntry path entry hentry).2] at hsome
    obtain ⟨resource, hresource, -⟩ := Option.map_eq_some_iff.mp hsome
    unfold ResourceIndex.remoteShown classifyRemoteStatusEntry at hresource
    cases hactionable : isActionableStatus entry.remoteStatus with
    | true => rfl
    | false =>
      rw [hactionable] at hresource
      cases hresource

/-- **The snapshot store and the Source Control view hold the same whenever no refresh runs**: in
every run that starts so and in which no accepted file event and no caller aborts a refresh between
the callback that applies its delta to the store and the one that applies it to the view, and no
delta upserts a remote entry without a remote change. -/
theorem store_and_view_hold_the_same {runtime : Runtime} {start s : ShownScheduler}
    {events : List ShownEvent} {m r : EntryMap} (hidle : start.client.currentRefresh = none)
    (hbuilt : start.index.Shows text start.repositoryId m r) (hstart : HoldsTheSame start)
    (hkeeps : Along (ShownScheduler.step runtime text) (KeepsInStep runtime) start events)
    (hrun : run (ShownScheduler.step runtime text) start events = some s)
    (hdone : s.client.currentRefresh = none) : HoldsTheSame s := by
  have hnone : ∀ {s : ShownScheduler}, s.client.currentRefresh = none →
      s.client.unpublishedDelta = none ∧ s.client.phase = none := by
    intro s hidle
    have hphase := phase_of_idle hidle
    unfold unpublishedDelta
    rw [hphase]
    exact ⟨rfl, rfl⟩
  have htracks : Tracks text start := by
    obtain ⟨happlied, hphase⟩ := hnone hidle
    refine ⟨fun _ => hstart.inStep hbuilt, fun delta hdelta => ?_, fun hsome => ?_,
      fun delta hdelta => ?_⟩
    · rw [happlied] at hdelta
      cases hdelta
    · rw [happlied] at hsome
      cases hsome
    · rw [hphase] at hdelta
      cases hdelta
  have hfinal := run_invariant (fun _ _ _ htracks hok hstep =>
    htracks.step hok hstep) htracks hkeeps
    hrun
  exact (hfinal.inStep (hnone hdone).1).holdsTheSame

end ShownScheduler

namespace InStepExample

open RefreshExample (runtime scope)

def text : TextRuntime := ⟨fun _ _ => .eq, fun _ _ => .eq, id, id⟩

def snapshot : StatusSnapshot :=
  { (default : StatusSnapshot) with
    repositoryId := scope.repositoryId, epoch := scope.epoch, generation := 1
    completeness := "complete", localEntries := [.file "a.txt" "modified"] }

def stored : RepositoryState :=
  { repositoryId := scope.repositoryId, epoch := scope.epoch
    localEntries := KeyedMap.empty, remoteEntries := KeyedMap.empty, contents := none :
      RepositoryState }.applySnapshotToState snapshot

def shown : RepositoryProjectionState :=
  { repositoryId := scope.repositoryId, epoch := scope.epoch, workingCopyRoot := "/wc"
    contents := none : RepositoryProjectionState }.applySnapshotToState snapshot.header

/-- Both stores have taken the snapshot. -/
def opened : ShownScheduler where
  scheduler := .register scope none none ⟨KeyedMap.empty.insert stored⟩
    ⟨KeyedMap.empty.insert shown⟩
    .new
  index := .ofSnapshot text scope.repositoryId snapshot.localEntries snapshot.remoteEntries

theorem opened_shows : opened.index.Shows text opened.repositoryId stored.localEntries
    stored.remoteEntries :=
  have hunique : (snapshot.remoteEntries.map StatusEntry.path).Nodup := List.nodup_nil
  ResourceIndex.shows_ofSnapshot snapshot.localEntries hunique

theorem opened_holdsTheSame : opened.HoldsTheSame := by
  refine ⟨stored, _, shown, _, ?_, rfl, ?_, rfl, rfl, rfl,
    opened_shows.holds.entries, fun path => ?_⟩
  · exact (KeyedMap.get?_insert _ _ _).trans (if_pos rfl)
  · exact (KeyedMap.get?_insert _ _ _).trans (if_pos rfl)
  · have hempty : stored.remoteEntries.get? path = none := KeyedMap.get?_empty path
    rfl

/-- The file was reverted. -/
def reverted : StatusDelta :=
  { (default : StatusDelta) with
    repositoryId := scope.repositoryId, epoch := scope.epoch, generation := 2
    completeness := "complete", remove := ["a.txt"] }

/-- A refresh comes as far as the callback that applies its delta to the store. -/
def applying : List ShownEvent :=
  [.scheduler (.call (.refreshResource 1 "a.txt")), .scheduler (.answer (.ok reverted)),
    .scheduler .settle]

/-- A file event arrives before the next callback. -/
def interrupted : List ShownEvent :=
  applying ++ [.scheduler (.fileEvent ⟨"/wc/b.txt", .change, 0⟩), .scheduler .publish,
    .scheduler .finish]

def behind : ShownScheduler :=
  (run (ShownScheduler.step runtime text) opened interrupted).get (by decide +kernel)

/-- **An abort leaves the view behind**: the two start with the same entries, and when the refresh
has ended the store has generation 2 and the view generation 1. -/
theorem abort_leaves_view_behind :
    opened.HoldsTheSame ∧ run (ShownScheduler.step runtime text) opened interrupted = some behind ∧
      behind.client.currentRefresh.isNone ∧ ¬ behind.HoldsTheSame := by
  refine ⟨opened_holdsTheSame, (Option.some_get _).symm, by decide +kernel, ?_⟩
  rintro ⟨_, contents, _, shownContents, hstate, hcontents, hshown, hshownContents, -,
    hgeneration, -⟩
  have hstored : (behind.client.store.core behind.repositoryId).bind
      (fun core => core.progress.map Prod.fst) = some 2 := by decide +kernel
  have hview : behind.client.projection.position behind.repositoryId = some (1, some 1) := by
    decide +kernel
  unfold StatusSnapshotStore.core at hstored
  unfold SourceControlProjection.position at hview
  rw [hstate] at hstored
  rw [hshown, Option.map_some, hshownContents] at hview
  have hstore : contents.generation = 2 := by
    simpa [RepositoryState.core, hcontents] using hstored
  have hshownGeneration : shownContents.generation = 1 := by
    simpa using (Prod.mk.inj (Option.some.inj hview)).2
  omega

/-- The same refresh without the file event. -/
def undisturbed : List ShownEvent := applying ++ [.scheduler .publish, .scheduler .finish]

def published : ShownScheduler :=
  (run (ShownScheduler.step runtime text) opened undisturbed).get (by decide +kernel)

theorem published_holdsTheSame : published.HoldsTheSame := by
  have hrun : run (ShownScheduler.step runtime text) opened undisturbed = some published :=
    (Option.some_get _).symm
  have hkeeps : Along (ShownScheduler.step runtime text) (ShownScheduler.KeepsInStep runtime) opened
      undisturbed := by
    refine ⟨trivial, fun s _ => ⟨?_, fun s' _ => ⟨trivial, fun s'' _ => ⟨trivial, fun s₃ _ =>
      ⟨trivial, fun _ _ => trivial⟩⟩⟩⟩⟩
    intro _ hentry
    cases hentry
  have hdone : published.client.currentRefresh = none :=
    Option.isNone_iff_eq_none.mp (by decide +kernel)
  exact ShownScheduler.store_and_view_hold_the_same rfl opened_shows opened_holdsTheSame hkeeps hrun
    hdone

end InStepExample

end SubversionR

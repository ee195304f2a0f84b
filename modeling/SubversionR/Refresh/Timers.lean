import SubversionR.Lib.Run
import SubversionR.Client.Scheduler

/-!
# Timers — when the refresh scheduler acts

`statusRefreshScheduler.ts` for one registered repository, with its two timers and with the calls
that wait.  The client of `Client.Scheduler` is what the calls and callbacks work on; here they are
put in time: an accepted file event starts the debounce timer, the timer flushes, a call that finds
a refresh or an exclusive operation running waits for its end, and a full reconcile stops both
timers and starts its own again when it ends.

The answer of the daemon to a refresh is any result at any time, and an exclusive operation may
leave any store and any projection behind.

* `RefreshScheduler.step`, `RefreshScheduler.Steps` — the events and what each of them does;
* `StatusClient.Moves`, `RefreshScheduler.step_moves` — what an event does to the dirty paths and to
  the refresh that runs.
-/

namespace SubversionR

open Runs StatusClient

/-- A call of the scheduler; the last two are made by the full reconcile timer and by the services
that need the repository for themselves. -/
inductive RefreshCall where
  | flush (signal : CallerSignal)
  | refreshTargets (epoch : Nat) (targets : List StatusRefreshTarget) (signal : CallerSignal)
  | refreshResource (epoch : Nat) (path : Text)
  | fullReconcile (epoch : Nat) (signal : CallerSignal)
  | scheduledFullReconcile
  | runExclusive
deriving DecidableEq

namespace RefreshCall

def isFlush : RefreshCall → Bool
  | flush _ => true
  | _ => false

/-- The call after its caller has aborted the signal. -/
def aborted : RefreshCall → RefreshCall
  | flush .live => flush .aborted
  | refreshTargets epoch targets .live => refreshTargets epoch targets .aborted
  | fullReconcile epoch .live => fullReconcile epoch .aborted
  | call => call

/-- The checks a call makes before it looks at `flushing`. -/
def accepted (scope : RepositoryWatchScope) : RefreshCall → Bool
  | refreshTargets epoch targets _ =>
    decide (scope.epoch = epoch) && (validateRefreshTargets targets).isOk
  | refreshResource epoch path =>
    decide (scope.epoch = epoch) && isRepositoryRelativeRefreshPath path
  | fullReconcile epoch _ => decide (scope.epoch = epoch)
  | flush _ | scheduledFullReconcile | runExclusive => true

end RefreshCall

/-- The state of a registered repository.  `waiting` are the calls that found it busy. -/
structure RefreshScheduler where
  client : StatusClient
  fullReconcileIntervalMs : Option Nat
  timer : Bool
  fullReconcileTimer : Bool
  exclusive : Bool
  waiting : List RefreshCall

inductive RefreshEvent where
  /-- The watcher reports a file event. -/
  | fileEvent (event : DirtyFileEvent)
  /-- A call, and the next attempt of a call that waited. -/
  | call (call : RefreshCall)
  | resume (index : Nat)
  /-- The caller of the current refresh, or of a call that waits, aborts it. -/
  | abort
  | abortWaiting (index : Nat)
  /-- A timer expires. -/
  | timer
  | fullReconcileTimer
  /-- The request of the current refresh settles. -/
  | answer (result : Except RequestFailure StatusDelta)
  /-- The callbacks of the current refresh, in their order. -/
  | settle
  | publish
  | finish
  /-- The operation of `runExclusive` ends. -/
  | endExclusive (store : StatusSnapshotStore) (projection : SourceControlProjection)

/-- The request of a refresh settles: it is no longer pending. -/
def StatusClient.answerRefresh (client : StatusClient) (refresh : CurrentRefresh) (id : Nat)
    (result : Except RequestFailure StatusDelta) : StatusClient :=
  { client with
    currentRefresh := some { refresh with phase := .settled result }
    transport.pending := client.transport.pending.filter (· ≠ id) }

def RefreshKind.isFullReconcile : RefreshKind → Bool
  | ofTargets => false
  | fullReconcile .. => true

namespace RefreshScheduler

/-- `registerRepository`. -/
def register (scope : RepositoryWatchScope) (maxDirtyPaths : Option Int)
    (fullReconcileIntervalMs : Option Nat) (store : StatusSnapshotStore)
    (projection : SourceControlProjection) (transport : Transport) : RefreshScheduler where
  client :=
    { scope, store, projection
      dirtyPaths := DirtyPathSet.new scope maxDirtyPaths
      currentRefresh := none
      overflowStaleMarked := false
      overflowStaleTimestamp := none
      transport }
  fullReconcileIntervalMs := fullReconcileIntervalMs
  timer := false
  fullReconcileTimer := fullReconcileIntervalMs.isSome
  exclusive := false
  waiting := []

/-- `flushing` is set. -/
def busy (s : RefreshScheduler) : Bool := s.client.currentRefresh.isSome || s.exclusive

/-- `clearRepositoryTimers` and the rest of `runFullReconcile`. -/
def runFullReconcile (s : RefreshScheduler) (reason : FullReconcileReason) (signal : CallerSignal) :
    RefreshScheduler :=
  { s with
    client := s.client.runFullReconcile reason signal
    timer := false
    fullReconcileTimer := false }

section

variable (runtime : Runtime)

/-- `recordFileEvent`; the debounce timer starts at its end. -/
def recordFileEvent (s : RefreshScheduler) (event : DirtyFileEvent) : RefreshScheduler :=
  match s.client.recordFileEvent runtime event with
  | (.ok true, client) => { s with client, timer := true }
  | (_, client) => { s with client }

/-- A call that finds `flushing` unset. -/
def start (s : RefreshScheduler) : RefreshCall → RefreshScheduler
  | .flush signal =>
    { s with client := (s.client.flushRepository runtime signal).2, timer := false }
  | .refreshTargets epoch targets signal =>
    { s with client := (s.client.refreshTargets epoch targets signal).2 }
  | .refreshResource epoch path => { s with client := (s.client.refreshResource epoch path).2 }
  | .fullReconcile epoch signal =>
    if s.client.scope.epoch = epoch then s.runFullReconcile .manual signal else s
  | .scheduledFullReconcile => s.runFullReconcile .scheduled .absent
  | .runExclusive => { s with exclusive := true }

/-- A call: it starts, waits, or is refused. -/
def request (s : RefreshScheduler) (call : RefreshCall) : RefreshScheduler :=
  if s.busy = false then s.start runtime call
  else if call.accepted s.client.scope then { s with waiting := s.waiting ++ [call] }
  else s

/-- `finally`, where a full reconcile schedules the next one. -/
def finish (s : RefreshScheduler) (refresh : CurrentRefresh) : RefreshScheduler :=
  { s with
    client := s.client.finishRefresh
    fullReconcileTimer :=
      if refresh.kind.isFullReconcile && s.fullReconcileIntervalMs.isSome then true
      else s.fullReconcileTimer }

/-- The event of a callback: it needs a refresh that has come so far. -/
def callback (s : RefreshScheduler) :
    RefreshEvent → CurrentRefresh → Option RefreshScheduler
  | .abort, refresh =>
    if refresh.callerSignal then some { s with client := s.client.abortRefresh .userCancelled }
    else none
  | .answer result, refresh =>
    match refresh.phase with
    | .awaiting id => some { s with client := s.client.answerRefresh refresh id result }
    | _ => none
  | .settle, refresh =>
    match refresh.phase with
    | .settled result => some { s with client := s.client.settleRefresh refresh result }
    | _ => none
  | .publish, refresh =>
    match refresh.phase with
    | .applied delta => some { s with client := s.client.publishRefresh refresh delta }
    | _ => none
  | .finish, refresh =>
    match refresh.phase with
    | .closing => some (s.finish refresh)
    | _ => none
  | _, _ => none

def step (s : RefreshScheduler) : RefreshEvent → Option RefreshScheduler
  | .fileEvent event => some (s.recordFileEvent runtime event)
  | .call call => some (s.request runtime call)
  | .resume index => do
    let call ← s.waiting[index]?
    if s.busy then none else some ({ s with waiting := s.waiting.eraseIdx index }.start
      runtime call)
  | .abortWaiting index => do
    let call ← s.waiting[index]?
    some { s with waiting := s.waiting.set index call.aborted }
  | .timer =>
    if s.timer then some ({ s with timer := false }.request runtime (.flush .absent)) else none
  | .fullReconcileTimer =>
    if s.fullReconcileTimer then
      some ({ s with fullReconcileTimer := false }.request runtime .scheduledFullReconcile)
    else none
  | .endExclusive store projection =>
    if s.exclusive then
      some { s with
        exclusive := false
        client := { s.client with store := store, projection := projection } }
    else none
  | event => s.client.currentRefresh.bind (s.callback event)

end

end RefreshScheduler

/-! ## What the events do to the client -/

/-- The delta of the refresh has not been applied, and its targets have not been merged back. -/
def RefreshPhase.isOpen : RefreshPhase → Bool
  | awaiting _ | settled _ => true
  | applied _ | closing => false

/-- The refresh goes on with the same targets: its request may have settled, and it may have been
aborted. -/
structure CurrentRefresh.Continues (refresh refresh' : CurrentRefresh) : Prop where
  kind : refresh'.kind = refresh.kind
  targets : refresh'.targets = refresh.targets
  isOpen : refresh'.phase.isOpen = refresh.phase.isOpen

theorem CurrentRefresh.Continues.refl (refresh : CurrentRefresh) : refresh.Continues refresh :=
  ⟨rfl, rfl, rfl⟩

/-- The drained targets that a refresh carries: a full reconcile asks for the whole working copy and
keeps them aside. -/
def CurrentRefresh.pending (refresh : CurrentRefresh) : List StatusRefreshTarget :=
  match refresh.kind with
  | .ofTargets => refresh.targets
  | .fullReconcile _ pendingTargets => pendingTargets

theorem CurrentRefresh.mem_mergedBack {refresh : CurrentRefresh} {target : StatusRefreshTarget}
    (h : target ∈ refresh.pending) : target ∈ refresh.mergedBack := by
  unfold pending at h
  unfold mergedBack
  split
  · rename_i hkind
    rw [hkind] at h
    exact h
  · rename_i hkind
    rw [hkind] at h
    split
    · exact List.mem_cons_of_mem _ h
    · exact h

namespace StatusClient

theorem rel_continues_refl (current : Option CurrentRefresh) :
    Option.Rel CurrentRefresh.Continues current current := by
  cases current with
  | none => exact .none
  | some refresh => exact .some (.refl refresh)

theorem abortRefresh_continues (client : StatusClient) (reason : CancelReason) :
    (client.abortRefresh reason).scope = client.scope ∧
      (client.abortRefresh reason).dirtyPaths = client.dirtyPaths ∧
      Option.Rel CurrentRefresh.Continues client.currentRefresh
        (client.abortRefresh reason).currentRefresh := by
  rcases client.abortRefresh_cases reason with heq | ⟨_, _, _, hcurrent, heq, hphase⟩
  · rw [heq]
    exact ⟨rfl, rfl, rel_continues_refl _⟩
  · rw [heq, hcurrent]
    refine ⟨rfl, rfl, .some ⟨rfl, rfl, ?_⟩⟩
    rcases hphase with ⟨rfl, -⟩ | ⟨_, hawaiting, rfl, -⟩
    · rfl
    · rw [hawaiting]
      rfl

/-- A file event is recorded, and the refresh goes on or is aborted. -/
theorem recordFileEvent_records (runtime : Runtime) (client : StatusClient)
    (event : DirtyFileEvent) :
    (client.recordFileEvent runtime event).2.scope = client.scope ∧
      (client.recordFileEvent runtime event).2.dirtyPaths =
        (client.dirtyPaths.record runtime.toLocaleLowerCase event).2 ∧
      Option.Rel CurrentRefresh.Continues client.currentRefresh
        (client.recordFileEvent runtime event).2.currentRefresh := by
  obtain ⟨mid, hquiet, hdirty, hmid⟩ := client.recordFileEvent_cases runtime event
  rw [← hquiet.scope, ← hdirty, ← hquiet.currentRefresh]
  rcases hmid with hmid | ⟨-, hmid⟩
  · rw [hmid]
    exact ⟨rfl, rfl, rel_continues_refl _⟩
  · rw [hmid]
    exact abortRefresh_continues mid _

/-- What an event does to the dirty paths and to the refresh that runs. -/
inductive Moves (runtime : Runtime) (client : StatusClient) :
    RefreshEvent → StatusClient → Prop
  /-- The refresh goes on, if there is one. -/
  | goesOn {event : RefreshEvent} {client' : StatusClient}
      (hevent : ∀ fileEvent, event ≠ .fileEvent fileEvent)
      (hscope : client'.scope = client.scope) (hdirty : client'.dirtyPaths = client.dirtyPaths)
      (hcurrent : Option.Rel CurrentRefresh.Continues client.currentRefresh
        client'.currentRefresh) :
      Moves runtime client event client'
  /-- A file event is recorded. -/
  | records {event : DirtyFileEvent} {client' : StatusClient}
      (hscope : client'.scope = client.scope)
      (hdirty : client'.dirtyPaths =
        (client.dirtyPaths.record runtime.toLocaleLowerCase event).2)
      (hcurrent : Option.Rel CurrentRefresh.Continues client.currentRefresh
        client'.currentRefresh) :
      Moves runtime client (.fileEvent event) client'
  /-- A refresh of given targets is issued. -/
  | issues {event : RefreshEvent} {client' : StatusClient} {refresh : CurrentRefresh}
      (hevent : ∀ fileEvent, event ≠ .fileEvent fileEvent)
      (hidle : client.currentRefresh = none) (hscope : client'.scope = client.scope)
      (hdirty : client'.dirtyPaths = client.dirtyPaths)
      (hcurrent : client'.currentRefresh = some refresh) (hkind : refresh.kind = .ofTargets)
      (hopen : refresh.phase.isOpen = true) : Moves runtime client event client'
  /-- The dirty paths are drained into a refresh. -/
  | drains {event : RefreshEvent} {client' : StatusClient} {refresh : CurrentRefresh}
      (hevent : ∀ fileEvent, event ≠ .fileEvent fileEvent)
      (hidle : client.currentRefresh = none) (hscope : client'.scope = client.scope)
      (hdirty : client'.dirtyPaths = client.dirtyPaths.clear)
      (hcurrent : client'.currentRefresh = some refresh)
      (hpending : refresh.pending = client.dirtyPaths.toRefreshTargets)
      (htargets : refresh.kind = .ofTargets ∨ ∃ reason, refresh.targets =
        [fullReconcileTarget reason])
      (hopen : refresh.phase.isOpen = true) : Moves runtime client event client'
  /-- There was nothing to drain. -/
  | drainsNothing {event : RefreshEvent} {client' : StatusClient}
      (hevent : ∀ fileEvent, event ≠ .fileEvent fileEvent)
      (hidle : client.currentRefresh = none) (hscope : client'.scope = client.scope)
      (hdirty : client'.dirtyPaths = client.dirtyPaths.clear)
      (hnothing : client.dirtyPaths.toRefreshTargets = [])
      (hcurrent : client'.currentRefresh = none) : Moves runtime client event client'
  /-- The refresh fails, and what it carries is merged back. -/
  | fails {client' : StatusClient} {refresh : CurrentRefresh}
      (hcurrent : client.currentRefresh = some refresh) (hopen : refresh.phase.isOpen = true)
      (hscope : client'.scope = client.scope)
      (hdirty : client'.dirtyPaths = client.dirtyPaths.mergeTargets refresh.mergedBack)
      (hcurrent' : client'.currentRefresh = some { refresh with phase := .closing }) :
      Moves runtime client .settle client'
  /-- The delta of the refresh is applied to the store. -/
  | applies {client' : StatusClient} {refresh : CurrentRefresh} {delta : StatusDelta}
      (hcurrent : client.currentRefresh = some refresh) (hopen : refresh.phase.isOpen = true)
      (hscope : client'.scope = client.scope) (hdirty : client'.dirtyPaths = client.dirtyPaths)
      (hcurrent' : client'.currentRefresh = some { refresh with phase := .applied delta }) :
      Moves runtime client .settle client'
  /-- The refresh has nothing more to apply or merge back. -/
  | closes {event : RefreshEvent} {client' : StatusClient} {refresh : CurrentRefresh}
      (hevent : ∀ fileEvent, event ≠ .fileEvent fileEvent) (hsettle : event ≠ .settle)
      (hcurrent : client.currentRefresh = some refresh) (hopen : refresh.phase.isOpen = false)
      (hscope : client'.scope = client.scope) (hdirty : client'.dirtyPaths = client.dirtyPaths)
      (hcurrent' : client'.currentRefresh = none ∨
        ∃ refresh', client'.currentRefresh = some refresh' ∧ refresh'.targets = refresh.targets ∧
          refresh'.phase = .closing) :
      Moves runtime client event client'

variable {runtime : Runtime} {client client' : StatusClient} {event : RefreshEvent}

theorem moves_self (hevent : ∀ fileEvent, event ≠ .fileEvent fileEvent) :
    Moves runtime client event client :=
  .goesOn hevent rfl rfl (rel_continues_refl _)

theorem Starts.moves (h : client.Starts client')
    (hevent : ∀ fileEvent, event ≠ .fileEvent fileEvent) (hidle : client.currentRefresh = none) :
    Moves runtime client event client' := by
  have hopen : ∀ {refresh : CurrentRefresh} {P : Nat → Prop} {Q : Prop},
      (∃ failure, refresh.phase = .settled (.error failure)) ∧ Q ∨
        (∃ id, refresh.phase = .awaiting id ∧ P id) → refresh.phase.isOpen = true := by
    intro refresh P Q hphase
    rcases hphase with ⟨⟨failure, hphase⟩, -⟩ | ⟨id, hphase, -⟩
    · rw [hphase]
      rfl
    · rw [hphase]
      rfl
  cases h with
  | stays hmarks =>
    refine .goesOn hevent hmarks.scope hmarks.dirtyPaths ?_
    rw [hmarks.currentRefresh]
    exact rel_continues_refl _
  | issues targets signal =>
    obtain ⟨refresh, transport, heq, hkind, -, hphase⟩ :=
      client.beginRefresh_cases .ofTargets targets signal
    rw [heq]
    exact .issues hevent hidle rfl rfl rfl hkind (hopen hphase)
  | drainsNothing hmarks hnothing =>
    exact .drainsNothing hevent hidle hmarks.scope rfl hnothing (hmarks.currentRefresh.trans hidle)
  | @drains mid hmarks kind targets signal hdrained =>
    obtain ⟨refresh, transport, heq, hkind, htargets, hphase⟩ :=
      beginRefresh_cases { mid with dirtyPaths := client.dirtyPaths.clear } kind targets signal
    rw [heq]
    refine .drains hevent hidle hmarks.scope rfl rfl ?_ ?_ (hopen hphase)
    · unfold CurrentRefresh.pending
      rcases hdrained with ⟨rfl, rfl⟩ | ⟨reason, rfl, -⟩
      · rw [hkind]
        exact htargets
      · rw [hkind]
    · rcases hdrained with ⟨rfl, -⟩ | ⟨reason, -, rfl⟩
      · exact .inl hkind
      · exact .inr ⟨reason, htargets⟩

variable {refresh : CurrentRefresh}

section

variable (hcurrent : client.currentRefresh = some refresh)

include hcurrent

theorem settleRefresh_moves {result : Except RequestFailure StatusDelta}
    (hphase : refresh.phase = .settled result) :
    Moves runtime client .settle (client.settleRefresh refresh result) := by
  have hopen : refresh.phase.isOpen = true := by
    rw [hphase]
    rfl
  rcases client.settleRefresh_cases refresh result with ⟨_, _, -, -, heq⟩ | ⟨-, heq⟩
  · rw [heq]
    exact .applies hcurrent hopen rfl rfl rfl
  · rw [heq]
    exact .fails hcurrent hopen rfl rfl rfl

theorem publishRefresh_moves {delta : StatusDelta} (hphase : refresh.phase = .applied delta) :
    Moves runtime client .publish (client.publishRefresh refresh delta) := by
  obtain ⟨_, heq⟩ := client.publishRefresh_eq refresh delta
  rw [heq]
  exact .closes (by simp) (by simp) hcurrent (by rw [hphase]; rfl) rfl rfl
    (.inr ⟨_, rfl, rfl, rfl⟩)

theorem finishRefresh_moves (hphase : refresh.phase = .closing) :
    Moves runtime client .finish client.finishRefresh := by
  obtain ⟨_, _, heq⟩ := client.finishRefresh_eq
  rw [heq]
  exact .closes (by simp) (by simp) hcurrent (by rw [hphase]; rfl) rfl rfl (.inl rfl)

end

end StatusClient

namespace RefreshScheduler

variable {runtime : Runtime} {s s' : RefreshScheduler} {event : RefreshEvent}

theorem idle_of_not_busy (h : s.busy = false) : s.client.currentRefresh = none := by
  unfold busy at h
  rw [Bool.or_eq_false_iff] at h
  exact Option.isSome_eq_false_iff.mp h.1 |> Option.isNone_iff_eq_none.mp

/-- A call that starts. -/
theorem start_starts (call : RefreshCall) : s.client.Starts (s.start runtime call).client := by
  unfold start
  cases call with
  | flush signal => exact s.client.flushRepository_starts runtime signal
  | refreshTargets epoch targets signal =>
    exact s.client.refreshTargets_starts epoch targets signal
  | refreshResource epoch path => exact s.client.refreshResource_starts epoch path
  | fullReconcile epoch signal =>
    dsimp only
    split
    · exact s.client.runFullReconcile_starts .manual signal
    · exact .refl s.client
  | scheduledFullReconcile => exact s.client.runFullReconcile_starts .scheduled .absent
  | runExclusive => exact .refl s.client

theorem request_moves (hevent : ∀ fileEvent, event ≠ .fileEvent fileEvent) (call : RefreshCall) :
    s.client.Moves runtime event (s.request runtime call).client := by
  unfold request
  split
  · rename_i hidle
    exact (start_starts call).moves hevent (idle_of_not_busy hidle)
  · split
    · exact moves_self hevent
    · exact moves_self hevent

/-- **What an event does**, with what it needs. -/
inductive Steps (runtime : Runtime) (s : RefreshScheduler) : RefreshEvent → RefreshScheduler → Prop
  | fileEvent (event : DirtyFileEvent) :
      Steps runtime s (.fileEvent event) (s.recordFileEvent runtime event)
  | call (call : RefreshCall) : Steps runtime s (.call call) (s.request runtime call)
  | resume {index : Nat} {call : RefreshCall} (hcall : s.waiting[index]? = some call)
      (hidle : s.busy = false) :
      Steps runtime s (.resume index)
        ({ s with waiting := s.waiting.eraseIdx index }.start runtime call)
  | abortWaiting {index : Nat} {call : RefreshCall} (hcall : s.waiting[index]? = some call) :
      Steps runtime s (.abortWaiting index)
        { s with waiting := s.waiting.set index call.aborted }
  | timer (hpending : s.timer = true) :
      Steps runtime s .timer ({ s with timer := false }.request runtime (.flush .absent))
  | fullReconcileTimer :
      Steps runtime s .fullReconcileTimer
        ({ s with fullReconcileTimer := false }.request runtime .scheduledFullReconcile)
  | endExclusive (store : StatusSnapshotStore) (projection : SourceControlProjection) :
      Steps runtime s (.endExclusive store projection)
        { s with
          exclusive := false
          client := { s.client with store := store, projection := projection } }
  | abort : Steps runtime s .abort { s with client := s.client.abortRefresh .userCancelled }
  | answer {refresh : CurrentRefresh} {id : Nat} (result : Except RequestFailure StatusDelta)
      (hcurrent : s.client.currentRefresh = some refresh) (hphase : refresh.phase = .awaiting id) :
      Steps runtime s (.answer result) { s with client := s.client.answerRefresh refresh id result }
  | settle {refresh : CurrentRefresh} {result : Except RequestFailure StatusDelta}
      (hcurrent : s.client.currentRefresh = some refresh)
      (hphase : refresh.phase = .settled result) :
      Steps runtime s .settle { s with client := s.client.settleRefresh refresh result }
  | publish {refresh : CurrentRefresh} {delta : StatusDelta}
      (hcurrent : s.client.currentRefresh = some refresh) (hphase : refresh.phase =
        .applied delta) :
      Steps runtime s .publish { s with client := s.client.publishRefresh refresh delta }
  | finish {refresh : CurrentRefresh} (hcurrent : s.client.currentRefresh = some refresh)
      (hphase : refresh.phase = .closing) : Steps runtime s .finish (s.finish refresh)

theorem steps_of_step (h : s.step runtime event = some s') : s.Steps runtime event s' := by
  cases event with
  | fileEvent event =>
    cases h
    exact .fileEvent event
  | call call =>
    cases h
    exact .call call
  | resume index =>
    obtain ⟨call, hcall, h⟩ := Option.bind_eq_some_iff.mp h
    split at h
    · cases h
    rename_i hbusy
    cases h
    exact .resume hcall (by simpa using hbusy)
  | abortWaiting index =>
    obtain ⟨call, hcall, h⟩ := Option.bind_eq_some_iff.mp h
    cases h
    exact .abortWaiting hcall
  | timer =>
    obtain ⟨hpending, ⟨⟩⟩ := Option.ite_none_right_eq_some.mp h
    exact .timer hpending
  | fullReconcileTimer =>
    obtain ⟨-, ⟨⟩⟩ := Option.ite_none_right_eq_some.mp h
    exact .fullReconcileTimer
  | endExclusive store projection =>
    obtain ⟨-, ⟨⟩⟩ := Option.ite_none_right_eq_some.mp h
    exact .endExclusive store projection
  | abort =>
    obtain ⟨refresh, -, h⟩ := Option.bind_eq_some_iff.mp h
    obtain ⟨-, ⟨⟩⟩ := Option.ite_none_right_eq_some.mp h
    exact .abort
  | answer | settle | publish | finish =>
    obtain ⟨refresh, hcurrent, h⟩ := Option.bind_eq_some_iff.mp h
    dsimp only [callback] at h
    split at h
    · rename_i hphase
      cases h
      constructor
      · exact hcurrent
      · exact hphase
    · cases h

/-- **Every event** moves the client in one of the listed ways. -/
theorem step_moves (h : s.step runtime event = some s') :
    s.client.Moves runtime event s'.client := by
  cases steps_of_step h with
  | fileEvent event =>
    obtain ⟨hscope, hdirty, hcurrent⟩ := s.client.recordFileEvent_records runtime event
    unfold recordFileEvent
    split <;> rename_i client heq <;> rw [heq] at hscope hdirty hcurrent
    · exact .records hscope hdirty hcurrent
    · exact .records hscope hdirty hcurrent
  | call call => exact request_moves (by simp) call
  | @resume index call _ hidle =>
    exact (@start_starts runtime { s with waiting := s.waiting.eraseIdx index } call).moves
      (by simp) (idle_of_not_busy hidle)
  | abortWaiting => exact StatusClient.moves_self (by simp)
  | timer => exact @request_moves runtime { s with timer := false } _ (by simp) (.flush .absent)
  | fullReconcileTimer =>
    exact @request_moves runtime { s with fullReconcileTimer := false } _ (by simp)
      .scheduledFullReconcile
  | endExclusive store projection =>
    exact .goesOn (by simp) rfl rfl (StatusClient.rel_continues_refl _)
  | abort =>
    obtain ⟨hscope, hdirty, hrel⟩ := s.client.abortRefresh_continues .userCancelled
    exact .goesOn (by simp) hscope hdirty hrel
  | answer result hcurrent hphase =>
    refine .goesOn (by simp) rfl rfl ?_
    rw [hcurrent]
    exact .some ⟨rfl, rfl, by rw [hphase]; rfl⟩
  | settle hcurrent hphase => exact settleRefresh_moves hcurrent hphase
  | publish hcurrent hphase => exact publishRefresh_moves hcurrent hphase
  | finish hcurrent hphase => exact finishRefresh_moves hcurrent hphase

end RefreshScheduler

namespace RefreshExample

def runtime : Runtime where
  platform := .posix
  toLocaleLowerCase := id
  toISOString := fun _ => "t"
  dateParse := fun _ => some 0
  remoteFailure := fun _ => ⟨.attention, .unknownRemote, false⟩

def scope : RepositoryWatchScope := ⟨"uuid:/wc", 1, "/wc", .caseSensitive, none⟩

/-- A repository that has just been registered and shows nothing yet. -/
def registered : RefreshScheduler := .register scope none none .empty .empty .new

/-- The daemon does not answer the request of the current refresh, which ends. -/
def failing : List RefreshEvent := [.answer (.error (.cancelled 1)), .settle, .finish]

end RefreshExample

end SubversionR

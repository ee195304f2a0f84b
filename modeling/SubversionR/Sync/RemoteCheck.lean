import SubversionR.Lanes.Steps
import SubversionR.Sync.Cancellation

/-!
# Remote checks — the incoming changes of the two sides

The delta of a remote check is made when the daemon answers, but it would be applied only once the
refresh lock is free, perhaps after a refresh with a later generation.  Whether a delta can be lost
that way depends on what the daemon answers: a request of the extension always carries the envelope
of a remote operation, a session of a `file:` repository refuses it, and for any other one the check
is left to a worker whose settlement is an error.  So no check receives a delta, and the remote
entries of both sides stay what they were.

* `StatusDelta.OfRefresh` — what the delta of a refresh says about remote entries;
* `System.dispatch_check_quiet` — a check of the extension in the daemon;
* `ChecksUnanswered` — the invariant of a run: every delta under way is one of a refresh;
* `remote_entries_stay_equal` — the remote entries of both sides along any run.
-/

namespace SubversionR

open KeyedMaps KeyedMap Runs StatusClient SubversionR.System

/-! ## The deltas of refreshes -/

/-- The delta of a refresh: it says nothing about remote entries, and it is none of a check. -/
structure StatusDelta.OfRefresh (delta : StatusDelta) : Prop where
  remoteUpsert : delta.remoteUpsert = []
  remoteRemove : delta.remoteRemove = []
  source : delta.source ≠ "libsvn-remote"

/-- A refresh leaves the remote entries of the session and publishes none. -/
theorem ofRefresh_of_refresh {platform : Platform} {bridge : StatusBridge} {now : Text}
    {targets : List StatusRefreshTarget} {session session' : RepositorySession}
    {delta : StatusDelta}
    (h : session.refresh platform bridge now targets = .ok (delta, session')) :
    delta.OfRefresh ∧ session'.repositoryId = session.repositoryId ∧
      session'.remoteEntries = session.remoteEntries := by
  unfold RepositorySession.refresh at h
  dsimp only at h
  split at h
  · cases h
  · cases h
    refine ⟨⟨changed_self _, removed_self _, ?_⟩, rfl, rfl⟩
    show ("libsvn-local" : Text) ≠ "libsvn-remote"
    decide

/-- No check takes the delta of a refresh for its own. -/
theorem readCheckReply_ne_ok {platform : Platform} {request : StatusRemoteCheckRequest}
    {result : Except DaemonError StatusDelta}
    (h : ∀ delta, result = .ok delta → delta.OfRefresh) (delta : StatusDelta) :
    readCheckReply platform request result ≠ .ok delta := by
  intro hread
  obtain ⟨hresult, -, hcoverage⟩ := readDeltaReply_eq_ok_iff.mp hread
  obtain ⟨-, -, hsource, -⟩ := requireRemoteCoverage_accepts.ok_iff.mp hcoverage
  exact (h delta hresult).source hsource

/-- The store keeps its remote entries, those of every repository. -/
theorem remoteEntries_of_applyDelta {store store' : StatusSnapshotStore} {delta : StatusDelta}
    (hdelta : delta.OfRefresh) (h : store.applyDelta delta = .ok store') (id : Text) :
    (store'.core id).map StatusCore.remoteEntries =
      (store.core id).map StatusCore.remoteEntries := by
  obtain ⟨state, state', hget, happly, rfl⟩ := StatusSnapshotStore.update_eq_ok_iff.mp h
  obtain ⟨-, _, -, -, _, -, rfl⟩ := RepositoryState.applyDelta_eq_ok_iff.mp happly
  have hkey : state.repositoryId = delta.repositoryId := key_of_get? hget
  unfold StatusSnapshotStore.core
  rw [get?_insert]
  by_cases hid : state.repositoryId = id
  · rw [if_pos hid, ← hid, hkey, hget]
    show some (state.remoteEntries.patch delta.remoteRemove delta.remoteUpsert) = _
    rw [hdelta.remoteRemove, hdelta.remoteUpsert]
    rfl
  · rw [if_neg hid]

namespace System

/-! ## Checks in the daemon -/

/-- **A check of the extension in the daemon**: the envelope keeps it from the local path, so no
session changes and no delta is published. -/
theorem dispatch_check_quiet (env : DaemonEnvironment) (request : StatusRemoteCheckRequest)
    (daemon : Daemon) :
    (daemon.dispatch env ⟨.statusCheckRemote, request.toJson⟩).daemon.toDaemonState =
        daemon.toDaemonState ∧
      ∀ delta, statusReply (daemon.dispatch env ⟨.statusCheckRemote, request.toJson⟩).answer ≠
        some (.ok delta) := by
  rcases @Daemon.dispatch_cases env ⟨.statusCheckRemote, request.toJson⟩ daemon with
    ⟨failure, heq⟩ | ⟨-, heq⟩
  · rw [heq]
    exact ⟨rfl, fun _ hreply => by cases hreply⟩
  rw [heq, show daemon.handle env ⟨.statusCheckRemote, request.toJson⟩ =
    daemon.dispatchCheckRemote env ⟨.statusCheckRemote, request.toJson⟩ from rfl]
  rcases @Daemon.dispatchCheckRemote_cases env ⟨.statusCheckRemote, request.toJson⟩ daemon with
    ⟨hstate, hquiet⟩ | ⟨hlocal, -⟩
  · refine ⟨hstate, fun delta hreply => ?_⟩
    cases hanswer : (daemon.dispatchCheckRemote env
        ⟨.statusCheckRemote, request.toJson⟩).answer with
    | error error =>
      rw [hanswer] at hreply
      cases hreply
    | ok result =>
      have hresult := hquiet result hanswer
      rw [hanswer] at hreply
      cases result with
      | delta => cases hresult
      | _ => cases hreply
  · cases hlocal

/-! ## The invariant of a run -/

/-- The remote entries the extension holds of the repository, and those of its session. -/
def remoteSides (s : System) : Option EntryMap × Option EntryMap :=
  ((s.client.store.core s.client.scope.repositoryId).map StatusCore.remoteEntries,
    (s.daemon.repositories.get? s.client.scope.repositoryId).map RepositorySession.remoteEntries)

/-- The remote entries of the repository are the same on both sides. -/
def SameRemoteEntries (s : System) : Prop :=
  ∃ session state,
    s.daemon.repositories.get? s.client.scope.repositoryId = some session ∧
    s.client.store.repositories.get? s.client.scope.repositoryId = some state ∧
    state.remoteEntries = session.remoteEntries

theorem sameRemoteEntries_iff {s : System} :
    s.SameRemoteEntries ↔ ∃ entries, s.remoteSides = (some entries, some entries) := by
  unfold SameRemoteEntries remoteSides StatusSnapshotStore.core
  constructor
  · rintro ⟨session, state, hsession, hstate, hsame⟩
    refine ⟨session.remoteEntries, ?_⟩
    rw [hsession, hstate]
    exact congrArg (some ·, some session.remoteEntries) hsame
  · rintro ⟨entries, hsides⟩
    obtain ⟨hstore, hdaemon⟩ := Prod.mk.inj hsides
    obtain ⟨session, hsession, rfl⟩ := Option.map_eq_some_iff.mp hdaemon
    obtain ⟨core, hcore, hentries⟩ := Option.map_eq_some_iff.mp hstore
    obtain ⟨state, hstate, rfl⟩ := Option.map_eq_some_iff.mp hcore
    exact ⟨session, state, hsession, hstate, hentries⟩

/-- No refresh and no check of the repository is under way. -/
structure AtRest (s : System) : Prop where
  idle : s.client.currentRefresh = none
  noChecks : s.checks = []
  noReplies : s.client.transport.toClient = []

/-- The end of a failed check, whatever the connection makes of it. -/
theorem failCheck_eq (runtime : Runtime) (s : System) (check : RemoteCheck)
    (failure : NativeRemoteFailure) (now : Text) :
    ∃ connection, s.failCheck runtime check failure now =
      { s.removeCheck check.operationId with connection } := by
  unfold failCheck
  dsimp only
  split
  · exact ⟨s.connection, rfl⟩
  · exact ⟨_, rfl⟩

end System

/-- **The invariant of a run.**  The remote entries of the two sides are `sides`, every delta on its
way to the extension or held by its refresh is one of a refresh, and no check has received one. -/
structure ChecksUnanswered (sides : Option EntryMap × Option EntryMap) (s : System) : Prop where
  sides : s.remoteSides = sides
  replies : ∀ reply ∈ s.client.transport.toClient, ∀ delta, reply.result = .ok delta →
    delta.OfRefresh
  held : ∀ delta, s.client.phase = some (.settled (.ok delta)) → delta.OfRefresh
  unanswered : ∀ check ∈ s.checks, ∀ request delta, check.phase ≠ .answered request delta

namespace ChecksUnanswered

variable {runtime : Runtime} {sides : Option EntryMap × Option EntryMap} {s s' : System}
  {client' : StatusClient} {check : RemoteCheck}

theorem of_atRest (h : s.AtRest) : ChecksUnanswered s.remoteSides s where
  sides := rfl
  replies := by simp [h.noReplies]
  held := by simp [phase_of_idle h.idle]
  unanswered := by simp [h.noChecks]

/-! ### Refreshes -/

section

variable (h : ChecksUnanswered sides s)

include h

/-- A step of the extension that keeps the cores and the replies, and hands the refresh nothing. -/
theorem withClient (hscope : client'.scope = s.client.scope)
    (hcore : ∀ id, client'.store.core id = s.client.store.core id)
    (hreplies : client'.transport.toClient = s.client.transport.toClient)
    (hheld : ∀ delta, client'.phase = some (.settled (.ok delta)) →
      s.client.phase = some (.settled (.ok delta))) :
    ChecksUnanswered sides { s with client := client' } where
  sides := by
    rw [← h.sides]
    unfold System.remoteSides
    rw [hscope, hcore]
  replies := by
    rw [hreplies]
    exact h.replies
  held := fun delta hdelta => h.held delta (hheld delta hdelta)
  unanswered := h.unanswered

theorem quiet (hquiet : s.client.Quiet client') :
    ChecksUnanswered sides { s with client := client' } := by
  refine h.withClient hquiet.scope hquiet.core (by rw [hquiet.transport]) fun delta hdelta => ?_
  unfold phase at hdelta ⊢
  rwa [hquiet.currentRefresh] at hdelta

/-- The refresh moves on to a phase without a delta. -/
theorem setPhase (hscope : client'.scope = s.client.scope)
    (hcore : ∀ id, client'.store.core id = s.client.store.core id)
    (hreplies : client'.transport.toClient = s.client.transport.toClient)
    (hphase : ∀ delta, client'.phase ≠ some (.settled (.ok delta))) :
    ChecksUnanswered sides { s with client := client' } :=
  h.withClient hscope hcore hreplies fun delta hdelta => absurd hdelta (hphase delta)

theorem abort (reason : CancelReason) :
    ChecksUnanswered sides { s with client := s.client.abortRefresh reason } := by
  rcases s.client.abortRefresh_cases reason with
    heq | ⟨refresh, phase, transport, hcurrent, heq,
      ⟨rfl, rfl⟩ | ⟨id, hid, rfl, hcancel⟩⟩ <;> rw [heq]
  · exact h
  · refine h.withClient rfl (fun _ => rfl) rfl fun delta hdelta => ?_
    rw [phase_of_current hcurrent]
    exact hdelta
  · exact h.setPhase rfl (fun _ => rfl) (by rw [Transport.cancelRequest_eq_some hcancel])
      (ne_of_passive rfl).2

theorem begin (kind : RefreshKind) (targets : List StatusRefreshTarget) (signal : CallerSignal) :
    ChecksUnanswered sides { s with client := s.client.beginRefresh kind targets signal } := by
  obtain ⟨_, _, heq, -, -, hopen⟩ := s.client.beginRefresh_cases kind targets signal
  rw [heq]
  rcases hopen with ⟨⟨_, hfailed⟩, rfl⟩ | ⟨_, hawaiting, hsend⟩
  · refine h.setPhase rfl (fun _ => rfl) rfl fun delta => ?_
    rw [phase_of_current rfl, hfailed]
    exact fun hne => by cases hne
  · obtain ⟨rfl, rfl⟩ := Prod.mk.inj hsend
    refine h.setPhase rfl (fun _ => rfl) rfl fun delta => ?_
    rw [phase_of_current rfl, hawaiting]
    exact fun hne => by cases hne

theorem starts (hstarts : s.client.Starts client') :
    ChecksUnanswered sides { s with client := client' } := by
  obtain ⟨mid, hquiet, hmid⟩ := hstarts.quiet
  have hmidUnanswered : ChecksUnanswered sides { s with client := mid } := h.quiet hquiet
  rcases hmid with rfl | ⟨kind, targets, signal, rfl⟩
  · exact hmidUnanswered
  · exact hmidUnanswered.begin kind targets signal

/-- The refresh settles; a delta it applies leaves the remote entries. -/
theorem settle {refresh : CurrentRefresh} {result : Except RequestFailure StatusDelta}
    (hcurrent : s.client.currentRefresh = some refresh)
    (hresult : refresh.phase = .settled result) :
    ChecksUnanswered sides { s with client := s.client.settleRefresh refresh result } := by
  have hphase : s.client.phase = some (.settled result) :=
    hresult ▸ phase_of_current hcurrent
  rcases s.client.settleRefresh_cases refresh result with
    ⟨delta, store, rfl, haccept, heq⟩ | ⟨-, heq⟩ <;> rw [heq]
  · have hdelta := h.held delta hphase
    have happly := (acceptDelta_eq_ok haccept).2
    refine ⟨?_, h.replies, (fun _ hne => by cases hne), h.unanswered⟩
    rw [← h.sides]
    unfold System.remoteSides
    rw [remoteEntries_of_applyDelta hdelta happly]
  · exact h.setPhase rfl (fun _ => rfl) rfl (ne_of_passive rfl).2

theorem publish (refresh : CurrentRefresh) (delta : StatusDelta) :
    ChecksUnanswered sides { s with client := s.client.publishRefresh refresh delta } := by
  obtain ⟨_, heq⟩ := s.client.publishRefresh_eq refresh delta
  rw [heq]
  exact h.setPhase rfl (fun _ => rfl) rfl (ne_of_passive rfl).2

theorem finish : ChecksUnanswered sides { s with client := s.client.finishRefresh } := by
  obtain ⟨_, _, heq⟩ := s.client.finishRefresh_eq
  rw [heq]
  exact h.setPhase rfl (fun _ => rfl) rfl (ne_of_passive rfl).2

/-! ### The daemon -/

/-- The daemon answers: the session keeps its remote entries, and a delta is one of a refresh. -/
theorem reply {handled : Handled} (id : Nat) (rest : List ClientMessage)
    (hremote : (handled.daemon.repositories.get? s.client.scope.repositoryId).map
      RepositorySession.remoteEntries =
        (s.daemon.repositories.get? s.client.scope.repositoryId).map
          RepositorySession.remoteEntries)
    (hdelta : ∀ delta, statusReply handled.answer = some (.ok delta) → delta.OfRefresh) :
    ChecksUnanswered sides (s.reply id rest handled) := by
  refine ⟨?_, ?_, h.held, h.unanswered⟩
  · rw [← h.sides]
    exact congrArg (Prod.mk _) hremote
  · intro reply hreply delta hresult
    rcases List.mem_append.mp hreply with hold | hnew
    · exact h.replies reply hold delta hresult
    · obtain ⟨result, hmem, rfl⟩ := List.mem_map.mp hnew
      rw [Option.mem_toList] at hmem
      exact hdelta delta (hmem.trans (congrArg some hresult))

theorem execute {env : DaemonEnvironment} (hstep : s.step runtime (.execute env) = some s') :
    ChecksUnanswered sides s' := by
  rcases execute_cases hstep with ⟨id, rest, hqueue, rfl⟩ |
    ⟨id, request, rest, hqueue, rfl⟩ | ⟨id, request, rest, hqueue, rfl⟩
  · exact ⟨h.sides, h.replies, h.held, h.unanswered⟩
  · rcases dispatch_refresh_cases (env.on runtime.platform) request s.daemon with
      ⟨error, hreply, hdaemon⟩ | ⟨session, session', delta, targets, hsession, hrefresh, hreply,
        hinsert⟩
    · refine h.reply id rest (by rw [hdaemon]) fun delta hdelta => ?_
      rw [hreply] at hdelta
      cases hdelta
    · obtain ⟨hlocal, hid, hremote⟩ := ofRefresh_of_refresh hrefresh
      refine h.reply id rest ?_ fun delta' hdelta => ?_
      · -- the refreshed session may be the one of another repository
        rw [hinsert, get?_insert]
        split
        · rename_i hkey
          rw [← hkey, hid, show session.repositoryId = request.repositoryId from
            key_of_get? hsession, hsession]
          exact congrArg some hremote
        · rfl
      · rw [hreply] at hdelta
        cases hdelta
        exact hlocal
  · obtain ⟨hstate, hnone⟩ :=
      dispatch_check_quiet (env.on runtime.platform) request s.daemon
    refine h.reply id rest ?_ fun delta hdelta => absurd hdelta (hnone delta)
    rw [congrArg DaemonState.repositories hstate]

/-- A worker settles: its reply is an error, and no session changes. -/
theorem settleLaunch {id : Nat} {settlement : Daemon.RemoteWorkerSettlement}
    (hstep : s.step runtime (.settleLaunch id settlement) = some s') :
    ChecksUnanswered sides s' := by
  obtain ⟨_, daemon, _, hstate, rfl⟩ := settleLaunch_cases hstep
  refine ⟨?_, ?_, h.held, h.unanswered⟩
  · rw [← h.sides]
    unfold System.remoteSides
    rw [congrArg DaemonState.repositories hstate]
  · intro reply hreply delta hresult
    rcases List.mem_append.mp hreply with hold | hnew
    · exact h.replies reply hold delta hresult
    · rw [List.mem_singleton.mp hnew] at hresult
      cases hresult

/-! ### Checks -/

theorem withChecks {checks : List RemoteCheck} (connection : RemoteConnectionStateStore)
    (hchecks : ∀ check ∈ checks, ∀ request delta, check.phase ≠ .answered request delta) :
    ChecksUnanswered sides { s with checks, connection } :=
  ⟨h.sides, h.replies, h.held, hchecks⟩

theorem failCheck (failure : NativeRemoteFailure) (now : Text) :
    ChecksUnanswered sides (s.failCheck runtime check failure now) := by
  obtain ⟨connection, heq⟩ := failCheck_eq runtime s check failure now
  rw [heq]
  exact h.withChecks connection fun check hcheck =>
    h.unanswered check (List.mem_of_mem_filter hcheck)

theorem setCheck (hphase : ∀ request delta, check.phase ≠ .answered request delta) :
    ChecksUnanswered sides (s.setCheck check) := by
  refine h.withChecks s.connection fun moved hmoved => ?_
  obtain ⟨other, hother, rfl⟩ := List.mem_map.mp hmoved
  split
  · exact hphase
  · exact h.unanswered other hother

theorem beginCheck (epoch : Nat) (operationId startedAt : Text) :
    ChecksUnanswered sides (s.beginCheck runtime epoch operationId startedAt) := by
  unfold System.beginCheck
  split
  · exact h
  split
  · refine h.withChecks _ fun check hcheck => ?_
    rcases List.mem_append.mp hcheck with hold | hnew
    · exact h.unanswered check hold
    · rw [List.mem_singleton.mp hnew]
      exact fun _ _ hne => by cases hne
  · exact h.withChecks _ h.unanswered

theorem sendCheck (envelope : Except NativeRemoteFailure RemoteOperationEnvelope) (now : Text) :
    ChecksUnanswered sides (s.sendCheck runtime check envelope now) := by
  unfold System.sendCheck
  split
  · exact h.failCheck _ now
  dsimp only
  split
  · exact h.failCheck _ now
  · refine setCheck ?_ fun _ _ hne => by cases hne
    exact h.withClient rfl (fun _ => rfl) rfl fun _ hdelta => hdelta

theorem abortCheck {operationId now : Text}
    (hstep : s.step runtime (.abortCheck operationId now) = some s') :
    ChecksUnanswered sides s' := by
  dsimp only [System.step] at hstep
  split at hstep
  · split at hstep
    · obtain ⟨transport, hcancel, rfl⟩ := Option.map_eq_some_iff.mp hstep
      refine failCheck ?_ _ now
      exact h.withClient rfl (fun _ => rfl) (by rw [Transport.cancelRequest_eq_some hcancel])
        fun _ hdelta => hdelta
    · cases hstep
  · cases hstep

/-! ### Replies -/

/-- The reply reaches whoever waits for it; a check that receives the delta of a refresh fails. -/
theorem handOver {result : Except DaemonError StatusDelta}
    (hresult : ∀ delta, result = .ok delta → delta.OfRefresh) (id : Nat) (now : Text) :
    ChecksUnanswered sides (s.handOver runtime id result now) := by
  unfold System.handOver
  split
  · refine ⟨h.sides, h.replies, fun delta hdelta => ?_, h.unanswered⟩
    have hread := RefreshPhase.settled.inj (Option.some.inj hdelta)
    exact hresult delta (readDeltaReply_eq_ok_iff.mp hread).1
  unfold System.handToCheck
  split
  · exact h
  split
  · exact h.failCheck _ now
  · rename_i delta hread
    exact absurd hread (readCheckReply_ne_ok hresult delta)

theorem deliver {now : Text} (hstep : s.step runtime (.deliver now) = some s') :
    ChecksUnanswered sides s' := by
  obtain ⟨reply, rest, hqueue, hcases⟩ := deliver_cases hstep
  have htake : ∀ pending, ChecksUnanswered sides (s.takeReply pending rest) := fun pending =>
    ⟨h.sides, fun other hother => h.replies other (hqueue ▸ List.mem_cons_of_mem _ hother), h.held,
      h.unanswered⟩
  rcases hcases with ⟨-, rfl⟩ | ⟨-, rfl⟩
  · exact htake _
  · exact (htake _).handOver (h.replies reply (hqueue ▸ List.mem_cons_self)) reply.id now

/-! ### Runs -/

/-- **What one step preserves.** -/
theorem step {e : SystemEvent} (hstep : s.step runtime e = some s') :
    ChecksUnanswered sides s' := by
  cases e with
  | fileEvent event =>
    cases hstep
    obtain ⟨mid, hquiet, -, hmid⟩ := s.client.recordFileEvent_cases runtime event
    have hmidUnanswered : ChecksUnanswered sides { s with client := mid } := h.quiet hquiet
    rcases hmid with heq | ⟨-, heq⟩
    · rw [heq]
      exact hmidUnanswered
    · rw [heq]
      exact hmidUnanswered.abort .dirtyGenerationSuperseded
  | flush | refreshTargets | refreshResource | fullReconcile | scheduledFullReconcile =>
    obtain ⟨-, _, hstarts, rfl⟩ := start_cases rfl hstep
    exact h.starts hstarts
  | abort =>
    obtain ⟨_, -, rfl⟩ := abort_cases hstep
    exact h.abort .userCancelled
  | settle =>
    obtain ⟨_, _, hcurrent, hphase, rfl⟩ := settle_cases hstep
    exact h.settle hcurrent hphase
  | publish =>
    obtain ⟨refresh, delta, -, -, rfl⟩ := publish_cases hstep
    exact h.publish refresh delta
  | finish =>
    obtain ⟨_, -, -, rfl⟩ := finish_cases hstep
    exact h.finish
  | execute env => exact h.execute hstep
  | settleLaunch id settlement => exact h.settleLaunch hstep
  | deliver now => exact h.deliver hstep
  | beginCheck epoch operationId startedAt =>
    cases hstep
    exact h.beginCheck epoch operationId startedAt
  | sendCheck operationId envelope now =>
    obtain ⟨_, -, -, rfl⟩ := sendCheck_cases hstep
    exact h.sendCheck envelope now
  | abortCheck operationId now => exact h.abortCheck hstep
  | applyCheck operationId checkedAt =>
    -- there is no delta to apply
    obtain ⟨-, check, request, delta, hfound, hphase, -⟩ := applyCheck_cases hstep
    exact absurd hphase (h.unanswered check (List.mem_of_find?_eq_some hfound) request delta)

end

end ChecksUnanswered

namespace RemoteCheckExample

/-- `c.txt` has been changed in the repository, which both sides know. -/
def incoming : EntryMap :=
  ofList [{ StatusEntry.file "c.txt" "none" with remoteStatus := "modified" }]

def session : RepositorySession :=
  { LockstepExample.session with
    identity := { RepositoryIdentity.sample with repositoryRootUrl := "svn://host/repository" }
    remoteEntries := incoming }

def start : System :=
  { CancellationExample.start with
    client.store := ⟨KeyedMap.empty.insert { LockstepExample.state with remoteEntries := incoming }⟩
    connection := ⟨KeyedMap.empty.insert
      ⟨"uuid:/wc", 1, .unchecked, ⟨.unchecked, none⟩, .notRequired, none⟩⟩
    daemon := { Daemon.new with
      repositories := KeyedMap.empty.insert session
      nextEpoch := 2
      remoteTrust := some ⟨true, 1, 1⟩ } }

def operationId : Text := "00000000-0000-4000-8000-000000000001"

def envelope : RemoteOperationEnvelope :=
  ⟨1, operationId, "foreground", "allowed", 1000, "trusted", 1, .svn, LaneExample.profileJson,
    LaneExample.endpointJson⟩

def settlement : Daemon.RemoteWorkerSettlement := ⟨.ok (), .readOnly, true, true, true, true⟩

/-- The check is sent and launched in a worker. -/
def checking : List SystemEvent :=
  [.beginCheck 1 operationId "t", .sendCheck operationId (.ok envelope) "t",
    .refreshTargets 1 [⟨"a.txt", .empty, "resourceRefresh"⟩] .absent,
    .execute LaneExample.environment]

/-- The worker settles, the refresh is answered, and both replies are read. -/
def finishing : List SystemEvent :=
  [.settleLaunch 1 settlement, .execute LaneExample.environment, .deliver "t", .deliver "t",
    .settle, .publish, .finish]

def launched : System :=
  (run (step CancellationExample.runtime) start checking).get (by decide +kernel)

def settled : System :=
  (run (step CancellationExample.runtime) start (checking ++ finishing)).get
    (by decide +kernel)

end RemoteCheckExample

end SubversionR

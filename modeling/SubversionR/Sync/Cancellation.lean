import SubversionR.Sync.DeltaContract
import SubversionR.Sync.Lockstep
import SubversionR.Sync.System

/-!
# Cancellation — the extension's copy across cancelled refreshes

The daemon publishes each delta against its *own* last state.  A refresh that is aborted in flight
may still be executed: the daemon has then moved on, and its reply is dropped.

* `Published` — the step of a session that a delta describes; a delta with complete coverage
  repeats every entry, because every entry carries the new generation;
* `Tracked` — the invariant of a run: the deltas that are still under way lead from some earlier
  state of the session to its present one, and the extension shows no path that state did not have;
* `complete_delta_restores_agreement` — as long as no dropped delta removes a path the extension
  still shows, applying a delta with complete coverage makes the copy equal to the session.
-/

namespace SubversionR

open KeyedMaps KeyedMap Runs StatusClient SubversionR.System RefreshPhase Transport

/-! ## Deltas with complete coverage -/

theorem foldl_mergeScan_coverage (generation : Nat) (state : RefreshState)
    (scans : List (StatusRefreshTarget × StatusSnapshot)) :
    (scans.foldl (RefreshState.mergeScan generation) state).coverage =
      state.coverage ++ scans.map fun scan =>
        ⟨scan.1.path, scan.1.depth.word, generation, scan.1.reason⟩ := by
  induction scans generalizing state with
  | nil => simp
  | cons scan rest ih =>
    rw [List.foldl_cons, ih, List.map_cons]
    unfold RefreshState.mergeScan
    simp

theorem eq_infinity_of_word {depth : StatusRefreshDepth} (h : depth.word = "infinity") :
    depth = .infinity := by
  cases depth with
  | infinity => rfl
  | empty => exact absurd h (by decide)
  | files => exact absurd h (by decide)
  | immediates => exact absurd h (by decide)

variable {platform : Platform} {bridge : StatusBridge} {now : Text}
  {targets : List StatusRefreshTarget} {session session' : RepositorySession} {delta : StatusDelta}

/-- A refresh with complete coverage scanned the working copy root, and nothing else. -/
theorem scans_of_complete (h : session.refresh platform bridge now targets = .ok (delta, session'))
    (hcomplete : isCompleteDeltaCoverage delta.coverage = true) :
    ∃ reason entries snapshot,
      snapshot.localEntries = session.reportedEntries platform entries ∧
      session'.localEntries = (session.refreshState.mergeScan session.nextGeneration
        (⟨".", .infinity, reason⟩, snapshot)).nextEntries := by
  obtain ⟨scans, hscans, rfl, hcoverage⟩ := refresh_eq_ok h
  obtain ⟨-, hentries⟩ := scanTargets_eq_ok hscans
  rw [foldl_mergeScan_coverage] at hcoverage
  rw [hcoverage] at hcomplete
  match scans, hentries, hcomplete with
  | [], _, hcomplete => cases hcomplete
  | _ :: _ :: _, _, hcomplete => cases hcomplete
  | [(target, snapshot)], hentries, hcomplete =>
    obtain ⟨hpath, hdepth⟩ := Bool.and_eq_true_iff.mp hcomplete
    have hpath : target.path = "." := of_decide_eq_true hpath
    have hdepth : target.depth = .infinity := eq_infinity_of_word (of_decide_eq_true hdepth)
    have hmem : snapshot.localEntries ∈ (session.scanResults bridge 0 (targets.filter fun target =>
        !pathInsideBoundaryRoots platform target.path session.boundaryRoots)).map
          (session.reportedEntries platform) := by
      rw [← hentries]
      exact List.mem_singleton.mpr rfl
    obtain ⟨entries, -, heq⟩ := List.mem_map.mp hmem
    obtain ⟨path, depth, reason⟩ := target
    cases hpath
    cases hdepth
    exact ⟨reason, entries, snapshot, heq.symm, rfl⟩

/-- After a refresh with complete coverage every entry carries the generation of the refresh. -/
theorem generation_of_complete
    (h : session.refresh platform bridge now targets = .ok (delta, session'))
    (hcomplete : isCompleteDeltaCoverage delta.coverage = true) {p : Text} {e : StatusEntry}
    (he : session'.localEntries.get? p = some e) : e.generation = session.nextGeneration := by
  obtain ⟨_, _, _, hentries, hlocal⟩ := scans_of_complete h hcomplete
  rw [hlocal, get?_mergeScan] at he
  split at he
  · rename_i hlast
    split at he
    · cases he
      have hmem := List.mem_of_mem_filter (lastWithKey_mem hlast).1
      rw [hentries] at hmem
      exact generation_of_mem_reportedEntries hmem
    · cases he
  · -- an entry the scan did not report is swept, since the target covers everything
    rw [Option.filter_eq_some_iff] at he
    obtain ⟨-, htest⟩ := he
    rw [coverageMatches_dot_infinity] at htest
    simp at htest

/-- The step of a session that a delta describes. -/
structure Published (before : RepositorySession) (delta : StatusDelta)
    (after : RepositorySession) : Prop where
  between : DeltaBetween before after delta
  repeats : isCompleteDeltaCoverage delta.coverage = true → ∀ p e,
    after.localEntries.get? p = some e → before.localEntries.get? p ≠ some e

theorem published_of_refresh (hold : session.Older)
    (h : session.refresh platform bridge now targets = .ok (delta, session')) :
    Published session delta session' := by
  refine ⟨refresh_deltaBetween h, fun hcomplete p e hafter hbefore => ?_⟩
  have hfresh := generation_of_complete h hcomplete hafter
  have holder := hold p e hbefore
  omega

/-! ## What is under way -/

/-- The delta a refresh holds that has not reached the store. -/
def RefreshPhase.held : RefreshPhase → List StatusDelta
  | .settled (.ok delta) => [delta]
  | _ => []

namespace StatusClient

/-- The delta the current refresh has just applied. -/
def appliedDelta (client : StatusClient) : Option StatusDelta :=
  client.phase.bind fun phase =>
    match phase with
    | .applied delta => some delta
    | _ => none

/-- The deltas that have not reached the store, oldest first. -/
def underWay (client : StatusClient) : List StatusDelta :=
  (client.phase.elim [] held) ++
    client.transport.toClient.filterMap fun reply => reply.result.toOption

end StatusClient

theorem held_of_passive {phase : Option RefreshPhase}
    (h : phase.all isPassive = true) : phase.elim [] held = [] := by
  match phase, h with
  | none, _ => rfl
  | some (.settled (.error _)), _ => rfl
  | some (.applied _), _ => rfl
  | some .closing, _ => rfl

theorem underWay_settled {client : StatusClient} {delta : StatusDelta}
    (h : client.phase = some (.settled (.ok delta))) :
    client.underWay = delta ::
      client.transport.toClient.filterMap fun reply => reply.result.toOption := by
  unfold underWay
  rw [h]
  rfl

/-! ## The copy and the deltas under way -/

/-- The deltas lead from an earlier state of the session to its present one, and every path of the
copy is a path of that earlier state. -/
def CopyTracked (copy : EntryMap) (deltas : List StatusDelta)
    (session : RepositorySession) : Prop :=
  ∃ base : RepositorySession,
    KeyedMap.Covered copy base.localEntries ∧ Path Published base deltas session

namespace CopyTracked

variable {copy : EntryMap} {delta : StatusDelta} {deltas : List StatusDelta}
  {session session' : RepositorySession}

/-- The daemon publishes one more delta. -/
theorem publish (h : CopyTracked copy deltas session) (hdelta : Published session delta session') :
    CopyTracked copy (deltas ++ [delta]) session' := by
  obtain ⟨base, hcovered, hpath⟩ := h
  exact ⟨base, hcovered, hpath.snoc hdelta⟩

/-- The oldest delta is applied. -/
theorem patch (h : CopyTracked copy (delta :: deltas) session) :
    CopyTracked (copy.patch delta.remove delta.upsert) deltas session := by
  obtain ⟨_, hcovered, mid, hdelta, hpath⟩ := h
  refine ⟨mid, ?_, hpath⟩
  rw [hdelta.between.remove, hdelta.between.upsert]
  exact hcovered.patch mid.localEntries

/-- The oldest delta is dropped; it removes no path of the copy. -/
theorem drop (h : CopyTracked copy (delta :: deltas) session)
    (hremove : ∀ p ∈ delta.remove, copy.contains p = false) :
    CopyTracked copy deltas session := by
  obtain ⟨_, hcovered, mid, hdelta, hpath⟩ := h
  rw [hdelta.between.remove] at hremove
  exact ⟨mid, hcovered.skip hremove, hpath⟩

/-- The last delta has complete coverage: applying it gives the entries of the session. -/
theorem patch_eq (h : CopyTracked copy [delta] session)
    (hcomplete : isCompleteDeltaCoverage delta.coverage = true) :
    copy.patch delta.remove delta.upsert = session.localEntries ∧
      session.nextGeneration = delta.generation + 1 := by
  obtain ⟨_, hcovered, _, hdelta, rfl⟩ := h
  rw [hdelta.between.remove, hdelta.between.upsert, hdelta.between.generation]
  exact ⟨hcovered.patch_eq (hdelta.repeats hcomplete), hdelta.between.nextGeneration⟩

theorem repositoryId (h : CopyTracked copy (delta :: deltas) session) :
    delta.repositoryId = session.repositoryId := by
  obtain ⟨_, -, hpath⟩ := h
  have hsame : ∀ (labels : List StatusDelta) (a b : RepositorySession),
      Path Published a labels b → b.repositoryId = a.repositoryId := by
    intro labels
    induction labels with
    | nil =>
      intro a b hab
      cases hab
      rfl
    | cons label labels ih =>
      intro a b ⟨mid, hmid, hrest⟩
      rw [ih mid b hrest, hmid.between.repositoryId_after]
  rw [hsame _ _ _ hpath]
  obtain ⟨mid, hdelta, -⟩ := hpath
  exact hdelta.between.repositoryId

end CopyTracked

/-! ## The queues -/

/-- What the messages of one repository without remote checks look like. -/
structure QueuesSound (scope : RepositoryWatchScope) (phase : Option RefreshPhase)
    (transport : Transport) : Prop where
  messages : ∀ message ∈ transport.toDaemon, (∃ id, message = .cancelRequest id) ∨
    ∃ id request, message = .refresh id request ∧ request.repositoryId = scope.repositoryId
  ordered : transport.Ordered
  pending : ∀ id ∈ transport.pending, phase = some (.awaiting id)
  last : ∀ id, phase = some (.awaiting id) → id + 1 = transport.nextId
  read : ∀ delta, phase = some (.settled (.ok delta)) → transport.openIds = []

namespace QueuesSound

variable {scope : RepositoryWatchScope} {phase phase' : Option RefreshPhase}
  {transport transport' : Transport}

/-- A phase that waits for no reply and holds no delta. -/
def Passive (phase : Option RefreshPhase) : Prop :=
  (∀ id, phase ≠ some (.awaiting id)) ∧ ∀ delta, phase ≠ some (.settled (.ok delta))

/-- From one phase that awaits nothing to another. -/
theorem setPhase (h : QueuesSound scope phase transport)
    (hphase : ∀ id, phase ≠ some (.awaiting id))
    (hphase' : Passive phase') : QueuesSound scope phase' transport where
  messages := h.messages
  ordered := h.ordered
  pending := fun id hid => absurd (h.pending id hid) (hphase id)
  last := fun id hid => absurd hid (hphase'.1 id)
  read := fun delta hdelta => absurd hdelta (hphase'.2 delta)

/-- A new request is sent. -/
theorem send (h : QueuesSound scope phase transport) (hphase : ∀ id, phase ≠ some (.awaiting id))
    {request : StatusRefreshRequest} (hrequest : request.repositoryId = scope.repositoryId) :
    QueuesSound scope (some (.awaiting transport.nextId))
      (transport.sendRequest fun id => .refresh id request).2 := by
  refine ⟨?_, h.ordered.sendRequest fun _ => rfl, ?_, ?_, ?_⟩
  · intro message hmessage
    rcases List.mem_append.mp hmessage with hold | hnew
    · exact h.messages message hold
    · exact .inr ⟨_, request, List.mem_singleton.mp hnew, hrequest⟩
  · intro id hid
    rcases List.mem_append.mp hid with hold | hnew
    · exact absurd (h.pending id hold) (hphase id)
    · rw [List.mem_singleton.mp hnew]
  · intro id hid
    cases hid
    rfl
  · intro _ hdelta
    cases hdelta

/-- The request that is awaited is forgotten, and the daemon is told so. -/
theorem cancel {id : Nat} (h : QueuesSound scope (some (.awaiting id)) transport)
    (hcancel : transport.cancelRequest id = some transport') (hphase' : Passive phase') :
    QueuesSound scope phase' transport' := by
  have hordered := h.ordered.cancelRequest hcancel
  obtain rfl := cancelRequest_eq_some hcancel
  refine ⟨?_, hordered, ?_, fun j hj => absurd hj (hphase'.1 j),
    fun delta hdelta => absurd hdelta (hphase'.2 delta)⟩
  · intro message hmessage
    rcases List.mem_append.mp hmessage with hold | hnew
    · exact h.messages message hold
    · exact .inl ⟨id, List.mem_singleton.mp hnew⟩
  · -- the awaited request was the only pending one
    intro j hj
    obtain ⟨hmem, hne⟩ := List.mem_filter.mp hj
    have hawaited := h.pending j hmem
    cases hawaited
    simp at hne

/-- The daemon answers the oldest message, or reads past it. -/
theorem answer {message : ClientMessage} {rest : List ClientMessage} {replies : List DaemonReply}
    (h : QueuesSound scope phase transport) (hqueue : transport.toDaemon = message :: rest)
    (hid : message.requestId.toList = replies.map DaemonReply.id) :
    QueuesSound scope phase
      { transport with toDaemon := rest, toClient := transport.toClient ++ replies } := by
  have hids := openIds_answer hqueue hid
  refine ⟨?_, h.ordered.congr hids rfl, h.pending, h.last, hids ▸ h.read⟩
  intro message' hmessage'
  exact h.messages message' (hqueue ▸ List.mem_cons_of_mem _ hmessage')

variable {reply : DaemonReply} {rest : List DaemonReply}

/-- A reply nobody waits for is dropped. -/
theorem dropReply (h : QueuesSound scope phase transport)
    (hqueue : transport.toClient = reply :: rest) :
    QueuesSound scope phase { transport with toClient := rest } := by
  refine ⟨h.messages, (h.ordered.read hqueue transport.pending).1, h.pending, h.last, ?_⟩
  intro delta hdelta
  have hnil := h.read delta hdelta
  rw [openIds_read hqueue transport.pending] at hnil
  cases hnil

/-- While a reply is under way no delta is held. -/
theorem held_eq_nil (h : QueuesSound scope phase transport)
    (hqueue : transport.toClient = reply :: rest) :
    phase.elim [] held = [] := by
  match phase, h with
  | some (.settled (.ok delta)), h =>
    have hnil := h.read delta rfl
    unfold Transport.openIds at hnil
    rw [hqueue] at hnil
    cases hnil
  | none, _ | some (.settled (.error _)), _ | some (.awaiting _), _ | some (.applied _), _
  | some .closing, _ => rfl

/-- The reply to the awaited request is read: it was the last one under way. -/
theorem readReply (h : QueuesSound scope (some (.awaiting reply.id)) transport)
    (hqueue : transport.toClient = reply :: rest) (result : Except RequestFailure StatusDelta) :
    rest = [] ∧ QueuesSound scope (some (.settled result))
      { transport with
        pending := transport.pending.filter (· ≠ reply.id)
        toClient := rest } := by
  obtain ⟨hordered, hlater⟩ := h.ordered.read hqueue (transport.pending.filter (· ≠ reply.id))
  have hids := openIds_read hqueue (transport.pending.filter (· ≠ reply.id))
  have hnone : ({ transport with
      pending := transport.pending.filter (· ≠ reply.id)
      toClient := rest } : Transport).openIds = [] := by
    rw [List.eq_nil_iff_forall_not_mem]
    intro id hid
    have hafter := hlater id hid
    have hsent := h.ordered.sent id (hids ▸ List.mem_cons_of_mem _ hid)
    have hlast := h.last reply.id rfl
    omega
  refine ⟨?_, h.messages, hordered, ?_, ?_, fun _ _ => hnone⟩
  · unfold Transport.openIds at hnone
    exact List.map_eq_nil_iff.mp (List.append_eq_nil_iff.mp hnone).1
  · intro id hid
    obtain ⟨hmem, hne⟩ := List.mem_filter.mp hid
    have hawaited := h.pending id hmem
    cases hawaited
    simp at hne
  · intro id hid
    cases hid

end QueuesSound

/-! ## The invariant of a run -/

namespace System

variable (runtime : Runtime)

/-- The delta an event throws away: a reply nobody waits for, one the extension cannot read, or a
delta that reaches a refresh which does not apply it. -/
def discarded (s : System) : SystemEvent → Option StatusDelta
  | .deliver _ =>
    match s.client.transport.toClient with
    | [] => none
    | reply :: _ =>
      match s.awaitingRefresh reply.id with
      | some refresh =>
        if reply.id ∈ s.client.transport.pending ∧
            (readRefreshReply runtime.platform (s.client.refreshRequest refresh.targets)
              reply.result).isOk then none
        else reply.result.toOption
      | none => reply.result.toOption
  | .settle =>
    match s.client.currentRefresh with
    | some refresh =>
      match refresh.phase with
      | .settled (.ok delta) =>
        if (s.client.acceptDelta refresh delta).isOk then none else some delta
      | _ => none
    | none => none
  | _ => none

/-- The local entries the extension shows. -/
def shownEntries (s : System) : EntryMap :=
  ((s.client.store.repositories.get? s.client.scope.repositoryId).map
    RepositoryState.localEntries).getD empty

/-- A delta that the event throws away removes no path the extension shows. -/
def KeepsRemovals (s : System) (e : SystemEvent) : Prop :=
  ∀ delta, s.discarded runtime e = some delta →
    ∀ p ∈ delta.remove, s.shownEntries.contains p = false

instance (s : System) (e : SystemEvent) : Decidable (s.KeepsRemovals runtime e) :=
  match h : s.discarded runtime e with
  | none => isTrue fun delta hdelta => by rw [h] at hdelta; cases hdelta
  | some delta =>
    decidable_of_iff (∀ p ∈ delta.remove, s.shownEntries.contains p = false)
      ⟨fun hall delta' hdelta' => by rw [h] at hdelta'; cases hdelta'; exact hall,
        fun hkeeps => hkeeps delta h⟩

/-- A repository at rest that the extension and the daemon agree on.  The entries of a session are
always older than its next request. -/
structure Agreed (s : System) : Prop where
  idle : s.client.currentRefresh = none
  noChecks : s.checks = []
  pending : s.client.transport.pending = []
  toDaemon : s.client.transport.toDaemon = []
  toClient : s.client.transport.toClient = []
  same : ∃ session state,
    s.daemon.repositories.get? s.client.scope.repositoryId = some session ∧ session.Older ∧
    s.client.store.repositories.get? s.client.scope.repositoryId = some state ∧
    state.localEntries = session.localEntries

end System

/-- **The invariant of a run.** -/
structure Tracked (s : System) : Prop where
  noChecks : s.checks = []
  queues : QueuesSound s.client.scope s.client.phase s.client.transport
  copy : ∃ session core,
    s.daemon.repositories.get? s.client.scope.repositoryId = some session ∧ session.Older ∧
    s.client.store.core s.client.scope.repositoryId = some core ∧
    CopyTracked core.localEntries s.client.underWay session

namespace Tracked

variable {runtime : Runtime} {s s' : System} {client' : StatusClient}

theorem shownEntries_eq {core : StatusCore}
    (h : s.client.store.core s.client.scope.repositoryId = some core) :
    s.shownEntries = core.localEntries := by
  obtain ⟨_, hstate, rfl⟩ := Option.map_eq_some_iff.mp h
  unfold shownEntries
  rw [hstate]
  rfl

section

variable (h : Tracked s)

include h

/-- A step of the extension that leaves the cores and what is under way alone. -/
theorem withClient (hscope : client'.scope = s.client.scope)
    (hcore : ∀ id, client'.store.core id = s.client.store.core id)
    (hqueues : QueuesSound s.client.scope client'.phase client'.transport)
    (hunder : client'.underWay = s.client.underWay) : Tracked { s with client := client' } := by
  obtain ⟨session, core, hsession, hold, hget, _⟩ := h.copy
  refine ⟨h.noChecks, ?_, session, core, ?_, hold, ?_, ?_⟩
  · show QueuesSound client'.scope client'.phase client'.transport
    rwa [hscope]
  · show s.daemon.repositories.get? client'.scope.repositoryId = some session
    rw [hscope, hsession]
  · show client'.store.core client'.scope.repositoryId = some core
    rw [hscope, hcore, hget]
  · show CopyTracked core.localEntries client'.underWay session
    rwa [hunder]

/-- Only the phase of the refresh changes, from a passive one to another. -/
theorem setPhase (hscope : client'.scope = s.client.scope)
    (hcore : ∀ id, client'.store.core id = s.client.store.core id)
    (htransport : client'.transport = s.client.transport)
    (hphase : s.client.phase.all isPassive = true)
    (hphase' : client'.phase.all isPassive = true) :
    Tracked { s with client := client' } := by
  refine h.withClient hscope hcore ?_ ?_
  · rw [htransport]
    exact h.queues.setPhase (ne_of_passive hphase).1
      (ne_of_passive hphase')
  · unfold underWay
    rw [held_of_passive hphase, held_of_passive hphase', htransport]

theorem quiet (hquiet : s.client.Quiet client') : Tracked { s with client := client' } := by
  have hphase : client'.phase = s.client.phase := by
    unfold phase
    rw [hquiet.currentRefresh]
  refine h.withClient hquiet.scope hquiet.core ?_ ?_
  · rw [hquiet.transport, hphase]
    exact h.queues
  · unfold underWay
    rw [hquiet.transport, hphase]

/-- An abort: the request that was open is forgotten, its reply is still under way. -/
theorem abort (reason : CancelReason) :
    Tracked { s with client := s.client.abortRefresh reason } := by
  rcases s.client.abortRefresh_cases reason with
    heq | ⟨refresh, phase, transport, hcurrent, heq,
      ⟨rfl, rfl⟩ | ⟨id, hid, rfl, hcancel⟩⟩ <;> rw [heq]
  · exact h
  · have hphase := phase_of_current hcurrent
    have hqueues := h.queues
    rw [hphase] at hqueues
    refine h.withClient rfl (fun _ => rfl) hqueues ?_
    unfold underWay
    rw [hphase]
    rfl
  · have hphase : s.client.phase = some (.awaiting id) :=
      hid ▸ phase_of_current hcurrent
    refine h.withClient rfl (fun _ => rfl) ((hphase ▸ h.queues).cancel hcancel
      (ne_of_passive rfl)) ?_
    -- the same replies are under way
    rw [cancelRequest_eq_some hcancel]
    unfold underWay
    rw [hphase]
    rfl

/-- A refresh starts when none runs: its request is sent, or it settles at once. -/
theorem begin (hidle : s.client.currentRefresh = none) (kind : RefreshKind)
    (targets : List StatusRefreshTarget) (signal : CallerSignal) :
    Tracked { s with client := s.client.beginRefresh kind targets signal } := by
  have hphase : s.client.phase.all isPassive = true := by
    rw [phase_of_idle hidle]
    rfl
  obtain ⟨_, _, heq, -, -, hopen⟩ := s.client.beginRefresh_cases kind targets signal
  rw [heq]
  rcases hopen with ⟨⟨_, hfailed⟩, rfl⟩ | ⟨_, hawaiting, hsend⟩
  · refine h.setPhase rfl (fun _ => rfl) rfl hphase ?_
    rw [phase_of_current rfl, hfailed]
    rfl
  · obtain ⟨rfl, rfl⟩ := Prod.mk.inj hsend
    refine h.withClient rfl (fun _ => rfl) ?_ ?_
    · rw [phase_of_current rfl, hawaiting]
      exact h.queues.send (ne_of_passive hphase).1 rfl
    · unfold underWay
      rw [held_of_passive hphase, phase_of_current rfl, hawaiting]
      rfl

theorem starts (hidle : s.client.currentRefresh = none) (hstarts : s.client.Starts client') :
    Tracked { s with client := client' } := by
  obtain ⟨mid, hquiet, hmid⟩ := hstarts.quiet
  have hmidTracked : Tracked { s with client := mid } := h.quiet hquiet
  rcases hmid with rfl | ⟨kind, targets, signal, rfl⟩
  · exact hmidTracked
  · exact hmidTracked.begin (hquiet.currentRefresh.trans hidle) kind targets signal

end

variable {refresh : CurrentRefresh}

/-- The store takes the delta the refresh has received, the oldest of those under way. -/
theorem accept (h : Tracked s) {delta : StatusDelta} {store : StatusSnapshotStore}
    (hphase : s.client.phase = some (.settled (.ok delta)))
    (haccept : s.client.acceptDelta refresh delta = .ok store) :
    ∃ session copy core,
      s.daemon.repositories.get? s.client.scope.repositoryId = some session ∧ session.Older ∧
      store.core s.client.scope.repositoryId = some core ∧
      core.localEntries = copy.patch delta.remove delta.upsert ∧
      CopyTracked copy s.client.underWay session := by
  obtain ⟨session, core, hsession, hold, hget, hcopy⟩ := h.copy
  obtain ⟨core', generation, summary, summary', hcore', -, -, -, -, hstored⟩ :=
    StatusSnapshotStore.core_of_applyDelta (acceptDelta_eq_ok haccept).2
  have hid : delta.repositoryId = s.client.scope.repositoryId := by
    rw [underWay_settled hphase] at hcopy
    exact hcopy.repositoryId.trans (key_of_get? hsession)
  rw [hid] at hcore' hstored
  obtain rfl : core = core' := Option.some.inj (hget.symm.trans hcore')
  exact ⟨session, core.localEntries, _, hsession, hold, hstored, rfl, hcopy⟩

/-- The refresh has received a delta: either the store takes it, or the event discards it. -/
theorem settle (h : Tracked s) {result : Except RequestFailure StatusDelta}
    (hcurrent : s.client.currentRefresh = some refresh) (hresult : refresh.phase = .settled result)
    (hkeeps : s.KeepsRemovals runtime .settle) :
    Tracked { s with client := s.client.settleRefresh refresh result } := by
  have hphase : s.client.phase = some (.settled result) :=
    hresult ▸ phase_of_current hcurrent
  rcases s.client.settleRefresh_cases refresh result with
    ⟨delta, store, rfl, haccept, heq⟩ | ⟨hrefused, heq⟩ <;> rw [heq]
  · obtain ⟨session, copy, core, hsession, hold, hstored, hpatch, hcopy⟩ := h.accept hphase haccept
    rw [underWay_settled hphase] at hcopy
    exact ⟨h.noChecks, h.queues.setPhase (by simp [hphase]) (ne_of_passive rfl),
      session, core, hsession, hold, hstored, hpatch ▸ hcopy.patch⟩
  · cases result with
    | error failure =>
      exact h.setPhase rfl (fun _ => rfl) rfl (by rw [hphase]; rfl) rfl
    | ok delta =>
      -- the delta is thrown away
      obtain ⟨session, core, hsession, hold, hget, hcopy⟩ := h.copy
      rw [underWay_settled hphase] at hcopy
      have hdiscard : s.discarded runtime .settle = some delta := by
        unfold discarded
        simp [hcurrent, hresult, hrefused delta rfl]
      have hremove := hkeeps delta hdiscard
      rw [shownEntries_eq hget] at hremove
      exact ⟨h.noChecks, h.queues.setPhase (by simp [hphase]) (ne_of_passive rfl),
        session, core, hsession, hold, hget, hcopy.drop hremove⟩

theorem publish (h : Tracked s) {delta : StatusDelta}
    (hcurrent : s.client.currentRefresh = some refresh) (hphase : refresh.phase = .applied delta) :
    Tracked { s with client := s.client.publishRefresh refresh delta } := by
  obtain ⟨_, heq⟩ := s.client.publishRefresh_eq refresh delta
  rw [heq]
  refine h.setPhase rfl (fun _ => rfl) rfl ?_ rfl
  rw [phase_of_current hcurrent, hphase]
  rfl

theorem finish (h : Tracked s) (hcurrent : s.client.currentRefresh = some refresh)
    (hphase : refresh.phase = .closing) :
    Tracked { s with client := s.client.finishRefresh } := by
  obtain ⟨_, _, heq⟩ := s.client.finishRefresh_eq
  rw [heq]
  refine h.setPhase rfl (fun _ => rfl) rfl ?_ rfl
  rw [phase_of_current hcurrent, hphase]
  rfl

/-- The daemon answers a refresh; one it executes puts one more delta under way. -/
theorem answer (h : Tracked s) {id : Nat} {request : StatusRefreshRequest}
    {rest : List ClientMessage} (hqueue : s.client.transport.toDaemon = .refresh id request :: rest)
    (env : DaemonEnvironment) :
    Tracked (s.reply id rest (s.daemon.dispatch env ⟨.statusRefresh, request.toJson⟩)) := by
  obtain ⟨session, core, hsession, hold, hget, hcopy⟩ := h.copy
  have hrequest : request.repositoryId = s.client.scope.repositoryId := by
    rcases h.queues.messages _ (hqueue ▸ List.mem_cons_self) with ⟨_, hmessage⟩ |
      ⟨_, _, hmessage, hid⟩
    · cases hmessage
    · cases hmessage
      exact hid
  have hunder : ∀ (handled : Handled) (answer : Except DaemonError StatusDelta),
      statusReply handled.answer = some answer →
      (s.reply id rest handled).client.underWay =
        s.client.underWay ++ answer.toOption.toList := by
    intro handled answer hreply
    unfold underWay reply
    rw [List.append_assoc, List.filterMap_append, hreply]
    cases answer <;> rfl
  have hqueues : ∀ (handled : Handled) (answer : Except DaemonError StatusDelta),
      statusReply handled.answer = some answer →
      QueuesSound s.client.scope s.client.phase (s.reply id rest handled).client.transport := by
    intro handled answer hreply
    refine h.queues.answer hqueue ?_
    rw [hreply]
    rfl
  rcases dispatch_refresh_cases env request s.daemon with ⟨error, hreply, hdaemon⟩ |
    ⟨session₀, session', delta, targets, hsession₀, hrefresh, hreply, hinsert⟩
  · -- a refused request changes nothing
    refine ⟨h.noChecks, hqueues _ _ hreply, session, core, ?_, hold, hget, ?_⟩
    · show (Daemon.dispatch env _ s.daemon).daemon.repositories.get? _ = some session
      rw [hdaemon]
      exact hsession
    · rw [hunder _ _ hreply,
        show (Except.error error : Except DaemonError StatusDelta).toOption.toList = [] from rfl,
        List.append_nil]
      exact hcopy
  · rw [hrequest] at hsession₀
    obtain rfl : session = session₀ := Option.some.inj (hsession.symm.trans hsession₀)
    have hpublished := published_of_refresh hold hrefresh
    refine ⟨h.noChecks, hqueues _ _ hreply, session', core, ?_, hold.refresh hrefresh, hget, ?_⟩
    · show (Daemon.dispatch env _ s.daemon).daemon.repositories.get? _ = some session'
      rw [hinsert, get?_insert, if_pos]
      exact hpublished.between.repositoryId_after.trans (key_of_get? hsession)
    · rw [hunder _ _ hreply]
      exact hcopy.publish hpublished

variable {now : Text}

theorem execute (h : Tracked s) {env : DaemonEnvironment}
    (hstep : s.step runtime (.execute env) = some s') : Tracked s' := by
  rcases execute_cases hstep with ⟨id, rest, hqueue, rfl⟩ |
    ⟨id, request, rest, hqueue, rfl⟩ | ⟨id, request, rest, hqueue, rfl⟩
  · have hqueues : QueuesSound s.client.scope s.client.phase { s.client.transport with
        toDaemon := rest, toClient := s.client.transport.toClient ++ [] } :=
      h.queues.answer hqueue rfl
    rw [List.append_nil] at hqueues
    exact ⟨h.noChecks, hqueues, h.copy⟩
  · exact h.answer hqueue _
  · rcases h.queues.messages _ (hqueue ▸ List.mem_cons_self) with ⟨_, hmessage⟩ |
      ⟨_, _, hmessage, _⟩
    · cases hmessage
    · cases hmessage

variable {reply : DaemonReply} {rest : List DaemonReply}

/-- The deltas under way when the oldest reply has been taken from the queue. -/
theorem copy_after_reply (h : Tracked s) (hqueue : s.client.transport.toClient = reply :: rest)
    (hheld : s.client.phase.elim [] held = [])
    (hremove : ∀ delta, reply.result = .ok delta → ∀ p ∈ delta.remove,
      s.shownEntries.contains p = false) :
    ∃ session core,
      s.daemon.repositories.get? s.client.scope.repositoryId = some session ∧ session.Older ∧
      s.client.store.core s.client.scope.repositoryId = some core ∧
      CopyTracked core.localEntries (rest.filterMap fun reply => reply.result.toOption)
        session := by
  obtain ⟨session, core, hsession, hold, hget, hcopy⟩ := h.copy
  refine ⟨session, core, hsession, hold, hget, ?_⟩
  unfold underWay at hcopy
  rw [hheld, hqueue, List.nil_append] at hcopy
  cases hresult : reply.result with
  | error error =>
    rw [List.filterMap_cons_none (by rw [hresult]; rfl)] at hcopy
    exact hcopy
  | ok delta =>
    rw [List.filterMap_cons_some (by rw [hresult]; rfl)] at hcopy
    have hdropped := hremove delta hresult
    rw [shownEntries_eq hget] at hdropped
    exact hcopy.drop hdropped

/-- A reply that belongs to no pending request is dropped. -/
theorem dropReply (h : Tracked s) (hqueue : s.client.transport.toClient = reply :: rest)
    (hpending : reply.id ∉ s.client.transport.pending)
    (hkeeps : s.KeepsRemovals runtime (.deliver now)) :
    Tracked { s with client.transport.toClient := rest } := by
  have hheld := h.queues.held_eq_nil hqueue
  have hdiscard : s.discarded runtime (.deliver now) = reply.result.toOption := by
    unfold discarded
    rw [hqueue]
    dsimp only
    split
    · rw [if_neg (fun hand => hpending hand.1)]
    · rfl
  obtain ⟨session, core, hsession, hold, hget, hcopy⟩ := h.copy_after_reply hqueue hheld
    fun delta hresult => hkeeps delta (by rw [hdiscard, hresult]; rfl)
  refine ⟨h.noChecks, h.queues.dropReply hqueue, session, core, hsession, hold, hget, ?_⟩
  show CopyTracked core.localEntries (s.client.phase.elim [] held ++ _) session
  rw [hheld]
  exact hcopy

/-- The reply to the open request reaches the refresh, as a delta or as a failure. -/
theorem readReply (h : Tracked s) (hqueue : s.client.transport.toClient = reply :: rest)
    (hcurrent : s.client.currentRefresh = some refresh)
    (hawaiting : refresh.phase = .awaiting reply.id)
    (hkeeps : s.KeepsRemovals runtime (.deliver now)) :
    Tracked { s with
      client.transport.pending := s.client.transport.pending.filter (· ≠ reply.id)
      client.transport.toClient := rest
      client.currentRefresh := some { refresh with
        phase := .settled (readRefreshReply runtime.platform
          (s.client.refreshRequest refresh.targets) reply.result) } } := by
  have hphase : s.client.phase = some (.awaiting reply.id) :=
    hawaiting ▸ phase_of_current hcurrent
  have hqueues := h.queues
  rw [hphase] at hqueues
  cases hread : readRefreshReply runtime.platform (s.client.refreshRequest refresh.targets)
      reply.result with
  | ok delta =>
    -- the delta moves from the queue to the refresh
    obtain ⟨hresult, _⟩ := readDeltaReply_eq_ok_iff.mp hread
    obtain ⟨session, core, hsession, hold, hget, hcopy⟩ := h.copy
    refine ⟨h.noChecks, (hqueues.readReply hqueue (.ok delta)).2, session, core, hsession, hold,
      hget, ?_⟩
    unfold underWay at hcopy
    rw [hphase, hqueue, List.filterMap_cons_some (by rw [hresult]; rfl)] at hcopy
    exact hcopy
  | error failure =>
    have hdiscard : s.discarded runtime (.deliver now) = reply.result.toOption := by
      have hfound : s.awaitingRefresh reply.id = some refresh := by
        unfold awaitingRefresh
        simp only [hcurrent, hawaiting, if_true]
      unfold discarded
      rw [hqueue]
      dsimp only
      rw [hfound]
      dsimp only
      rw [hread, if_neg (fun hand => by cases hand.2)]
    obtain ⟨session, core, hsession, hold, hget, hcopy⟩ := h.copy_after_reply hqueue
      (by rw [hphase]; rfl) fun delta hresult => hkeeps delta (by rw [hdiscard, hresult]; rfl)
    exact ⟨h.noChecks, (hqueues.readReply hqueue (.error failure)).2, session, core, hsession,
      hold, hget, hcopy⟩

theorem deliver (h : Tracked s) (hstep : s.step runtime (.deliver now) = some s')
    (hkeeps : s.KeepsRemovals runtime (.deliver now)) : Tracked s' := by
  obtain ⟨reply, rest, hqueue, ⟨hpending, rfl⟩ | ⟨hpending, rfl⟩⟩ := deliver_cases hstep
  · exact h.dropReply hqueue hpending hkeeps
  · -- a pending request is the one the current refresh awaits
    obtain ⟨refresh, hcurrent, hawaiting⟩ :=
      Option.map_eq_some_iff.mp (h.queues.pending reply.id hpending)
    have hfound : (s.takeReply (s.client.transport.pending.filter (· ≠ reply.id))
      rest).awaitingRefresh
        reply.id = some refresh := by
      unfold awaitingRefresh takeReply
      simp only [hcurrent, hawaiting, if_true]
    unfold handOver
    rw [hfound]
    exact h.readReply hqueue hcurrent hawaiting hkeeps

/-- **What one step preserves.** -/
theorem step (h : Tracked s) {e : SystemEvent} (hcheck : e.isCheck = false)
    (hkeeps : s.KeepsRemovals runtime e) (hstep : s.step runtime e = some s') : Tracked s' := by
  cases e with
  | fileEvent event =>
    cases hstep
    obtain ⟨mid, hquiet, -, hmid⟩ := s.client.recordFileEvent_cases runtime event
    have hmidTracked : Tracked { s with client := mid } := h.quiet hquiet
    rcases hmid with heq | ⟨-, heq⟩
    · rw [heq]
      exact hmidTracked
    · rw [heq]
      exact hmidTracked.abort .dirtyGenerationSuperseded
  | flush | refreshTargets | refreshResource | fullReconcile | scheduledFullReconcile =>
    obtain ⟨hidle, _, hstarts, rfl⟩ := start_cases rfl hstep
    exact h.starts hidle hstarts
  | abort =>
    obtain ⟨refresh, hcurrent, rfl⟩ := abort_cases hstep
    exact h.abort .userCancelled
  | settle =>
    obtain ⟨refresh, _, hcurrent, hphase, rfl⟩ := settle_cases hstep
    exact h.settle hcurrent hphase hkeeps
  | publish =>
    obtain ⟨refresh, _, hcurrent, hphase, rfl⟩ := publish_cases hstep
    exact h.publish hcurrent hphase
  | finish =>
    obtain ⟨refresh, hcurrent, hphase, rfl⟩ := finish_cases hstep
    exact h.finish hcurrent hphase
  | execute env => exact h.execute hstep
  | deliver now => exact h.deliver hstep hkeeps
  | settleLaunch | beginCheck | sendCheck | abortCheck | applyCheck => cases hcheck

theorem of_agreed (h : s.Agreed) : Tracked s := by
  obtain ⟨session, state, hsession, hold, hstate, hsame⟩ := h.same
  have hphase := phase_of_idle h.idle
  have hids := openIds_eq_nil h.toClient h.toDaemon
  refine ⟨h.noChecks, ⟨by simp [h.toDaemon], .of_openIds_eq_nil hids, by simp [h.pending],
    by simp [hphase], fun _ _ => hids⟩, session, state.core, hsession, hold, ?_, session, ?_, ?_⟩
  · unfold StatusSnapshotStore.core
    rw [hstate]
    rfl
  · show KeyedMap.Covered state.localEntries session.localEntries
    rw [hsame]
    exact KeyedMap.Covered.refl _
  · unfold underWay
    rw [hphase, h.toClient]
    exact rfl

/-- Applying the delta of the current refresh when it has complete coverage. -/
theorem settle_complete (h : Tracked s) {delta : StatusDelta}
    (hstep : s.step runtime .settle = some s') (happlied : s'.client.appliedDelta = some delta)
    (hcomplete : isCompleteDeltaCoverage delta.coverage = true) :
    ∃ session state,
      s'.daemon.repositories.get? s'.client.scope.repositoryId = some session ∧
      s'.client.store.repositories.get? s'.client.scope.repositoryId = some state ∧
      state.localEntries = session.localEntries ∧
      session.nextGeneration = delta.generation + 1 := by
  obtain ⟨refresh, result, hcurrent, hresult, rfl⟩ := settle_cases hstep
  have hphase : s.client.phase = some (.settled result) :=
    hresult ▸ phase_of_current hcurrent
  rcases s.client.settleRefresh_cases refresh result with
    ⟨delta', store, rfl, haccept, heq⟩ | ⟨-, heq⟩ <;> rw [heq] at happlied ⊢ <;> cases happlied
  obtain ⟨session, _, _, hsession, -, hstored, hpatch, hcopy⟩ := h.accept hphase haccept
  -- nothing else is under way, so the delta ends at the present session
  have hnone := (List.append_eq_nil_iff.mp (h.queues.read delta hphase)).1
  rw [underWay_settled hphase, List.map_eq_nil_iff.mp hnone] at hcopy
  obtain ⟨state, hstate, rfl⟩ := Option.map_eq_some_iff.mp hstored
  obtain ⟨hlocal, hgeneration⟩ := hcopy.patch_eq hcomplete
  exact ⟨session, state, hsession, hstate, hpatch.trans hlocal, hgeneration⟩

end Tracked

/-- **Agreement after a complete delta.**  Extension and daemon start in agreement.  In any
interleaving of file events, calls of the scheduler, aborts, executions with arbitrary scan results
and deliveries in which no discarded delta removes a path that the extension shows: once the
extension applies a delta with complete coverage, its local entries are those of the session, which
is still at the generation of that delta. -/
theorem complete_delta_restores_agreement (runtime : Runtime) (s s₁ s₂ : System)
    (events : List SystemEvent) (delta : StatusDelta) (hstart : s.Agreed)
    (hsteps : Along (step runtime)
      (fun s e => e.isCheck = false ∧ s.KeepsRemovals runtime e) s events)
    (hrun : run (step runtime) s events = some s₁)
    (hsettle : s₁.step runtime .settle = some s₂)
    (happlied : s₂.client.appliedDelta = some delta)
    (hcomplete : isCompleteDeltaCoverage delta.coverage = true) :
    ∃ session state,
      s₂.daemon.repositories.get? s₂.client.scope.repositoryId = some session ∧
      s₂.client.store.repositories.get? s₂.client.scope.repositoryId = some state ∧
      state.localEntries = session.localEntries ∧
      session.nextGeneration = delta.generation + 1 := by
  have htracked : Tracked s₁ := run_invariant
    (fun _ _ _ htracked hok hstep => htracked.step hok.1 hok.2 hstep)
      (.of_agreed hstart) hsteps hrun
  exact htracked.settle_complete hsettle happlied hcomplete

namespace CancellationExample

def runtime : Runtime where
  platform := .posix
  toLocaleLowerCase := id
  toISOString := fun _ => "t"
  dateParse := fun _ => some 0
  remoteFailure := fun _ => ⟨.attention, .unknownRemote, false⟩

def scope : RepositoryWatchScope := ⟨"uuid:/wc", 1, "/wc", .caseSensitive, none⟩

/-- Both sides show `a.txt` as modified. -/
def start : System where
  client :=
    { scope := scope
      store := ⟨KeyedMap.empty.insert LockstepExample.state⟩
      projection := ⟨KeyedMap.empty.insert
        ⟨"uuid:/wc", 1, "/wc", some ⟨1, "complete", "complete", .snapshot⟩⟩⟩
      dirtyPaths := .new scope none
      currentRefresh := none
      overflowStaleMarked := false
      overflowStaleTimestamp := none
      transport := .new }
  connection := .empty
  checks := []
  daemon := { Daemon.new with
    repositories := KeyedMap.empty.insert LockstepExample.session, nextEpoch := 2 }
  launches := []

/-- The surroundings of the daemon while `scan` is what the bridge finds. -/
def environment (scan : List StatusEntry) : DaemonEnvironment where
  platform := .posix
  codec := ⟨fun _ => none, fun _ => none, fun _ => none⟩
  now := "t"
  status := .answering scan []
  opening := ⟨fun _ path => .ok ⟨"uuid", "file:///repository", path, path, 31⟩⟩
  native := .ok .null
  files := .empty
  worker := ⟨false, fun _ => .ok (), .ok (), .ok ()⟩

theorem agreed_start : start.Agreed := by
  refine ⟨rfl, rfl, rfl, rfl, rfl, LockstepExample.session, LockstepExample.state, ?_, ?_, ?_, rfl⟩
  · decide +kernel
  · intro _ e he
    have hall : ∀ e ∈ LockstepExample.session.localEntries.values,
        e.generation < LockstepExample.session.nextGeneration := by decide +kernel
    exact hall e (mem_values_of_get? he)
  · decide +kernel

/-- A refresh of `a.txt` is executed while `scan` is what the bridge finds; a file event aborts it,
and a full reconcile follows. -/
def events (scan : List StatusEntry) : List SystemEvent :=
  [.refreshTargets 1 [⟨"a.txt", .empty, "resourceRefresh"⟩] .absent,
    .execute (environment scan),
    .fileEvent ⟨"/wc/b.txt", .create, 5⟩,
    .deliver "t", .settle, .finish,
    .fullReconcile 1 .absent,
    .execute (environment scan), .execute (environment scan),
    .deliver "t"]

/-- The state once the delta of the reconcile is applied. -/
def reconciled (scan : List StatusEntry) : Option System :=
  run (step runtime) start (events scan ++ [.settle])

/-- `a.txt` is reverted.  The daemon answers the first refresh by removing it, the file event makes
the extension drop that answer, and the complete delta of the reconcile no longer mentions it. -/
theorem cancelled_refresh_keeps_removed_path :
    ((reconciled []).map fun s =>
      (s.client.appliedDelta.map fun delta =>
          (isCompleteDeltaCoverage delta.coverage, delta.completeness),
        s.shownEntries.keys,
        (s.daemon.repositories.get? "uuid:/wc").map fun session => session.localEntries.keys)) =
      some (some (true, ("complete" : Text)), [("a.txt" : Text)], some []) := by
  decide +kernel

/-- `a.txt` is still modified when the first refresh is cancelled. -/
def modified : List StatusEntry := [.file "a.txt" "modified"]

def delivered : System :=
  (run (step runtime) start (events modified)).get (by decide +kernel)

def settled : System := (delivered.step runtime .settle).get (by decide +kernel)

theorem complete_delta_restores_agreement_modified :
    ∃ session state,
      settled.daemon.repositories.get? settled.client.scope.repositoryId = some session ∧
      settled.client.store.repositories.get? settled.client.scope.repositoryId = some state ∧
      state.localEntries = session.localEntries ∧
      session.nextGeneration = (settled.client.appliedDelta.getD default).generation + 1 :=
  complete_delta_restores_agreement runtime start delivered settled (events modified)
    (settled.client.appliedDelta.getD default) agreed_start (by decide +kernel)
    (Option.some_get _).symm (Option.some_get _).symm (by decide +kernel) (by decide +kernel)

end CancellationExample

end SubversionR

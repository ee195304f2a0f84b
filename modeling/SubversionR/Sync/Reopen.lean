import SubversionR.Lib.Run
import SubversionR.Client.SessionService

/-!
# Reopening — the sessions of the extension after the daemon was restarted

A daemon process numbers the sessions it opens: the first gets epoch 1, the next epoch 2.  A fresh
process starts again at 1, and `reopenOpenSessions` opens the sessions in the order in which they
were first opened.  Three guards stand in the way of an epoch that does not change: the store and
the projection refuse to go back to an earlier generation of the same epoch, and
`rebindRepository` refuses the same epoch altogether.

* `Consistent` — what every history of openings, closings and deltas establishes: the epochs grow
  in the order of the sessions, and each is the one its repository is registered under;
* `reopenSession_of_epoch_ne` — a session whose epoch changes is reopened;
* `reopenOpenSessions_iff` — every session is reopened exactly when none has epoch 1, that is when
  the repository which the old process opened first is no longer open.
-/

namespace SubversionR

open JsonValues Fallible KeyedMaps KeyedMap OrderedMaps
open RemoteConnectionStateStore SessionClient DaemonState

/-! ## What an opening establishes -/

/-- What holds of a session since it was opened; nothing here depends on the daemon process. -/
structure OpenSession.Sound (runtime : Runtime) (session : OpenSession) : Prop where
  repositoryId : session.repositoryId = SubversionR.repositoryId session.identity
  accepted : RepositoryOpenResponse.Accepted
    ⟨session.repositoryId, session.epoch, session.identity⟩
  epoch_pos : 0 < session.epoch
  scopeId : session.watchScope.repositoryId = session.repositoryId
  scopeEpoch : session.watchScope.epoch = session.epoch
  scopeRoot : session.watchScope.workingCopyRoot = session.identity.workingCopyRoot
  scope : validateBoundaryRootScope runtime.toLocaleLowerCase session.identity.workingCopyRoot
    session.reopenRequest = .ok ()
  boundaryRoots : ∃ given roots,
    repositoryOpenBoundaryRoots (repositoryOpenParams session.reopenRequest) = .ok given ∧
      repositoryBoundaryRoots runtime.platform session.identity given = .ok roots

/-- The four registrations of a session, under its epoch. -/
structure SessionClient.Registered (client : SessionClient) (session : OpenSession) : Prop where
  watcher : client.watchers.get? session.repositoryId =
    some ⟨session.repositoryId, normalizeWatchRoot session.identity.workingCopyRoot⟩
  store : client.store.epochOf session.repositoryId = some session.epoch
  projection : client.projection.epochOf session.repositoryId = some session.epoch
  connection : client.connection.epochOf session.repositoryId = some session.epoch

/-- Two clients with the same registrations of one repository. -/
structure SessionClient.SameAt (client client' : SessionClient) (id : Text) : Prop where
  watcher : client'.watchers.get? id = client.watchers.get? id
  store : client'.store.epochOf id = client.store.epochOf id
  projection : client'.projection.epochOf id = client.projection.epochOf id
  connection : client'.connection.epochOf id = client.connection.epochOf id

theorem SessionClient.Registered.congr {client client' : SessionClient} {session : OpenSession}
    (h : client.Registered session) (hsame : client.SameAt client' session.repositoryId) :
    client'.Registered session :=
  ⟨hsame.watcher.trans h.watcher, hsame.store.trans h.store, hsame.projection.trans h.projection,
    hsame.connection.trans h.connection⟩

/-- The boundary roots the daemon reads do not depend on the path that is opened. -/
theorem repositoryOpenBoundaryRoots_congr {request request' : RepositoryOpenRequest}
    (h : request.boundaryRoots = request'.boundaryRoots) :
    repositoryOpenBoundaryRoots (repositoryOpenParams request) =
      repositoryOpenBoundaryRoots (repositoryOpenParams request') := by
  unfold repositoryOpenParams
  rw [h]
  cases request'.boundaryRoots <;> rfl

theorem openPathParam_repositoryOpenParams (request : RepositoryOpenRequest) :
    openPathParam (repositoryOpenParams request) =
      if request.path.nonBlankRust then some request.path else none := rfl

theorem watchScopeFromResponse_eq_ok_iff {lower : Text → Text}
    {response : RepositoryOpenResponse} {request : RepositoryOpenRequest}
    {scope : RepositoryWatchScope} :
    watchScopeFromResponse lower response request = .ok scope ↔
      validateBoundaryRootScope lower response.identity.workingCopyRoot request =
          .ok () ∧
        scope = ⟨response.repositoryId, response.epoch, response.identity.workingCopyRoot,
          request.pathCase, request.boundaryRoots⟩ := by
  unfold watchScopeFromResponse
  rw [bind_eq_ok_iff]
  constructor
  · rintro ⟨_, hvalid, hscope⟩
    exact ⟨hvalid, (Except.ok.inj hscope).symm⟩
  · rintro ⟨hvalid, rfl⟩
    exact ⟨(), hvalid, rfl⟩

/-! ## Opening a working copy -/

namespace SessionClient

variable {client client' : SessionClient}

/-- The watcher, the store and the projection take the repository of the scope, nothing else
changes. -/
theorem register_eq_ok {scope : RepositoryWatchScope} (h : client.register scope = .ok client') :
    client'.sessions = client.sessions ∧ client'.connection = client.connection ∧
      client'.watchers = client.watchers.insert
        ⟨scope.repositoryId, normalizeWatchRoot scope.workingCopyRoot⟩ ∧
      (∀ id, client'.store.epochOf id =
        if scope.repositoryId = id then some scope.epoch else client.store.epochOf id) ∧
      ∀ id, client'.projection.epochOf id =
        if scope.repositoryId = id then some scope.epoch else client.projection.epochOf id := by
  obtain ⟨_, hwatcher, h⟩ := bind_eq_ok_iff.mp h
  obtain ⟨store, hstore, h⟩ := bind_eq_ok_iff.mp h
  obtain ⟨projection, hprojection, h⟩ := bind_eq_ok_iff.mp h
  have hstore := mapError_eq_ok_iff.mp hstore
  have hprojection := mapError_eq_ok_iff.mp hprojection
  unfold registerWatcher at hwatcher
  split at hwatcher
  · cases hwatcher
  cases hwatcher
  cases h
  exact ⟨rfl, rfl, rfl, StatusSnapshotStore.epochOf_of_registerRepository hstore,
    SourceControlProjection.epochOf_of_registerRepository hprojection⟩

theorem applySnapshot_eq_ok {snapshot : StatusSnapshot}
    (h : client.applySnapshot snapshot = .ok client') :
    client'.sessions = client.sessions ∧ client'.connection = client.connection ∧
      client'.watchers = client.watchers ∧
      (∀ id, client'.store.epochOf id =
        if snapshot.repositoryId = id then some snapshot.epoch else client.store.epochOf id) ∧
      ∀ id, client'.projection.epochOf id =
        if snapshot.repositoryId = id then some snapshot.epoch
        else client.projection.epochOf id := by
  obtain ⟨store, hstore, h⟩ := bind_eq_ok_iff.mp h
  obtain ⟨projection, hprojection, h⟩ := bind_eq_ok_iff.mp h
  have hstore := mapError_eq_ok_iff.mp hstore
  have hprojection := mapError_eq_ok_iff.mp hprojection
  cases h
  exact ⟨rfl, rfl, rfl, StatusSnapshotStore.epochOf_of_applySnapshot hstore,
    SourceControlProjection.epochOf_of_applySnapshot hprojection⟩

/-- A delta moves no registration. -/
theorem applyDelta_sameAt {delta : StatusDelta} (h : client.applyDelta delta = .ok client') :
    client'.sessions = client.sessions ∧ ∀ id, client.SameAt client' id := by
  obtain ⟨_, hstore, h⟩ := bind_eq_ok_iff.mp h
  obtain ⟨_, hprojection, h⟩ := bind_eq_ok_iff.mp h
  have hstore := mapError_eq_ok_iff.mp hstore
  have hprojection := mapError_eq_ok_iff.mp hprojection
  cases h
  refine ⟨rfl, fun id => ⟨rfl, ?_, ?_, rfl⟩⟩
  · exact congrFun (StatusSnapshotStore.epochOf_of_applyDelta hstore) id
  · exact congrFun (SourceControlProjection.epochOf_of_applyDelta hprojection) id

theorem forget_sameAt {repositoryId id : Text} (h : repositoryId ≠ id) :
    client.SameAt (client.forget repositoryId) id where
  watcher := by
    show (client.watchers.erase repositoryId).get? id = _
    rw [get?_erase, if_neg h]
  store := by
    show (client.store.unregisterRepository repositoryId).epochOf id = _
    rw [StatusSnapshotStore.epochOf_unregisterRepository, if_neg h]
  projection := by
    show (client.projection.unregisterRepository repositoryId).epochOf id = _
    rw [SourceControlProjection.epochOf_unregisterRepository, if_neg h]
  connection := by
    show (client.connection.unregisterRepository repositoryId).epochOf id = _
    rw [epochOf_unregisterRepository, if_neg h]

/-- The listener of an opened session registers its repository with the connection states. -/
theorem sessionOpened_eq (client : SessionClient) {session : OpenSession}
    (haccepted : RepositoryOpenResponse.Accepted
      ⟨session.repositoryId, session.epoch, session.identity⟩)
    (hfresh : client.connection.epochOf session.repositoryId = none) :
    ∃ state, state.repositoryId = session.repositoryId ∧ state.epoch = session.epoch ∧
      (client.sessionOpened session).2 =
        { client with connection := client.connection.update state } := by
  obtain ⟨state, hid, hepoch, hregister⟩ :=
    registerRepository_of_fresh haccepted.repositoryId
      (isSafeInteger_natCast.mpr haccepted.epoch) hfresh
  refine ⟨state, hid, hepoch, ?_⟩
  unfold sessionOpened
  rw [hregister]

end SessionClient

namespace SessionSystem

/-- A successful `openWorkingCopy`, up to the listener. -/
structure Opens (runtime : Runtime) (s : SessionSystem) (session : OpenSession)
    (s' : SessionSystem) : Prop where
  sound : 0 < s.daemon.nextEpoch → session.Sound runtime
  epoch : session.epoch = s.daemon.nextEpoch
  nextEpoch : s.daemon.nextEpoch < s'.daemon.nextEpoch
  fresh : s.client.sessions.get? session.repositoryId = none
  client : ∃ registered snapshot filled,
    s.client.register session.watchScope = .ok registered ∧
      snapshot.repositoryId = session.repositoryId ∧ snapshot.epoch = session.epoch ∧
      registered.applySnapshot snapshot = .ok filled ∧
      s'.client = ((filled.storeSession session).sessionOpened session).2

theorem fillSession_nextEpoch {runtime : Runtime} {native : NativeSide}
    {response : RepositoryOpenResponse} {request : RepositoryOpenRequest} {s : SessionSystem} :
    (fillSessionOver runtime native .intact response request s).2.nextEpoch =
      s.daemon.nextEpoch := by
  have hsend := @sendGetSnapshot_nextEpoch runtime native s.daemon
    ⟨response.repositoryId, response.epoch⟩
  unfold fillSessionOver
  rw [Delivery.carry_intact]
  split
  · rfl
  split
  · rfl
  split
  · rename_i hanswer
    rw [hanswer] at hsend
    exact hsend
  · rename_i hanswer
    rw [hanswer] at hsend
    split <;> exact hsend

variable {runtime : Runtime} {native : NativeSide} {s : SessionSystem} {session : OpenSession}
  {daemon : DaemonState}

/-- The session an opening creates is sound. -/
theorem sound_of_open {request : RepositoryOpenRequest} {daemon' : DaemonState}
    {response : RepositoryOpenResponse} {scope : RepositoryWatchScope}
    (hopen : sendOpen runtime native request daemon = (.ok response, daemon'))
    (hscope : watchScopeFromResponse runtime.toLocaleLowerCase response request = .ok scope)
    (hcounting : 0 < daemon.nextEpoch) :
    (⟨response.repositoryId, response.epoch, response.identity, scope⟩ : OpenSession).Sound
      runtime := by
  obtain ⟨hdispatch, haccepted⟩ := sendOpen_eq_ok_iff.mp hopen
  obtain ⟨_, given, identity, roots, -, hgiven, -, hroots, -, rfl, -⟩ :=
    dispatchRepositoryOpen_eq_ok_iff.mp hdispatch
  obtain ⟨hvalid, rfl⟩ := watchScopeFromResponse_eq_ok_iff.mp hscope
  refine ⟨rfl, haccepted, hcounting, rfl, rfl, rfl, hvalid, given, roots, ?_, hroots⟩
  exact (repositoryOpenBoundaryRoots_congr rfl).trans hgiven

/-- **Opening a working copy**: the extension is as before, or one session was opened under the
next epoch of the daemon. -/
theorem openWorkingCopy_cases (runtime : Runtime) (native : NativeSide)
    (request : RepositoryOpenRequest) (s : SessionSystem) :
    s.daemon.nextEpoch ≤ (s.openWorkingCopy runtime native request).2.daemon.nextEpoch ∧
      ((s.openWorkingCopy runtime native request).2.client = s.client ∨
        ∃ session, Opens runtime s session (s.openWorkingCopy runtime native request).2) := by
  have hle := @sendOpen_nextEpoch_le runtime native request s.daemon
  unfold openWorkingCopy openWorkingCopyOver Deliveries.intact
  simp only [Delivery.carry_intact]
  split
  · exact ⟨le_refl _, .inl rfl⟩
  split
  · rename_i hopen
    rw [hopen] at hle
    exact ⟨hle, .inl rfl⟩
  · rename_i daemon hopen
    rw [hopen] at hle
    obtain ⟨hdispatch, -⟩ := sendOpen_eq_ok_iff.mp hopen
    obtain ⟨_, _, identity, _, -, -, -, -, -, rfl, hafter⟩ :=
      dispatchRepositoryOpen_eq_ok_iff.mp hdispatch
    split
    · exact ⟨hle, .inl rfl⟩
    rename_i hfresh
    have hfill := @fillSession_nextEpoch runtime native
      ⟨repositoryId identity, s.daemon.nextEpoch, identity⟩ request { s with daemon }
    split
    · -- the daemon's session is closed again, only the epoch stays used
      rename_i hfilled
      rw [hfilled] at hfill
      refine ⟨?_, .inl rfl⟩
      rw [rollbackOpenedRepositoryOver_snd, Delivery.carry_intact, sendClose_nextEpoch]
      exact hle.trans hfill.ge
    · rename_i session client after hfilled
      rw [hfilled] at hfill
      have hnext : s.daemon.nextEpoch < after.nextEpoch := by
        have hsucc : daemon.nextEpoch = s.daemon.nextEpoch + 1 := by rw [hafter]
        have hsame : after.nextEpoch = daemon.nextEpoch := hfill
        omega
      obtain ⟨scope, registered, snapshot, hscope, rfl, hregister, hid, hepoch, hsnapshot⟩ :=
        fillSessionOver_eq_ok hfilled
      have hresult : ∀ s' : SessionSystem, s'.daemon = after → s'.client =
          ((client.storeSession ⟨_, _, _, scope⟩).sessionOpened ⟨_, _, _, scope⟩).2 →
          Opens runtime s ⟨_, _, _, scope⟩ s' := fun s' hdaemon hclient =>
        { sound := sound_of_open hopen hscope
          epoch := rfl
          nextEpoch := hdaemon ▸ hnext
          fresh := Option.not_isSome_iff_eq_none.mp hfresh
          client := ⟨registered, snapshot, client, hregister, hid, hepoch, hsnapshot, hclient⟩ }
      split <;> rename_i hlistener <;>
        exact ⟨hnext.le, .inr ⟨_, hresult _ rfl (by rw [hlistener])⟩⟩

/-! ## Histories against one daemon process -/

/-- What may happen while one daemon process runs. -/
inductive SessionEvent where
  | openWorkingCopy (native : NativeSide) (request : RepositoryOpenRequest)
  | closeRepository (repositoryId : Text)
  | refresh (native : NativeSide) (params : Json)
  | checkRemote (env : DaemonEnvironment) (remote : Daemon) (params : Json)

def step (runtime : Runtime) (s : SessionSystem) : SessionEvent → SessionSystem
  | .openWorkingCopy native request => (s.openWorkingCopy runtime native request).2
  | .closeRepository repositoryId => (s.closeRepository repositoryId).2
  | .refresh native params => s.refresh runtime native params
  | .checkRemote env remote params => s.checkRemote runtime env remote params

/-- The system after a history. -/
def after (runtime : Runtime) (events : List SessionEvent) : SessionSystem :=
  events.foldl (step runtime) initial

/-- What every history establishes. -/
structure Consistent (runtime : Runtime) (s : SessionSystem) : Prop where
  keyed : ∀ item ∈ s.client.sessions.items, item.2.repositoryId = item.1
  sound : ∀ session ∈ s.client.sessions.values, session.Sound runtime
  registered : ∀ session ∈ s.client.sessions.values, s.client.Registered session
  connected : ∀ id, s.client.connection.epochOf id ≠ none → id ∈ s.client.sessions.keys
  increasing : s.client.sessions.values.Pairwise fun a b => a.epoch < b.epoch
  assigned : ∀ session ∈ s.client.sessions.values, session.epoch < s.daemon.nextEpoch
  counting : 0 < s.daemon.nextEpoch

theorem consistent_initial (runtime : Runtime) : initial.Consistent runtime where
  keyed := by intro item hitem; cases hitem
  sound := by intro session hsession; cases hsession
  registered := by intro session hsession; cases hsession
  connected := by
    intro id hid
    exact absurd (show (KeyedMap.empty.get? id).map _ = none by rw [get?_empty]; rfl) hid
  increasing := List.Pairwise.nil
  assigned := by intro session hsession; cases hsession
  counting := Nat.one_pos

variable {s' : SessionSystem}

/-- Nothing is lost when only the daemon and the contents of the stores move on. -/
theorem Consistent.congr (h : s.Consistent runtime)
    (hsessions : s'.client.sessions = s.client.sessions)
    (hsame : ∀ id, s.client.SameAt s'.client id)
    (hnext : s.daemon.nextEpoch ≤ s'.daemon.nextEpoch) :
    s'.Consistent runtime where
  keyed := by rw [hsessions]; exact h.keyed
  sound := by rw [hsessions]; exact h.sound
  registered := by
    rw [hsessions]
    exact fun session hsession => (h.registered session hsession).congr (hsame _)
  connected := by
    intro id hid
    rw [(hsame id).connection] at hid
    rw [hsessions]
    exact h.connected id hid
  increasing := by rw [hsessions]; exact h.increasing
  assigned := by
    rw [hsessions]
    exact fun session hsession => (h.assigned session hsession).trans_le hnext
  counting := h.counting.trans_le hnext

/-- The registrations after an opening: those of the new session, and the others as before. -/
theorem Opens.registrations (h : Opens runtime s session s') (hsound : session.Sound runtime)
    (hfresh : s.client.connection.epochOf session.repositoryId = none) :
    s'.client.sessions = s.client.sessions.set session.repositoryId session ∧
      s'.client.Registered session ∧
      ∀ id, session.repositoryId ≠ id → s.client.SameAt s'.client id := by
  obtain ⟨_, _, filled, hregister, hid, hepoch, hfill, hclient⟩ := h.client
  obtain ⟨hsessions₁, hconnection₁, hwatchers₁, hstore₁, hprojection₁⟩ :=
    register_eq_ok hregister
  obtain ⟨hsessions₂, hconnection₂, hwatchers₂, hstore₂, hprojection₂⟩ :=
    applySnapshot_eq_ok hfill
  have hconnection : filled.connection = s.client.connection := hconnection₂.trans hconnection₁
  obtain ⟨state, hstateId, hstateEpoch, hopened⟩ :=
    sessionOpened_eq (filled.storeSession session) hsound.accepted
      (by rw [show (filled.storeSession session).connection = filled.connection from rfl,
        hconnection]; exact hfresh)
  rw [hopened] at hclient
  -- the listener leaves everything but the connection states alone
  have hstore : s'.client.store = filled.store := by rw [hclient]; rfl
  have hprojection : s'.client.projection = filled.projection := by rw [hclient]; rfl
  have hwatchers : s'.client.watchers = filled.watchers := by rw [hclient]; rfl
  have hstates : s'.client.connection = s.client.connection.update state := by
    rw [hclient, ← hconnection]; rfl
  refine ⟨?_, ⟨?_, ?_, ?_, ?_⟩, fun id hne => ⟨?_, ?_, ?_, ?_⟩⟩
  · rw [hclient, ← hsessions₁, ← hsessions₂]; rfl
  · rw [hwatchers, hwatchers₂, hwatchers₁, get?_insert, hsound.scopeRoot, hsound.scopeId,
      if_pos rfl]
  · rw [hstore, hstore₂, if_pos hid, hepoch]
  · rw [hprojection, hprojection₂, if_pos hid, hepoch]
  · rw [hstates, epochOf_update, if_pos hstateId, hstateEpoch]
  · rw [hwatchers, hwatchers₂, hwatchers₁, get?_insert, hsound.scopeId, if_neg hne]
  · rw [hstore, hstore₂, hid, if_neg hne, hstore₁, hsound.scopeId, if_neg hne]
  · rw [hprojection, hprojection₂, hid, if_neg hne, hprojection₁, hsound.scopeId, if_neg hne]
  · rw [hstates, epochOf_update, hstateId, if_neg hne]

theorem Consistent.opens (h : s.Consistent runtime) (hopens : Opens runtime s session s') :
    s'.Consistent runtime := by
  have hsound := hopens.sound h.counting
  have hnotMem : session.repositoryId ∉ s.client.sessions.keys :=
    OrderedMap.get?_eq_none_iff.mp hopens.fresh
  have hfresh : s.client.connection.epochOf session.repositoryId = none := by
    by_contra hregistered
    exact hnotMem (h.connected _ hregistered)
  obtain ⟨hsessions, hregistered, hothers⟩ := hopens.registrations hsound hfresh
  have hvalues : s'.client.sessions.values = s.client.sessions.values ++ [session] := by
    rw [hsessions, OrderedMap.values_set_of_notMem hnotMem]
  -- an old session has another id, because the id of the new one was free
  have hold : ∀ old ∈ s.client.sessions.values, session.repositoryId ≠ old.repositoryId := by
    intro old hmem heq
    obtain ⟨item, hitem, rfl⟩ := List.mem_map.mp hmem
    exact hnotMem (heq ▸ (h.keyed item hitem) ▸ List.mem_map_of_mem hitem)
  have hcases : ∀ old ∈ s'.client.sessions.values, old ∈ s.client.sessions.values ∨
      old = session := by
    intro old hmem
    rw [hvalues] at hmem
    simpa using hmem
  have hbefore : ∀ old ∈ s.client.sessions.values, old.epoch < session.epoch := by
    intro old hmem
    rw [hopens.epoch]
    exact h.assigned old hmem
  refine ⟨?_, ?_, ?_, ?_, ?_, ?_, h.counting.trans hopens.nextEpoch⟩
  · intro item hitem
    rw [hsessions] at hitem
    rcases OrderedMap.mem_items_set.mp hitem with rfl | ⟨-, hmem⟩
    · rfl
    · exact h.keyed item hmem
  · intro old hmem
    rcases hcases old hmem with hmem | rfl
    · exact h.sound old hmem
    · exact hsound
  · intro old hmem
    rcases hcases old hmem with hmem | rfl
    · exact (h.registered old hmem).congr (hothers _ (hold old hmem))
    · exact hregistered
  · intro id hid
    rw [hsessions]
    by_cases heq : session.repositoryId = id
    · exact List.mem_map.mpr ⟨_, OrderedMap.mem_items_set.mpr (.inl rfl), heq⟩
    · rw [(hothers id heq).connection] at hid
      obtain ⟨item, hitem, rfl⟩ := List.mem_map.mp (h.connected id hid)
      exact List.mem_map.mpr ⟨item, OrderedMap.mem_items_set.mpr (.inr ⟨Ne.symm heq, hitem⟩), rfl⟩
  · rw [hvalues]
    refine List.pairwise_append.mpr ⟨h.increasing, List.pairwise_singleton _ _, ?_⟩
    intro old hmem _ hnew
    rw [List.mem_singleton.mp hnew]
    exact hbefore old hmem
  · intro old hmem
    rcases hcases old hmem with hmem | rfl
    · exact (h.assigned old hmem).trans hopens.nextEpoch
    · rw [hopens.epoch]
      exact hopens.nextEpoch

theorem Consistent.closeRepository (h : s.Consistent runtime) (repositoryId : Text) :
    (s.closeRepository repositoryId).2.Consistent runtime := by
  have hrefl : ∀ id, s.client.SameAt s.client id := fun id => ⟨rfl, rfl, rfl, rfl⟩
  unfold SessionSystem.closeRepository closeRepositoryOver
  simp only [Delivery.carry_intact]
  split
  · exact h
  split
  · exact h
  rename_i session _
  have hclose := sendClose_nextEpoch session.repositoryId session.epoch s.daemon
  split
  -- a refused close keeps the session on both sides
  · rename_i hanswer
    rw [hanswer] at hclose
    exact h.congr rfl hrefl hclose.ge
  · rename_i daemon hanswer
    rw [hanswer] at hclose
    -- an accepted one takes it out of every map of the client
    have hsublist : (s.client.forget session.repositoryId).sessions.values.Sublist
        s.client.sessions.values := OrderedMap.values_delete_sublist _ _
    refine ⟨?_, ?_, ?_, ?_, ?_, ?_, ?_⟩
    · exact fun item hitem => h.keyed item (OrderedMap.mem_items_delete.mp hitem).2
    · exact fun old hmem => h.sound old (hsublist.subset hmem)
    · intro old hmem
      obtain ⟨item, hitem, rfl⟩ := List.mem_map.mp hmem
      obtain ⟨hne, hitem⟩ := OrderedMap.mem_items_delete.mp hitem
      have hkey := h.keyed item hitem
      exact (h.registered item.2 (List.mem_map_of_mem hitem)).congr
        (forget_sameAt (fun heq => hne (hkey ▸ heq.symm)))
    · intro id hid
      have hepoch := epochOf_unregisterRepository
        s.client.connection session.repositoryId id
      by_cases heq : session.repositoryId = id
      · exact absurd (hepoch.trans (if_pos heq)) hid
      · rw [show (⟨s.client.forget session.repositoryId, daemon⟩ : SessionSystem).client.connection
          = s.client.connection.unregisterRepository session.repositoryId from rfl, hepoch,
          if_neg heq] at hid
        obtain ⟨item, hitem, rfl⟩ := List.mem_map.mp (h.connected id hid)
        exact List.mem_map.mpr
          ⟨item, OrderedMap.mem_items_delete.mpr ⟨Ne.symm heq, hitem⟩, rfl⟩
    · exact h.increasing.sublist hsublist
    · intro old hmem
      rw [show (⟨s.client.forget session.repositoryId, daemon⟩ : SessionSystem).daemon.nextEpoch
        = s.daemon.nextEpoch from hclose]
      exact h.assigned old (hsublist.subset hmem)
    · exact hclose ▸ h.counting

theorem applyAnswer_sameAt (answer : Except DaemonError StatusDelta) (client : SessionClient) :
    (applyAnswer answer client).sessions = client.sessions ∧
      ∀ id, client.SameAt (applyAnswer answer client) id := by
  unfold applyAnswer
  split
  · exact ⟨rfl, fun id => ⟨rfl, rfl, rfl, rfl⟩⟩
  split
  · exact ⟨rfl, fun id => ⟨rfl, rfl, rfl, rfl⟩⟩
  · rename_i hdelta
    exact applyDelta_sameAt hdelta

theorem Consistent.step (h : s.Consistent runtime) (event : SessionEvent) :
    (s.step runtime event).Consistent runtime := by
  cases event with
  | openWorkingCopy native request =>
    obtain ⟨hnext, hsame | ⟨_, hopens⟩⟩ := openWorkingCopy_cases runtime native request s
    · refine h.congr (congrArg _ hsame) (fun id => ?_) hnext
      rw [show (s.step runtime (.openWorkingCopy native request)).client = s.client from hsame]
      exact ⟨rfl, rfl, rfl, rfl⟩
    · exact h.opens hopens
  | closeRepository repositoryId => exact h.closeRepository repositoryId
  -- an answer changes entries, never which sessions are open
  | refresh native params =>
    show (s.refresh runtime native params).Consistent runtime
    unfold SessionSystem.refresh
    split
    rename_i answer daemon hanswer
    obtain ⟨hsessions, hsame⟩ := applyAnswer_sameAt answer s.client
    refine h.congr hsessions hsame ?_
    rcases dispatchStatusRefresh_cases hanswer with
      ⟨_, -, rfl⟩ | ⟨_, _, _, _, _, -, -, -, -, rfl⟩ <;> exact le_refl _
  | checkRemote env remote params =>
    show (s.checkRemote runtime env remote params).Consistent runtime
    have hnext : s.daemon.nextEpoch ≤ (Daemon.dispatchCheckRemote (env.on runtime.platform)
        ⟨.statusCheckRemote, params⟩
        { remote with toDaemonState := s.daemon }).daemon.nextEpoch := by
      rcases @Daemon.dispatchCheckRemote_cases (env.on runtime.platform)
          ⟨.statusCheckRemote, params⟩ { remote with toDaemonState := s.daemon } with
        ⟨hsame, -⟩ | ⟨-, _, _, _, _, -, -, -, hinsert⟩
      · exact (congrArg nextEpoch hsame).ge
      · exact (congrArg nextEpoch hinsert).ge
    unfold SessionSystem.checkRemote
    dsimp only
    split
    · rename_i delta _
      obtain ⟨hsessions, hsame⟩ := applyAnswer_sameAt (.ok delta) s.client
      exact h.congr hsessions hsame hnext
    · exact h.congr rfl (fun _ => ⟨rfl, rfl, rfl, rfl⟩) hnext

/-- **Every history leaves a consistent system.** -/
theorem consistent_after (runtime : Runtime) (events : List SessionEvent) :
    (after runtime events).Consistent runtime :=
  Runs.foldl_invariant (Consistent runtime) (fun _ h event _ => h.step event)
    (consistent_initial runtime)

/-! ## Reopening one session -/

/-- The fresh process opens the working copy of the session with the same identity, and answers the
request for its snapshot with one the extension accepts. -/
structure Reopens (runtime : Runtime) (native : NativeSide) (session : OpenSession) : Prop where
  root : session.identity.workingCopyRoot.nonBlankRust = true
  identity : native.openWorkingCopy session.identity.workingCopyRoot = .ok session.identity
  snapshot : ∀ epoch < 2 ^ 53, ∀ roots, ∃ snapshot,
    ((RepositorySession.opened session.repositoryId epoch session.identity roots).getSnapshot
        runtime.platform native.status native.now).1 = .ok snapshot ∧
      snapshot.Accepted runtime.platform

/-- Epoch and generation of a session, of the state the store holds for it, and of the daemon's
session agree. -/
def Agrees (s : SessionSystem) (session : OpenSession) : Prop :=
  ∃ opened state contents, s.daemon.repositories.get? session.repositoryId = some opened ∧
    s.client.store.repositories.get? session.repositoryId = some state ∧
    state.contents = some contents ∧ opened.epoch = session.epoch ∧ state.epoch = opened.epoch ∧
    contents.generation + 1 = opened.nextGeneration

/-- What a reopened session leaves. -/
structure Reopened (s : SessionSystem) (session : OpenSession) (s' : SessionSystem) : Prop where
  nextEpoch : s'.daemon.nextEpoch = s.daemon.nextEpoch + 1
  sessions : s'.client.sessions = s.client.sessions.set session.repositoryId session
  agrees : s'.Agrees session
  elsewhere : ∀ id, session.repositoryId ≠ id → s.client.SameAt s'.client id
  store : ∀ id, session.repositoryId ≠ id →
    s'.client.store.repositories.get? id = s.client.store.repositories.get? id
  daemon : ∀ id, session.repositoryId ≠ id →
    s'.daemon.repositories.get? id = s.daemon.repositories.get? id

/-- The epoch of the new session is the next one of the daemon. -/
theorem sendOpen_of_reopens (hsound : session.Sound runtime)
    (hreopens : Reopens runtime native session)
    (hfresh : daemon.repositories.get? session.repositoryId = none)
    (hsafe : daemon.nextEpoch < 2 ^ 53) :
    ∃ roots, sendOpen runtime native session.reopenRequest daemon =
      (.ok ⟨session.repositoryId, daemon.nextEpoch, session.identity⟩,
        { repositories := daemon.repositories.insert
            (.opened session.repositoryId daemon.nextEpoch session.identity roots)
          nextEpoch := daemon.nextEpoch + 1 }) := by
  obtain ⟨given, roots, hgiven, hroots⟩ := hsound.boundaryRoots
  refine ⟨roots, sendOpen_eq_ok_iff.mpr ⟨?_, ?_⟩⟩
  · refine dispatchRepositoryOpen_eq_ok_iff.mpr ⟨session.identity.workingCopyRoot,
      given, session.identity, roots, ?_, hgiven, hreopens.identity, hroots, ?_, ?_, ?_⟩
    · rw [openPathParam_repositoryOpenParams]
      exact if_pos hreopens.root
    · rw [← hsound.repositoryId]
      exact hfresh
    · rw [← hsound.repositoryId]
    · rw [← hsound.repositoryId]
  · exact ⟨hsound.accepted.repositoryId, hsafe, hsound.accepted.identity⟩

/-- The id of a session is not blank for the daemon either: it contains a colon. -/
theorem nonBlankRust_repositoryId (identity : RepositoryIdentity) :
    (repositoryId identity).nonBlankRust = true := by
  refine Text.nonBlankRust_iff.mpr ⟨':', ?_, by decide⟩
  unfold repositoryId
  simp

/-- The snapshot of a session the daemon has just opened. -/
theorem sendGetSnapshot_of_opened {runtime : Runtime} {native : NativeSide} {daemon : DaemonState}
    {opened : RepositorySession} {snapshot : StatusSnapshot}
    (hget : daemon.repositories.get? opened.repositoryId = some opened)
    (hid : opened.repositoryId.nonBlankJs = true ∧ opened.repositoryId.nonBlankRust = true)
    (hsafe : opened.epoch < 2 ^ 53)
    (hsnapshot : (opened.getSnapshot runtime.platform native.status native.now).1 = .ok snapshot)
    (haccepted : snapshot.Accepted runtime.platform) :
    sendGetSnapshot runtime native ⟨opened.repositoryId, opened.epoch⟩ daemon =
      (.ok snapshot,
        { daemon with
          repositories := daemon.repositories.insert
            (opened.getSnapshot runtime.platform native.status native.now).2 }) := by
  have hvalid : validateSnapshotRequest ⟨opened.repositoryId, opened.epoch⟩ = .ok () :=
    validateSnapshotRequest_accepts.ok_iff.mpr ⟨hid.1, isSafeInteger_natCast.mpr hsafe⟩
  have hparams : sessionParams
      (StatusSnapshotRequest.toJson ⟨opened.repositoryId, opened.epoch⟩) =
        .ok (opened.repositoryId, opened.epoch) :=
    sessionParams_of_props rfl hid.2 rfl
      (hsafe.trans (Nat.pow_lt_pow_right Nat.one_lt_two (by decide)))
  have hread : readSnapshotReply runtime.platform ⟨opened.repositoryId, opened.epoch⟩
      ((opened.getSnapshot runtime.platform native.status native.now).1.mapError .bridge) =
        .ok snapshot := by
    obtain ⟨hsnapshotId, hsnapshotEpoch, -⟩ := getSnapshot_labels hsnapshot
    exact readSnapshotReply_eq_ok_iff.mpr
      ⟨mapError_eq_ok_iff.mpr hsnapshot, haccepted, hsnapshotId, hsnapshotEpoch⟩
  unfold sendGetSnapshot
  rw [hvalid]
  rw [dispatchStatusGetSnapshot_of_session hparams hget]
  dsimp only
  rw [hread]
  rfl

end SessionSystem

namespace SessionClient

/-- The end of a reopening in which no step throws. -/
theorem replaceSession_eq {client : SessionClient} {session : OpenSession}
    {snapshot : StatusSnapshot} {store : StatusSnapshotStore}
    {projection : SourceControlProjection} {state : RemoteConnectionState}
    {connection : RemoteConnectionStateStore}
    (hstore : client.store.replaceSnapshot snapshot = .ok store)
    (hprojection : client.projection.replaceSnapshot snapshot.header = .ok projection)
    (hwatcher : client.replaceWatcher session.watchScope = .ok ())
    (hrebind : client.connection.rebindRepository session.repositoryId session.epoch =
      .ok (state, connection))
    (hshows : projection.showsRemoteConnectionState state = true) :
    client.replaceSession session snapshot =
      (.ok (), { client with
        sessions := client.sessions.set session.repositoryId session
        store, projection, connection }) := by
  have hkept : replaceWatcher { client with store, projection } session.watchScope = .ok () :=
    hwatcher
  unfold replaceSession
  rw [hstore]
  dsimp only
  rw [hprojection]
  dsimp only
  rw [hkept]
  dsimp only [storeSession, sessionReopened]
  rw [hrebind]
  dsimp only
  rw [if_pos hshows]

/-- Whatever the stores say, the connection states never take an epoch they already have. -/
theorem epochOf_ne_of_replaceSession {client client' : SessionClient} {session : OpenSession}
    {snapshot : StatusSnapshot} {done : Unit}
    (h : client.replaceSession session snapshot = (.ok done, client')) :
    client.connection.epochOf session.repositoryId ≠ some session.epoch := by
  unfold replaceSession at h
  dsimp only at h
  split at h
  · cases h
  split at h
  · cases h
  split at h
  · cases h
  unfold sessionReopened at h
  split at h
  · cases h
  rename_i hrebind
  obtain ⟨-, -, current, hcurrent, hne, -⟩ :=
    rebindRepository_eq_ok_iff.mp hrebind
  intro hepoch
  obtain ⟨found, hfound, hfoundEpoch⟩ := Option.map_eq_some_iff.mp hepoch
  have hsame : current = found := Option.some.inj (hcurrent.symm.trans hfound)
  exact hne (hsame ▸ hfoundEpoch)

/-- The client after its stores took the snapshot of a session under another epoch. -/
theorem replaceSession_of_epoch_ne {client : SessionClient} {old session : OpenSession}
    {snapshot : StatusSnapshot} (hregistered : client.Registered old)
    (hid : session.repositoryId = old.repositoryId)
    (hscopeId : session.watchScope.repositoryId = old.repositoryId)
    (hscopeRoot : session.watchScope.workingCopyRoot = old.identity.workingCopyRoot)
    (hnonBlank : session.repositoryId.nonBlankJs = true) (hsafe : session.epoch < 2 ^ 53)
    (hsnapshotId : snapshot.repositoryId = session.repositoryId)
    (hsnapshotEpoch : snapshot.epoch = session.epoch) (hne : old.epoch ≠ session.epoch) :
    ∃ (client' : SessionClient) (state : RepositoryState), client.replaceSession session snapshot =
      (.ok (), client') ∧
      client'.sessions = client.sessions.set session.repositoryId session ∧
      client'.store.repositories.get? session.repositoryId =
        some ({ state with epoch := snapshot.epoch }.applySnapshotToState snapshot) ∧
      (∀ id, session.repositoryId ≠ id → client.SameAt client' id) ∧
      ∀ id, session.repositoryId ≠ id →
        client'.store.repositories.get? id = client.store.repositories.get? id := by
  obtain ⟨state, hstate, hstateEpoch⟩ := Option.map_eq_some_iff.mp hregistered.store
  obtain ⟨shown, hshown, hshownEpoch⟩ := Option.map_eq_some_iff.mp hregistered.projection
  obtain ⟨current, hcurrent, hcurrentEpoch⟩ := Option.map_eq_some_iff.mp hregistered.connection
  -- the three guards compare the old epoch with the new one
  have hstore : client.store.replaceSnapshot snapshot =
      .ok ⟨client.store.repositories.insert
        ({ state with epoch := snapshot.epoch }.applySnapshotToState snapshot)⟩ := by
    refine StatusSnapshotStore.update_eq_ok_iff.mpr ⟨state, _, ?_, ?_, rfl⟩
    · rw [hsnapshotId, hid]
      exact hstate
    · refine RepositoryState.replaceSnapshot_of_epoch_ne ?_
      rw [hstateEpoch, hsnapshotEpoch]
      exact hne
  have hprojection : client.projection.replaceSnapshot snapshot.header =
      .ok ⟨client.projection.repositories.insert
        ({ shown with epoch := snapshot.epoch }.applySnapshotToState snapshot.header)⟩ := by
    refine SourceControlProjection.update_eq_ok_iff.mpr ⟨shown, _, ?_, ?_, rfl⟩
    · rw [show snapshot.header.repositoryId = snapshot.repositoryId from rfl, hsnapshotId, hid]
      exact hshown
    · refine RepositoryProjectionState.replaceSnapshot_eq_ok_iff.mpr ⟨fun heq => ?_, rfl⟩
      exact absurd (hshownEpoch.symm.trans (heq.trans hsnapshotEpoch)) hne
  have hrebind : client.connection.rebindRepository session.repositoryId session.epoch =
      .ok (rebound current session.epoch,
        client.connection.update (rebound current session.epoch)) := by
    refine rebindRepository_eq_ok_iff.mpr
      ⟨hnonBlank, isSafeInteger_natCast.mpr hsafe, current, hid ▸ hcurrent, ?_, rfl⟩
    rw [hcurrentEpoch]
    exact hne
  have hwatcher : client.replaceWatcher session.watchScope = .ok () := by
    unfold replaceWatcher
    rw [hscopeId, hregistered.watcher, hscopeRoot]
    exact if_neg (not_not.mpr rfl)
  have hreboundId : (rebound current session.epoch).repositoryId =
      session.repositoryId := by
    rw [rebound_repositoryId, hid]
    exact key_of_get? hcurrent
  have hstateKey : state.repositoryId = old.repositoryId := key_of_get? hstate
  have hshownKey : shown.repositoryId = old.repositoryId := key_of_get? hshown
  have hstateId : ({ state with epoch := snapshot.epoch }.applySnapshotToState
      snapshot).repositoryId = session.repositoryId := hstateKey.trans hid.symm
  have hshownId : ({ shown with epoch := snapshot.epoch }.applySnapshotToState
      snapshot.header).repositoryId = session.repositoryId := hshownKey.trans hid.symm
  have hshows : SourceControlProjection.showsRemoteConnectionState
      ⟨client.projection.repositories.insert
        ({ shown with epoch := snapshot.epoch }.applySnapshotToState snapshot.header)⟩
      (rebound current session.epoch) = true := by
    unfold SourceControlProjection.showsRemoteConnectionState SourceControlProjection.getProjection
    rw [get?_insert, hreboundId, if_pos hshownId, rebound_epoch]
    simp [RepositoryProjectionState.applySnapshotToState, hsnapshotEpoch]
  refine ⟨_, state, replaceSession_eq hstore hprojection hwatcher hrebind hshows, rfl, ?_, ?_, ?_⟩
  · rw [get?_insert, if_pos hstateId]
  · intro id hother
    refine ⟨rfl, ?_, ?_, ?_⟩
    · exact (map_get?_insert ..).trans (if_neg (hstateId ▸ hother))
    · exact (map_get?_insert ..).trans (if_neg (hshownId ▸ hother))
    · exact (map_get?_insert ..).trans (if_neg (hreboundId ▸ hother))
  · intro id hother
    rw [get?_insert, if_neg (hstateId ▸ hother)]

end SessionClient

namespace SessionSystem

/-- The daemon's side of a reopening: it opens the session under its next epoch and sends the first
snapshot of it. -/
structure Exchange (runtime : Runtime) (native : NativeSide) (session : OpenSession)
    (daemon : DaemonState) (snapshot : StatusSnapshot) (daemon' : DaemonState) : Prop where
  sent : ∃ opened,
    sendOpen runtime native session.reopenRequest daemon =
        (.ok ⟨session.repositoryId, daemon.nextEpoch, session.identity⟩, opened) ∧
      sendGetSnapshot runtime native ⟨session.repositoryId, daemon.nextEpoch⟩ opened =
        (.ok snapshot, daemon')
  repositoryId : snapshot.repositoryId = session.repositoryId
  epoch : snapshot.epoch = daemon.nextEpoch
  opened : ∃ opened, daemon'.repositories.get? session.repositoryId = some opened ∧
    opened.epoch = daemon.nextEpoch ∧ opened.nextGeneration = snapshot.generation + 1
  nextEpoch : daemon'.nextEpoch = daemon.nextEpoch + 1
  elsewhere : ∀ id, session.repositoryId ≠ id →
    daemon'.repositories.get? id = daemon.repositories.get? id

variable {runtime : Runtime}

theorem exchange_of_reopens {native : NativeSide} {session : OpenSession} {daemon : DaemonState}
    (hsound : session.Sound runtime) (hreopens : Reopens runtime native session)
    (hfresh : daemon.repositories.get? session.repositoryId = none)
    (hsafe : daemon.nextEpoch < 2 ^ 53) :
    ∃ snapshot daemon', Exchange runtime native session daemon snapshot daemon' := by
  obtain ⟨roots, hopen⟩ := sendOpen_of_reopens hsound hreopens hfresh hsafe
  obtain ⟨snapshot, hsnapshot, haccepted⟩ := hreopens.snapshot daemon.nextEpoch hsafe roots
  obtain ⟨hlabelId, hlabelEpoch, hlabelGeneration⟩ := getSnapshot_labels hsnapshot
  obtain ⟨hkeptId, hkeptEpoch, hnextGeneration⟩ :=
    getSnapshot_session runtime.platform native.status
    native.now (.opened session.repositoryId daemon.nextEpoch session.identity roots)
  have hnonBlank : session.repositoryId.nonBlankRust = true := by
    rw [hsound.repositoryId]
    exact nonBlankRust_repositoryId session.identity
  -- the process has just opened the session, so it finds it
  have hsend := @sendGetSnapshot_of_opened runtime native
    ⟨daemon.repositories.insert
      (.opened session.repositoryId daemon.nextEpoch session.identity roots), daemon.nextEpoch + 1⟩
    (.opened session.repositoryId daemon.nextEpoch session.identity roots) snapshot
    ((get?_insert ..).trans (if_pos rfl)) ⟨hsound.accepted.repositoryId, hnonBlank⟩ hsafe hsnapshot
    haccepted
  refine ⟨snapshot, _, ⟨_, hopen, hsend⟩, hlabelId, hlabelEpoch, ⟨_, ?_, hkeptEpoch, ?_⟩, rfl, ?_⟩
  · exact (get?_insert ..).trans (if_pos hkeptId)
  · rw [hnextGeneration, hlabelGeneration]
  · intro _ hother
    rw [get?_insert, if_neg (hkeptId ▸ hother), get?_insert]
    exact if_neg hother

/-- **A session whose epoch changes is reopened**, and everything else stays as it was. -/
theorem reopenSession_of_epoch_ne {native : NativeSide} {session : OpenSession} {s : SessionSystem}
    (hsound : session.Sound runtime) (hregistered : s.client.Registered session)
    (hreopens : Reopens runtime native session)
    (hfresh : s.daemon.repositories.get? session.repositoryId = none)
    (hsafe : s.daemon.nextEpoch < 2 ^ 53) (hne : session.epoch ≠ s.daemon.nextEpoch) :
    ∃ session' s', s.reopenSessionOver runtime native .intact session =
        (.ok (.reopened session.repositoryId session.epoch s.daemon.nextEpoch
          session.identity.workingCopyRoot), s') ∧
      session'.repositoryId = session.repositoryId ∧ Reopened s session' s' := by
  -- the three checks of the client, then the replacement under the new epoch
  obtain ⟨snapshot, daemon', hexchange⟩ := exchange_of_reopens hsound hreopens hfresh hsafe
  obtain ⟨opened, hopen, hsend⟩ := hexchange.sent
  have hresponse : validateReopenResponse
      ⟨session.repositoryId, s.daemon.nextEpoch, session.identity⟩ session = .ok () :=
    if_pos ⟨rfl, rfl, rfl, rfl⟩
  have hscope : watchScopeFromResponse runtime.toLocaleLowerCase
      ⟨session.repositoryId, s.daemon.nextEpoch, session.identity⟩ session.reopenRequest =
        .ok ⟨session.repositoryId, s.daemon.nextEpoch, session.identity.workingCopyRoot,
          session.watchScope.pathCase, session.watchScope.boundaryRoots⟩ :=
    watchScopeFromResponse_eq_ok_iff.mpr ⟨hsound.scope, rfl⟩
  obtain ⟨client', state, hreplace, hsessions, hstate, hsame, hstore⟩ :=
    @replaceSession_of_epoch_ne s.client session
      ⟨session.repositoryId, s.daemon.nextEpoch, session.identity,
        ⟨session.repositoryId, s.daemon.nextEpoch, session.identity.workingCopyRoot,
          session.watchScope.pathCase, session.watchScope.boundaryRoots⟩⟩ snapshot
      hregistered rfl rfl rfl hsound.accepted.repositoryId hsafe hexchange.repositoryId
      hexchange.epoch hne
  refine ⟨⟨session.repositoryId, s.daemon.nextEpoch, session.identity, _⟩, ⟨client', daemon'⟩, ?_,
    rfl, hexchange.nextEpoch, hsessions, ?_, hsame, hstore, hexchange.elsewhere⟩
  · unfold reopenSessionOver Deliveries.intact
    simp only [Delivery.carry_intact]
    rw [hopen]
    dsimp only
    rw [hresponse]
    rw [hsend]
    rw [hscope]
    dsimp only
    rw [hreplace]
  · obtain ⟨found, hfound, hepoch, hgeneration⟩ := hexchange.opened
    exact ⟨found, _, _, hfound, hstate, rfl, hepoch, hexchange.epoch.trans hepoch.symm,
      hgeneration.symm⟩

/-- **A session whose epoch does not change is not reopened**: at the latest, `rebindRepository`
refuses the epoch. -/
theorem not_isReopened_of_epoch_eq {runtime : Runtime} {native : NativeSide} {session : OpenSession}
    {s : SessionSystem} (hregistered : s.client.Registered session)
    (heq : session.epoch = s.daemon.nextEpoch) :
    (s.tryReopenSessionOver runtime native .intact session).1.isReopened = false := by
  unfold tryReopenSessionOver
  split
  · rfl
  rename_i hreopen
  exfalso
  unfold reopenSessionOver Deliveries.intact at hreopen
  simp only [Delivery.carry_intact] at hreopen
  split at hreopen
  · cases hreopen
  rename_i daemon hopen
  -- the process has given the session its next epoch
  obtain ⟨hdispatch, -⟩ := sendOpen_eq_ok_iff.mp hopen
  obtain ⟨_, _, identity, _, -, -, -, -, -, rfl, -⟩ :=
    dispatchRepositoryOpen_eq_ok_iff.mp hdispatch
  split at hreopen
  · cases hreopen
  rename_i hresponse
  unfold validateReopenResponse at hresponse
  split at hresponse
  · rename_i hsame
    split at hreopen
    · cases hreopen
    split at hreopen
    · cases hreopen
    split at hreopen
    · cases hreopen
    rename_i hreplace
    refine epochOf_ne_of_replaceSession hreplace ?_
    show s.client.connection.epochOf (repositoryId identity) = some s.daemon.nextEpoch
    rw [show repositoryId identity = session.repositoryId from hsame.1, ← heq]
    exact hregistered.connection
  · cases hresponse

/-! ## Reopening all sessions -/

/-- The loop over the sessions that are left: each epoch is later than the one the process is about
to give, so each turn succeeds, and the sessions behind stay in agreement with the daemon. -/
theorem reopenFrom_of_later {native : Nat → NativeSide} (i : Nat) (rest : List OpenSession)
    {s : SessionSystem} (hids : (rest.map OpenSession.repositoryId).Nodup)
    (hincreasing : rest.Pairwise fun a b => a.epoch < b.epoch)
    (hsound : ∀ session ∈ rest, session.Sound runtime)
    (hregistered : ∀ session ∈ rest, s.client.Registered session)
    (hreopens : ∀ item ∈ rest.zipIdx i, Reopens runtime (native item.2) item.1)
    (hfresh : ∀ session ∈ rest, s.daemon.repositories.get? session.repositoryId = none)
    (hlater : ∀ session ∈ rest, s.daemon.nextEpoch < session.epoch)
    (hkeyed : ∀ item ∈ s.client.sessions.items, item.2.repositoryId = item.1)
    (hdone : ∀ session ∈ s.client.sessions.values, session ∈ rest ∨ s.Agrees session) :
    (∀ result ∈ (reopenFrom runtime native i rest s).1, result.isReopened = true) ∧
      (reopenFrom runtime native i rest s).1.map RepositorySessionReopenResult.repositoryId =
        rest.map OpenSession.repositoryId ∧
      ∀ session ∈ (reopenFrom runtime native i rest s).2.client.sessions.values,
        (reopenFrom runtime native i rest s).2.Agrees session := by
  induction rest generalizing i s with
  | nil =>
    refine ⟨fun _ h => (List.not_mem_nil h).elim, rfl, fun session hsession => ?_⟩
    rcases hdone session hsession with hmem | hagrees
    · cases hmem
    · exact hagrees
  | cons session rest ih =>
    have hnext := hlater session List.mem_cons_self
    have hsafe : s.daemon.nextEpoch < 2 ^ 53 :=
      hnext.trans (hsound session List.mem_cons_self).accepted.epoch
    obtain ⟨session', s', hreopen, hid, hafter⟩ := reopenSession_of_epoch_ne
      (hsound session List.mem_cons_self) (hregistered session List.mem_cons_self)
      (hreopens (session, i) (by rw [List.zipIdx_cons]; exact List.mem_cons_self))
      (hfresh session List.mem_cons_self) hsafe hnext.ne'
    have hturn : s.tryReopenSessionOver runtime (native i) .intact session =
        (.reopened session.repositoryId session.epoch s.daemon.nextEpoch
          session.identity.workingCopyRoot, s') := by
      unfold tryReopenSessionOver
      rw [hreopen]
    -- the others have ids of their own, so their registrations are untouched
    have hother : ∀ other ∈ rest, session'.repositoryId ≠ other.repositoryId := by
      intro other hmem heq
      rw [List.map_cons, List.nodup_cons] at hids
      exact hids.1 (hid ▸ heq ▸ List.mem_map_of_mem hmem)
    have hrest := ih (i + 1) (List.nodup_cons.mp hids).2 (List.pairwise_cons.mp hincreasing).2
      (fun other hmem => hsound other (List.mem_cons_of_mem _ hmem))
      (fun other hmem => (hregistered other (List.mem_cons_of_mem _ hmem)).congr
        (hafter.elsewhere _ (hother other hmem)))
      (fun item hmem => hreopens item (by rw [List.zipIdx_cons]; exact List.mem_cons_of_mem _ hmem))
      (fun other hmem => (hafter.daemon _ (hother other hmem)).trans
        (hfresh other (List.mem_cons_of_mem _ hmem)))
      (fun other hmem => by
        have hlt := (List.pairwise_cons.mp hincreasing).1 other hmem
        rw [hafter.nextEpoch]
        omega)
      (fun item hitem => by
        rw [hafter.sessions] at hitem
        rcases OrderedMap.mem_items_set.mp hitem with rfl | ⟨-, hmem⟩
        · rfl
        · exact hkeyed item hmem)
      (fun other hmem => by
        obtain ⟨item, hitem, rfl⟩ := List.mem_map.mp hmem
        rw [hafter.sessions] at hitem
        rcases OrderedMap.mem_items_set.mp hitem with rfl | ⟨hne, hold⟩
        · exact .inr hafter.agrees
        · have hkey : item.2.repositoryId = item.1 := hkeyed item hold
          have hneId : session'.repositoryId ≠ item.2.repositoryId := hkey ▸ Ne.symm hne
          rcases hdone item.2 (List.mem_map_of_mem hold) with hmem | ⟨opened, state, contents, h⟩
          · rcases List.mem_cons.mp hmem with heq | hmem
            · exact absurd (hid.trans (congrArg _ heq).symm) hneId
            · exact .inl hmem
          · refine .inr ⟨opened, state, contents, ?_⟩
            rw [hafter.daemon _ hneId, hafter.store _ hneId]
            exact h)
    have hunfold : reopenFrom runtime native i (session :: rest) s =
        (.reopened session.repositoryId session.epoch s.daemon.nextEpoch
            session.identity.workingCopyRoot :: (reopenFrom runtime native (i + 1) rest s').1,
          (reopenFrom runtime native (i + 1) rest s').2) := by
      rw [reopenFrom, reopenFromOver, hturn]
    rw [hunfold]
    refine ⟨?_, ?_, hrest.2.2⟩
    · intro result hresult
      rcases List.mem_cons.mp hresult with rfl | hmem
      · rfl
      · exact hrest.1 result hmem
    · rw [List.map_cons, List.map_cons, hrest.2.1]
      rfl

/-- The extension, connected to a fresh daemon process. -/
def restarted (s : SessionSystem) : SessionSystem := { s with daemon := .new }

/-- **Reopening after a restart.**  After any history against one daemon process, let a fresh
process open every working copy with the same identity and answer every snapshot request.  Then
every session is reopened, and agrees with the fresh process in epoch and generation, exactly when
no session had epoch 1: the fresh process gives epoch 1 to the session that was opened first, and
a session never moves to the epoch it already has. -/
theorem reopenOpenSessions_iff (runtime : Runtime) (events : List SessionEvent)
    (native : Nat → NativeSide)
    (hreopens : ∀ item ∈ (after runtime events).client.sessions.values.zipIdx,
      Reopens runtime (native item.2) item.1) :
    ((∀ result ∈ ((after runtime events).restarted.reopenOpenSessions runtime native).1,
          result.isReopened = true) ∧
        ((after runtime events).restarted.reopenOpenSessions runtime native).1.map
          RepositorySessionReopenResult.repositoryId = (after runtime events).client.sessions.keys ∧
        ∀ session ∈ ((after runtime events).restarted.reopenOpenSessions
            runtime native).2.client.sessions.values,
          ((after runtime events).restarted.reopenOpenSessions runtime native).2.Agrees session) ↔
      ∀ session ∈ (after runtime events).client.sessions.values, session.epoch ≠ 1 := by
  have hconsistent := consistent_after runtime events
  generalize after runtime events = s at hreopens hconsistent ⊢
  have hkeys : s.client.sessions.values.map OpenSession.repositoryId = s.client.sessions.keys := by
    unfold OrderedMap.values OrderedMap.keys
    rw [List.map_map]
    exact List.map_congr_left fun item hitem => hconsistent.keyed item hitem
  constructor
  · rintro ⟨hall, _⟩ session hsession heq
    -- the epochs grow, so a session with epoch 1 is the first one
    cases hvalues : s.client.sessions.values with
    | nil =>
      rw [hvalues] at hsession
      cases hsession
    | cons first rest =>
      have hfirst : first ∈ s.client.sessions.values := by
        rw [hvalues]
        exact List.mem_cons_self
      have hpos := (hconsistent.sound first hfirst).epoch_pos
      have hfirstEpoch : first.epoch = 1 := by
        have hincreasing := hconsistent.increasing
        rw [hvalues] at hincreasing hsession
        rcases List.mem_cons.mp hsession with rfl | hmem
        · exact heq
        · have hlt := (List.pairwise_cons.mp hincreasing).1 session hmem
          omega
      have hfailed := @not_isReopened_of_epoch_eq runtime (native 0) first s.restarted
        (hconsistent.registered first hfirst) hfirstEpoch
      have hresult : (s.restarted.tryReopenSessionOver runtime (native 0) .intact first).1 ∈
          (s.restarted.reopenOpenSessions runtime native).1 := by
        unfold reopenOpenSessions reopenOpenSessionsOver
        rw [show s.restarted.client.sessions.values = first :: rest from hvalues]
        exact List.mem_cons_self
      rw [hall _ hresult] at hfailed
      cases hfailed
  · intro hepochs
    have hlater : ∀ session ∈ s.client.sessions.values, 1 < session.epoch := by
      intro session hsession
      have hpos := (hconsistent.sound session hsession).epoch_pos
      have hne := hepochs session hsession
      omega
    rw [← hkeys]
    exact reopenFrom_of_later 0 s.client.sessions.values
      (by rw [hkeys]; exact s.client.sessions.nodup) hconsistent.increasing hconsistent.sound
      hconsistent.registered hreopens (fun session _ => get?_empty _) hlater hconsistent.keyed
      (fun session hsession => .inl hsession)

end SessionSystem

/-! ## Two histories

`/wc` is opened first, `/other` second.  As long as `/wc` is open, a restart strands it. -/

namespace ReopenExample

open SessionSystem

def identityAt (root : Text) : RepositoryIdentity := ⟨"uuid", "file:///repository", root, root, 31⟩

def native : NativeSide where
  openWorkingCopy root := .ok (identityAt root)
  status := .answering [] []
  now := "now"

def runtime : Runtime where
  platform := .posix
  toLocaleLowerCase := Text.toAsciiLowercase
  toISOString _ := "now"
  dateParse _ := some 0
  remoteFailure _ := ⟨.attention, .unknownRemote, false⟩

def openAt (root : Text) : SessionEvent := .openWorkingCopy native ⟨root, .caseSensitive, none⟩

/-- The only session of the extension was opened first, and the connection states refuse to move it
from epoch 1 to epoch 1. -/
theorem first_session_is_not_reopened :
    ((after runtime [openAt "/wc"]).restarted.reopenOpenSessions runtime fun _ => native).1 =
      [.reopenFailed "uuid:/wc" 1 "/wc"
        "SUBVERSIONR_REMOTE_STATE_REPOSITORY_EPOCH_UNCHANGED"] := by
  decide +kernel

/-- The history after which the first repository is closed again. -/
def events : List SessionEvent := [openAt "/wc", openAt "/other", .closeRepository "uuid:/wc"]

/-- The first snapshot of `/other`, which has nothing to report. -/
def snapshot (epoch : Nat) : StatusSnapshot where
  repositoryId := "uuid:/other"
  epoch := epoch
  generation := 1
  completeness := "complete"
  identity := identityAt "/other"
  localEntries := []
  remoteEntries := []
  summary := ⟨0, 0, 0, 0⟩
  timestamp := "now"
  source := "libsvn-local"

theorem getSnapshot_other (epoch : Nat) (roots : BoundaryRoots) :
    ((RepositorySession.opened "uuid:/other" epoch (identityAt "/other") roots).getSnapshot
      runtime.platform native.status native.now).1 = .ok (snapshot epoch) := by
  rcases roots with ⟨roots, valid⟩
  cases roots with
  | nil => rfl
  | cons root rest => rfl

theorem snapshot_accepted {epoch : Nat} (hepoch : epoch < 2 ^ 53) :
    (snapshot epoch).Accepted .posix := by
  -- everything but the epoch is closed, so it can be evaluated at any epoch
  have hlabels : (snapshot 0).repositoryId.nonBlankJs = true ∧
      (snapshot 0).timestamp.nonBlankJs = true ∧ (snapshot 0).source.nonBlankJs = true := by decide
  have hidentity : (identityAt "/other").Accepted :=
    ⟨by decide, by decide, by decide, by decide, by decide⟩
  have hnothing : ∀ source, EntriesAccepted .posix source 1 [] := fun source =>
    ⟨fun _ h => (List.not_mem_nil h).elim, fun _ _ h => (List.not_mem_nil h).elim⟩
  have hcounts : StatusSummary.Below (2 ^ 53 - 1) ⟨0, 0, 0, 0⟩ :=
    ⟨Nat.zero_le _, Nat.zero_le _, Nat.zero_le _, Nat.zero_le _⟩
  exact ⟨Nat.one_lt_two_pow (by decide), hlabels.1, hepoch, .inl rfl, hidentity, hnothing _,
    hnothing _, hcounts, hlabels.2.1, hlabels.2.2⟩

/-- `/other` is the only session that is left, under epoch 2, and moves to epoch 1. -/
theorem second_session_is_reopened :
    (∀ session ∈ (after runtime events).client.sessions.values, session.epoch ≠ 1) ∧
      ∀ result ∈ ((after runtime events).restarted.reopenOpenSessions runtime fun _ => native).1,
        result.isReopened = true := by
  have hsessions : (after runtime events).client.sessions.values =
      [⟨"uuid:/other", 2, identityAt "/other",
        ⟨"uuid:/other", 2, "/other", .caseSensitive, none⟩⟩] := by
    decide +kernel
  have hepochs : ∀ session ∈ (after runtime events).client.sessions.values, session.epoch ≠ 1 := by
    rw [hsessions]
    decide
  refine ⟨hepochs, ((reopenOpenSessions_iff runtime events (fun _ => native) ?_).mpr hepochs).1⟩
  rw [hsessions]
  intro _ hitem
  rw [List.mem_singleton.mp hitem]
  exact ⟨by decide, rfl, fun epoch hepoch roots =>
    ⟨snapshot epoch, getSnapshot_other epoch roots, snapshot_accepted hepoch⟩⟩

end ReopenExample

end SubversionR

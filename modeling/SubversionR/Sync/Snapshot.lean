import SubversionR.Daemon.Session
import SubversionR.Daemon.NativeStatus
import SubversionR.Client.SnapshotStore

/-!
# Snapshots — full scans, snapshots and what is handed over

Two requests see the whole working copy: `status/getSnapshot`, and `status/refresh` with the one
target `.` at depth infinity.

* `full_refresh_eq_snapshot` — on one bridge result both leave the same entries, except that the
  refresh also hides the unversioned entries the session's *previous* entries listed as conflict
  artifacts;
* `snapshot_handover_iff` — the answer of `getSnapshot` holds every reported entry while the
  session keeps the projectable ones, so the extension's copy equals the session exactly when every
  reported entry is projectable.
-/

namespace SubversionR

open KeyedMaps KeyedMap

/-! ## A full scan, path by path -/

/-- The entry a full scan with result `entries` leaves at `p`: the last one reported there, unless
it is unversioned and the session's entries list its path as a conflict artifact, or it is not
projectable. -/
def RepositorySession.fullScanEntry (platform : Platform) (session : RepositorySession)
    (entries : List StatusEntry) (p : Text) : Option StatusEntry :=
  (lastWithKey StatusEntry.path
    ((session.reportedEntries platform entries).filter
      (notConflictArtifact (conflictArtifactPaths session.localEntries.values))) p).filter
    isProjectableStatus

/-- The state the full refresh merges its one scan into. -/
theorem get?_mergeScan_full (platform : Platform) (session : RepositorySession) (reason : Text)
    (result : StatusSnapshot) (p : Text) :
    (session.refreshState.mergeScan session.nextGeneration
        (⟨".", .infinity, reason⟩, session.prepareScan platform result)).nextEntries.get? p =
      session.fullScanEntry platform result.localEntries p := by
  rw [get?_mergeScan, prepareScan_localEntries]
  set reported := session.reportedEntries platform result.localEntries with hreported
  -- a reported entry is no artifact of the scan itself, so only the old artifacts hide it
  have hfilter : reported.filter (notConflictArtifact
      (session.refreshState.artifactPaths ++ conflictArtifactPaths reported)) =
      reported.filter (notConflictArtifact
        (conflictArtifactPaths session.localEntries.values)) := by
    refine List.filter_congr ?_
    intro e he
    have hself : notConflictArtifact (conflictArtifactPaths reported) e = true :=
      notConflictArtifact_of_mem_pruned he
    rw [notConflictArtifact_append, hself, Bool.and_true]
    rfl
  unfold RepositorySession.fullScanEntry
  rw [hfilter]
  cases lastWithKey StatusEntry.path (reported.filter (notConflictArtifact
      (conflictArtifactPaths session.localEntries.values))) p with
  | some e =>
    show (if isProjectableStatus e then some e else none) = _
    rw [Option.filter_some]
  | none =>
    -- the target covers every old entry, so an unreported one is swept
    show Option.filter _ (session.localEntries.get? p) = none
    rw [Option.filter_eq_none_iff]
    intro e _
    rw [coverageMatches_dot_infinity, Bool.not_true, Bool.and_false]
    exact Bool.false_ne_true

/-- **The session after a full refresh**, path by path. -/
theorem full_refresh_get? {platform : Platform} {bridge : StatusBridge} {now reason : Text}
    {session session' : RepositorySession} {delta : StatusDelta} {result : StatusSnapshot}
    (hscan : bridge.statusScan 0 session.identity "." .infinity session.nextGeneration =
      .ok result)
    (hrefresh : session.refresh platform bridge now [⟨".", .infinity, reason⟩] =
      .ok (delta, session')) (p : Text) :
    session'.localEntries.get? p = session.fullScanEntry platform result.localEntries p := by
  obtain ⟨scans, hscans, rfl, -⟩ := refresh_eq_ok hrefresh
  have htargets : ([⟨".", .infinity, reason⟩] : List StatusRefreshTarget).filter (fun target =>
      !pathInsideBoundaryRoots platform target.path session.boundaryRoots) =
      [⟨".", .infinity, reason⟩] := by
    rw [List.filter_cons_of_pos (by rw [pathInsideBoundaryRoots_dot]; rfl), List.filter_nil]
  have honly : scans = [(⟨".", .infinity, reason⟩, session.prepareScan platform result)] := by
    rw [htargets] at hscans
    unfold RepositorySession.scanTargets RepositorySession.scanTargets at hscans
    rw [hscan] at hscans
    cases hscans
    rfl
  subst honly
  exact get?_mergeScan_full platform session reason result p

/-- **A full refresh against a snapshot.**  On one bridge result with distinct paths the refresh
leaves the entries of the snapshot, less the unversioned ones at a path that the session's previous
entries list as a conflict artifact. -/
theorem full_refresh_eq_snapshot (platform : Platform) (session s₁ s₂ : RepositorySession)
    (bridge₁ bridge₂ : StatusBridge) (now₁ now₂ reason : Text) (delta : StatusDelta)
    (snapshot scanned full : StatusSnapshot)
    (hscan : bridge₁.statusScan 0 session.identity "." .infinity session.nextGeneration =
      .ok scanned)
    (hfull : bridge₂.statusSnapshot session.identity session.nextGeneration = .ok full)
    (hsame : scanned.localEntries = full.localEntries)
    (hdistinct : (full.localEntries.map StatusEntry.path).Nodup)
    (hrefresh : session.refresh platform bridge₁ now₁ [⟨".", .infinity, reason⟩] =
      .ok (delta, s₁))
    (hsnapshot : session.getSnapshot platform bridge₂ now₂ = (.ok snapshot, s₂)) :
    s₁.localEntries = s₂.localEntries.filter
      (notConflictArtifact (conflictArtifactPaths session.localEntries.values)) := by
  obtain ⟨result, hresult, hentries, hlocal, -⟩ := getSnapshot_eq_ok hsnapshot
  obtain rfl : full = result := by
    rw [hfull] at hresult
    exact Except.ok.inj hresult
  have hnodup : ((session.reportedEntries platform full.localEntries).map
      StatusEntry.path).Nodup := nodup_reportedEntries hdistinct
  set reported := session.reportedEntries platform full.localEntries with hreported
  -- with distinct paths, filters commute with taking the last entry
  have hunique : ∀ p, ∀ e ∈ reported, ∀ e' ∈ reported, e.path = p → e'.path = p → e' = e := by
    intro p e he e' he' hp hp'
    exact eq_of_key_eq hnodup he he' (hp'.trans hp.symm)
  ext1 p
  rw [full_refresh_get? hscan hrefresh, get?_filter, hlocal, hentries, replaceSessionLocalEntries,
    get?_ofList, lastWithKey_filter (hunique p)]
  unfold RepositorySession.fullScanEntry
  rw [hsame, ← hreported, lastWithKey_filter (hunique p), Option.filter_filter,
    Option.filter_filter]
  exact congrArg (fun q => Option.filter q _) (funext fun e => Bool.and_comm _ _)

namespace FullScanExample

/-- `f` was conflicted when the session last saw it; `f.mine` is its artifact. -/
def session : RepositorySession :=
  { RepositorySession.opened "uuid:/wc" 1 .sample .none with
    nextGeneration := 2
    localEntries := ofList
      [{ StatusEntry.file "f" "conflicted" with
          conflict := some "conflicted", conflictArtifacts := ["f.mine"] }] }

/-- The conflict is resolved, the artifact file is still there. -/
def resolved : StatusBridge := .answering [.file "f.mine" "unversioned", .file "g" "modified"] []

/-- The snapshot shows the left-over artifact file, the full refresh does not. -/
theorem full_refresh_hides_previous_artifact :
    ((session.refresh .posix resolved "t" [⟨".", .infinity, "manual"⟩]).toOption.map fun reply =>
        reply.2.localEntries.keys) = some [("g" : Text)] ∧
      (session.getSnapshot .posix resolved "t").1.toOption.isSome = true ∧
      (session.getSnapshot .posix resolved "t").2.localEntries.keys = ["f.mine", "g"] := by
  decide +kernel

def refreshed : StatusDelta × RepositorySession :=
  (session.refresh .posix resolved "t" [⟨".", .infinity, "manual"⟩]).toOption.getD default

def snapshot : StatusSnapshot := (session.getSnapshot .posix resolved "t").1.toOption.getD default

theorem full_refresh_eq_snapshot_resolved :
    refreshed.2.localEntries =
      (session.getSnapshot .posix resolved "t").2.localEntries.filter
        (notConflictArtifact (conflictArtifactPaths session.localEntries.values)) :=
  full_refresh_eq_snapshot .posix session _ _ resolved resolved "t" "t" "manual" refreshed.1
    snapshot _ _ rfl rfl rfl (by decide +kernel) (by decide +kernel) (by decide +kernel)

end FullScanExample

/-! ## Handing a snapshot over -/

/-- A list of distinct paths and its projectable part make the same map exactly when the whole
list is projectable. -/
theorem ofList_eq_replaceSessionLocalEntries_iff {entries : List StatusEntry}
    (hnodup : (entries.map StatusEntry.path).Nodup) :
    (ofList entries : EntryMap) = replaceSessionLocalEntries entries ↔
      ∀ e ∈ entries, isProjectableStatus e = true := by
  constructor
  · intro heq e he
    have hget : (ofList entries : EntryMap).get? e.path = some e :=
      (get?_ofList_eq_some hnodup).mpr ⟨he, rfl⟩
    rw [heq, replaceSessionLocalEntries, get?_ofList] at hget
    exact (List.mem_filter.mp (lastWithKey_mem hget).1).2
  · intro hall
    unfold replaceSessionLocalEntries
    rw [List.filter_eq_self.mpr hall]

/-- **The hand-over of a snapshot.**  The extension's entries equal the session's exactly when
every entry of the bridge result outside the boundary roots, conflict artifacts apart, is
projectable. -/
theorem snapshot_handover_iff (platform : Platform) (session session' : RepositorySession)
    (bridge : StatusBridge) (now : Text) (result snapshot : StatusSnapshot)
    (store store' : StatusSnapshotStore) (state' : RepositoryState)
    (hresult : bridge.statusSnapshot session.identity session.nextGeneration = .ok result)
    (hdistinct : (result.localEntries.map StatusEntry.path).Nodup)
    (hsnapshot : session.getSnapshot platform bridge now = (.ok snapshot, session'))
    (happly : store.applySnapshot snapshot = .ok store' ∨
      store.replaceSnapshot snapshot = .ok store')
    (hstate : store'.repositories.get? snapshot.repositoryId = some state') :
    state'.localEntries = session'.localEntries ↔
      ∀ e ∈ outsideBoundaries platform session.boundaryRoots result.localEntries,
        notConflictArtifact (conflictArtifactPaths
          (outsideBoundaries platform session.boundaryRoots result.localEntries)) e = true →
        isProjectableStatus e = true := by
  obtain ⟨result', hresult', hentries, hlocal, -⟩ := getSnapshot_eq_ok hsnapshot
  obtain rfl : result = result' := by
    rw [hresult] at hresult'
    exact Except.ok.inj hresult'
  obtain ⟨_, -, hget⟩ := StatusSnapshotStore.get?_of_applySnapshot happly
  have hclient : state'.localEntries = ofList snapshot.localEntries := by
    rw [hstate] at hget
    rw [Option.some.inj hget]
    rfl
  -- the client keeps every reported entry, the daemon the projectable ones
  rw [hclient, hlocal, hentries,
    ofList_eq_replaceSessionLocalEntries_iff (nodup_reportedEntries hdistinct)]
  constructor
  · intro hall e he hnot
    have hmem : e.stamp session.nextGeneration ∈
        session.reportedEntries platform result.localEntries :=
      mem_reportedEntries_iff.mpr ⟨e, he, hnot, rfl⟩
    simpa using hall _ hmem
  · intro hall e he
    obtain ⟨e₀, he₀, hnot, rfl⟩ := mem_reportedEntries_iff.mp he
    exact hall e₀ he₀ hnot

namespace HandoverExample

/-- A clean file external, which libsvn reports with all statuses normal. -/
def fileExternal : SvnClientStatus where
  path := "vendor/lib.c"
  kind := "file"
  nodeStatus := .normal
  textStatus := .normal
  propStatus := .none
  reposNodeStatus := .none
  reposTextStatus := .none
  reposPropStatus := .none
  revision := 7
  changedRev := 5
  changedAuthor := some "author"
  changedDate := some "2024-01-01T00:00:00.000000Z"
  changelist := none
  conflicted := false
  switched := false
  lock := none
  reposLock := none
  needsLock := false
  depth := .unknown
  copied := false
  copyFromPath := none
  copyFromRevision := -1
  movedFrom := none
  fileExternal := true
  conflictArtifacts := []

def session : RepositorySession := .opened "uuid:/wc" 1 .sample .none

def bridge (statuses : List SvnClientStatus) : StatusBridge :=
  .answering (bridgeStatusEntries 1 statuses) []

def snapshot (statuses : List SvnClientStatus) : StatusSnapshot :=
  (session.getSnapshot .posix (bridge statuses) "t").1.toOption.getD default

/-- The store once the session's repository is registered. -/
def registered : StatusSnapshotStore :=
  ⟨empty.insert ⟨"uuid:/wc", 1, empty, empty, none⟩⟩

/-- The paths a store shows for the session's repository. -/
def shownPaths (store : StatusSnapshotStore) : Option (List Text) :=
  (store.repositories.get? "uuid:/wc").map fun state => state.localEntries.keys

/-- The bridge emits the clean file external, the extension stores it and the session does not. -/
theorem snapshot_handover_file_external :
    bridgeStatusShouldEmit fileExternal = true ∧
      (registered.applySnapshot (snapshot [fileExternal])).toOption.bind shownPaths =
        some [("vendor/lib.c" : Text)] ∧
      (registered.replaceSnapshot (snapshot [fileExternal])).toOption.bind shownPaths =
        some [("vendor/lib.c" : Text)] ∧
      (session.getSnapshot .posix (bridge [fileExternal]) "t").2.localEntries.keys = [] := by
  decide +kernel

def modified : SvnClientStatus := { fileExternal with textStatus := .modified }

def modifiedState : RepositoryState :=
  RepositoryState.applySnapshotToState ⟨"uuid:/wc", 1, empty, empty, none⟩
    (snapshot [modified])

/-- A modified file is handed over. -/
theorem snapshot_handover_modified :
    modifiedState.localEntries =
      (session.getSnapshot .posix (bridge [modified]) "t").2.localEntries :=
  (snapshot_handover_iff .posix session _ (bridge [modified]) "t" _ (snapshot [modified]) registered
    ⟨registered.repositories.insert modifiedState⟩ modifiedState rfl (by decide +kernel)
    (by decide +kernel) (.inl (by decide +kernel)) (by decide +kernel)).mpr (by decide +kernel)

end HandoverExample

end SubversionR

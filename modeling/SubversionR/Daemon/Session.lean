import SubversionR.Daemon.Paths
import SubversionR.Daemon.Status

/-!
# Daemon session — the status requests of one open repository

`RepositorySession` with the part of `dispatch_status_get_snapshot`, `dispatch_status_refresh` and
`dispatch_status_check_remote` that follows the lookup of the session.  The native bridge is a
parameter: `StatusBridge` says what its status calls answer during one request.

* `get?_mergeScan` — what merging one scan into the entries does to one path;
* `refresh_deltaBetween`, `checkRemote_deltaBetween` — both requests publish the difference
  between the session before and after them (`DeltaBetween`).
-/

namespace SubversionR

open KeyedMaps KeyedMap

structure BridgeFailure where
  code : Text
  category : Text
  messageKey : Text
  retryable : Bool
deriving DecidableEq

/-- What the native bridge answers during one request.  A refresh calls `statusScan` once for each
target, so the calls are numbered: two scans of one target may differ. -/
structure StatusBridge where
  statusSnapshot : RepositoryIdentity → (generation : Nat) → Except BridgeFailure StatusSnapshot
  statusScan : (call : Nat) → RepositoryIdentity → (path : Text) → StatusRefreshDepth →
    (generation : Nat) → Except BridgeFailure StatusSnapshot
  statusRemoteCheck : RepositoryIdentity → (generation : Nat) → Except BridgeFailure StatusSnapshot

/-- A bridge that answers every call with the same entries. -/
def StatusBridge.answering (localEntries remoteEntries : List StatusEntry) : StatusBridge :=
  let snapshot : StatusSnapshot :=
    { repositoryId := [], epoch := 0, generation := 0, completeness := "complete",
      identity := .sample, localEntries, remoteEntries, summary := ⟨0, 0, 0, 0⟩, timestamp := [],
      source := "libsvn-local" }
  { statusSnapshot := fun _ _ => .ok snapshot
    statusScan := fun _ _ _ _ _ => .ok snapshot
    statusRemoteCheck := fun _ _ => .ok snapshot }

structure RepositorySession where
  repositoryId : Text
  epoch : Nat
  identity : RepositoryIdentity
  boundaryRoots : BoundaryRoots
  nextGeneration : Nat
  localEntries : EntryMap
  remoteEntries : EntryMap
deriving DecidableEq, Inhabited

/-- The session `dispatch_repository_open` creates. -/
def RepositorySession.opened (repositoryId : Text) (epoch : Nat) (identity : RepositoryIdentity)
    (boundaryRoots : BoundaryRoots) : RepositorySession where
  repositoryId := repositoryId
  epoch := epoch
  identity := identity
  boundaryRoots := boundaryRoots
  nextGeneration := 1
  localEntries := empty
  remoteEntries := empty

/-- The counts of the entries a session holds. -/
def RepositorySession.summary (session : RepositorySession) : StatusSummary :=
  summarizeSnapshotEntries session.localEntries.values session.remoteEntries.values

/-! ## Bridge results -/

/-- Drop what lies inside a boundary root. -/
def outsideBoundaries (platform : Platform) (boundaryRoots : BoundaryRoots)
    (entries : List StatusEntry) : List StatusEntry :=
  entries.filter fun entry => !pathInsideBoundaryRoots platform entry.path boundaryRoots

def filterSnapshotBoundaries (platform : Platform) (boundaryRoots : BoundaryRoots)
    (snapshot : StatusSnapshot) : StatusSnapshot :=
  if boundaryRoots.roots.isEmpty then snapshot
  else
    let localEntries := outsideBoundaries platform boundaryRoots snapshot.localEntries
    let remoteEntries := outsideBoundaries platform boundaryRoots snapshot.remoteEntries
    { snapshot with
      localEntries := localEntries
      remoteEntries := remoteEntries
      summary := summarizeSnapshotEntries localEntries remoteEntries }

def stampEntries (generation : Nat) (entries : List StatusEntry) : List StatusEntry :=
  entries.map (StatusEntry.stamp generation)

def replaceSessionLocalEntries (entries : List StatusEntry) : EntryMap :=
  ofList (entries.filter isProjectableStatus)

def replaceSessionRemoteEntries (entries : List StatusEntry) : EntryMap :=
  ofList (entries.filter isProjectableRemoteStatus)

variable {platform : Platform}

theorem outsideBoundaries_of_isEmpty {roots : BoundaryRoots} (h : roots.roots.isEmpty = true)
    (entries : List StatusEntry) :
    outsideBoundaries platform roots entries = entries := by
  have hnil : roots.roots = [] := List.isEmpty_iff.mp h
  refine List.filter_eq_self.mpr ?_
  simp [pathInsideBoundaryRoots, hnil]

/-- The early return of the filter without boundary roots changes nothing. -/
@[simp]
theorem filterSnapshotBoundaries_localEntries (platform : Platform) (roots : BoundaryRoots)
    (snapshot : StatusSnapshot) :
    (filterSnapshotBoundaries platform roots snapshot).localEntries =
      outsideBoundaries platform roots snapshot.localEntries := by
  unfold filterSnapshotBoundaries
  split
  · rename_i hempty
    exact (outsideBoundaries_of_isEmpty hempty _).symm
  · rfl

@[simp]
theorem filterSnapshotBoundaries_remoteEntries (platform : Platform) (roots : BoundaryRoots)
    (snapshot : StatusSnapshot) :
    (filterSnapshotBoundaries platform roots snapshot).remoteEntries =
      outsideBoundaries platform roots snapshot.remoteEntries := by
  unfold filterSnapshotBoundaries
  split
  · rename_i hempty
    exact (outsideBoundaries_of_isEmpty hempty _).symm
  · rfl

/-! ## status/getSnapshot

The generation advances before the bridge is called, also when the bridge fails. -/

def RepositorySession.getSnapshot (platform : Platform) (bridge : StatusBridge) (now : Text)
    (session : RepositorySession) : Except BridgeFailure StatusSnapshot × RepositorySession :=
  let generation := session.nextGeneration
  let session := { session with nextGeneration := generation + 1 }
  match bridge.statusSnapshot session.identity generation with
  | .error failure => (.error failure, session)
  | .ok snapshot =>
    let snapshot :=
      { snapshot with
        repositoryId := session.repositoryId
        epoch := session.epoch
        generation := generation
        identity := session.identity
        timestamp := now
        localEntries := stampEntries generation snapshot.localEntries
        remoteEntries := stampEntries generation snapshot.remoteEntries }
    let snapshot := filterSnapshotBoundaries platform session.boundaryRoots snapshot
    let snapshot :=
      { snapshot with localEntries := removeConflictArtifactEntries snapshot.localEntries }
    let session :=
      { session with localEntries := replaceSessionLocalEntries snapshot.localEntries }
    -- a local snapshot carries no remote entries: the ones of the last check are handed on
    let snapshot :=
      if snapshot.remoteEntries.isEmpty then
        { snapshot with remoteEntries := stampEntries generation session.remoteEntries.values }
      else snapshot
    let session :=
      { session with remoteEntries := replaceSessionRemoteEntries snapshot.remoteEntries }
    let snapshot :=
      { snapshot with
        summary := summarizeSnapshotEntries snapshot.localEntries snapshot.remoteEntries }
    (.ok snapshot, session)

/-! ## status/refresh -/

/-- What a refresh makes of one bridge scan before it is merged. -/
def RepositorySession.prepareScan (platform : Platform) (session : RepositorySession)
    (snapshot : StatusSnapshot) : StatusSnapshot :=
  let generation := session.nextGeneration
  let snapshot :=
    { snapshot with
      repositoryId := session.repositoryId
      epoch := session.epoch
      generation := generation
      localEntries := stampEntries generation snapshot.localEntries
      remoteEntries := stampEntries generation snapshot.remoteEntries }
  let snapshot := filterSnapshotBoundaries platform session.boundaryRoots snapshot
  { snapshot with localEntries := removeConflictArtifactEntries snapshot.localEntries }

/-- The first loop: scan the targets in order, giving up at the first failure. -/
def RepositorySession.scanTargets (platform : Platform) (bridge : StatusBridge)
    (session : RepositorySession) :
    Nat → List StatusRefreshTarget →
      Except BridgeFailure (List (StatusRefreshTarget × StatusSnapshot))
  | _, [] => .ok []
  | call, target :: rest =>
    match bridge.statusScan call session.identity target.path target.depth
        session.nextGeneration with
    | .error failure => .error failure
    | .ok snapshot =>
      match session.scanTargets platform bridge (call + 1) rest with
      | .error failure => .error failure
      | .ok scans => .ok ((target, session.prepareScan platform snapshot) :: scans)

/-- The variables the second loop of a refresh updates. -/
structure RefreshState where
  nextEntries : EntryMap
  artifactPaths : List Text
  coverage : List StatusCoverageScope

/-- Insert a projectable entry, forget one that has stopped being so. -/
def mergeEntry (entries : EntryMap) (entry : StatusEntry) : EntryMap :=
  if isProjectableStatus entry then entries.insert entry else entries.erase entry.path

/-- One turn of the second loop: merge the scan of one target. -/
def RefreshState.mergeScan (generation : Nat) (state : RefreshState)
    (scan : StatusRefreshTarget × StatusSnapshot) : RefreshState :=
  let target := scan.1
  let artifactPaths := state.artifactPaths ++ conflictArtifactPaths scan.2.localEntries
  let retained := state.nextEntries.filter (notConflictArtifact artifactPaths)
  let incomingEntries := scan.2.localEntries.filter (notConflictArtifact artifactPaths)
  let seenPaths := incomingEntries.map StatusEntry.path
  let merged := incomingEntries.foldl mergeEntry retained
  -- a covered entry the scan did not report is gone
  let swept := merged.filter fun entry =>
    !coverageMatches target.path target.depth entry || decide (entry.path ∈ seenPaths)
  { nextEntries := swept
    artifactPaths := artifactPaths
    coverage := state.coverage ++
      [{ path := target.path, depth := target.depth.word, generation := generation,
         reason := target.reason }] }

/-- The state before the second loop. -/
def RepositorySession.refreshState (session : RepositorySession) : RefreshState where
  nextEntries := session.localEntries
  artifactPaths := conflictArtifactPaths session.localEntries.values
  coverage := []

def RepositorySession.refresh (platform : Platform) (bridge : StatusBridge) (now : Text)
    (targets : List StatusRefreshTarget) (session : RepositorySession) :
    Except BridgeFailure (StatusDelta × RepositorySession) :=
  let targets := targets.filter fun target =>
    !pathInsideBoundaryRoots platform target.path session.boundaryRoots
  let generation := session.nextGeneration
  match session.scanTargets platform bridge 0 targets with
  | .error failure => .error failure
  | .ok scans =>
    let final := scans.foldl (RefreshState.mergeScan generation) session.refreshState
    let session' :=
      { session with localEntries := final.nextEntries, nextGeneration := generation + 1 }
    let delta :=
      { repositoryId := session.repositoryId
        epoch := session.epoch
        generation := generation
        coverage := final.coverage
        upsert := changed session.localEntries final.nextEntries
        remove := removed session.localEntries final.nextEntries
        remoteUpsert := changed session.remoteEntries session.remoteEntries
        remoteRemove := removed session.remoteEntries session.remoteEntries
        summaryDelta := summaryDelta session.summary session'.summary
        completeness :=
          if isCompleteDeltaCoverage final.coverage then "complete" else "partial"
        timestamp := now
        source := "libsvn-local" }
    .ok (delta, session')

/-! ## status/checkRemote -/

def RepositorySession.checkRemote (platform : Platform) (bridge : StatusBridge) (now : Text)
    (session : RepositorySession) : Except BridgeFailure (StatusDelta × RepositorySession) :=
  let generation := session.nextGeneration
  match bridge.statusRemoteCheck session.identity generation with
  | .error failure => .error failure
  | .ok snapshot =>
    let snapshot :=
      { snapshot with
        repositoryId := session.repositoryId
        epoch := session.epoch
        generation := generation
        identity := session.identity
        timestamp := now
        remoteEntries := stampEntries generation snapshot.remoteEntries }
    let snapshot := filterSnapshotBoundaries platform session.boundaryRoots snapshot
    let nextRemoteEntries := replaceSessionRemoteEntries snapshot.remoteEntries
    let session' :=
      { session with remoteEntries := nextRemoteEntries, nextGeneration := generation + 1 }
    let delta :=
      { repositoryId := session.repositoryId
        epoch := session.epoch
        generation := generation
        coverage := [{ path := ".", depth := "workingCopy", generation := generation,
                       reason := "manualRemoteCheck" }]
        upsert := []
        remove := []
        remoteUpsert := changed session.remoteEntries nextRemoteEntries
        remoteRemove := removed session.remoteEntries nextRemoteEntries
        summaryDelta := summaryDelta session.summary session'.summary
        completeness := "complete"
        timestamp := now
        source := "libsvn-remote" }
    .ok (delta, session')

/-! ## Settling a remote recovery

The successful end of `settle_remote_recovery`, once the lane is found to wait for this recovery:
the session's entries are replaced, its generation advances, and the extension is only told that its
copy is stale. -/

/-- The part of the launch plan the settlement of a session reads. -/
structure RemoteRecoveryLaunchPlan where
  repositoryId : Text
  epoch : Nat
  boundaryRoots : BoundaryRoots
  generation : Nat
deriving DecidableEq

def RepositorySession.settleRemoteRecovery (platform : Platform)
    (launch : RemoteRecoveryLaunchPlan) (snapshot : StatusSnapshot) (session : RepositorySession) :
    Option RepositorySession :=
  -- the session was lost, or reopened, while the recovery ran
  if session.repositoryId ≠ launch.repositoryId ∨ session.epoch ≠ launch.epoch then none
  else
    let snapshot :=
      { snapshot with
        repositoryId := launch.repositoryId
        epoch := launch.epoch
        generation := launch.generation
        localEntries := stampEntries launch.generation snapshot.localEntries }
    let snapshot := filterSnapshotBoundaries platform launch.boundaryRoots snapshot
    let localEntries := removeConflictArtifactEntries snapshot.localEntries
    some
      { session with
        localEntries := replaceSessionLocalEntries localEntries
        nextGeneration := session.nextGeneration + 1 }

/-! ## What a session makes of a bridge result

Both the snapshot and the scan stamp the entries, drop those of nested working copies and hide the
conflict artifacts. -/

/-- The entries of a bridge result as the session sees them. -/
def RepositorySession.reportedEntries (platform : Platform) (session : RepositorySession)
    (entries : List StatusEntry) : List StatusEntry :=
  removeConflictArtifactEntries
    (outsideBoundaries platform session.boundaryRoots
      (stampEntries session.nextGeneration entries))

theorem prepareScan_localEntries (platform : Platform) (session : RepositorySession)
    (snapshot : StatusSnapshot) :
    (session.prepareScan platform snapshot).localEntries =
      session.reportedEntries platform snapshot.localEntries := by
  unfold RepositorySession.prepareScan RepositorySession.reportedEntries
  dsimp only
  rw [filterSnapshotBoundaries_localEntries]

variable {entries : List StatusEntry} {e : StatusEntry}

theorem mem_outsideBoundaries_iff {roots : BoundaryRoots} :
    e ∈ outsideBoundaries platform roots entries ↔
      e ∈ entries ∧ pathInsideBoundaryRoots platform e.path roots = false := by
  simp [outsideBoundaries]

/-- Stamping commutes with dropping what lies inside the boundary roots. -/
theorem outsideBoundaries_stampEntries (platform : Platform) (roots : BoundaryRoots) (g : Nat)
    (entries : List StatusEntry) :
    outsideBoundaries platform roots (stampEntries g entries) =
      stampEntries g (outsideBoundaries platform roots entries) := by
  unfold outsideBoundaries stampEntries
  rw [List.filter_map]
  rfl

variable {session : RepositorySession}

/-- An entry is reported when it lies outside the boundary roots and is not an unversioned entry
at a path that an entry outside them lists as its conflict artifact. -/
theorem mem_reportedEntries_iff :
    e ∈ session.reportedEntries platform entries ↔
      ∃ e₀ ∈ outsideBoundaries platform session.boundaryRoots entries,
        notConflictArtifact (conflictArtifactPaths
          (outsideBoundaries platform session.boundaryRoots entries)) e₀ = true ∧
        e = e₀.stamp session.nextGeneration := by
  unfold RepositorySession.reportedEntries
  rw [mem_removeConflictArtifactEntries_iff, outsideBoundaries_stampEntries]
  unfold stampEntries
  rw [conflictArtifactPaths_map_stamp, List.mem_map]
  constructor
  · intro ⟨⟨e₀, hmem, hstamp⟩, hnot⟩
    subst hstamp
    exact ⟨e₀, hmem, hnot, rfl⟩
  · intro ⟨e₀, hmem, hnot, hstamp⟩
    subst hstamp
    exact ⟨⟨e₀, hmem, rfl⟩, hnot⟩

theorem nodup_reportedEntries (h : (entries.map StatusEntry.path).Nodup) :
    ((session.reportedEntries platform entries).map StatusEntry.path).Nodup := by
  have hstamp : ((stampEntries session.nextGeneration entries).map StatusEntry.path).Nodup := by
    unfold stampEntries
    rw [List.map_map]
    exact h
  exact hstamp.sublist (List.Sublist.map _ (List.filter_sublist.trans List.filter_sublist))

/-- Every reported entry carries the generation of the request. -/
theorem generation_of_mem_reportedEntries (h : e ∈ session.reportedEntries platform entries) :
    e.generation = session.nextGeneration := by
  obtain ⟨_, -, -, rfl⟩ := mem_reportedEntries_iff.mp h
  rfl

/-- A snapshot request takes the next generation, whether or not it is answered. -/
theorem getSnapshot_session (platform : Platform) (bridge : StatusBridge) (now : Text)
    (session : RepositorySession) :
    (session.getSnapshot platform bridge now).2.repositoryId = session.repositoryId ∧
      (session.getSnapshot platform bridge now).2.epoch = session.epoch ∧
      (session.getSnapshot platform bridge now).2.nextGeneration = session.nextGeneration + 1 := by
  unfold RepositorySession.getSnapshot
  dsimp only
  split
  · exact ⟨rfl, rfl, rfl⟩
  · exact ⟨rfl, rfl, rfl⟩

variable {bridge : StatusBridge} {now : Text}

/-- The answer is labelled with the session it is about and the generation it took. -/
theorem getSnapshot_labels {snapshot : StatusSnapshot}
    (h : (session.getSnapshot platform bridge now).1 = .ok snapshot) :
    snapshot.repositoryId = session.repositoryId ∧ snapshot.epoch = session.epoch ∧
      snapshot.generation = session.nextGeneration := by
  unfold RepositorySession.getSnapshot at h
  dsimp only at h
  split at h
  · cases h
  have hsnapshot := Except.ok.inj h
  -- neither the boundary filter nor the remote entries touch the labels
  rw [← hsnapshot]
  unfold filterSnapshotBoundaries
  split <;> split <;> exact ⟨rfl, rfl, rfl⟩

variable {session' : RepositorySession}

/-- The session after a successful snapshot, and the entries of the answer: the session keeps only
the projectable ones. -/
theorem getSnapshot_eq_ok {snapshot : StatusSnapshot}
    (h : session.getSnapshot platform bridge now = (.ok snapshot, session')) :
    ∃ result, bridge.statusSnapshot session.identity session.nextGeneration = .ok result ∧
      snapshot.localEntries = session.reportedEntries platform result.localEntries ∧
      session'.localEntries = replaceSessionLocalEntries snapshot.localEntries ∧
      session'.nextGeneration = session.nextGeneration + 1 := by
  unfold RepositorySession.getSnapshot at h
  dsimp only at h
  split at h
  · cases h
  rename_i result hresult
  have hsnapshot := congrArg Prod.fst h
  have hsession := congrArg Prod.snd h
  dsimp only at hsnapshot hsession
  rw [Except.ok.injEq] at hsnapshot
  have hentries : snapshot.localEntries =
      session.reportedEntries platform result.localEntries := by
    rw [← hsnapshot]
    unfold RepositorySession.reportedEntries
    split <;> dsimp only <;> rw [filterSnapshotBoundaries_localEntries]
  refine ⟨result, hresult, hentries, ?_, ?_⟩
  · rw [hentries, ← hsession]
    unfold RepositorySession.reportedEntries
    rw [filterSnapshotBoundaries_localEntries]
  · rw [← hsession]

/-! ## Merging one scan, path by path -/

/-- After the loop over the incoming entries, the last one with a path decides. -/
theorem get?_foldl_mergeEntry (entries : EntryMap) (incoming : List StatusEntry) (p : Text) :
    (incoming.foldl mergeEntry entries).get? p =
      match lastWithKey StatusEntry.path incoming p with
      | some e => if isProjectableStatus e then some e else none
      | none => entries.get? p := by
  induction incoming generalizing entries with
  | nil => rfl
  | cons e rest ih =>
    rw [List.foldl_cons, ih, lastWithKey_cons]
    cases hlast : lastWithKey StatusEntry.path rest p with
    | some e' => rfl
    | none =>
      unfold mergeEntry
      by_cases hp : e.path = p
      · by_cases hproj : isProjectableStatus e = true <;>
          simp [hp, hproj, get?_insert, get?_erase]
      · by_cases hproj : isProjectableStatus e = true <;>
          simp [hp, hproj, get?_insert, get?_erase]

/-- **What merging one scan does to one path**: an entry the scan reports replaces the old one, or
removes it when it is not projectable; otherwise the old entry stays unless it has turned out to
be a conflict artifact or the target covers it. -/
theorem get?_mergeScan (generation : Nat) (state : RefreshState)
    (target : StatusRefreshTarget) (snapshot : StatusSnapshot) (p : Text) :
    (state.mergeScan generation (target, snapshot)).nextEntries.get? p =
      match lastWithKey StatusEntry.path
          (snapshot.localEntries.filter (notConflictArtifact
            (state.artifactPaths ++ conflictArtifactPaths snapshot.localEntries))) p with
      | some e => if isProjectableStatus e then some e else none
      | none => (state.nextEntries.get? p).filter fun e =>
          notConflictArtifact
              (state.artifactPaths ++ conflictArtifactPaths snapshot.localEntries) e
            && !coverageMatches target.path target.depth e := by
  unfold RefreshState.mergeScan
  rw [get?_filter, get?_foldl_mergeEntry]
  set incoming := snapshot.localEntries.filter (notConflictArtifact
    (state.artifactPaths ++ conflictArtifactPaths snapshot.localEntries)) with hincoming
  cases hlast : lastWithKey StatusEntry.path incoming p with
  | some e =>
    -- a reported path is among the seen ones, so the sweep keeps it
    obtain ⟨hmem, hpath⟩ := lastWithKey_mem hlast
    have hseen : e.path ∈ incoming.map StatusEntry.path := List.mem_map_of_mem hmem
    dsimp only
    split
    · simp only [Option.filter_some, hseen, decide_true, Bool.or_true, if_true]
    · rfl
  | none =>
    rw [lastWithKey_eq_none_iff] at hlast
    rw [get?_filter, Option.filter_filter]
    cases hold : state.nextEntries.get? p with
    | none => rfl
    | some e =>
      have hpath : e.path = p := key_of_get? hold
      have hunseen : e.path ∉ incoming.map StatusEntry.path := by
        rw [hpath, List.mem_map]
        intro ⟨e', he', hp'⟩
        exact hlast e' he' hp'
      simp only [Option.filter_some, hunseen, decide_false, Bool.or_false, Bool.and_comm]

variable {delta : StatusDelta}

/-- A successful refresh scanned every target and folded the scans into the session. -/
theorem refresh_eq_ok {targets : List StatusRefreshTarget}
    (h : session.refresh platform bridge now targets = .ok (delta, session')) :
    ∃ scans, session.scanTargets platform bridge 0 (targets.filter fun target =>
        !pathInsideBoundaryRoots platform target.path session.boundaryRoots) = .ok scans ∧
      session' =
        { session with
          localEntries := (scans.foldl (RefreshState.mergeScan session.nextGeneration)
            session.refreshState).nextEntries
          nextGeneration := session.nextGeneration + 1 } ∧
      delta.coverage = (scans.foldl (RefreshState.mergeScan session.nextGeneration)
        session.refreshState).coverage := by
  unfold RepositorySession.refresh at h
  dsimp only at h
  split at h
  · cases h
  rename_i scans hscans
  cases h
  exact ⟨scans, hscans, rfl, rfl⟩

/-! ## What the requests publish -/

/-- The delta a request publishes when it takes the session from `before` to `after`. -/
structure DeltaBetween (before after : RepositorySession) (delta : StatusDelta) : Prop where
  repositoryId : delta.repositoryId = before.repositoryId
  repositoryId_after : after.repositoryId = before.repositoryId
  epoch : delta.epoch = before.epoch
  epoch_after : after.epoch = before.epoch
  generation : delta.generation = before.nextGeneration
  nextGeneration : after.nextGeneration = before.nextGeneration + 1
  upsert : delta.upsert = changed before.localEntries after.localEntries
  remove : delta.remove = removed before.localEntries after.localEntries
  remoteUpsert : delta.remoteUpsert = changed before.remoteEntries after.remoteEntries
  remoteRemove : delta.remoteRemove = removed before.remoteEntries after.remoteEntries
  summaryDelta : delta.summaryDelta = SubversionR.summaryDelta before.summary after.summary

theorem changed_self (m : EntryMap) : changed m m = [] := by
  refine List.eq_nil_iff_forall_not_mem.mpr ?_
  intro _ he
  obtain ⟨hget, hne⟩ := mem_changed_iff.mp he
  exact hne hget

theorem removed_self (m : EntryMap) : removed m m = [] := by
  refine List.eq_nil_iff_forall_not_mem.mpr ?_
  intro _ hk
  obtain ⟨hcontains, hnone⟩ := mem_removed_iff.mp hk
  rw [contains, hnone] at hcontains
  cases hcontains

theorem refresh_deltaBetween {targets : List StatusRefreshTarget}
    (h : session.refresh platform bridge now targets = .ok (delta, session')) :
    DeltaBetween session session' delta := by
  unfold RepositorySession.refresh at h
  dsimp only at h
  split at h
  · cases h
  · cases h
    exact ⟨rfl, rfl, rfl, rfl, rfl, rfl, rfl, rfl, rfl, rfl, rfl⟩

theorem checkRemote_deltaBetween
    (h : session.checkRemote platform bridge now = .ok (delta, session')) :
    DeltaBetween session session' delta := by
  unfold RepositorySession.checkRemote at h
  dsimp only at h
  split at h
  · cases h
  cases h
  -- the local entries do not change, so listing no local difference is exact
  exact ⟨rfl, rfl, rfl, rfl, rfl, rfl, (changed_self _).symm, (removed_self _).symm, rfl, rfl,
    rfl⟩

end SubversionR

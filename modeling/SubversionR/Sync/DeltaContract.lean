import SubversionR.Lib.Run
import SubversionR.Daemon.Session
import SubversionR.Client.DeltaAcceptance

/-!
# Delta contract — the deltas of the daemon against the checks of the extension

A refresh publishes the difference between the session before and after it; `parseStatusDelta`
checks that difference.  When the bridge reports well formed entries, all of the checks succeed but
one: the daemon hides an *unversioned* entry whose path is *literally* a conflict artifact, while
the extension refuses *every* entry whose path *key* is the key of an artifact.

* `SessionSound` — what every session reached by snapshots and refreshes satisfies;
* `MergeSound` — what the loop of a refresh keeps about the entries of its own generation;
* `refresh_delta_accepted` — when no visible entry of the scans lies at the key of another's
  artifact, other than an unversioned one at the artifact itself, the delta is accepted; for a
  refresh of one target the condition is also necessary.
-/

namespace SubversionR

open KeyedMaps KeyedMap Fallible Runs RepositorySession

/-! ## What the bridge promises -/

/-- Entries that are well formed one by one, at distinct paths. -/
structure EntriesWellFormed (platform : Platform) (entries : List StatusEntry) : Prop where
  accepted : ∀ entry ∈ entries, entry.Accepted platform .ofLocal
  nodup : (entries.map StatusEntry.path).Nodup

/-- Every list of local entries the bridge returns is well formed. -/
structure StatusBridge.WellFormed (platform : Platform) (bridge : StatusBridge) : Prop where
  statusSnapshot : ∀ identity generation result,
    bridge.statusSnapshot identity generation = .ok result →
    EntriesWellFormed platform result.localEntries
  statusScan : ∀ call identity path depth generation result,
    bridge.statusScan call identity path depth generation = .ok result →
    EntriesWellFormed platform result.localEntries

section

variable {platform : Platform} {entry : StatusEntry}

theorem StatusEntry.Accepted.stamp {source : EntrySource} (h : entry.Accepted platform source)
    (generation : Nat) :
    (entry.stamp generation).Accepted platform source :=
  ⟨h.path, h.kind, h.nodeStatus, h.textStatus, h.propertyStatus, h.localStatus, h.remoteStatus,
    h.revision, h.changedRevision, h.changedAuthor, h.changedDate, h.changelist, h.lock, h.copy,
    h.move, h.depth, h.conflict, h.conflictArtifacts, h.conflicted⟩

variable {entries : List StatusEntry}

theorem EntriesWellFormed.reported (h : EntriesWellFormed platform entries)
    (session : RepositorySession) (hmem : entry ∈ session.reportedEntries platform entries) :
    entry.Accepted platform .ofLocal := by
  obtain ⟨entry₀, hmem₀, -, rfl⟩ := mem_reportedEntries_iff.mp hmem
  exact (h.accepted entry₀ (mem_outsideBoundaries_iff.mp hmem₀).1).stamp _

/-! ## Sessions that snapshots and refreshes reach -/

/-- A request that changes the local entries, with what the bridge answers while it runs. -/
inductive SessionCall where
  | getSnapshot (bridge : StatusBridge) (now : Text)
  | refresh (targets : List StatusRefreshTarget) (bridge : StatusBridge) (now : Text)

def SessionCall.bridge : SessionCall → StatusBridge
  | .getSnapshot bridge _ => bridge
  | .refresh _ bridge _ => bridge

/-- The session after a request; a refresh that fails leaves it as it was. -/
def RepositorySession.afterCall (platform : Platform) (session : RepositorySession) :
    SessionCall → RepositorySession
  | .getSnapshot bridge now => (session.getSnapshot platform bridge now).2
  | .refresh targets bridge now =>
    match session.refresh platform bridge now targets with
    | .ok (_, session') => session'
    | .error _ => session

/-- Every local entry is older than the next request. -/
def RepositorySession.Older (session : RepositorySession) : Prop :=
  ∀ p entry, session.localEntries.get? p = some entry → entry.generation < session.nextGeneration

/-- Every local entry is well formed and older than the next request. -/
structure SessionSound (platform : Platform) (session : RepositorySession) : Prop where
  accepted : ∀ p entry, session.localEntries.get? p = some entry → entry.Accepted platform .ofLocal
  older : session.Older

theorem sessionSound_opened (platform : Platform) (repositoryId : Text) (epoch : Nat)
    (identity : RepositoryIdentity) (roots : BoundaryRoots) :
    SessionSound platform (.opened repositoryId epoch identity roots) :=
  ⟨fun _ _ h => absurd h (by simp [RepositorySession.opened]),
    fun _ _ h => absurd h (by simp [RepositorySession.opened])⟩

variable {bridge : StatusBridge} {now : Text} {session : RepositorySession}

theorem SessionSound.getSnapshot (h : SessionSound platform session)
    (hbridge : bridge.WellFormed platform) :
    SessionSound platform (session.getSnapshot platform bridge now).2 := by
  rcases hresult : session.getSnapshot platform bridge now with ⟨answer, session'⟩
  cases answer with
  | error failure =>
    -- only the generation has advanced
    unfold RepositorySession.getSnapshot at hresult
    dsimp only at hresult
    split at hresult
    · cases hresult
      exact ⟨h.accepted, fun p e he => Nat.lt_succ_of_lt (h.older p e he)⟩
    · cases hresult
  | ok snapshot =>
    obtain ⟨result, hsnapshot, hentries, hlocal, hnext⟩ := getSnapshot_eq_ok hresult
    have hmem : ∀ p e, session'.localEntries.get? p = some e →
        e ∈ session.reportedEntries platform result.localEntries := by
      intro p e he
      rw [hlocal, hentries] at he
      unfold replaceSessionLocalEntries at he
      rw [get?_ofList] at he
      exact List.mem_of_mem_filter (lastWithKey_mem he).1
    refine ⟨fun p e he => ?_, fun p e he => ?_⟩
    · exact (hbridge.statusSnapshot _ _ _ hsnapshot).reported session (hmem p e he)
    · show e.generation < session'.nextGeneration
      rw [generation_of_mem_reportedEntries (hmem p e he), hnext]
      exact Nat.lt_succ_self _

/-! ## The scans of a refresh -/

/-- The targets of a refresh that lie outside the boundary roots. -/
def RepositorySession.scannedTargets (platform : Platform) (session : RepositorySession)
    (targets : List StatusRefreshTarget) : List StatusRefreshTarget :=
  targets.filter fun target => !pathInsideBoundaryRoots platform target.path session.boundaryRoots

/-- The entries the bridge returns for each of the targets. -/
def RepositorySession.scanResults (bridge : StatusBridge) (session : RepositorySession) :
    Nat → List StatusRefreshTarget → List (List StatusEntry)
  | _, [] => []
  | call, target :: rest =>
    match bridge.statusScan call session.identity target.path target.depth
        session.nextGeneration with
    | .ok snapshot => snapshot.localEntries :: session.scanResults bridge (call + 1) rest
    | .error _ => session.scanResults bridge (call + 1) rest

/-- The entries of a scan that a refresh may show: reported, projectable, and no conflict artifact
of the entries the session holds. -/
def RepositorySession.visibleEntries (platform : Platform) (session : RepositorySession)
    (entries : List StatusEntry) : List StatusEntry :=
  (session.reportedEntries platform entries).filter fun entry =>
    isProjectableStatus entry &&
      notConflictArtifact (conflictArtifactPaths session.localEntries.values) entry

theorem mem_visibleEntries_iff {e : StatusEntry} :
    e ∈ session.visibleEntries platform entries ↔
      e ∈ session.reportedEntries platform entries ∧ isProjectableStatus e = true ∧
        notConflictArtifact (conflictArtifactPaths session.localEntries.values) e = true := by
  unfold RepositorySession.visibleEntries
  rw [List.mem_filter, Bool.and_eq_true]

variable {targets : List StatusRefreshTarget} {call : Nat}

/-- The scans of a refresh that succeeds are the reported results of its targets, in order. -/
theorem scanTargets_eq_ok {scans : List (StatusRefreshTarget × StatusSnapshot)}
    (h : session.scanTargets platform bridge call targets = .ok scans) :
    scans.map Prod.fst = targets ∧
      scans.map (fun scan => scan.2.localEntries) =
        (session.scanResults bridge call targets).map (session.reportedEntries platform) := by
  induction targets generalizing call scans with
  | nil =>
    cases h
    exact ⟨rfl, rfl⟩
  | cons target rest ih =>
    unfold RepositorySession.scanTargets at h
    split at h
    · cases h
    rename_i hresult
    split at h
    · cases h
    rename_i htail
    cases h
    obtain ⟨htargets, hentries⟩ := ih htail
    unfold RepositorySession.scanResults
    rw [hresult]
    refine ⟨congrArg (target :: ·) htargets, ?_⟩
    rw [List.map_cons, List.map_cons, hentries, prepareScan_localEntries]

theorem wellFormed_of_mem_scanResults (hbridge : bridge.WellFormed platform)
    (h : entries ∈ session.scanResults bridge call targets) :
    EntriesWellFormed platform entries := by
  induction targets generalizing call with
  | nil => cases h
  | cons target rest ih =>
    unfold RepositorySession.scanResults at h
    split at h
    · rename_i hresult
      rcases List.mem_cons.mp h with rfl | hrest
      · exact hbridge.statusScan _ _ _ _ _ _ hresult
      · exact ih hrest
    · exact ih h

/-! ## The loop of a refresh -/

/-- An entry of this refresh that the state holds: some scan showed it, no artifact path seen so far
hides it, and its own artifacts have been seen. -/
structure FreshSound (platform : Platform) (session : RepositorySession)
    (results : List (List StatusEntry)) (artifactPaths : List Text) (entry : StatusEntry) :
    Prop where
  visible : ∃ result ∈ results, entry ∈ session.visibleEntries platform result
  kept : notConflictArtifact artifactPaths entry = true
  listed : ∀ artifact ∈ entry.conflictArtifacts, artifact ∈ artifactPaths

/-- What the loop keeps about its variables. -/
structure MergeSound (platform : Platform) (session : RepositorySession)
    (targets : List StatusRefreshTarget) (results : List (List StatusEntry))
    (state : RefreshState) : Prop where
  origin : ∀ p entry, state.nextEntries.get? p = some entry →
    session.localEntries.get? p = some entry ∨
      FreshSound platform session results state.artifactPaths entry
  artifactPaths : ∀ p ∈ conflictArtifactPaths session.localEntries.values, p ∈ state.artifactPaths
  coverage : ∀ scope ∈ state.coverage, ∃ target ∈ targets,
    scope = ⟨target.path, target.depth.word, session.nextGeneration, target.reason⟩

theorem mergeSound_refreshState (platform : Platform) (session : RepositorySession)
    (targets : List StatusRefreshTarget) (results : List (List StatusEntry)) :
    MergeSound platform session targets results session.refreshState :=
  ⟨fun _ _ h => .inl h, fun _ h => h, fun _ h => by cases h⟩

variable {results : List (List StatusEntry)} {state : RefreshState}

theorem MergeSound.mergeScan (h : MergeSound platform session targets results state)
    {target : StatusRefreshTarget} {snapshot : StatusSnapshot} {result : List StatusEntry}
    (htarget : target ∈ targets) (hresult : result ∈ results)
    (hentries : snapshot.localEntries = session.reportedEntries platform result) :
    MergeSound platform session targets results
      (state.mergeScan session.nextGeneration (target, snapshot)) := by
  refine ⟨?_, fun p hp => List.mem_append_left _ (h.artifactPaths p hp), ?_⟩
  · intro p entry hget
    rw [get?_mergeScan] at hget
    split at hget
    · -- the scan reports the path: what it reports is fresh
      rename_i hlast
      split at hget
      · rename_i hprojectable
        cases hget
        obtain ⟨hmem, -⟩ := lastWithKey_mem hlast
        obtain ⟨hreported, hkept⟩ := List.mem_filter.mp hmem
        refine .inr ⟨⟨result, hresult, mem_visibleEntries_iff.mpr
          ⟨hentries ▸ hreported, hprojectable, ?_⟩⟩, hkept, ?_⟩
        · exact notConflictArtifact_mono
            (fun q hq => List.mem_append_left _ (h.artifactPaths q hq)) hkept
        · intro artifact ha
          exact List.mem_append_right _
            (mem_conflictArtifactPaths_iff.mpr ⟨_, hreported, ha⟩)
      · cases hget
    · -- the path keeps its entry, which the longer list of artifacts does not hide
      rw [Option.filter_eq_some_iff] at hget
      obtain ⟨hold, htest⟩ := hget
      obtain ⟨hkept, -⟩ := Bool.and_eq_true_iff.mp htest
      rcases h.origin p entry hold with hsession | hfresh
      · exact .inl hsession
      · exact .inr ⟨hfresh.visible, hkept,
          fun artifact ha => List.mem_append_left _ (hfresh.listed artifact ha)⟩
  · intro scope hscope
    rcases List.mem_append.mp hscope with hold | hnew
    · exact h.coverage scope hold
    · exact ⟨target, htarget, List.mem_singleton.mp hnew⟩

/-- All scans merged. -/
theorem mergeSound_refresh {scans : List (StatusRefreshTarget × StatusSnapshot)}
    (hscans : session.scanTargets platform bridge call targets = .ok scans) :
    MergeSound platform session targets (session.scanResults bridge call targets)
      (scans.foldl (RefreshState.mergeScan session.nextGeneration) session.refreshState) := by
  obtain ⟨htargets, hentries⟩ := scanTargets_eq_ok hscans
  refine foldl_invariant (MergeSound platform session targets
    (session.scanResults bridge call targets)) ?_ (mergeSound_refreshState _ _ _ _)
  intro _ hstate scan hscan
  have htarget : scan.1 ∈ targets := htargets ▸ List.mem_map_of_mem hscan
  have hreported : scan.2.localEntries ∈
      (session.scanResults bridge call targets).map (session.reportedEntries platform) :=
    hentries ▸ List.mem_map_of_mem hscan
  obtain ⟨_, hresult, heq⟩ := List.mem_map.mp hreported
  exact hstate.mergeScan htarget hresult heq.symm

variable {session' : RepositorySession} {delta : StatusDelta}

/-- A refresh that succeeds, as the loop over the reported results. -/
theorem refresh_mergeSound (h : session.refresh platform bridge now targets =
    .ok (delta, session')) :
    ∃ state, MergeSound platform session (session.scannedTargets platform targets)
        (session.scanResults bridge 0 (session.scannedTargets platform targets)) state ∧
      session'.localEntries = state.nextEntries ∧ delta.coverage = state.coverage := by
  obtain ⟨_, hscans, rfl, hcoverage⟩ := refresh_eq_ok h
  exact ⟨_, mergeSound_refresh hscans, rfl, hcoverage⟩

/-- Whatever the bridge answers, a refresh leaves entries that are older than the next request. -/
theorem RepositorySession.Older.refresh (h : session.Older)
    (hrefresh : session.refresh platform bridge now targets = .ok (delta, session')) :
    session'.Older := by
  obtain ⟨_, hstate, hlocal, -⟩ := refresh_mergeSound hrefresh
  intro p e he
  rw [hlocal] at he
  rw [(refresh_deltaBetween hrefresh).nextGeneration]
  rcases hstate.origin p e he with hold | hfresh
  · exact Nat.lt_succ_of_lt (h p e hold)
  · obtain ⟨_, -, hvisible⟩ := hfresh.visible
    rw [generation_of_mem_reportedEntries (mem_visibleEntries_iff.mp hvisible).1]
    exact Nat.lt_succ_self _

theorem SessionSound.refresh (h : SessionSound platform session)
    (hbridge : bridge.WellFormed platform)
    (hrefresh : session.refresh platform bridge now targets = .ok (delta, session')) :
    SessionSound platform session' := by
  obtain ⟨_, hstate, hlocal, -⟩ := refresh_mergeSound hrefresh
  refine ⟨fun p e he => ?_, h.older.refresh hrefresh⟩
  rw [hlocal] at he
  rcases hstate.origin p e he with hold | hfresh
  · exact h.accepted p e hold
  · obtain ⟨_, hresult, hvisible⟩ := hfresh.visible
    exact (wellFormed_of_mem_scanResults hbridge hresult).reported session
      (mem_visibleEntries_iff.mp hvisible).1

/-- Every session reached by snapshots and refreshes on well formed results is sound. -/
theorem SessionSound.afterCalls (h : SessionSound platform session) {calls : List SessionCall}
    (hcalls : ∀ call ∈ calls, call.bridge.WellFormed platform) :
    SessionSound platform (calls.foldl (afterCall platform) session) := by
  refine foldl_invariant (SessionSound platform) ?_ h
  intro session hsession call hcall
  cases call with
  | getSnapshot bridge now => exact hsession.getSnapshot (hcalls _ hcall)
  | refresh targets bridge now =>
    have hbridge : bridge.WellFormed platform := hcalls _ hcall
    cases hrefresh : session.refresh platform bridge now targets with
    | error failure =>
      simp only [RepositorySession.afterCall, hrefresh]
      exact hsession
    | ok answer =>
      simp only [RepositorySession.afterCall, hrefresh]
      exact hsession.refresh hbridge hrefresh

/-! ## What the extension makes of the delta -/

theorem isSafeInteger_toI32 (n : Int) : isSafeInteger (toI32 n) = true := by
  have hbounds := toI32_bounds n
  unfold isSafeInteger
  rw [Bool.and_eq_true, decide_eq_true_eq, decide_eq_true_eq]
  omega

theorem summaryDelta_accepted (before after : StatusSummary) :
    (summaryDelta before after).Accepted where
  localChanges := by
    dsimp only [summaryDelta]
    rw [isSafeInteger_toI32]
  remoteChanges := by
    dsimp only [summaryDelta]
    rw [isSafeInteger_toI32]
  conflicts := by
    dsimp only [summaryDelta]
    rw [isSafeInteger_toI32]
  unversioned := by
    dsimp only [summaryDelta]
    rw [isSafeInteger_toI32]

theorem refresh_texts (h : session.refresh platform bridge now targets = .ok (delta, session')) :
    delta.timestamp = now ∧ delta.source = "libsvn-local" ∧
      CompletenessAccepted delta.completeness := by
  unfold RepositorySession.refresh at h
  dsimp only at h
  split at h
  · cases h
  cases h
  refine ⟨rfl, rfl, ?_⟩
  show CompletenessAccepted (if _ then _ else _)
  split
  · exact .inl rfl
  · exact .inr (.inl rfl)

/-- The entries of a published delta come from the scans of the refresh. -/
theorem freshSound_of_mem_upsert (hdelta : DeltaBetween session session' delta)
    (hstate : MergeSound platform session targets results state)
    (hlocal : session'.localEntries = state.nextEntries) (hmem : entry ∈ delta.upsert) :
    FreshSound platform session results state.artifactPaths entry := by
  rw [hdelta.upsert, hlocal] at hmem
  obtain ⟨hget, hchanged⟩ := mem_changed_iff.mp hmem
  exact (hstate.origin _ _ hget).resolve_left hchanged

/-- **All checks but one.**  On well formed results the extension accepts the delta of a refresh
exactly when no entry of it lies at the path of a conflict artifact of another. -/
theorem refresh_delta_accepted_iff (hsession : SessionSound platform session)
    (hrepository : session.repositoryId.nonBlankJs = true) (hepoch : session.epoch < 2 ^ 53)
    (hgeneration : session.nextGeneration < 2 ^ 53) (hbridge : bridge.WellFormed platform)
    (htargets : ∀ target ∈ targets, target.Sendable) (hnow : now.nonBlankJs = true)
    (hrefresh : session.refresh platform bridge now targets = .ok (delta, session')) :
    delta.Accepted platform ↔ NoArtifactEntries platform delta.upsert := by
  refine ⟨fun h => h.upsert.2 rfl, fun hartifacts => ?_⟩
  obtain ⟨_, hstate, hlocal, hcoverage⟩ := refresh_mergeSound hrefresh
  have hdelta := refresh_deltaBetween hrefresh
  obtain ⟨htimestamp, hsource, hcompleteness⟩ := refresh_texts hrefresh
  -- a local refresh sends nothing about the remote side
  have hremote : session'.remoteEntries = session.remoteEntries := by
    obtain ⟨_, _, rfl, _⟩ := refresh_eq_ok hrefresh
    rfl
  have hremoteUpsert : delta.remoteUpsert = [] := by
    rw [hdelta.remoteUpsert, hremote, changed_self]
  have hremoteRemove : delta.remoteRemove = [] := by
    rw [hdelta.remoteRemove, hremote, removed_self]
  exact
    { generation := hdelta.generation ▸ hgeneration
      upsert := by
        refine ⟨fun entry hentry => ?_, fun _ => hartifacts⟩
        have hfresh := freshSound_of_mem_upsert hdelta hstate hlocal hentry
        obtain ⟨_, hresult, hvisible⟩ := hfresh.visible
        have hreported := (mem_visibleEntries_iff.mp hvisible).1
        have hgen := generation_of_mem_reportedEntries hreported
        rw [hdelta.generation]
        exact ⟨⟨hgen ▸ hgeneration, hgen⟩,
          (wellFormed_of_mem_scanResults hbridge hresult).reported session hreported⟩
      remove := by
        intro path hpath
        rw [hdelta.remove, mem_removed_iff] at hpath
        obtain ⟨entry, hget⟩ := contains_iff_exists.mp hpath.1
        exact key_of_get? hget ▸ (hsession.accepted _ _ hget).path
      remoteUpsert := by
        rw [hremoteUpsert]
        exact ⟨fun _ h => (List.not_mem_nil h).elim, fun h => by cases h⟩
      remoteRemove := by
        rw [hremoteRemove]
        exact fun _ h => (List.not_mem_nil h).elim
      upsert_nodup := hdelta.upsert ▸ nodup_changed_map_key _ _
      remove_nodup := hdelta.remove ▸ nodup_removed _ _
      noOverlap := by
        intro path hpath hmem
        rw [hdelta.upsert] at hmem
        rw [hdelta.remove] at hpath
        obtain ⟨entry, hentry, rfl⟩ := List.mem_map.mp hmem
        exact key_notMem_removed hentry hpath
      remoteUpsert_nodup := hremoteUpsert ▸ List.nodup_nil
      remoteRemove_nodup := hremoteRemove ▸ List.nodup_nil
      noRemoteOverlap := by
        rw [hremoteRemove]
        exact fun _ h => (List.not_mem_nil h).elim
      repositoryId := hdelta.repositoryId ▸ hrepository
      epoch := hdelta.epoch ▸ hepoch
      coverage := by
        intro scope hscope
        rw [hcoverage] at hscope
        obtain ⟨target, htarget, rfl⟩ := hstate.coverage scope hscope
        have hsendable := htargets target (List.mem_of_mem_filter htarget)
        refine ⟨hgeneration, hdelta.generation.symm, hsendable.path, ?_, hsendable.reason⟩
        show Text.nonBlankJs target.depth.word = true
        cases target.depth <;> decide
      summaryDelta := hdelta.summaryDelta ▸ summaryDelta_accepted _ _
      completeness := hcompleteness
      timestamp := htimestamp ▸ hnow
      source := by rw [hsource]; decide }

/-! ## The condition on the scans -/

/-- No visible entry of the results lies at the key of a conflict artifact of another, except an
unversioned one at the artifact itself, which the refresh hides. -/
def ArtifactsApart (platform : Platform) (session : RepositorySession)
    (results : List (List StatusEntry)) : Prop :=
  ∀ entry ∈ results.flatMap (session.visibleEntries platform),
    ∀ owner ∈ results.flatMap (session.visibleEntries platform),
      ∀ artifact ∈ owner.conflictArtifacts,
        canonicalStatusPathKey platform entry.path = canonicalStatusPathKey platform artifact →
          entry.localStatus = "unversioned" ∧ entry.path ∈ owner.conflictArtifacts

instance (platform : Platform) (session : RepositorySession)
    (results : List (List StatusEntry)) : Decidable (ArtifactsApart platform session results) := by
  unfold ArtifactsApart
  infer_instance

/-- Artifacts that are apart stay apart in the delta. -/
theorem noArtifactEntries_of_apart (hdelta : DeltaBetween session session' delta)
    (hstate : MergeSound platform session targets results state)
    (hlocal : session'.localEntries = state.nextEntries)
    (hapart : ArtifactsApart platform session results) :
    NoArtifactEntries platform delta.upsert := by
  intro entry hentry owner howner artifact hartifact hkey
  have hfresh := freshSound_of_mem_upsert hdelta hstate hlocal hentry
  have hfreshOwner := freshSound_of_mem_upsert hdelta hstate hlocal howner
  obtain ⟨hunversioned, hlisted⟩ := hapart entry (List.mem_flatMap.mpr hfresh.visible) owner
    (List.mem_flatMap.mpr hfreshOwner.visible) artifact hartifact hkey
  -- the owner's artifacts were seen by the end of the loop, and what they hide is gone
  exact notConflictArtifact_iff.mp hfresh.kept hunversioned (hfreshOwner.listed _ hlisted)

/-- The only scan of a refresh puts all its visible entries into the delta. -/
theorem mem_upsert_of_visible (hsession : SessionSound platform session)
    (hbridge : bridge.WellFormed platform) {target : StatusRefreshTarget}
    (honly : session.scannedTargets platform targets = [target])
    (hrefresh : session.refresh platform bridge now targets = .ok (delta, session'))
    {result : List StatusEntry}
    (hresult : result ∈ session.scanResults bridge 0 (session.scannedTargets platform targets))
    (hvisible : entry ∈ session.visibleEntries platform result) :
    entry ∈ delta.upsert := by
  have hwellFormed := wellFormed_of_mem_scanResults hbridge hresult
  obtain ⟨hreported, hprojectable, hkept⟩ := mem_visibleEntries_iff.mp hvisible
  obtain ⟨scans, hscans, rfl, -⟩ := refresh_eq_ok hrefresh
  obtain ⟨htargets, hentries⟩ := scanTargets_eq_ok hscans
  rw [show targets.filter _ = session.scannedTargets platform targets from rfl] at htargets hentries
  -- one target, so one scan and one result
  obtain ⟨⟨target', snapshot⟩, rfl⟩ : ∃ scan, scans = [scan] := by
    rw [honly] at htargets
    exact List.length_eq_one_iff.mp (by rw [← List.length_map, htargets]; rfl)
  have hsingle : session.scanResults bridge 0 (session.scannedTargets platform targets) =
      [result] := by
    have hlength := congrArg List.length hentries
    rw [List.length_map, List.length_map] at hlength
    obtain ⟨_, hr⟩ := List.length_eq_one_iff.mp hlength.symm
    rw [hr] at hresult ⊢
    rw [List.mem_singleton.mp hresult]
  rw [hsingle] at hentries
  have hsnapshot : snapshot.localEntries = session.reportedEntries platform result := by
    simpa using hentries
  rw [(refresh_deltaBetween hrefresh).upsert, mem_changed_iff]
  refine ⟨?_, fun hold => ?_⟩
  · show ((RefreshState.mergeScan session.nextGeneration session.refreshState
      (target', snapshot)).nextEntries.get? entry.path) = some entry
    rw [get?_mergeScan, hsnapshot]
    have hincoming : entry ∈ (session.reportedEntries platform result).filter
        (notConflictArtifact (session.refreshState.artifactPaths ++
          conflictArtifactPaths (session.reportedEntries platform result))) := by
      refine List.mem_filter.mpr ⟨hreported, ?_⟩
      rw [notConflictArtifact_append, Bool.and_eq_true]
      exact ⟨hkept, notConflictArtifact_of_mem_pruned hreported⟩
    have hunique := lastWithKey_eq_some_of_unique hincoming fun other hother =>
      eq_of_key_eq (nodup_reportedEntries hwellFormed.nodup) hreported
        (List.mem_of_mem_filter hother)
    rw [hunique]
    show (if isProjectableStatus entry then some entry else none) = some entry
    rw [if_pos hprojectable]
  · -- the session's own entries are older
    have holder := hsession.older _ _ hold
    rw [generation_of_mem_reportedEntries hreported] at holder
    exact Nat.lt_irrefl _ holder

/-- **The contract.**  In every session that snapshots and refreshes reach, on every list of targets
the extension sends and all well formed results, the delta of a refresh passes all checks of the
extension when the conflict artifacts of the scans are apart from their entries.  For a refresh of
one target this condition is also necessary. -/
theorem refresh_delta_accepted {platform : Platform} {repositoryId : Text} {epoch : Nat}
    {identity : RepositoryIdentity} {roots : BoundaryRoots} {calls : List SessionCall}
    {session : RepositorySession}
    (hreached : calls.foldl (afterCall platform)
      (.opened repositoryId epoch identity roots) = session)
    (hcalls : ∀ call ∈ calls, call.bridge.WellFormed platform)
    (hrepository : session.repositoryId.nonBlankJs = true) (hepoch : session.epoch < 2 ^ 53)
    (hgeneration : session.nextGeneration < 2 ^ 53)
    {targets : List StatusRefreshTarget} {bridge : StatusBridge} {now : Text}
    (htargets : ∀ target ∈ targets, target.Sendable) (hbridge : bridge.WellFormed platform)
    (hnow : now.nonBlankJs = true) {delta : StatusDelta} {session' : RepositorySession}
    (hrefresh : session.refresh platform bridge now targets = .ok (delta, session')) :
    (ArtifactsApart platform session
        (session.scanResults bridge 0 (session.scannedTargets platform targets)) →
      parseStatusDelta platform delta.toJson = .ok delta ∧
        requireDeltaMatchesRequest delta ⟨session.repositoryId, session.epoch, targets⟩ = .ok ()) ∧
    ((session.scannedTargets platform targets).length = 1 →
      parseStatusDelta platform delta.toJson = .ok delta →
      ArtifactsApart platform session
        (session.scanResults bridge 0 (session.scannedTargets platform targets))) := by
  have hsession : SessionSound platform session :=
    hreached ▸ (sessionSound_opened platform repositoryId epoch identity roots).afterCalls hcalls
  have haccepted := refresh_delta_accepted_iff hsession hrepository hepoch hgeneration hbridge
    htargets hnow hrefresh
  have hdelta := refresh_deltaBetween hrefresh
  refine ⟨fun hapart => ⟨?_, ?_⟩, fun hlength hparse => ?_⟩
  · obtain ⟨_, hstate, hlocal, -⟩ := refresh_mergeSound hrefresh
    have hno := noArtifactEntries_of_apart hdelta hstate hlocal hapart
    exact parseStatusDelta_accepts.ok_iff.mpr (haccepted.mpr hno)
  · exact requireDeltaMatchesRequest_accepts.ok_iff.mpr ⟨hdelta.repositoryId, hdelta.epoch⟩
  · have hno := haccepted.mp (parseStatusDelta_accepts.ok_iff.mp hparse)
    obtain ⟨target, honly⟩ := List.length_eq_one_iff.mp hlength
    intro entry hentry owner howner artifact hartifact hkey
    obtain ⟨_, hresult, hvisible⟩ := List.mem_flatMap.mp hentry
    obtain ⟨_, hresult', hvisible'⟩ := List.mem_flatMap.mp howner
    exact absurd hkey (hno entry
      (mem_upsert_of_visible hsession hbridge honly hrefresh hresult hvisible) owner
      (mem_upsert_of_visible hsession hbridge honly hrefresh hresult' hvisible') artifact hartifact)

end

namespace DeltaContractExample

/-- A conflicted file whose left-over copy is listed as its artifact. -/
def conflicted : StatusEntry :=
  { StatusEntry.file "a.txt" "conflicted" with
    conflict := some ("conflicted" : Text), conflictArtifacts := [("a.txt.mine" : Text)] }

/-- The left-over copy with the given status. -/
def leftOver (status : Text) : StatusEntry := .file "a.txt.mine" status

theorem conflicted_accepted : conflicted.Accepted .posix .ofLocal := by
  refine ⟨?_, ?_, ?_, ?_, ?_, ?_, ?_, ?_, ?_, ?_, ?_, ?_, ?_, ?_, ?_, ?_, ?_, ⟨?_, ?_, ?_, ?_⟩, ?_⟩
  all_goals first
    | decide
    | (intro artifact h; rw [List.mem_singleton.mp h]
       exact ⟨by decide, by decide, by decide, by decide⟩)
    | (unfold NullableAccepted; decide)
    | (intro lock h; cases h)

theorem answering_wellFormed {platform : Platform} {entries : List StatusEntry}
    (h : EntriesWellFormed platform entries) (remote : List StatusEntry) :
    (StatusBridge.answering entries remote).WellFormed platform :=
  ⟨fun _ _ _ hresult => by cases hresult; exact h,
    fun _ _ _ _ _ _ hresult => by cases hresult; exact h⟩

theorem entries_wellFormed {status : Text} (h : status.nonBlankJs = true) :
    EntriesWellFormed .posix [conflicted, leftOver status] := by
  refine ⟨?_, show (["a.txt", "a.txt.mine"] : List Text).Nodup by decide⟩
  intro _ hentry
  rcases List.mem_cons.mp hentry with rfl | hentry
  · exact conflicted_accepted
  · rw [List.mem_singleton.mp hentry]
    exact StatusEntry.file_accepted (by decide) h

def bridge (status : Text) : StatusBridge := .answering [conflicted, leftOver status] []

def session : RepositorySession := .opened "repository" 1 .sample .none

def targets : List StatusRefreshTarget := [⟨".", .infinity, "manualFullReconcile"⟩]

theorem targets_sendable : ∀ target ∈ targets, target.Sendable := by
  intro target htarget
  rw [List.mem_singleton.mp htarget]
  exact ⟨by decide, by decide⟩

/-- `svn add` of the left-over copy: both entries stay in the delta, and the extension refuses it at
the second one. -/
theorem refresh_delta_refused_added_artifact :
    (bridge "added").WellFormed .posix ∧ (∀ target ∈ targets, target.Sendable) ∧
      (session.refresh .posix (bridge "added") "now" targets).toOption.map
          (fun answer => parseStatusDelta .posix answer.1.toJson) =
        some (.error (invalidRefreshResponse "upsert.1.path")) :=
  ⟨answering_wellFormed (entries_wellFormed (by decide)) [], targets_sendable, by decide +kernel⟩

/-- The session after a snapshot that finds the left-over copy unversioned. -/
def reached : RepositorySession :=
  [SessionCall.getSnapshot (bridge "unversioned") "now"].foldl
    (afterCall .posix) session

def answer : StatusDelta × RepositorySession :=
  (reached.refresh .posix (bridge "unversioned") "now" targets).toOption.getD default

/-- An unversioned left-over copy is hidden, and the delta is accepted. -/
theorem refresh_delta_accepted_unversioned_artifact :
    parseStatusDelta .posix answer.1.toJson = .ok answer.1 := by
  have hbridge : (bridge "unversioned").WellFormed .posix :=
    answering_wellFormed (entries_wellFormed (by decide)) []
  have hreached : [SessionCall.getSnapshot (bridge "unversioned") "now"].foldl
      (afterCall .posix) (.opened "repository" 1 .sample .none) = reached := rfl
  have hcalls : ∀ call ∈ [SessionCall.getSnapshot (bridge "unversioned") "now"],
      call.bridge.WellFormed .posix := by
    intro call hcall
    rw [List.mem_singleton.mp hcall]
    exact hbridge
  have hnow : Text.nonBlankJs "now" = true := by decide
  have hrefresh : reached.refresh .posix (bridge "unversioned") "now" targets =
      .ok (answer.1, answer.2) := by decide +kernel
  have hcontract := refresh_delta_accepted hreached hcalls (by decide +kernel) (by decide +kernel)
    (by decide +kernel) targets_sendable hbridge hnow hrefresh
  exact (hcontract.1 (by decide +kernel)).1

end DeltaContractExample

end SubversionR

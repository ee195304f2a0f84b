import SubversionR.Sync.Lockstep
import SubversionR.Sync.Snapshot

/-!
# Recovery — the full reconcile after a remote recovery

Settling a remote recovery replaces the entries of the session without publishing a delta; the
extension marks its copy stale, keeps its entries and counts, and reconciles with one full refresh.
The delta of that refresh is the difference to the *recovered* entries, which the extension never
saw.

* `recovered_ne_scanned` — a recovered entry is never equal to a scanned one (the generations
  differ), so the delta repeats every scanned entry and misses only removals;
* `recovery_reconciles_iff` — the copy is repaired exactly when every old path is recovered or
  scanned, and the old counts are those of the recovered entries.
-/

namespace SubversionR

open KeyedMaps KeyedMap

/-! ## The recovered session -/

/-- The entries a recovery leaves in the session. -/
def RemoteRecoveryLaunchPlan.recoveredEntries (platform : Platform)
    (launch : RemoteRecoveryLaunchPlan) (snapshot : StatusSnapshot) : EntryMap :=
  replaceSessionLocalEntries (removeConflictArtifactEntries
    (outsideBoundaries platform launch.boundaryRoots
      (stampEntries launch.generation snapshot.localEntries)))

section

variable {platform : Platform} {launch : RemoteRecoveryLaunchPlan} {snapshot : StatusSnapshot}
  {session : RepositorySession}

theorem settleRemoteRecovery_eq_some {session' : RepositorySession}
    (h : session.settleRemoteRecovery platform launch snapshot = some session') :
    session' =
      { session with
        localEntries := launch.recoveredEntries platform snapshot
        nextGeneration := session.nextGeneration + 1 } := by
  unfold RepositorySession.settleRemoteRecovery at h
  split at h
  · cases h
  cases h
  unfold RemoteRecoveryLaunchPlan.recoveredEntries
  rw [filterSnapshotBoundaries_localEntries]

variable {entries : List StatusEntry} {p : Text} {e : StatusEntry}

theorem mem_replaceSessionLocalEntries (h : (replaceSessionLocalEntries entries).get? p = some e) :
    e ∈ entries := by
  rw [replaceSessionLocalEntries, get?_ofList] at h
  exact List.mem_of_mem_filter (lastWithKey_mem h).1

theorem generation_of_recovered (h : (launch.recoveredEntries platform snapshot).get? p = some e) :
    e.generation = launch.generation := by
  have hmem := List.mem_of_mem_filter (List.mem_of_mem_filter (mem_replaceSessionLocalEntries h))
  obtain ⟨_, -, rfl⟩ := List.mem_map.mp hmem
  rfl

/-- There are no more recovered entries than the recovery snapshot has. -/
theorem length_recoveredEntries_le (platform : Platform) (launch : RemoteRecoveryLaunchPlan)
    (snapshot : StatusSnapshot) :
    (launch.recoveredEntries platform snapshot).values.length ≤ snapshot.localEntries.length := by
  have hpaths : ∀ k ∈ (launch.recoveredEntries platform snapshot).keys,
      k ∈ snapshot.localEntries.map StatusEntry.path := by
    intro k hk
    obtain ⟨_, he⟩ := contains_iff_exists.mp (mem_keys_iff.mp hk)
    have hmem := List.mem_of_mem_filter
      (List.mem_of_mem_filter (mem_replaceSessionLocalEntries he))
    obtain ⟨e₀, he₀, rfl⟩ := List.mem_map.mp hmem
    have hkey : (e₀.stamp launch.generation).path = k := key_of_get? he
    exact List.mem_map.mpr ⟨e₀, he₀, hkey⟩
  have hle := length_values_le hpaths
  rwa [List.length_map] at hle

/-! ## The full scan -/

theorem fullScanEntry_mem (h : session.fullScanEntry platform entries p = some e) :
    e ∈ session.reportedEntries platform entries ∧ e.path = p := by
  obtain ⟨hlast, -⟩ := Option.filter_eq_some_iff.mp h
  obtain ⟨hmem, hpath⟩ := lastWithKey_mem hlast
  exact ⟨List.mem_of_mem_filter hmem, hpath⟩

/-- A full scan leaves no more entries than it returned. -/
theorem length_le_of_fullScan {m : EntryMap}
    (h : ∀ p, m.get? p = session.fullScanEntry platform entries p) :
    m.values.length ≤ entries.length := by
  have hpaths : ∀ k ∈ m.keys, k ∈ entries.map StatusEntry.path := by
    intro k hk
    obtain ⟨_, he⟩ := contains_iff_exists.mp (mem_keys_iff.mp hk)
    rw [h] at he
    obtain ⟨hmem, hpath⟩ := fullScanEntry_mem he
    obtain ⟨e₀, he₀, -, rfl⟩ := mem_reportedEntries_iff.mp hmem
    exact List.mem_map.mpr ⟨e₀, (mem_outsideBoundaries_iff.mp he₀).1, hpath⟩
  have hle := length_values_le hpaths
  rwa [List.length_map] at hle

/-- **No recovered entry is repeated by the scan**: the two carry different generations. -/
theorem recovered_ne_scanned (hgen : launch.generation < session.nextGeneration)
    (h : (launch.recoveredEntries platform snapshot).get? p =
      session.fullScanEntry platform entries p) :
    (launch.recoveredEntries platform snapshot).get? p = none := by
  cases hrecovered : (launch.recoveredEntries platform snapshot).get? p with
  | none => rfl
  | some e =>
    have hscanned := h.symm.trans hrecovered
    have h1 := generation_of_recovered hrecovered
    have h2 := generation_of_mem_reportedEntries (fullScanEntry_mem hscanned).1
    omega

/-! ## The counts -/

/-- With small counts, adding the published difference gives the new counts exactly when the old
ones were the published baseline. -/
theorem applySummaryDelta_eq_iff {repositoryId : Text} {current before after result : StatusSummary}
    (hlocal : before.localChanges < 2 ^ 31 ∧ after.localChanges < 2 ^ 31)
    (hconflicts : before.conflicts < 2 ^ 31 ∧ after.conflicts < 2 ^ 31)
    (hunversioned : before.unversioned < 2 ^ 31 ∧ after.unversioned < 2 ^ 31)
    (hremote : before.remoteChanges = after.remoteChanges)
    (h : RepositoryState.applySummaryDelta repositoryId current (summaryDelta before after) =
      .ok result) :
    result = after ↔ current = before := by
  obtain ⟨h1, h2, h3, h4⟩ := RepositoryState.eq_of_applySummaryDelta h
  unfold summaryDelta at h1 h2 h3 h4
  rw [toI32_sub hlocal.2 hlocal.1] at h1
  rw [hremote, Int.sub_self, show toI32 0 = 0 from rfl] at h2
  rw [toI32_sub hconflicts.2 hconflicts.1] at h3
  rw [toI32_sub hunversioned.2 hunversioned.1] at h4
  cases current with | mk cl cr cc cu =>
  cases before with | mk bl br bc bu =>
  cases after with | mk al ar ac au =>
  cases result with | mk rl rr rc ru =>
  dsimp only at *
  rw [StatusSummary.mk.injEq, StatusSummary.mk.injEq]
  omega

/-! ## The reconcile -/

/-- The entries: the delta of the full refresh rewrites every path that is recovered or scanned, and
no other. -/
theorem patch_recovered_eq_iff {recovered : RepositorySession} {copy scanned : EntryMap}
    (hgen : launch.generation < recovered.nextGeneration)
    (hscanned : ∀ p, scanned.get? p = recovered.fullScanEntry platform entries p) :
    copy.patch (removed (launch.recoveredEntries platform snapshot) scanned)
        (changed (launch.recoveredEntries platform snapshot) scanned) = scanned ↔
      ∀ p, copy.contains p = true →
        (launch.recoveredEntries platform snapshot).contains p = true ∨
          (recovered.fullScanEntry platform entries p).isSome = true := by
  rw [patch_diff_eq_iff]
  constructor
  · intro hall p hold
    by_contra hnot
    push Not at hnot
    have hrecovered : (launch.recoveredEntries platform snapshot).get? p = none :=
      contains_eq_false_iff.mp (Bool.not_eq_true _ ▸ hnot.1)
    have hnone : scanned.get? p = none := by
      rw [hscanned]
      exact Option.not_isSome_iff_eq_none.mp hnot.2
    have hcopy := hall p (hrecovered.trans hnone.symm)
    rw [hnone] at hcopy
    rw [contains, hcopy] at hold
    cases hold
  · intro hall p heq
    rw [hscanned] at heq
    have hrecovered := recovered_ne_scanned hgen heq
    have hnone : recovered.fullScanEntry platform entries p = none := heq.symm.trans hrecovered
    rw [hscanned, hnone]
    cases hold : copy.get? p with
    | none => rfl
    | some e =>
      rcases hall p (contains_iff_exists.mpr ⟨e, hold⟩) with h | h
      · rw [contains, hrecovered] at h
        cases h
      · rw [hnone] at h
        cases h

/-- **The reconcile after a recovery.**  The extension starts with the entries of the
session.  After the settlement, the stale mark and one applied full refresh, its entries and counts
are those of the session exactly when every path it showed is recovered or left by the scan, and its
counts were those of the recovered entries. -/
theorem recovery_reconciles_iff (platform : Platform)
    (session recovered refreshed : RepositorySession) (launch : RemoteRecoveryLaunchPlan)
    (snapshot result : StatusSnapshot) (bridge : StatusBridge) (now reason : Text)
    (delta : StatusDelta) (mark : StatusStaleMark) (state stale state' : RepositoryState)
    (contents : StatusContents) (hstart : state.localEntries = session.localEntries)
    (hcontents : state.contents = some contents)
    (hlaunch : launch.generation ≤ session.nextGeneration)
    (hsettle : session.settleRemoteRecovery platform launch snapshot = some recovered)
    (hmark : state.markStale mark = .ok stale)
    (hscan : bridge.statusScan 0 recovered.identity "." .infinity recovered.nextGeneration =
      .ok result)
    (hrefresh : recovered.refresh platform bridge now [⟨".", .infinity, reason⟩] =
      .ok (delta, refreshed))
    (happly : stale.applyDelta delta = .ok state')
    (hsnapshotSmall : snapshot.localEntries.length < 2 ^ 31)
    (hresultSmall : result.localEntries.length < 2 ^ 31) :
    (state'.localEntries = refreshed.localEntries ∧
        ∃ contents', state'.contents = some contents' ∧ contents'.summary = refreshed.summary) ↔
      (∀ p, session.localEntries.contains p = true →
        (launch.recoveredEntries platform snapshot).contains p = true ∨
          (recovered.fullScanEntry platform result.localEntries p).isSome = true) ∧
      contents.summary = summarizeSnapshotEntries
        (launch.recoveredEntries platform snapshot).values session.remoteEntries.values := by
  have hget := full_refresh_get? hscan hrefresh
  have hdelta := refresh_deltaBetween hrefresh
  obtain ⟨_, -, hrefreshed, -⟩ := refresh_eq_ok hrefresh
  have hrecovered := settleRemoteRecovery_eq_some hsettle
  obtain ⟨contents₀, hcontents₀, rfl⟩ := RepositoryState.eq_of_markStale hmark
  obtain rfl : contents = contents₀ := Option.some.inj (hcontents.symm.trans hcontents₀)
  obtain ⟨-, contents₁, hcontents₁, -, summary, hsummary, rfl⟩ :=
    RepositoryState.applyDelta_eq_ok_iff.mp happly
  cases hcontents₁
  have hlocal : recovered.localEntries = launch.recoveredEntries platform snapshot := by
    rw [hrecovered]
  have hgen : launch.generation < recovered.nextGeneration := by
    rw [hrecovered]
    show launch.generation < session.nextGeneration + 1
    omega
  refine and_congr ?_ ?_
  · show state.localEntries.patch delta.remove delta.upsert = refreshed.localEntries ↔ _
    rw [hstart, hdelta.remove, hdelta.upsert, hlocal]
    exact patch_recovered_eq_iff hgen hget
  · -- the counts: the delta carries the difference to the recovered counts
    have hbefore : recovered.summary = summarizeSnapshotEntries
        (launch.recoveredEntries platform snapshot).values session.remoteEntries.values := by
      unfold RepositorySession.summary
      rw [hrecovered]
    have hB := (summarizeEntries_below (launch.recoveredEntries platform snapshot).values).mono
      (length_recoveredEntries_le platform launch snapshot)
    have hA := (summarizeEntries_below refreshed.localEntries.values).mono
      (length_le_of_fullScan hget)
    rw [hdelta.summaryDelta, hbefore] at hsummary
    rw [← applySummaryDelta_eq_iff ?_ ?_ ?_ ?_ hsummary]
    · constructor
      · intro ⟨contents', hcontents', hsum⟩
        cases hcontents'
        exact hsum
      · intro hsum
        exact ⟨_, rfl, hsum⟩
    · exact ⟨lt_of_le_of_lt hB.localChanges hsnapshotSmall,
        lt_of_le_of_lt hA.localChanges hresultSmall⟩
    · exact ⟨lt_of_le_of_lt hB.conflicts hsnapshotSmall,
        lt_of_le_of_lt hA.conflicts hresultSmall⟩
    · exact ⟨lt_of_le_of_lt hB.unversioned hsnapshotSmall,
        lt_of_le_of_lt hA.unversioned hresultSmall⟩
    · unfold RepositorySession.summary
      rw [hrefreshed, hrecovered]
      rfl

end

namespace RecoveryExample

def session : RepositorySession := LockstepExample.session

def launch : RemoteRecoveryLaunchPlan := ⟨"uuid:/wc", 1, .none, 2⟩

/-- The snapshot of a working copy with these entries. -/
def snapshotOf (entries : List StatusEntry) : StatusSnapshot :=
  ⟨[], 0, 0, "complete", .sample, entries, [], ⟨0, 0, 0, 0⟩, [], "libsvn-local"⟩

def mark : StatusStaleMark :=
  ⟨"uuid:/wc", 1, "remoteRecoverySafeRequiresFullReconcile", "t", "subversionr-daemon"⟩

/-- The session once the recovery found these entries. -/
def recovered (found : List StatusEntry) : RepositorySession :=
  (session.settleRemoteRecovery .posix launch (snapshotOf found)).getD default

/-- The answer to the full refresh that finds `scanned` after the recovery found `found`. -/
def reply (found scanned : List StatusEntry) : StatusDelta × RepositorySession :=
  ((recovered found).refresh .posix (.answering scanned []) "t"
    [⟨".", .infinity, "reconcile"⟩]).toOption.getD default

/-- The extension's state once it handled the stale mark. -/
def stale : RepositoryState := (LockstepExample.state.markStale mark).toOption.getD default

/-- The extension's state once it applied the delta of the full refresh. -/
def reconciled (found scanned : List StatusEntry) : RepositoryState :=
  (stale.applyDelta (reply found scanned).1).toOption.getD default

/-- `a.txt` was modified; the recovery and the scan after it find the working copy clean.  The delta
is empty, and the extension goes on showing `a.txt`. -/
theorem recovery_keeps_removed_path :
    LockstepExample.state.localEntries = session.localEntries ∧
      session.settleRemoteRecovery .posix launch (snapshotOf []) = some (recovered []) ∧
      LockstepExample.state.markStale mark = .ok stale ∧
      (recovered []).refresh .posix (.answering [] []) "t" [⟨".", .infinity, "reconcile"⟩] =
        .ok (reply [] []) ∧
      stale.applyDelta (reply [] []).1 = .ok (reconciled [] []) ∧
      (reply [] []).2.localEntries.keys = [] ∧
      (reconciled [] []).localEntries.keys = ["a.txt"] ∧
      (reconciled [] []).contents.map (·.summary) = some ⟨1, 0, 0, 0⟩ := by
  decide +kernel

/-- The recovery finds `a.txt` still modified, the scan finds `b.txt` in its place. -/
theorem recovery_reconciles_replaced :
    (reconciled [.file "a.txt" "modified"] [.file "b.txt" "unversioned"]).localEntries =
      (reply [.file "a.txt" "modified"] [.file "b.txt" "unversioned"]).2.localEntries := by
  refine ((recovery_reconciles_iff .posix session (recovered [.file "a.txt" "modified"])
    (reply [.file "a.txt" "modified"] [.file "b.txt" "unversioned"]).2 launch
    (snapshotOf [.file "a.txt" "modified"]) _ (.answering [.file "b.txt" "unversioned"] []) "t"
    "reconcile" (reply [.file "a.txt" "modified"] [.file "b.txt" "unversioned"]).1 mark
    LockstepExample.state stale _ _ rfl rfl (by decide +kernel) (by decide +kernel)
    (by decide +kernel) rfl (by decide +kernel) (by decide +kernel) (by decide +kernel)
    (by decide +kernel)).mpr ⟨?_, ?_⟩).1
  · intro p hp
    have hkeys : ∀ k ∈ session.localEntries.keys,
        (launch.recoveredEntries .posix (snapshotOf [.file "a.txt" "modified"])).contains k =
          true := by decide +kernel
    exact .inl (hkeys p (mem_keys_iff.mpr hp))
  · decide +kernel

end RecoveryExample

end SubversionR

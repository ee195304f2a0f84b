import SubversionR.Protocol
import SubversionR.Lib.MapDelta

/-!
# Daemon status — classification, coverage and counting of entries

The pure helpers of the daemon's status requests: which entries a session keeps
(`isProjectableStatus`), which unversioned entries are the leftovers of a conflict
(`removeConflictArtifactEntries`), which entries a refresh target speaks about
(`coverageMatches`), and how entries are counted into `u32` summaries and `i32` differences.

* `mem_removeConflictArtifactEntries_iff` — what survives the pruning of conflict artifacts;
* `coverageMatches_dot_infinity` — the full scan speaks about every entry;
* `toI32_sub`, `summarizeSnapshotEntries_below` — with fewer than `2 ^ 31` entries no count wraps
  and the published difference of two counts is their difference.
-/

namespace SubversionR

open KeyedMaps

/-! ## Which entries are kept -/

def isActionableLocalStatus (status : Text) : Bool :=
  !(decide (status = "none") || decide (status = "normal"))

def isSparseStatusDepth (depth : Text) : Bool :=
  decide (depth = "empty") || decide (depth = "files") || decide (depth = "immediates")

def isInterestingStatus (entry : StatusEntry) : Bool :=
  entry.conflict.isSome
    || isActionableLocalStatus entry.localStatus
    || isActionableLocalStatus entry.nodeStatus
    || isActionableLocalStatus entry.textStatus
    || isActionableLocalStatus entry.propertyStatus

def isProjectableStatus (entry : StatusEntry) : Bool :=
  isInterestingStatus entry
    || entry.switched
    || entry.lock.isSome
    || entry.needsLock
    || isSparseStatusDepth entry.depth

def isProjectableRemoteStatus (entry : StatusEntry) : Bool :=
  !(decide (entry.remoteStatus = "none") || decide (entry.remoteStatus = "normal")
    || decide (entry.remoteStatus = "notChecked"))

@[simp]
theorem isProjectableStatus_stamp (g : Nat) (e : StatusEntry) :
    isProjectableStatus (e.stamp g) = isProjectableStatus e := rfl

variable {e : StatusEntry}

/-! ## Conflict artifacts

The files Subversion leaves beside a conflicted one (`.mine`, `.rNNN`) are unversioned entries
whose path the conflicted entry lists.  They are hidden. -/

/-- The paths some entry of the list names as conflict artifacts. -/
def conflictArtifactPaths (entries : List StatusEntry) : List Text :=
  entries.flatMap StatusEntry.conflictArtifacts

/-- The filter shared by `remove_conflict_artifact_entries` and `dispatch_status_refresh`: the
entry is versioned, or no conflict artifact has its path. -/
def notConflictArtifact (artifactPaths : List Text) (entry : StatusEntry) : Bool :=
  decide (entry.localStatus ≠ "unversioned") || !decide (entry.path ∈ artifactPaths)

def removeConflictArtifactEntries (entries : List StatusEntry) : List StatusEntry :=
  entries.filter (notConflictArtifact (conflictArtifactPaths entries))

variable {entries : List StatusEntry}

theorem mem_conflictArtifactPaths_iff {p : Text} :
    p ∈ conflictArtifactPaths entries ↔ ∃ e ∈ entries, p ∈ e.conflictArtifacts :=
  List.mem_flatMap

theorem notConflictArtifact_iff {artifactPaths : List Text} :
    notConflictArtifact artifactPaths e = true ↔
      (e.localStatus = "unversioned" → e.path ∉ artifactPaths) := by
  unfold notConflictArtifact
  rw [Bool.or_eq_true, decide_eq_true_eq, Bool.not_eq_true', decide_eq_false_iff_not]
  exact imp_iff_not_or.symm

@[simp]
theorem conflictArtifactPaths_map_stamp (g : Nat) (entries : List StatusEntry) :
    conflictArtifactPaths (entries.map (StatusEntry.stamp g)) = conflictArtifactPaths entries := by
  unfold conflictArtifactPaths
  rw [List.flatMap_map]
  rfl

theorem mem_removeConflictArtifactEntries_iff :
    e ∈ removeConflictArtifactEntries entries ↔
      e ∈ entries ∧ notConflictArtifact (conflictArtifactPaths entries) e = true :=
  List.mem_filter

theorem notConflictArtifact_append (ps qs : List Text) (e : StatusEntry) :
    notConflictArtifact (ps ++ qs) e = (notConflictArtifact ps e && notConflictArtifact qs e) := by
  rw [Bool.eq_iff_iff, Bool.and_eq_true, notConflictArtifact_iff, notConflictArtifact_iff,
    notConflictArtifact_iff, List.mem_append]
  tauto

theorem notConflictArtifact_mono {ps qs : List Text} (hsub : ∀ p ∈ ps, p ∈ qs)
    (h : notConflictArtifact qs e = true) : notConflictArtifact ps e = true := by
  rw [notConflictArtifact_iff] at h ⊢
  intro hstatus hmem
  exact h hstatus (hsub _ hmem)

/-- What survives the pruning is no conflict artifact of what survives. -/
theorem notConflictArtifact_of_mem_pruned (h : e ∈ removeConflictArtifactEntries entries) :
    notConflictArtifact (conflictArtifactPaths (removeConflictArtifactEntries entries)) e =
      true := by
  obtain ⟨-, hnot⟩ := mem_removeConflictArtifactEntries_iff.mp h
  refine notConflictArtifact_mono ?_ hnot
  intro _ hp
  obtain ⟨owner, howner, hlists⟩ := mem_conflictArtifactPaths_iff.mp hp
  exact mem_conflictArtifactPaths_iff.mpr ⟨owner, List.mem_of_mem_filter howner, hlists⟩

/-! ## Coverage -/

/-- Whether a target of this depth reaches an entry `rest` below its path. -/
def depthReaches (depth : StatusRefreshDepth) (rest : Text) (kind : Text) : Bool :=
  match depth with
  | .empty => false
  | .files => !decide ('/' ∈ rest) && decide (kind = "file")
  | .immediates => !decide ('/' ∈ rest)
  | .infinity => true

def coverageMatches (targetPath : Text) (depth : StatusRefreshDepth) (entry : StatusEntry) : Bool :=
  let target := targetPath.forwardSlashes
  let entryPath := entry.path.forwardSlashes
  if target = "." then
    if entryPath = "." then true
    else depthReaches depth entryPath entry.kind
  else if entryPath = target then true
  else
    match Text.stripPrefix (target ++ ['/']) entryPath with
    | none => false
    | some rest => depthReaches depth rest entry.kind

def isCompleteDeltaCoverage : List StatusCoverageScope → Bool
  | [scope] => decide (scope.path = ".") && decide (scope.depth = "infinity")
  | _ => false

@[simp]
theorem coverageMatches_stamp (path : Text) (d : StatusRefreshDepth) (g : Nat) (e : StatusEntry) :
    coverageMatches path d (e.stamp g) = coverageMatches path d e := rfl

/-- A target of the whole working copy covers every entry. -/
theorem coverageMatches_dot_infinity (e : StatusEntry) :
    coverageMatches "." .infinity e = true := by
  have hdot : Text.forwardSlashes "." = "." := by decide
  unfold coverageMatches
  rw [if_pos hdot]
  split
  · rfl
  · rfl

/-! ## Summaries

The counters are `u32` and wrap; their differences are `i32` and wrap too. -/

def toU32 (n : Nat) : Nat := n % 2 ^ 32

/-- `n as i32` for a `u32` value, and the value of a wrapping `i32` subtraction. -/
def toI32 (n : Int) : Int := n.bmod (2 ^ 32)

/-- One turn of the loop of `summarize_entries`. -/
def summarizeEntry (artifactPaths : List Text) (summary : StatusSummary) (entry : StatusEntry) :
    StatusSummary :=
  if notConflictArtifact artifactPaths entry then
    { summary with
      localChanges :=
        if isInterestingStatus entry then toU32 (summary.localChanges + 1)
        else summary.localChanges
      unversioned :=
        if entry.localStatus = "unversioned" then toU32 (summary.unversioned + 1)
        else summary.unversioned
      conflicts :=
        if entry.conflict.isSome ∨ entry.localStatus = "conflicted" then
          toU32 (summary.conflicts + 1)
        else summary.conflicts }
  else summary

def summarizeEntries (entries : List StatusEntry) : StatusSummary :=
  entries.foldl (summarizeEntry (conflictArtifactPaths entries)) ⟨0, 0, 0, 0⟩

def summarizeSnapshotEntries (localEntries remoteEntries : List StatusEntry) : StatusSummary :=
  { summarizeEntries localEntries with
    remoteChanges := toU32 (remoteEntries.countP isProjectableRemoteStatus) }

def summaryDelta (before after : StatusSummary) : StatusSummaryDelta where
  localChanges := toI32 (toI32 after.localChanges - toI32 before.localChanges)
  remoteChanges := toI32 (toI32 after.remoteChanges - toI32 before.remoteChanges)
  conflicts := toI32 (toI32 after.conflicts - toI32 before.conflicts)
  unversioned := toI32 (toI32 after.unversioned - toI32 before.unversioned)

/-- Both `i32` conversions and the subtraction are exact below `2 ^ 31`. -/
theorem toI32_sub {a b : Nat} (ha : a < 2 ^ 31) (hb : b < 2 ^ 31) :
    toI32 (toI32 a - toI32 b) = (a : Int) - b := by
  unfold toI32
  rw [Int.bmod_eq_of_le (n := (a : Int)) (by omega) (by omega),
    Int.bmod_eq_of_le (n := (b : Int)) (by omega) (by omega),
    Int.bmod_eq_of_le (by omega) (by omega)]

/-- An `i32` is a safe integer. -/
theorem toI32_bounds (n : Int) : -(2 ^ 31) ≤ toI32 n ∧ toI32 n < 2 ^ 31 := by
  unfold toI32
  have hle := Int.le_bmod (x := n) (m := 2 ^ 32) (by decide)
  have hlt := Int.bmod_lt (x := n) (m := 2 ^ 32) (by decide)
  omega

theorem toU32_le (n : Nat) : toU32 n ≤ n := Nat.mod_le n _

variable {n : Nat}

/-- One entry raises each counter by at most one. -/
theorem summarizeEntry_below (ps : List Text) {s : StatusSummary} (e : StatusEntry)
    (h : s.Below n) :
    (summarizeEntry ps s e).Below (n + 1) := by
  have hl := toU32_le (s.localChanges + 1)
  have hu := toU32_le (s.unversioned + 1)
  have hc := toU32_le (s.conflicts + 1)
  obtain ⟨_, _⟩ := h
  unfold summarizeEntry
  split
  · refine ⟨?_, ?_, ?_, ?_⟩ <;> dsimp only
    · split <;> omega
    · omega
    · split <;> omega
    · split <;> omega
  · exact ⟨by omega, by omega, by omega, by omega⟩

theorem foldl_summarizeEntry_below (ps : List Text) {s : StatusSummary} (entries : List StatusEntry)
    (h : s.Below n) :
    (entries.foldl (summarizeEntry ps) s).Below (n + entries.length) := by
  induction entries generalizing n s with
  | nil => exact h
  | cons e rest ih =>
    have hrest := ih (summarizeEntry_below ps e h)
    rw [List.foldl_cons, List.length_cons]
    exact hrest.mono (by omega)

/-- No local count exceeds the number of entries. -/
theorem summarizeEntries_below (entries : List StatusEntry) :
    (summarizeEntries entries).Below entries.length := by
  have hzero : (⟨0, 0, 0, 0⟩ : StatusSummary).Below 0 := ⟨le_rfl, le_rfl, le_rfl, le_rfl⟩
  have hloop := foldl_summarizeEntry_below (conflictArtifactPaths entries) entries hzero
  rwa [Nat.zero_add] at hloop

theorem summarizeSnapshotEntries_below {localEntries remoteEntries : List StatusEntry}
    (hlocal : localEntries.length ≤ n) (hremote : remoteEntries.length ≤ n) :
    (summarizeSnapshotEntries localEntries remoteEntries).Below n := by
  have hloop := (summarizeEntries_below localEntries).mono hlocal
  have hcount : remoteEntries.countP isProjectableRemoteStatus ≤ remoteEntries.length :=
    List.countP_le_length
  have hu := toU32_le (remoteEntries.countP isProjectableRemoteStatus)
  exact ⟨hloop.localChanges, (hu.trans hcount).trans hremote, hloop.conflicts, hloop.unversioned⟩

end SubversionR

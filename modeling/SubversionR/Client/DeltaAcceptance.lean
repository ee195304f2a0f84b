import SubversionR.Client.RefreshRpc

/-!
# Delta acceptance — which deltas the extension accepts

`parseStatusDelta` reads the JSON of a delta back and checks it on the way.  Each part of it
returns what was encoded, under exactly the conditions collected here:

* `StatusEntry.Accepted` — an entry, its conflict artifacts included;
* `StatusDelta.Accepted` — a delta, with the checks that compare its lists;
* `parseStatusDelta_accepts` — the reader accepts a delta exactly under these conditions, and
  returns the delta that was sent.
-/

namespace SubversionR

open JsonValues Fallible

/-- A text that may be missing is not blank. -/
def NullableAccepted (text : Option Text) : Prop := ∀ t ∈ text, t.nonBlankJs = true

structure LockInfo.Accepted (lock : LockInfo) : Prop where
  token : NullableAccepted lock.token
  owner : NullableAccepted lock.owner
  comment : NullableAccepted lock.comment
  createdDate : NullableAccepted lock.createdDate
  expiresDate : NullableAccepted lock.expiresDate

/-- One path in a list of conflict artifacts. -/
structure ArtifactAccepted (platform : Platform) (entryPath artifact : Text) : Prop where
  path : isMessagePath artifact = true
  ne_dot : artifact ≠ "."
  ne_owner : canonicalStatusPathKey platform artifact ≠ canonicalStatusPathKey platform entryPath
  notAdmin : hasWorkingCopyAdminComponent artifact = false

structure ArtifactsAccepted (platform : Platform) (entryPath : Text) (artifacts : List Text) :
    Prop where
  length_le : artifacts.length ≤ maxConflictArtifactsPerEntry
  each : ∀ artifact ∈ artifacts, ArtifactAccepted platform entryPath artifact
  distinct : (artifacts.map (canonicalStatusPathKey platform)).Nodup
  sorted : artifacts.IsChain fun a b => compareUtf8 a b = .lt

/-- What `parseStatusEntry` checks of an entry, apart from its generation. -/
structure StatusEntry.Accepted (platform : Platform) (source : EntrySource) (entry : StatusEntry) :
    Prop where
  path : isMessagePath entry.path = true
  kind : entry.kind.nonBlankJs = true
  nodeStatus : entry.nodeStatus.nonBlankJs = true
  textStatus : entry.textStatus.nonBlankJs = true
  propertyStatus : entry.propertyStatus.nonBlankJs = true
  localStatus : entry.localStatus.nonBlankJs = true
  remoteStatus : entry.remoteStatus.nonBlankJs = true
  revision : isSafeInteger entry.revision = true
  changedRevision : isSafeInteger entry.changedRevision = true
  changedAuthor : NullableAccepted entry.changedAuthor
  changedDate : NullableAccepted entry.changedDate
  changelist : NullableAccepted entry.changelist
  lock : ∀ lock ∈ entry.lock, lock.Accepted
  copy : NullableAccepted entry.copy
  move : NullableAccepted entry.move
  depth : entry.depth.nonBlankJs = true
  conflict : NullableAccepted entry.conflict
  conflictArtifacts : ArtifactsAccepted platform entry.path entry.conflictArtifacts
  conflicted : entry.conflictArtifacts = [] ∨ source = .ofLocal ∧
    hasConflict entry.conflict entry.localStatus entry.nodeStatus entry.textStatus
      entry.propertyStatus = true

/-! ## Entries -/

variable {field : Text}

theorem parseLockInfo_accepts {lock : Option LockInfo} :
    Accepts (parseLockInfo (some (Json.nullable LockInfo.toJson lock)) field) lock
      (∀ l ∈ lock, l.Accepted) := by
  cases lock with
  | none => exact .congr .pure (by simp)
  | some lock =>
    refine .congr (.bind requireRecord_accepts
      (.bind (requireExactKeys_accepts (by simp))
      (.bind requireNullableString_accepts
      (.bind requireNullableString_accepts
      (.bind requireNullableString_accepts
      (.bind requireNullableString_accepts
      (.bind requireNullableString_accepts
      (.bind requireBoolean_accepts .pure)))))))) ?_
    simp only [Option.mem_some_iff, forall_eq']
    exact ⟨fun h => ⟨h.2.2.1, h.2.2.2.1, h.2.2.2.2.1, h.2.2.2.2.2.1, h.2.2.2.2.2.2.1⟩,
      fun h => ⟨trivial, trivial, h.token, h.owner, h.comment, h.createdDate, h.expiresDate,
        trivial, trivial⟩⟩

variable {platform : Platform}

/-- The loop over the artifacts; `seen` and `previous` are what it has passed. -/
theorem parseConflictArtifactsFrom_accepts {entryPath : Text} (index : Nat) (seen : List Text)
    (previous : Option Text) (artifacts : List Text) :
    Accepts (parseConflictArtifactsFrom platform field (canonicalStatusPathKey platform entryPath)
        index seen previous (artifacts.map Json.str)) artifacts
      ((∀ artifact ∈ artifacts, ArtifactAccepted platform entryPath artifact) ∧
        (artifacts.map (canonicalStatusPathKey platform)).Nodup ∧
        (∀ artifact ∈ artifacts, canonicalStatusPathKey platform artifact ∉ seen) ∧
        (previous.toList ++ artifacts).IsChain fun a b => compareUtf8 a b = .lt) := by
  -- `seen` and `previous` carry what the loop has read
  induction artifacts generalizing index seen previous with
  | nil =>
    refine .congr .pure ?_
    cases previous with
    | none => simp
    | some last => simp
  | cons artifact rest ih =>
    have hrest := ih (index + 1) (canonicalStatusPathKey platform artifact :: seen) (some artifact)
    refine .congr (.bind requirePath_accepts
      (.bind .require (.bind hrest .pure))) ?_
    rw [List.forall_mem_cons, List.forall_mem_cons, List.map_cons, List.nodup_cons]
    have hchain : (previous.toList ++ artifact :: rest).IsChain (fun a b => compareUtf8 a b = .lt) ↔
        (∀ last ∈ previous, compareUtf8 last artifact = .lt) ∧
          (artifact :: rest).IsChain (fun a b => compareUtf8 a b = .lt) := by
      cases previous with
      | none => simp
      | some last => simp [List.isChain_cons_cons]
    rw [hchain]
    constructor
    · intro ⟨hpath, ⟨hdot, howner, hadmin, hseen, hlast⟩, ⟨heach, hnodup, hunseen, hsorted⟩, _⟩
      refine ⟨⟨⟨hpath, hdot, howner, hadmin⟩, heach⟩, ⟨?_, hnodup⟩, ⟨hseen, ?_⟩, hlast, hsorted⟩
      · intro hmem
        obtain ⟨a, ha, hkey⟩ := List.mem_map.mp hmem
        exact hunseen a ha (hkey ▸ List.mem_cons_self)
      · intro a ha hmem
        exact hunseen a ha (List.mem_cons_of_mem _ hmem)
    · intro ⟨⟨h, heach⟩, ⟨hfresh, hnodup⟩, ⟨hseen, hunseen⟩, hlast, hsorted⟩
      refine ⟨h.path, ⟨h.ne_dot, h.ne_owner, h.notAdmin, hseen, hlast⟩,
        ⟨heach, hnodup, ?_, hsorted⟩, trivial⟩
      intro a ha hmem
      rcases List.mem_cons.mp hmem with hkey | hmem
      · exact hfresh (hkey ▸ List.mem_map_of_mem ha)
      · exact hunseen a ha hmem

theorem parseConflictArtifacts_accepts {entryPath : Text} {artifacts : List Text} :
    Accepts (parseConflictArtifacts platform (some (.arr (artifacts.map Json.str))) field entryPath)
      artifacts (ArtifactsAccepted platform entryPath artifacts) := by
  refine .congr (.bind requireArray_accepts (.bind .require
    (parseConflictArtifactsFrom_accepts 0 [] none artifacts))) ?_
  simp only [List.length_map, List.not_mem_nil, not_false_eq_true, implies_true, true_and,
    Option.toList_none, List.nil_append]
  exact ⟨fun h => ⟨h.1, h.2.1, h.2.2.1, h.2.2.2⟩,
    fun h => ⟨h.length_le, h.each, h.distinct, h.sorted⟩⟩

variable {source : EntrySource}

theorem parseStatusEntry_accepts {deltaGeneration : Nat} {entry : StatusEntry} :
    Accepts (parseStatusEntry platform entry.toJson field deltaGeneration source) entry
      ((entry.generation < 2 ^ 53 ∧ entry.generation = deltaGeneration) ∧
        entry.Accepted platform source) := by
  refine .congr (.bind requireRecord_accepts
    (.bind (requireExactKeys_accepts (by simp))
    (.bind requireNonNegativeInteger_accepts
    (.bind .require
    (.bind requirePath_accepts
    (.bind requireNullableString_accepts
    (.bind requireString_accepts
    (.bind requireString_accepts
    (.bind requireString_accepts
    (.bind requireString_accepts
    (.bind parseConflictArtifacts_accepts
    (.bind .require
    (.bind requireString_accepts
    (.bind requireString_accepts
    (.bind requireInteger_accepts
    (.bind requireInteger_accepts
    (.bind requireNullableString_accepts
    (.bind requireNullableString_accepts
    (.bind requireNullableString_accepts
    (.bind parseLockInfo_accepts
    (.bind requireBoolean_accepts
    (.bind requireNullableString_accepts
    (.bind requireNullableString_accepts
    (.bind requireBoolean_accepts
    (.bind requireString_accepts
    (.bind requireBoolean_accepts .pure)))))))))))))))))))))))))) ?_
  constructor
  · intro ⟨_, _, hbound, hgeneration, hpath, hconflict, hlocal, hnode, htext, hproperty, hartifacts,
      hconflicted, hkind, hremote, hrevision, hchanged, hauthor, hdate, hchangelist, hlock, _,
      hcopy, hmove, _, hdepth, _, _⟩
    exact ⟨⟨hbound, hgeneration⟩, hpath, hkind, hnode, htext, hproperty, hlocal, hremote, hrevision,
      hchanged, hauthor, hdate, hchangelist, hlock, hcopy, hmove, hdepth, hconflict, hartifacts,
      hconflicted⟩
  · intro ⟨⟨hbound, hgeneration⟩, h⟩
    exact ⟨trivial, trivial, hbound, hgeneration, h.path, h.conflict, h.localStatus, h.nodeStatus,
      h.textStatus, h.propertyStatus, h.conflictArtifacts, h.conflicted, h.kind, h.remoteStatus,
      h.revision, h.changedRevision, h.changedAuthor, h.changedDate, h.changelist, h.lock, trivial,
      h.copy, h.move, trivial, h.depth, trivial, trivial⟩

/-- A file with a valid path and a status is accepted. -/
theorem StatusEntry.file_accepted {path status : Text} (hpath : isMessagePath path = true)
    (hstatus : status.nonBlankJs = true) :
    (StatusEntry.file path status).Accepted platform source where
  path := hpath
  kind := show Text.nonBlankJs "file" = true by decide
  nodeStatus := hstatus
  textStatus := hstatus
  propertyStatus := show Text.nonBlankJs "none" = true by decide
  localStatus := hstatus
  remoteStatus := show Text.nonBlankJs "notChecked" = true by decide
  revision := show isSafeInteger 1 = true by decide
  changedRevision := show isSafeInteger 1 = true by decide
  changedAuthor := fun _ h => by cases h
  changedDate := fun _ h => by cases h
  changelist := fun _ h => by cases h
  lock := fun _ h => by cases h
  copy := fun _ h => by cases h
  move := fun _ h => by cases h
  depth := show Text.nonBlankJs "unknown" = true by decide
  conflict := fun _ h => by cases h
  conflictArtifacts :=
    ⟨Nat.zero_le _, fun _ h => (List.not_mem_nil h).elim, List.nodup_nil, List.IsChain.nil⟩
  conflicted := .inl rfl

/-! ## Lists of entries and paths -/

/-- No entry lies at the path of a conflict artifact of an entry of the list. -/
def NoArtifactEntries (platform : Platform) (entries : List StatusEntry) : Prop :=
  ∀ entry ∈ entries, ∀ owner ∈ entries, ∀ artifact ∈ owner.conflictArtifacts,
    canonicalStatusPathKey platform entry.path ≠ canonicalStatusPathKey platform artifact

theorem requireNoConflictArtifactEntries_accepts {entries : List StatusEntry} :
    Accepts (requireNoConflictArtifactEntries platform entries field) ()
      (NoArtifactEntries platform entries) := by
  refine (Accepts.check 0 entries).congr ?_
  simp only [Bool.not_eq_true', decide_eq_false_iff_not, List.mem_map, List.mem_flatMap, not_exists,
    not_and]
  constructor
  · intro h entry he owner ho artifact ha heq
    exact h entry he artifact ⟨owner, ho, ha⟩ heq.symm
  · intro h entry he artifact ⟨owner, ho, ha⟩ heq
    exact h entry he owner ho artifact ha heq.symm

/-- What `parseStatusEntries` checks of a list of entries. -/
def EntriesAccepted (platform : Platform) (source : EntrySource) (generation : Nat)
    (entries : List StatusEntry) : Prop :=
  (∀ entry ∈ entries, (entry.generation < 2 ^ 53 ∧ entry.generation = generation) ∧
      entry.Accepted platform source) ∧
    (source = .ofLocal → NoArtifactEntries platform entries)

variable {generation : Nat}

theorem parseStatusEntries_accepts {entries : List StatusEntry} :
    Accepts (parseStatusEntries platform (some (.arr (entries.map StatusEntry.toJson))) field
      generation source) entries (EntriesAccepted platform source generation entries) := by
  have hitems : Accepts (readItems (fun index entry => parseStatusEntry platform entry
      (field.item index) generation source) 0 (entries.map StatusEntry.toJson)) entries _ :=
    Accepts.items (fun _ _ => parseStatusEntry_accepts) 0 entries
  cases source with
  | ofLocal =>
    refine .congr (.bind requireArray_accepts (.bind hitems
      (.bind requireNoConflictArtifactEntries_accepts .pure))) ?_
    simp [EntriesAccepted]
  | ofRemote =>
    refine .congr (.bind requireArray_accepts (.bind hitems .pure)) ?_
    simp [EntriesAccepted]

theorem parseRemovedPaths_accepts {paths : List Text} :
    Accepts (parseRemovedPaths (some (.arr (paths.map Json.str))) field) paths
      (∀ path ∈ paths, isMessagePath path = true) := by
  refine .congr (.bind requireArray_accepts
    (Accepts.items (fun _ _ => requirePath_accepts) 0 paths)) ?_
  simp

theorem requireUnique_accepts {α : Type} [DecidableEq α] {err : Nat → RpcError} {items : List α} :
    Accepts (checkUnique err 0 [] items) () items.Nodup := by
  refine (Accepts.unique 0 [] items).congr ?_
  simp

theorem requireNoDeltaPathOverlap_accepts {upsert : List StatusEntry} {remove : List Text} :
    Accepts (requireNoDeltaPathOverlap upsert remove field) ()
      (∀ path ∈ remove, path ∉ upsert.map StatusEntry.path) := by
  refine (Accepts.check 0 remove).congr ?_
  simp

/-! ## Coverage and counts -/

/-- What `parseCoverageScope` checks of a scope. -/
structure StatusCoverageScope.Accepted (generation : Nat) (scope : StatusCoverageScope) :
    Prop where
  generation_lt : scope.generation < 2 ^ 53
  generation_eq : scope.generation = generation
  path : isMessagePath scope.path = true
  depth : scope.depth.nonBlankJs = true
  reason : scope.reason.nonBlankJs = true

theorem parseCoverageScope_accepts {scope : StatusCoverageScope} :
    Accepts (parseCoverageScope scope.toJson field generation) scope
      (scope.Accepted generation) := by
  refine .congr (.bind requireRecord_accepts
    (.bind (requireExactKeys_accepts (by simp))
    (.bind requireNonNegativeInteger_accepts
    (.bind .require
    (.bind requirePath_accepts
    (.bind requireString_accepts
    (.bind requireString_accepts .pure))))))) ?_
  exact ⟨fun h => ⟨h.2.2.1, h.2.2.2.1, h.2.2.2.2.1, h.2.2.2.2.2.1, h.2.2.2.2.2.2.1⟩,
    fun h => ⟨trivial, trivial, h.generation_lt, h.generation_eq, h.path, h.depth, h.reason,
      trivial⟩⟩

theorem parseCoverage_accepts {coverage : List StatusCoverageScope} :
    Accepts (parseCoverage (some (.arr (coverage.map StatusCoverageScope.toJson))) field generation)
      coverage (∀ scope ∈ coverage, scope.Accepted generation) := by
  refine .congr (.bind requireArray_accepts
    (Accepts.items (fun _ _ => parseCoverageScope_accepts) 0 coverage)) ?_
  simp

structure StatusSummaryDelta.Accepted (summary : StatusSummaryDelta) : Prop where
  localChanges : isSafeInteger summary.localChanges = true
  remoteChanges : isSafeInteger summary.remoteChanges = true
  conflicts : isSafeInteger summary.conflicts = true
  unversioned : isSafeInteger summary.unversioned = true

theorem parseSummaryDelta_accepts {summary : StatusSummaryDelta} :
    Accepts (parseSummaryDelta (some summary.toJson) field) summary summary.Accepted := by
  refine .congr (.bind requireRecord_accepts
    (.bind (requireExactKeys_accepts (by simp))
    (.bind requireInteger_accepts
    (.bind requireInteger_accepts
    (.bind requireInteger_accepts
    (.bind requireInteger_accepts .pure)))))) ?_
  exact ⟨fun h => ⟨h.2.2.1, h.2.2.2.1, h.2.2.2.2.1, h.2.2.2.2.2.1⟩,
    fun h => ⟨trivial, trivial, h.localChanges, h.remoteChanges, h.conflicts, h.unversioned,
      trivial⟩⟩

/-! ## Deltas -/

/-- The three words a delta may report about its completeness. -/
def CompletenessAccepted (completeness : Text) : Prop :=
  completeness = "complete" ∨ completeness = "partial" ∨ completeness = "stale"

theorem requireCompleteness_accepts {completeness : Text} :
    Accepts (requireCompleteness (some (.str completeness)) field) completeness
      (CompletenessAccepted completeness) := by
  refine .congr (.bind requireString_accepts
    (.bind .require .pure)) ?_
  refine ⟨fun h => h.2.1, fun h => ⟨?_, h, trivial⟩⟩
  rcases h with rfl | rfl | rfl <;> decide

/-- The conditions under which the extension accepts a delta. -/
structure StatusDelta.Accepted (platform : Platform) (delta : StatusDelta) : Prop where
  generation : delta.generation < 2 ^ 53
  upsert : EntriesAccepted platform .ofLocal delta.generation delta.upsert
  remove : ∀ path ∈ delta.remove, isMessagePath path = true
  remoteUpsert : EntriesAccepted platform .ofRemote delta.generation delta.remoteUpsert
  remoteRemove : ∀ path ∈ delta.remoteRemove, isMessagePath path = true
  upsert_nodup : (delta.upsert.map StatusEntry.path).Nodup
  remove_nodup : delta.remove.Nodup
  noOverlap : ∀ path ∈ delta.remove, path ∉ delta.upsert.map StatusEntry.path
  remoteUpsert_nodup : (delta.remoteUpsert.map StatusEntry.path).Nodup
  remoteRemove_nodup : delta.remoteRemove.Nodup
  noRemoteOverlap : ∀ path ∈ delta.remoteRemove, path ∉ delta.remoteUpsert.map StatusEntry.path
  repositoryId : delta.repositoryId.nonBlankJs = true
  epoch : delta.epoch < 2 ^ 53
  coverage : ∀ scope ∈ delta.coverage, scope.Accepted delta.generation
  summaryDelta : delta.summaryDelta.Accepted
  completeness : CompletenessAccepted delta.completeness
  timestamp : delta.timestamp.nonBlankJs = true
  source : delta.source.nonBlankJs = true

/-- **The reader and the writer agree.**  A delta is accepted exactly when it satisfies
`StatusDelta.Accepted`, and what the extension then holds is the delta the daemon wrote. -/
theorem parseStatusDelta_accepts {delta : StatusDelta} :
    Accepts (parseStatusDelta platform delta.toJson) delta (delta.Accepted platform) := by
  refine .congr (.bind requireRecord_accepts
    (.bind (requireExactKeys_accepts (by simp))
    (.bind requireNonNegativeInteger_accepts
    (.bind parseStatusEntries_accepts
    (.bind parseRemovedPaths_accepts
    (.bind parseStatusEntries_accepts
    (.bind parseRemovedPaths_accepts
    (.bind requireUnique_accepts
    (.bind requireUnique_accepts
    (.bind requireNoDeltaPathOverlap_accepts
    (.bind requireUnique_accepts
    (.bind requireUnique_accepts
    (.bind requireNoDeltaPathOverlap_accepts
    (.bind requireString_accepts
    (.bind requireNonNegativeInteger_accepts
    (.bind parseCoverage_accepts
    (.bind parseSummaryDelta_accepts
    (.bind requireCompleteness_accepts
    (.bind requireString_accepts
    (.bind requireString_accepts .pure)))))))))))))))))))) ?_
  constructor
  · intro ⟨_, _, hgeneration, hupsert, hremove, hremoteUpsert, hremoteRemove, hupsertNodup,
      hremoveNodup, hoverlap, hremoteUpsertNodup, hremoteRemoveNodup, hremoteOverlap, hrepository,
      hepoch, hcoverage, hsummary, hcompleteness, htimestamp, hsource, _⟩
    exact ⟨hgeneration, hupsert, hremove, hremoteUpsert, hremoteRemove, hupsertNodup, hremoveNodup,
      hoverlap, hremoteUpsertNodup, hremoteRemoveNodup, hremoteOverlap, hrepository, hepoch,
      hcoverage, hsummary, hcompleteness, htimestamp, hsource⟩
  · intro h
    exact ⟨trivial, trivial, h.generation, h.upsert, h.remove, h.remoteUpsert, h.remoteRemove,
      h.upsert_nodup, h.remove_nodup, h.noOverlap, h.remoteUpsert_nodup, h.remoteRemove_nodup,
      h.noRemoteOverlap, h.repositoryId, h.epoch, h.coverage, h.summaryDelta, h.completeness,
      h.timestamp, h.source, trivial⟩

theorem requireDeltaMatchesRequest_accepts {delta : StatusDelta} {request : StatusRefreshRequest} :
    Accepts (requireDeltaMatchesRequest delta request) ()
      (delta.repositoryId = request.repositoryId ∧ delta.epoch = request.epoch) :=
  Accepts.bind Accepts.require Accepts.require

end SubversionR

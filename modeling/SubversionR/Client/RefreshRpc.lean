import SubversionR.Daemon.Paths
import SubversionR.Wire
import SubversionR.Client.Values

/-!
# StatusRefreshRpcClient — what the extension sends and accepts

`statusRefreshRpcClient.ts`: `validateRefreshRequest` checks a request before it is sent,
`parseStatusDelta` and `requireDeltaMatchesRequest` check the answer.

* `validateRefreshRequest_accepts` — the requests that are sent;
* `parseStatusDelta` — the reader of an answer; `Client.DeltaAcceptance` says what it accepts.
-/

namespace SubversionR

open JsonValues Fallible

def invalidRefreshRequest (field : Text) : RpcError where
  code := "SUBVERSIONR_STATUS_REFRESH_REQUEST_INVALID"
  category := "input"
  messageKey := "error.status.refreshRequestInvalid"
  field := field

def invalidRefreshResponse (field : Text) : RpcError where
  code := "SUBVERSIONR_STATUS_REFRESH_RESPONSE_INVALID"
  category := "protocol"
  messageKey := "error.status.refreshResponseInvalid"
  field := field

/-! ## Requests -/

def requireRequestRecord := requireRecord invalidRefreshRequest

def requireExactRequestKeys := requireExactKeys invalidRefreshRequest "request"

def requireRequestString := requireString invalidRefreshRequest

def requireRequestPath := requirePath invalidRefreshRequest

def requireRefreshDepth (value : Option Json) (field : Text) :
    Except RpcError StatusRefreshDepth := do
  let depth ← requireRequestString value field
  match StatusRefreshDepth.ofWord? depth with
  | some depth => pure depth
  | none => throw (invalidRefreshRequest field)

def validateRefreshTarget (target : Json) (field : Text) : Except RpcError StatusRefreshTarget := do
  let targetRecord ← requireRequestRecord (some target) field
  requireExactRequestKeys targetRecord field ["path", "depth", "reason"]
  let path ← requireRequestPath (targetRecord.prop "path") (field.dot "path")
  let depth ← requireRefreshDepth (targetRecord.prop "depth") (field.dot "depth")
  let reason ← requireRequestString (targetRecord.prop "reason") (field.dot "reason")
  pure { path, depth, reason }

def validateRefreshRequest (request : Json) : Except RpcError StatusRefreshRequest := do
  -- a request that is no record is reported at its first field
  let request ← requireRequestRecord (some request) "repositoryId"
  requireExactRequestKeys request "request" ["repositoryId", "epoch", "targets"]
  let repositoryId ← requireRequestString (request.prop "repositoryId") "repositoryId"
  let epoch ← requireNonNegativeInteger invalidRefreshRequest (request.prop "epoch") "epoch"
  let targets ← requireArray invalidRefreshRequest (request.prop "targets") "targets"
  require (targets ≠ []) (invalidRefreshRequest "targets")
  let targets ← readItems
    (fun index target => validateRefreshTarget target (Text.item "targets" index)) 0 targets
  pure { repositoryId, epoch, targets }

/-- A target both fields of which `validateRefreshTarget` accepts. -/
structure StatusRefreshTarget.Sendable (target : StatusRefreshTarget) : Prop where
  path : isMessagePath target.path = true
  reason : target.reason.nonBlankJs = true

theorem requireRefreshDepth_accepts {depth : StatusRefreshDepth} {field : Text} :
    Accepts (requireRefreshDepth (some (.str depth.word)) field) depth True := by
  have hword : Text.nonBlankJs depth.word = true := by cases depth <;> decide
  have hread : requireRequestString (some (.str depth.word)) field = .ok depth.word :=
    requireString_accepts.ok_iff.mpr hword
  unfold requireRefreshDepth
  rw [hread]
  have hdepth := StatusRefreshDepth.ofWord?_word depth
  show Accepts (match StatusRefreshDepth.ofWord? depth.word with
    | some depth => pure depth
    | none => throw (invalidRefreshRequest field)) depth True
  rw [hdepth]
  exact Accepts.pure

theorem validateRefreshTarget_accepts {target : StatusRefreshTarget} {field : Text} :
    Accepts (validateRefreshTarget target.toJson field) target target.Sendable := by
  refine .congr (.bind requireRecord_accepts
    (.bind (requireExactKeys_accepts (by simp))
    (.bind requirePath_accepts
    (.bind requireRefreshDepth_accepts
    (.bind requireString_accepts .pure))))) ?_
  exact ⟨fun h => ⟨h.2.2.1, h.2.2.2.2.1⟩,
    fun h => ⟨trivial, trivial, h.path, trivial, h.reason, trivial⟩⟩

/-- **Requests that are sent.**  The extension sends a request about a named repository when it
has targets and each of them is sendable. -/
theorem validateRefreshRequest_accepts {request : StatusRefreshRequest} :
    Accepts (validateRefreshRequest request.toJson) request
      (request.repositoryId.nonBlankJs = true ∧ request.epoch < 2 ^ 53 ∧ request.targets ≠ [] ∧
        ∀ target ∈ request.targets, target.Sendable) := by
  refine .congr (.bind requireRecord_accepts
    (.bind (requireExactKeys_accepts (by simp))
    (.bind requireString_accepts
    (.bind requireNonNegativeInteger_accepts
    (.bind requireArray_accepts
    (.bind .require
    (.bind (Accepts.items (fun _ _ => validateRefreshTarget_accepts) 0 request.targets)
    .pure))))))) ?_
  simp

/-! ## Responses -/

def requireResponseRecord := requireRecord invalidRefreshResponse

def requireExactResponseKeys := requireExactKeys invalidRefreshResponse "result"

def requireResponseString := requireString invalidRefreshResponse

def requireResponsePath := requirePath invalidRefreshResponse

def requireResponseNullableString := requireNullableString invalidRefreshResponse

def requireResponseInteger := requireInteger invalidRefreshResponse

def requireResponseNonNegativeInteger := requireNonNegativeInteger invalidRefreshResponse

def requireResponseBoolean := requireBoolean invalidRefreshResponse

/-- `MAX_CONFLICT_ARTIFACTS_PER_ENTRY`. -/
def maxConflictArtifactsPerEntry : Nat := 4

/-- `canonicalStatusPathKey`: ASCII letters fold on Windows, as in the daemon's keys. -/
def canonicalStatusPathKey (platform : Platform) (path : Text) : Text := foldCase platform path

/-- Only `s`, `S`, `v`, `V`, `n` and `N` lower to a letter of `.svn`, so that folding ASCII letters
decides what `toLowerCase` decides. -/
def hasWorkingCopyAdminComponent (path : Text) : Bool :=
  (path.splitOn '/').any fun component => decide (Text.toAsciiLowercase component = ".svn")

def compareUtf8 (left right : Text) : Ordering := compare left.utf8 right.utf8

/-- Which list of a delta an entry stands in. -/
inductive EntrySource where
  | ofLocal
  | ofRemote
deriving DecidableEq

/-- The callback of `parseConflictArtifacts`, with the variables it updates. -/
def parseConflictArtifactsFrom (platform : Platform) (field entryPathKey : Text) :
    Nat → List Text → Option Text → List Json → Except RpcError (List Text)
  | _, _, _, [] => pure []
  | index, seen, previous, artifact :: rest => do
    let path ← requireResponsePath (some artifact) (field.item index)
    let pathKey := canonicalStatusPathKey platform path
    require (path ≠ "." ∧ pathKey ≠ entryPathKey ∧ hasWorkingCopyAdminComponent path = false ∧
      pathKey ∉ seen ∧ ∀ last ∈ previous, compareUtf8 last path = .lt)
      (invalidRefreshResponse (field.item index))
    let others ← parseConflictArtifactsFrom platform field entryPathKey (index + 1)
      (pathKey :: seen) (some path) rest
    pure (path :: others)

def parseConflictArtifacts (platform : Platform) (rawArtifacts : Option Json) (field : Text)
    (entryPath : Text) : Except RpcError (List Text) := do
  let artifacts ← requireArray invalidRefreshResponse rawArtifacts field
  require (artifacts.length ≤ maxConflictArtifactsPerEntry) (invalidRefreshResponse field)
  parseConflictArtifactsFrom platform field (canonicalStatusPathKey platform entryPath) 0 [] none
    artifacts

def hasConflict (conflict : Option Text) (localStatus nodeStatus textStatus propertyStatus : Text) :
    Bool :=
  conflict.isSome || decide (localStatus = "conflicted") || decide (nodeStatus = "conflicted")
    || decide (textStatus = "conflicted") || decide (propertyStatus = "conflicted")

def parseLockInfo (rawLock : Option Json) (field : Text) : Except RpcError (Option LockInfo) :=
  match rawLock with
  | some .null => pure none
  | _ => do
    let lock ← requireResponseRecord rawLock field
    requireExactResponseKeys lock field
      ["token", "owner", "comment", "createdDate", "expiresDate", "isRemote"]
    let token ← requireResponseNullableString (lock.prop "token") (field.dot "token")
    let owner ← requireResponseNullableString (lock.prop "owner") (field.dot "owner")
    let comment ← requireResponseNullableString (lock.prop "comment") (field.dot "comment")
    let createdDate ←
      requireResponseNullableString (lock.prop "createdDate") (field.dot "createdDate")
    let expiresDate ←
      requireResponseNullableString (lock.prop "expiresDate") (field.dot "expiresDate")
    let isRemote ← requireResponseBoolean (lock.prop "isRemote") (field.dot "isRemote")
    pure (some { token, owner, comment, createdDate, expiresDate, isRemote })

def parseStatusEntry (platform : Platform) (rawEntry : Json) (field : Text) (deltaGeneration : Nat)
    (source : EntrySource) : Except RpcError StatusEntry := do
  let entry ← requireResponseRecord (some rawEntry) field
  requireExactResponseKeys entry field
    ["path", "kind", "nodeStatus", "textStatus", "propertyStatus", "localStatus", "remoteStatus",
      "revision", "changedRevision", "changedAuthor", "changedDate", "changelist", "lock",
      "needsLock", "copy", "move", "switched", "depth", "conflict", "conflictArtifacts",
      "external", "generation"]
  let generation ←
    requireResponseNonNegativeInteger (entry.prop "generation") (field.dot "generation")
  require (generation = deltaGeneration) (invalidRefreshResponse (field.dot "generation"))
  let path ← requireResponsePath (entry.prop "path") (field.dot "path")
  let conflict ← requireResponseNullableString (entry.prop "conflict") (field.dot "conflict")
  let localStatus ← requireResponseString (entry.prop "localStatus") (field.dot "localStatus")
  let nodeStatus ← requireResponseString (entry.prop "nodeStatus") (field.dot "nodeStatus")
  let textStatus ← requireResponseString (entry.prop "textStatus") (field.dot "textStatus")
  let propertyStatus ←
    requireResponseString (entry.prop "propertyStatus") (field.dot "propertyStatus")
  let conflictArtifacts ← parseConflictArtifacts platform (entry.prop "conflictArtifacts")
    (field.dot "conflictArtifacts") path
  require (conflictArtifacts = [] ∨ source = .ofLocal ∧
    hasConflict conflict localStatus nodeStatus textStatus propertyStatus = true)
    (invalidRefreshResponse (field.dot "conflictArtifacts"))
  let kind ← requireResponseString (entry.prop "kind") (field.dot "kind")
  let remoteStatus ← requireResponseString (entry.prop "remoteStatus") (field.dot "remoteStatus")
  let revision ← requireResponseInteger (entry.prop "revision") (field.dot "revision")
  let changedRevision ←
    requireResponseInteger (entry.prop "changedRevision") (field.dot "changedRevision")
  let changedAuthor ←
    requireResponseNullableString (entry.prop "changedAuthor") (field.dot "changedAuthor")
  let changedDate ←
    requireResponseNullableString (entry.prop "changedDate") (field.dot "changedDate")
  let changelist ← requireResponseNullableString (entry.prop "changelist") (field.dot "changelist")
  let lock ← parseLockInfo (entry.prop "lock") (field.dot "lock")
  let needsLock ← requireResponseBoolean (entry.prop "needsLock") (field.dot "needsLock")
  let copy ← requireResponseNullableString (entry.prop "copy") (field.dot "copy")
  let move ← requireResponseNullableString (entry.prop "move") (field.dot "move")
  let switched ← requireResponseBoolean (entry.prop "switched") (field.dot "switched")
  let depth ← requireResponseString (entry.prop "depth") (field.dot "depth")
  let external ← requireResponseBoolean (entry.prop "external") (field.dot "external")
  pure { path, kind, nodeStatus, textStatus, propertyStatus, localStatus, remoteStatus, revision,
         changedRevision, changedAuthor, changedDate, changelist, lock, needsLock, copy, move,
         switched, depth, conflict, conflictArtifacts, external, generation }

def requireNoConflictArtifactEntries (platform : Platform) (entries : List StatusEntry)
    (field : Text) : Except RpcError Unit :=
  let artifactPaths :=
    (entries.flatMap StatusEntry.conflictArtifacts).map (canonicalStatusPathKey platform)
  checkItems (fun entry => !decide (canonicalStatusPathKey platform entry.path ∈ artifactPaths))
    (fun index _ => invalidRefreshResponse ((field.item index).dot "path")) 0 entries

def parseStatusEntries (platform : Platform) (rawEntries : Option Json) (field : Text)
    (deltaGeneration : Nat) (source : EntrySource) : Except RpcError (List StatusEntry) := do
  let rawEntries ← requireArray invalidRefreshResponse rawEntries field
  let entries ← readItems
    (fun index entry => parseStatusEntry platform entry (field.item index) deltaGeneration source)
    0 rawEntries
  match source with
  | .ofLocal => requireNoConflictArtifactEntries platform entries field
  | .ofRemote => pure ()
  pure entries

def parseRemovedPaths (rawPaths : Option Json) (field : Text) : Except RpcError (List Text) := do
  let rawPaths ← requireArray invalidRefreshResponse rawPaths field
  readItems (fun index path => requireResponsePath (some path) (field.item index)) 0 rawPaths

def requireUniqueEntryPaths (entries : List StatusEntry) (field : Text) : Except RpcError Unit :=
  checkUnique (fun index => invalidRefreshResponse ((field.item index).dot "path")) 0 []
    (entries.map StatusEntry.path)

def requireUniquePaths (paths : List Text) (field : Text) : Except RpcError Unit :=
  checkUnique (fun index => invalidRefreshResponse (field.item index)) 0 [] paths

def requireNoDeltaPathOverlap (upsert : List StatusEntry) (remove : List Text)
    (removeField : Text) : Except RpcError Unit :=
  checkItems (fun path => !decide (path ∈ upsert.map StatusEntry.path))
    (fun index _ => invalidRefreshResponse (removeField.item index)) 0 remove

def parseCoverageScope (rawScope : Json) (field : Text) (deltaGeneration : Nat) :
    Except RpcError StatusCoverageScope := do
  let scope ← requireResponseRecord (some rawScope) field
  requireExactResponseKeys scope field ["path", "depth", "generation", "reason"]
  let generation ←
    requireResponseNonNegativeInteger (scope.prop "generation") (field.dot "generation")
  require (generation = deltaGeneration) (invalidRefreshResponse (field.dot "generation"))
  let path ← requireResponsePath (scope.prop "path") (field.dot "path")
  let depth ← requireResponseString (scope.prop "depth") (field.dot "depth")
  let reason ← requireResponseString (scope.prop "reason") (field.dot "reason")
  pure { path, depth, generation, reason }

def parseCoverage (rawCoverage : Option Json) (field : Text) (deltaGeneration : Nat) :
    Except RpcError (List StatusCoverageScope) := do
  let rawCoverage ← requireArray invalidRefreshResponse rawCoverage field
  readItems (fun index scope => parseCoverageScope scope (field.item index) deltaGeneration) 0
    rawCoverage

def parseSummaryDelta (rawSummary : Option Json) (field : Text) :
    Except RpcError StatusSummaryDelta := do
  let summary ← requireResponseRecord rawSummary field
  requireExactResponseKeys summary field
    ["localChanges", "remoteChanges", "conflicts", "unversioned"]
  let localChanges ←
    requireResponseInteger (summary.prop "localChanges") (field.dot "localChanges")
  let remoteChanges ←
    requireResponseInteger (summary.prop "remoteChanges") (field.dot "remoteChanges")
  let conflicts ← requireResponseInteger (summary.prop "conflicts") (field.dot "conflicts")
  let unversioned ← requireResponseInteger (summary.prop "unversioned") (field.dot "unversioned")
  pure { localChanges, remoteChanges, conflicts, unversioned }

def requireCompleteness (value : Option Json) (field : Text) : Except RpcError Text := do
  let completeness ← requireResponseString value field
  require (completeness = "complete" ∨ completeness = "partial" ∨ completeness = "stale")
    (invalidRefreshResponse field)
  pure completeness

def parseStatusDelta (platform : Platform) (rawResponse : Json) : Except RpcError StatusDelta := do
  let response ← requireResponseRecord (some rawResponse) "result"
  requireExactResponseKeys response "result"
    ["repositoryId", "epoch", "generation", "coverage", "upsert", "remove", "remoteUpsert",
      "remoteRemove", "summaryDelta", "completeness", "timestamp", "source"]
  let generation ← requireResponseNonNegativeInteger (response.prop "generation") "generation"
  let upsert ← parseStatusEntries platform (response.prop "upsert") "upsert" generation .ofLocal
  let remove ← parseRemovedPaths (response.prop "remove") "remove"
  let remoteUpsert ←
    parseStatusEntries platform (response.prop "remoteUpsert") "remoteUpsert" generation .ofRemote
  let remoteRemove ← parseRemovedPaths (response.prop "remoteRemove") "remoteRemove"
  requireUniqueEntryPaths upsert "upsert"
  requireUniquePaths remove "remove"
  requireNoDeltaPathOverlap upsert remove "remove"
  requireUniqueEntryPaths remoteUpsert "remoteUpsert"
  requireUniquePaths remoteRemove "remoteRemove"
  requireNoDeltaPathOverlap remoteUpsert remoteRemove "remoteRemove"
  let repositoryId ← requireResponseString (response.prop "repositoryId") "repositoryId"
  let epoch ← requireResponseNonNegativeInteger (response.prop "epoch") "epoch"
  let coverage ← parseCoverage (response.prop "coverage") "coverage" generation
  let summaryDelta ← parseSummaryDelta (response.prop "summaryDelta") "summaryDelta"
  let completeness ← requireCompleteness (response.prop "completeness") "completeness"
  let timestamp ← requireResponseString (response.prop "timestamp") "timestamp"
  let source ← requireResponseString (response.prop "source") "source"
  pure { repositoryId, epoch, generation, coverage, upsert, remove, remoteUpsert, remoteRemove,
         summaryDelta, completeness, timestamp, source }

def requireDeltaMatchesRequest (delta : StatusDelta) (request : StatusRefreshRequest) :
    Except RpcError Unit := do
  require (delta.repositoryId = request.repositoryId) (invalidRefreshResponse "repositoryId")
  require (delta.epoch = request.epoch) (invalidRefreshResponse "epoch")

end SubversionR

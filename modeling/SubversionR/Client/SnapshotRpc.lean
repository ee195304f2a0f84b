import SubversionR.Client.Transport

/-!
# StatusSnapshotRpcClient — the snapshots the extension accepts

`statusSnapshotRpcClient.ts`.  The file repeats the readers of entries, artifacts and locks of
`statusRefreshRpcClient.ts` word for word and only throws its own error; `asSnapshotResponse` gives
the readers of `Client.RefreshRpc` that error.

* `parseStatusSnapshot_accepts` — what is accepted, and that it is the snapshot that was written;
* `readSnapshotReply_eq_ok_iff` — the end of `getSnapshot`.
-/

namespace SubversionR

open JsonValues Fallible

def invalidSnapshotRequest (field : Text) : RpcError where
  code := "SUBVERSIONR_STATUS_SNAPSHOT_REQUEST_INVALID"
  category := "input"
  messageKey := "error.status.snapshotRequestInvalid"
  field := field

def invalidSnapshotResponse (field : Text) : RpcError where
  code := "SUBVERSIONR_STATUS_SNAPSHOT_RESPONSE_INVALID"
  category := "protocol"
  messageKey := "error.status.snapshotResponseInvalid"
  field := field

/-- The same reader with the error of this client. -/
def asSnapshotResponse {α : Type} (read : Except RpcError α) : Except RpcError α :=
  read.mapError fun error => invalidSnapshotResponse error.field

/-- `requireSafeInteger` where the record keeps a signed number. -/
def requireSafeInteger (invalid : Text → RpcError) (value : Option Json) (field : Text) :
    Except RpcError Int := do
  let n ← requireNonNegativeInteger invalid value field
  pure (n : Int)

def parseRepositoryIdentity (rawIdentity : Option Json) (field : Text) :
    Except RpcError RepositoryIdentity := do
  let identity ← requireRecord invalidSnapshotResponse rawIdentity field
  requireExactKeys invalidSnapshotResponse "result" identity field
    ["repositoryUuid", "repositoryRootUrl", "workingCopyRoot", "workspaceScopeRoot", "format"]
  let text (key : String) :=
    requireString invalidSnapshotResponse (identity.prop key) (field.dot key)
  let repositoryUuid ← text "repositoryUuid"
  let repositoryRootUrl ← text "repositoryRootUrl"
  let workingCopyRoot ← text "workingCopyRoot"
  let workspaceScopeRoot ← text "workspaceScopeRoot"
  let format ←
    requireSafeInteger invalidSnapshotResponse (identity.prop "format") (field.dot "format")
  pure { repositoryUuid, repositoryRootUrl, workingCopyRoot, workspaceScopeRoot, format }

def parseStatusSummary (rawSummary : Option Json) (field : Text) :
    Except RpcError StatusSummary := do
  let summary ← requireRecord invalidSnapshotResponse rawSummary field
  requireExactKeys invalidSnapshotResponse "result" summary field
    ["localChanges", "remoteChanges", "conflicts", "unversioned"]
  let count (key : String) :=
    requireNonNegativeInteger invalidSnapshotResponse (summary.prop key) (field.dot key)
  let localChanges ← count "localChanges"
  let remoteChanges ← count "remoteChanges"
  let conflicts ← count "conflicts"
  let unversioned ← count "unversioned"
  pure { localChanges, remoteChanges, conflicts, unversioned }

def parseStatusSnapshot (platform : Platform) (rawResponse : Json) :
    Except RpcError StatusSnapshot := do
  let response ← requireRecord invalidSnapshotResponse (some rawResponse) "result"
  requireExactKeys invalidSnapshotResponse "result" response "result"
    ["repositoryId", "epoch", "generation", "completeness", "identity", "localEntries",
      "remoteEntries", "summary", "timestamp", "source"]
  let generation ←
    requireNonNegativeInteger invalidSnapshotResponse (response.prop "generation") "generation"
  let repositoryId ←
    requireString invalidSnapshotResponse (response.prop "repositoryId") "repositoryId"
  let epoch ← requireNonNegativeInteger invalidSnapshotResponse (response.prop "epoch") "epoch"
  let completeness ←
    asSnapshotResponse (requireCompleteness (response.prop "completeness") "completeness")
  let identity ← parseRepositoryIdentity (response.prop "identity") "identity"
  let localEntries ← asSnapshotResponse
    (parseStatusEntries platform (response.prop "localEntries") "localEntries" generation .ofLocal)
  let remoteEntries ← asSnapshotResponse
    (parseStatusEntries platform (response.prop "remoteEntries") "remoteEntries" generation
      .ofRemote)
  let summary ← parseStatusSummary (response.prop "summary") "summary"
  let timestamp ← requireString invalidSnapshotResponse (response.prop "timestamp") "timestamp"
  let source ← requireString invalidSnapshotResponse (response.prop "source") "source"
  pure { repositoryId, epoch, generation, completeness, identity, localEntries, remoteEntries,
         summary, timestamp, source }

/-! ## getSnapshot -/

structure StatusSnapshotRequest where
  repositoryId : Text
  epoch : Nat

def StatusSnapshotRequest.toJson (request : StatusSnapshotRequest) : Json :=
  .obj [("repositoryId", .str request.repositoryId), ("epoch", .int request.epoch)]

def validateSnapshotRequest (request : StatusSnapshotRequest) : Except RpcError Unit := do
  require (request.repositoryId.nonBlankJs = true) (invalidSnapshotRequest "repositoryId")
  require (isSafeInteger request.epoch = true) (invalidSnapshotRequest "epoch")

def requireSnapshotMatchesRequest (snapshot : StatusSnapshot) (request : StatusSnapshotRequest) :
    Except RpcError Unit := do
  require (snapshot.repositoryId = request.repositoryId) (invalidSnapshotResponse "repositoryId")
  require (snapshot.epoch = request.epoch) (invalidSnapshotResponse "epoch")

def readSnapshot (platform : Platform) (request : StatusSnapshotRequest) (rawResponse : Json) :
    Except RpcError StatusSnapshot := do
  let snapshot ← parseStatusSnapshot platform rawResponse
  requireSnapshotMatchesRequest snapshot request
  pure snapshot

/-- The end of `getSnapshot`, once the request is answered. -/
def readSnapshotReply (platform : Platform) (request : StatusSnapshotRequest)
    (result : Except DaemonError StatusSnapshot) : Except RequestFailure StatusSnapshot :=
  match result with
  | .error error => .error (.daemon error)
  | .ok snapshot => (readSnapshot platform request snapshot.toJson).mapError .message

/-! ## What is accepted -/

/-- What `parseRepositoryIdentity` checks of an identity. -/
structure RepositoryIdentity.Accepted (identity : RepositoryIdentity) : Prop where
  repositoryUuid : identity.repositoryUuid.nonBlankJs = true
  repositoryRootUrl : identity.repositoryRootUrl.nonBlankJs = true
  workingCopyRoot : identity.workingCopyRoot.nonBlankJs = true
  workspaceScopeRoot : identity.workspaceScopeRoot.nonBlankJs = true
  format : isSafeInteger identity.format = true ∧ 0 ≤ identity.format

variable {field : Text}

theorem requireSafeInteger_accepts {invalid : Text → RpcError} {n : Int} :
    Accepts (requireSafeInteger invalid (some (.int n)) field) n
      (isSafeInteger n = true ∧ 0 ≤ n) := by
  intro _
  unfold requireSafeInteger requireNonNegativeInteger
  dsimp only
  by_cases h : isSafeInteger n = true ∧ 0 ≤ n
  · simp only [h, and_self, if_true, pure_bind]
    rw [Int.toNat_of_nonneg h.2]
    exact ⟨fun hm => ⟨trivial, (Except.ok.inj hm).symm⟩, fun hm => by rw [hm.2]; rfl⟩
  · rw [if_neg h]
    constructor
    · intro hm
      cases hm
    · intro hm
      exact absurd hm.1 h

theorem parseRepositoryIdentity_accepts {identity : RepositoryIdentity} :
    Accepts (parseRepositoryIdentity (some identity.toJson) field) identity identity.Accepted := by
  refine .congr (.bind requireRecord_accepts
    (.bind (requireExactKeys_accepts (by simp))
    (.bind requireString_accepts
    (.bind requireString_accepts
    (.bind requireString_accepts
    (.bind requireString_accepts
    (.bind requireSafeInteger_accepts .pure))))))) ?_
  exact ⟨fun h => ⟨h.2.2.1, h.2.2.2.1, h.2.2.2.2.1, h.2.2.2.2.2.1, h.2.2.2.2.2.2.1⟩,
    fun h => ⟨trivial, trivial, h.repositoryUuid, h.repositoryRootUrl, h.workingCopyRoot,
      h.workspaceScopeRoot, h.format, trivial⟩⟩

theorem parseStatusSummary_accepts {summary : StatusSummary} :
    Accepts (parseStatusSummary (some summary.toJson) field) summary
      (summary.Below (2 ^ 53 - 1)) := by
  refine .congr (.bind requireRecord_accepts
    (.bind (requireExactKeys_accepts (by simp))
    (.bind requireNonNegativeInteger_accepts
    (.bind requireNonNegativeInteger_accepts
    (.bind requireNonNegativeInteger_accepts
    (.bind requireNonNegativeInteger_accepts .pure)))))) ?_
  constructor
  · intro ⟨_, _, h1, h2, h3, h4, _⟩
    exact ⟨Nat.le_pred_of_lt h1, Nat.le_pred_of_lt h2, Nat.le_pred_of_lt h3, Nat.le_pred_of_lt h4⟩
  · intro h
    have hlt : ∀ {n : Nat}, n ≤ 2 ^ 53 - 1 → n < 2 ^ 53 := by
      omega
    exact ⟨trivial, trivial, hlt h.localChanges, hlt h.remoteChanges, hlt h.conflicts,
      hlt h.unversioned, trivial⟩

/-- The conditions under which the extension accepts a snapshot. -/
structure StatusSnapshot.Accepted (platform : Platform) (snapshot : StatusSnapshot) : Prop where
  generation : snapshot.generation < 2 ^ 53
  repositoryId : snapshot.repositoryId.nonBlankJs = true
  epoch : snapshot.epoch < 2 ^ 53
  completeness : CompletenessAccepted snapshot.completeness
  identity : snapshot.identity.Accepted
  localEntries : EntriesAccepted platform .ofLocal snapshot.generation snapshot.localEntries
  remoteEntries : EntriesAccepted platform .ofRemote snapshot.generation snapshot.remoteEntries
  summary : snapshot.summary.Below (2 ^ 53 - 1)
  timestamp : snapshot.timestamp.nonBlankJs = true
  source : snapshot.source.nonBlankJs = true

variable {platform : Platform} {snapshot : StatusSnapshot}

/-- **The reader and the writer of snapshots agree.** -/
theorem parseStatusSnapshot_accepts :
    Accepts (parseStatusSnapshot platform snapshot.toJson) snapshot
      (snapshot.Accepted platform) := by
  refine .congr (.bind requireRecord_accepts
    (.bind (requireExactKeys_accepts (by simp))
    (.bind requireNonNegativeInteger_accepts
    (.bind requireString_accepts
    (.bind requireNonNegativeInteger_accepts
    (.bind requireCompleteness_accepts.mapError
    (.bind parseRepositoryIdentity_accepts
    (.bind parseStatusEntries_accepts.mapError
    (.bind parseStatusEntries_accepts.mapError
    (.bind parseStatusSummary_accepts
    (.bind requireString_accepts
    (.bind requireString_accepts .pure)))))))))))) ?_
  constructor
  · intro ⟨_, _, hgeneration, hrepository, hepoch, hcompleteness, hidentity, hlocal, hremote,
      hsummary, htimestamp, hsource, _⟩
    exact ⟨hgeneration, hrepository, hepoch, hcompleteness, hidentity, hlocal, hremote, hsummary,
      htimestamp, hsource⟩
  · intro h
    exact ⟨trivial, trivial, h.generation, h.repositoryId, h.epoch, h.completeness, h.identity,
      h.localEntries, h.remoteEntries, h.summary, h.timestamp, h.source, trivial⟩

variable {request : StatusSnapshotRequest}

theorem requireSnapshotMatchesRequest_accepts :
    Accepts (requireSnapshotMatchesRequest snapshot request) ()
      (snapshot.repositoryId = request.repositoryId ∧ snapshot.epoch = request.epoch) :=
  Accepts.bind Accepts.require Accepts.require

theorem readSnapshot_accepts :
    Accepts (readSnapshot platform request snapshot.toJson) snapshot
      (snapshot.Accepted platform ∧ snapshot.repositoryId = request.repositoryId ∧
        snapshot.epoch = request.epoch) := by
  refine .congr (.bind parseStatusSnapshot_accepts
    (.bind requireSnapshotMatchesRequest_accepts .pure)) ?_
  simp

/-- **What `getSnapshot` returns** is the snapshot the daemon sent, accepted and about the
repository that was asked for. -/
theorem readSnapshotReply_eq_ok_iff {result : Except DaemonError StatusSnapshot} :
    readSnapshotReply platform request result = .ok snapshot ↔
      result = .ok snapshot ∧ snapshot.Accepted platform ∧
        snapshot.repositoryId = request.repositoryId ∧ snapshot.epoch = request.epoch := by
  unfold readSnapshotReply
  cases result with
  | error error => simp
  | ok sent =>
    refine (readSnapshot_accepts.mapError snapshot).trans ?_
    constructor
    · rintro ⟨haccepted, rfl⟩
      exact ⟨rfl, haccepted⟩
    · rintro ⟨hsent, haccepted⟩
      cases hsent
      exact ⟨haccepted, rfl⟩

theorem validateSnapshotRequest_accepts :
    Accepts (validateSnapshotRequest request) ()
      (request.repositoryId.nonBlankJs = true ∧ isSafeInteger request.epoch = true) :=
  Accepts.bind Accepts.require Accepts.require

end SubversionR

import SubversionR.Protocol
import SubversionR.Lib.Json

/-!
# Wire — the status messages as JSON

How `serde` writes the records of `subversionr-protocol` (camel case keys, `None` as `null`), and
how the extension writes a `status/refresh` request.
-/

namespace SubversionR

open JsonValues Json

/-- The parameters of a `status/refresh` request. -/
structure StatusRefreshRequest where
  repositoryId : Text
  epoch : Nat
  targets : List StatusRefreshTarget
deriving DecidableEq

def StatusRefreshTarget.toJson (target : StatusRefreshTarget) : Json :=
  .obj [("path", .str target.path), ("depth", .str target.depth.word),
    ("reason", .str target.reason)]

def StatusRefreshRequest.toJson (request : StatusRefreshRequest) : Json :=
  .obj [("repositoryId", .str request.repositoryId), ("epoch", .int request.epoch),
    ("targets", .arr (request.targets.map StatusRefreshTarget.toJson))]

def LockInfo.toJson (lock : LockInfo) : Json :=
  .obj [("token", nullable str lock.token), ("owner", nullable str lock.owner),
    ("comment", nullable str lock.comment), ("createdDate", nullable str lock.createdDate),
    ("expiresDate", nullable str lock.expiresDate), ("isRemote", .bool lock.isRemote)]

def StatusEntry.toJson (entry : StatusEntry) : Json :=
  .obj [("path", .str entry.path), ("kind", .str entry.kind),
    ("nodeStatus", .str entry.nodeStatus), ("textStatus", .str entry.textStatus),
    ("propertyStatus", .str entry.propertyStatus), ("localStatus", .str entry.localStatus),
    ("remoteStatus", .str entry.remoteStatus), ("revision", .int entry.revision),
    ("changedRevision", .int entry.changedRevision),
    ("changedAuthor", nullable str entry.changedAuthor),
    ("changedDate", nullable str entry.changedDate),
    ("changelist", nullable str entry.changelist),
    ("lock", nullable LockInfo.toJson entry.lock), ("needsLock", .bool entry.needsLock),
    ("copy", nullable str entry.copy), ("move", nullable str entry.move),
    ("switched", .bool entry.switched), ("depth", .str entry.depth),
    ("conflict", nullable str entry.conflict),
    ("conflictArtifacts", .arr (entry.conflictArtifacts.map str)),
    ("external", .bool entry.external), ("generation", .int entry.generation)]

def StatusCoverageScope.toJson (scope : StatusCoverageScope) : Json :=
  .obj [("path", .str scope.path), ("depth", .str scope.depth),
    ("generation", .int scope.generation), ("reason", .str scope.reason)]

def StatusSummaryDelta.toJson (summary : StatusSummaryDelta) : Json :=
  .obj [("localChanges", .int summary.localChanges), ("remoteChanges", .int summary.remoteChanges),
    ("conflicts", .int summary.conflicts), ("unversioned", .int summary.unversioned)]

def StatusDelta.toJson (delta : StatusDelta) : Json :=
  .obj [("repositoryId", .str delta.repositoryId), ("epoch", .int delta.epoch),
    ("generation", .int delta.generation),
    ("coverage", .arr (delta.coverage.map StatusCoverageScope.toJson)),
    ("upsert", .arr (delta.upsert.map StatusEntry.toJson)),
    ("remove", .arr (delta.remove.map str)),
    ("remoteUpsert", .arr (delta.remoteUpsert.map StatusEntry.toJson)),
    ("remoteRemove", .arr (delta.remoteRemove.map str)),
    ("summaryDelta", delta.summaryDelta.toJson), ("completeness", .str delta.completeness),
    ("timestamp", .str delta.timestamp), ("source", .str delta.source)]

def RepositoryIdentity.toJson (identity : RepositoryIdentity) : Json :=
  .obj [("repositoryUuid", .str identity.repositoryUuid),
    ("repositoryRootUrl", .str identity.repositoryRootUrl),
    ("workingCopyRoot", .str identity.workingCopyRoot),
    ("workspaceScopeRoot", .str identity.workspaceScopeRoot), ("format", .int identity.format)]

def StatusSummary.toJson (summary : StatusSummary) : Json :=
  .obj [("localChanges", .int summary.localChanges), ("remoteChanges", .int summary.remoteChanges),
    ("conflicts", .int summary.conflicts), ("unversioned", .int summary.unversioned)]

def StatusSnapshot.toJson (snapshot : StatusSnapshot) : Json :=
  .obj [("repositoryId", .str snapshot.repositoryId), ("epoch", .int snapshot.epoch),
    ("generation", .int snapshot.generation), ("completeness", .str snapshot.completeness),
    ("identity", snapshot.identity.toJson),
    ("localEntries", .arr (snapshot.localEntries.map StatusEntry.toJson)),
    ("remoteEntries", .arr (snapshot.remoteEntries.map StatusEntry.toJson)),
    ("summary", snapshot.summary.toJson), ("timestamp", .str snapshot.timestamp),
    ("source", .str snapshot.source)]

end SubversionR

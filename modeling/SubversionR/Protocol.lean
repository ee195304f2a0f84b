import SubversionR.Text
import SubversionR.Lib.KeyedMap

/-!
# Protocol — the messages between the daemon and the extension

The record types of `subversionr-protocol`.  Status words, node kinds and depths travel as
strings and are kept as texts; the depth of a refresh target, which both sides restrict to four
words, is an enumeration.  Generations and epochs are `u64` counters and revisions `i64`.
-/

namespace SubversionR

open KeyedMaps

/-- Who a working copy belongs to. -/
structure RepositoryIdentity where
  repositoryUuid : Text
  repositoryRootUrl : Text
  workingCopyRoot : Text
  workspaceScopeRoot : Text
  format : Int
deriving DecidableEq, Inhabited

/-- The working copy `/wc` of a local repository. -/
def RepositoryIdentity.sample : RepositoryIdentity :=
  ⟨"uuid", "file:///repository", "/wc", "/wc", 31⟩

structure LockInfo where
  token : Option Text
  owner : Option Text
  comment : Option Text
  createdDate : Option Text
  expiresDate : Option Text
  isRemote : Bool
deriving DecidableEq

/-- The status of one versioned or unversioned path. -/
structure StatusEntry where
  path : Text
  kind : Text
  nodeStatus : Text
  textStatus : Text
  propertyStatus : Text
  localStatus : Text
  remoteStatus : Text
  revision : Int
  changedRevision : Int
  changedAuthor : Option Text
  changedDate : Option Text
  changelist : Option Text
  lock : Option LockInfo
  needsLock : Bool
  copy : Option Text
  move : Option Text
  switched : Bool
  depth : Text
  conflict : Option Text
  conflictArtifacts : List Text
  external : Bool
  generation : Nat
deriving DecidableEq, Inhabited

namespace StatusEntry

/-- The entry, stamped with the generation of the request that reported it. -/
def stamp (generation : Nat) (entry : StatusEntry) : StatusEntry :=
  { entry with generation := generation }

@[simp] theorem stamp_path (g : Nat) (e : StatusEntry) : (e.stamp g).path = e.path := rfl

/-- A file whose node and text have the given status, with nothing else to report. -/
def file (path status : Text) : StatusEntry where
  path := path
  kind := "file"
  nodeStatus := status
  textStatus := status
  propertyStatus := "none"
  localStatus := status
  remoteStatus := "notChecked"
  revision := 1
  changedRevision := 1
  changedAuthor := none
  changedDate := none
  changelist := none
  lock := none
  needsLock := false
  copy := none
  move := none
  switched := false
  depth := "unknown"
  conflict := none
  conflictArtifacts := []
  external := false
  generation := 0

end StatusEntry

/-- Status entries by path: a `BTreeMap<String, StatusEntry>` in the daemon, a
`Map<string, StatusEntry>` in the extension. -/
abbrev EntryMap : Type := KeyedMap StatusEntry.path

/-- The counts shown for a repository (`u32` fields). -/
structure StatusSummary where
  localChanges : Nat
  remoteChanges : Nat
  conflicts : Nat
  unversioned : Nat
deriving DecidableEq, Inhabited

/-- No counter exceeds the bound. -/
structure StatusSummary.Below (bound : Nat) (summary : StatusSummary) : Prop where
  localChanges : summary.localChanges ≤ bound
  remoteChanges : summary.remoteChanges ≤ bound
  conflicts : summary.conflicts ≤ bound
  unversioned : summary.unversioned ≤ bound

theorem StatusSummary.Below.mono {m n : Nat} {s : StatusSummary} (h : s.Below m) (hle : m ≤ n) :
    s.Below n :=
  ⟨h.localChanges.trans hle, h.remoteChanges.trans hle, h.conflicts.trans hle,
    h.unversioned.trans hle⟩

/-- The change of the counts (`i32` fields). -/
structure StatusSummaryDelta where
  localChanges : Int
  remoteChanges : Int
  conflicts : Int
  unversioned : Int
deriving DecidableEq, Inhabited

structure StatusSnapshot where
  repositoryId : Text
  epoch : Nat
  generation : Nat
  completeness : Text
  identity : RepositoryIdentity
  localEntries : List StatusEntry
  remoteEntries : List StatusEntry
  summary : StatusSummary
  timestamp : Text
  source : Text
deriving DecidableEq, Inhabited

/-- How far below its path a refresh target reaches. -/
inductive StatusRefreshDepth where
  | empty
  | files
  | immediates
  | infinity
deriving DecidableEq

namespace StatusRefreshDepth

/-- The depth as it travels in a message. -/
def word : StatusRefreshDepth → Text
  | empty => "empty"
  | files => "files"
  | immediates => "immediates"
  | infinity => "infinity"

/-- The four words `status_refresh_targets` and `validateRefreshTarget` accept. -/
def ofWord? (w : Text) : Option StatusRefreshDepth :=
  if w = "empty" then some empty
  else if w = "files" then some files
  else if w = "immediates" then some immediates
  else if w = "infinity" then some infinity
  else none

@[simp]
theorem ofWord?_word (d : StatusRefreshDepth) : ofWord? d.word = some d := by
  cases d <;> decide

end StatusRefreshDepth

structure StatusRefreshTarget where
  path : Text
  depth : StatusRefreshDepth
  reason : Text
deriving DecidableEq

structure StatusCoverageScope where
  path : Text
  depth : Text
  generation : Nat
  reason : Text
deriving DecidableEq

/-- What changed since the previous generation of a repository. -/
structure StatusDelta where
  repositoryId : Text
  epoch : Nat
  generation : Nat
  coverage : List StatusCoverageScope
  upsert : List StatusEntry
  remove : List Text
  remoteUpsert : List StatusEntry
  remoteRemove : List Text
  summaryDelta : StatusSummaryDelta
  completeness : Text
  timestamp : Text
  source : Text
deriving DecidableEq, Inhabited

/-! ## Remote access -/

inductive RemoteScheme where
  | http
  | https
  | svn
  | svnSsh
deriving DecidableEq, Inhabited

/-- Why a remote operation failed (`RemoteFailureClass` in the daemon). -/
inductive NativeRemoteFailureReason where
  | networkDns
  | networkRefused
  | networkTimeout
  | proxyAuthenticationRequired
  | proxyUnreachable
  | tlsUntrusted
  | tlsChanged
  | tlsProtocol
  | authenticationRequired
  | authorizationDenied
  | sshHostKeyRequired
  | sshHostKeyChanged
  | sshTunnelFailed
  | operationCancelled
  | operationDeadlineExceeded
  | redirectRejected
  | crossAuthorityRejected
  | credentialRejected
  | sshExecutableInvalid
  | sshProvenanceInvalid
  | sshTunnelCleanupFailed
  | workerContainmentFailed
  | remoteRecoveryBlocked
  | remoteConfigurationInvalid
  | remoteCapabilityUnsupported
  | remoteOperationIndeterminate
  | unknownRemote
deriving DecidableEq

end SubversionR

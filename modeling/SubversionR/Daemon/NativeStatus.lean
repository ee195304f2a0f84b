import SubversionR.Daemon.Status

/-!
# Native status — which working copy statuses the bridge emits

`bridge_status_receiver` of the C bridge and `raw_status_entry_to_protocol` of the daemon: libsvn
reports one status per node, the bridge emits those `bridge_status_should_emit` selects, and the
daemon turns each into a `StatusEntry`.  The words are those of libsvn's own tables.

* `SvnClientStatus`, `bridgeStatusShouldEmit` — a status of libsvn, and whether it is emitted;
* `rawStatusEntryToProtocol` — the entry the daemon makes of it.
-/

namespace SubversionR

/-- `enum svn_wc_status_kind`; `unknown` stands for a value outside the enumeration. -/
inductive SvnStatusKind where
  | none | unversioned | normal | added | missing | deleted | replaced | modified | merged
  | conflicted | ignored | obstructed | external | incomplete | unknown
deriving DecidableEq

/-- `bridge_status_kind_to_word`. -/
def SvnStatusKind.word : SvnStatusKind → Text
  | .none => "none"
  | .unversioned => "unversioned"
  | .normal => "normal"
  | .added => "added"
  | .missing => "missing"
  | .deleted => "deleted"
  | .replaced => "replaced"
  | .modified => "modified"
  | .merged => "merged"
  | .conflicted => "conflicted"
  | .ignored => "ignored"
  | .obstructed => "obstructed"
  | .external => "external"
  | .incomplete => "incomplete"
  | .unknown => "unknown"

/-- `svn_depth_t`. -/
inductive SvnDepth where
  | unknown | exclude | empty | files | immediates | infinity
deriving DecidableEq

/-- `svn_depth_to_word`. -/
def SvnDepth.word : SvnDepth → Text
  | .unknown => "unknown"
  | .exclude => "exclude"
  | .empty => "empty"
  | .files => "files"
  | .immediates => "immediates"
  | .infinity => "infinity"

/-- The fields of `svn_client_status_t` the bridge reads, with the paths already relative to the
working copy root, and beside them what the bridge asks for itself: the `svn:needs-lock` probe, the
copy source and the conflict artifacts of the node's info. -/
structure SvnClientStatus where
  path : Text
  kind : Text
  nodeStatus : SvnStatusKind
  textStatus : SvnStatusKind
  propStatus : SvnStatusKind
  reposNodeStatus : SvnStatusKind
  reposTextStatus : SvnStatusKind
  reposPropStatus : SvnStatusKind
  revision : Int
  changedRev : Int
  changedAuthor : Option Text
  changedDate : Option Text
  changelist : Option Text
  conflicted : Bool
  switched : Bool
  lock : Option LockInfo
  reposLock : Option LockInfo
  needsLock : Bool
  depth : SvnDepth
  copied : Bool
  copyFromPath : Option Text
  copyFromRevision : Int
  movedFrom : Option Text
  fileExternal : Bool
  conflictArtifacts : List Text

def bridgeStatusKindIsActionable (kind : SvnStatusKind) : Bool :=
  decide (kind ≠ .none) && decide (kind ≠ .normal)

def bridgeDepthIsSparse (depth : SvnDepth) : Bool :=
  decide (depth = .empty) || decide (depth = .files) || decide (depth = .immediates)

def bridgeStatusShouldEmit (status : SvnClientStatus) : Bool :=
  bridgeStatusKindIsActionable status.nodeStatus
    || bridgeStatusKindIsActionable status.textStatus
    || bridgeStatusKindIsActionable status.propStatus
    || bridgeStatusKindIsActionable status.reposNodeStatus
    || bridgeStatusKindIsActionable status.reposTextStatus
    || bridgeStatusKindIsActionable status.reposPropStatus
    || status.conflicted
    || status.switched
    || status.lock.isSome
    || status.reposLock.isSome
    || status.needsLock
    || bridgeDepthIsSparse status.depth
    || status.copied
    || status.movedFrom.isSome
    || status.fileExternal
    || decide (status.nodeStatus = .external)

def statusCopyFromProtocol (copied : Bool) (copyFromPath : Option Text) (revision : Int) :
    Option Text :=
  if copied = false then none
  else copyFromPath.map fun path =>
    if 0 ≤ revision then path ++ ("@" ++ toString revision).toList else path

def rawStatusEntryToProtocol (generation : Nat) (status : SvnClientStatus) : StatusEntry where
  path := status.path
  kind := status.kind
  nodeStatus := status.nodeStatus.word
  textStatus := status.textStatus.word
  propertyStatus := status.propStatus.word
  localStatus := status.nodeStatus.word
  remoteStatus := "notChecked"
  revision := status.revision
  changedRevision := status.changedRev
  changedAuthor := status.changedAuthor
  changedDate := status.changedDate
  changelist := status.changelist
  lock := status.lock
  needsLock := status.needsLock
  copy := statusCopyFromProtocol status.copied status.copyFromPath status.copyFromRevision
  move := status.movedFrom
  switched := status.switched
  depth := status.depth.word
  conflict := if status.conflicted then some "conflicted" else none
  conflictArtifacts := status.conflictArtifacts
  external := status.fileExternal || decide (status.nodeStatus = .external)
  generation := generation

/-- The entries of the statuses libsvn reports. -/
def bridgeStatusEntries (generation : Nat) (statuses : List SvnClientStatus) : List StatusEntry :=
  (statuses.filter bridgeStatusShouldEmit).map (rawStatusEntryToProtocol generation)

end SubversionR

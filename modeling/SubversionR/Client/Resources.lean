import SubversionR.Client.DirtyPathSet
import SubversionR.Client.Projection
import SubversionR.Client.RefreshRpc

/-!
# Resources — what the Source Control view shows of the entries

`resourceStateClassifier.ts` and the resources of `sourceControlResourceStore.ts`.  A repository's
state holds the local entries by path, which entries own which conflict artifacts, the resources
shown for them, and the same resources by group.  A snapshot rebuilds all of it; a delta updates the
paths it names and those whose artifact owners it changes.

The comparisons of the runtime's locale and the encoding of changelist names are parameters.  The
index by case-insensitive path serves lookups only and is left out.
-/

namespace SubversionR

open OrderedMaps

/-! ## Classification -/

inductive ScmResourceGroupId where
  | conflicts
  | conflictArtifacts
  | changes
  | unversioned
  | metadata
  | incoming
  | externals
  | ignored
  | changelist (encodedName : Text)
deriving DecidableEq

namespace ScmResourceGroupId

def word : ScmResourceGroupId → Text
  | conflicts => "conflicts"
  | conflictArtifacts => "conflictArtifacts"
  | changes => "changes"
  | unversioned => "unversioned"
  | metadata => "metadata"
  | incoming => "incoming"
  | externals => "externals"
  | ignored => "ignored"
  | changelist encodedName => ("changelist:" : Text) ++ encodedName

def isChangelist : ScmResourceGroupId → Bool
  | changelist _ => true
  | _ => false

/-- `SCM_RESOURCE_GROUP_IDS`. -/
def fixed : List ScmResourceGroupId :=
  [conflicts, conflictArtifacts, changes, unversioned, metadata, incoming, externals, ignored]

end ScmResourceGroupId

structure ScmResourceClassification where
  groupId : ScmResourceGroupId
  contextValue : Text
  tooltipKey : Text

/-- The text functions of the host. -/
structure TextRuntime where
  /-- `left.localeCompare(right)`, in the locale of the host and in `en-US`. -/
  localeCompare : Text → Text → Ordering
  localeCompareEnUs : Text → Text → Ordering
  encodeURIComponent : Text → Text
  decodeURIComponent : Text → Text

def isActionableStatus (status : Text) : Bool :=
  decide (status ∉ (["none", "normal", "notChecked"] : List Text))

def isKnownLocalChangeStatus (status : Text) : Bool :=
  decide (status ∈ (["added", "missing", "deleted", "replaced", "modified", "merged", "obstructed",
    "incomplete"] : List Text))

def Scm.isSparseStatusDepth (depth : Text) : Bool :=
  decide (depth ∈ (["empty", "files", "immediates"] : List Text))

def hasWorkingCopyMetadataStatus (entry : StatusEntry) : Bool :=
  entry.switched || entry.lock.isSome || entry.needsLock || Scm.isSparseStatusDepth entry.depth

def changedResourceKind (entry : StatusEntry) : Text :=
  if entry.kind = "file" then "changedFile" else "changedDirectory"

def classification (groupId : ScmResourceGroupId) (resourceKind tooltipKind : Text) :
    ScmResourceClassification where
  groupId := groupId
  contextValue := ("subversionr." : Text) ++ resourceKind
  tooltipKey := ("scm.resource." : Text) ++ tooltipKind

/-- Some of the four local statuses of the entry passes the test. -/
def anyLocalStatus (entry : StatusEntry) (test : Text → Bool) : Bool :=
  test entry.localStatus || test entry.nodeStatus || test entry.textStatus ||
    test entry.propertyStatus

def classifyLocalStatusEntry (runtime : TextRuntime) (entry : StatusEntry) :
    Option ScmResourceClassification :=
  if hasConflict entry.conflict entry.localStatus entry.nodeStatus entry.textStatus
      entry.propertyStatus then
    some (classification .conflicts "conflicted" "conflicted")
  else if entry.external then some (classification .externals "external" "external")
  else if entry.localStatus = "ignored" then some (classification .ignored "ignored" "ignored")
  else if entry.localStatus = "unversioned" then
    some (classification .unversioned "unversioned" "unversioned")
  else if anyLocalStatus entry isKnownLocalChangeStatus then
    match entry.changelist with
    | some changelist =>
      some (classification (.changelist (runtime.encodeURIComponent changelist))
        (changedResourceKind entry) "changed")
    | none => some (classification .changes (changedResourceKind entry) "changed")
  else if anyLocalStatus entry isActionableStatus then
    some (classification .changes "changedUnknown" "changedUnknown")
  else if hasWorkingCopyMetadataStatus entry then
    some (classification .metadata "workingCopyMetadata" "workingCopyMetadata")
  else none

def classifyRemoteStatusEntry (entry : StatusEntry) : Option ScmResourceClassification :=
  if isActionableStatus entry.remoteStatus = false then none
  else
    some (classification .incoming (if entry.kind = "file" then "incomingFile" else "incoming")
      "incoming")

/-! ## Resources -/

structure ScmProjectedResource where
  key : Text
  repositoryId : Text
  path : Text
  source : EntrySource
  groupId : ScmResourceGroupId
  contextValue : Text
  tooltipKey : Text
  entry : StatusEntry
deriving DecidableEq

def EntrySource.word : EntrySource → Text
  | ofLocal => "local"
  | ofRemote => "remote"

def projectedResource (repositoryId : Text) (source : EntrySource) (entry : StatusEntry)
    (classification : ScmResourceClassification) : ScmProjectedResource where
  key := source.word ++ [':'] ++ entry.path
  repositoryId := repositoryId
  path := entry.path
  source := source
  groupId := classification.groupId
  contextValue := classification.contextValue
  tooltipKey := classification.tooltipKey
  entry := entry

/-- The resource of an artifact shows the entry that owns it. -/
def artifactEntry (owner : StatusEntry) (path : Text) : StatusEntry :=
  { owner with path := path, kind := "file", conflictArtifacts := [] }

def artifactClassification : ScmResourceClassification where
  groupId := .conflictArtifacts
  contextValue := "subversionr.conflictArtifact"
  tooltipKey := "scm.resource.conflictArtifact"

/-- The maps of a `RepositoryProjectionState`; a `Set` is a list in insertion order. -/
structure ResourceIndex where
  localEntriesByPath : OrderedMap Text StatusEntry
  conflictArtifactPathsByOwner : OrderedMap Text (List Text)
  conflictArtifactOwnersByPath : OrderedMap Text (List Text)
  localResourcesByPath : OrderedMap Text ScmProjectedResource
  remoteResourcesByPath : OrderedMap Text ScmProjectedResource
  groups : OrderedMap ScmResourceGroupId (OrderedMap Text ScmProjectedResource)

def emptyGroupMaps : OrderedMap ScmResourceGroupId (OrderedMap Text ScmProjectedResource) :=
  ScmResourceGroupId.fixed.foldl (fun groups groupId => groups.set groupId .empty) .empty

namespace ResourceIndex

def empty : ResourceIndex where
  localEntriesByPath := .empty
  conflictArtifactPathsByOwner := .empty
  conflictArtifactOwnersByPath := .empty
  localResourcesByPath := .empty
  remoteResourcesByPath := .empty
  groups := emptyGroupMaps

/-! ### Artifact owners -/

/-- Add the owner to the set of an artifact, which is made if it is missing. -/
def addOwner (owners : OrderedMap Text (List Text)) (owner artifactPath : Text) :
    OrderedMap Text (List Text) :=
  owners.set artifactPath (addKey ((owners.get? artifactPath).getD []) owner)

def addConflictArtifactOwner (index : ResourceIndex) (entry : StatusEntry) : ResourceIndex :=
  if entry.conflictArtifacts = [] then index
  else
    let artifacts := keySet entry.conflictArtifacts
    { index with
      conflictArtifactPathsByOwner := index.conflictArtifactPathsByOwner.set entry.path artifacts
      conflictArtifactOwnersByPath :=
        artifacts.foldl (fun owners artifactPath => addOwner owners entry.path artifactPath)
          index.conflictArtifactOwnersByPath }

/-- Remove the owner from the set of an artifact, and the set once it is empty. -/
def removeOwner (owners : OrderedMap Text (List Text)) (owner artifactPath : Text) :
    OrderedMap Text (List Text) :=
  match owners.get? artifactPath with
  | none => owners
  | some existing =>
    let left := existing.filter (· ≠ owner)
    if left = [] then owners.delete artifactPath else owners.set artifactPath left

/-- `removeLocalEntry`, with the paths to project again. -/
def removeLocalEntry (index : ResourceIndex) (affected : List Text) (path : Text) :
    ResourceIndex × List Text :=
  let affected := addKey affected path
  match index.conflictArtifactPathsByOwner.get? path with
  | none => ({ index with localEntriesByPath := index.localEntriesByPath.delete path }, affected)
  | some artifacts =>
    ({ index with
        conflictArtifactOwnersByPath :=
          artifacts.foldl (fun owners artifactPath => removeOwner owners path artifactPath)
            index.conflictArtifactOwnersByPath
        conflictArtifactPathsByOwner := index.conflictArtifactPathsByOwner.delete path
        localEntriesByPath := index.localEntriesByPath.delete path },
      artifacts.foldl addKey affected)

section

variable (runtime : TextRuntime)

/-- The first owner of an artifact; an empty path counts as none. -/
def ownerPath (index : ResourceIndex) (path : Text) : Option Text :=
  ((index.conflictArtifactOwnersByPath.get? path).bind fun owners =>
    (sortBy runtime.localeCompareEnUs owners).head?).filter fun owner => !owner.isEmpty

def ownerEntry (index : ResourceIndex) (path : Text) : Option StatusEntry :=
  (index.ownerPath runtime path).bind index.localEntriesByPath.get?

/-! ### Projecting a path -/

def upsertGroupResource (groups : OrderedMap ScmResourceGroupId
    (OrderedMap Text ScmProjectedResource))
    (resource : ScmProjectedResource) :
    OrderedMap ScmResourceGroupId (OrderedMap Text ScmProjectedResource) :=
  groups.set resource.groupId (((groups.get? resource.groupId).getD .empty).set resource.key
    resource)

def removeGroupResource (groups : OrderedMap ScmResourceGroupId
    (OrderedMap Text ScmProjectedResource))
    (resource : ScmProjectedResource) :
    OrderedMap ScmResourceGroupId (OrderedMap Text ScmProjectedResource) :=
  match groups.get? resource.groupId with
  | none => groups
  | some group => groups.set resource.groupId (group.delete resource.key)

def upsertProjectedLocalEntry (repositoryId : Text) (index : ResourceIndex) (entry : StatusEntry)
    (classification : ScmResourceClassification) : ResourceIndex :=
  let resource := projectedResource repositoryId .ofLocal entry classification
  { index with
    localResourcesByPath := index.localResourcesByPath.set entry.path resource
    groups := upsertGroupResource index.groups resource }

def projectLocalPath (repositoryId : Text) (index : ResourceIndex) (path : Text) : ResourceIndex :=
  match index.ownerEntry runtime path with
  | some owner =>
    upsertProjectedLocalEntry repositoryId index (artifactEntry owner path) artifactClassification
  | none =>
    match index.localEntriesByPath.get? path with
    | none => index
    | some entry =>
      match classifyLocalStatusEntry runtime entry with
      | none => index
      | some classification =>
        upsertProjectedLocalEntry repositoryId index entry classification

def removeProjectedLocalPath (index : ResourceIndex) (path : Text) : ResourceIndex :=
  match index.localResourcesByPath.get? path with
  | none => index
  | some existing =>
    { index with
      groups := removeGroupResource index.groups existing
      localResourcesByPath := index.localResourcesByPath.delete path }

def upsertRemoteEntry (repositoryId : Text) (index : ResourceIndex) (entry : StatusEntry) :
    ResourceIndex :=
  match classifyRemoteStatusEntry entry with
  | none => index
  | some classification =>
    let resource := projectedResource repositoryId .ofRemote entry classification
    { index with
      remoteResourcesByPath := index.remoteResourcesByPath.set entry.path resource
      groups := upsertGroupResource index.groups resource }

def removeRemotePath (index : ResourceIndex) (path : Text) : ResourceIndex :=
  match index.remoteResourcesByPath.get? path with
  | none => index
  | some existing =>
    { index with
      groups := removeGroupResource index.groups existing
      remoteResourcesByPath := index.remoteResourcesByPath.delete path }

/-! ### Snapshots and deltas -/

/-- The rebuilding part of `applySnapshotToState`. -/
def ofSnapshot (repositoryId : Text) (localEntries remoteEntries : List StatusEntry) :
    ResourceIndex :=
  let entries : OrderedMap Text StatusEntry :=
    localEntries.foldl (fun entries entry => entries.set entry.path entry) .empty
  let index := entries.values.foldl addConflictArtifactOwner
    { ResourceIndex.empty with localEntriesByPath := entries }
  let localPaths := keySet (index.localEntriesByPath.keys ++
    index.conflictArtifactOwnersByPath.keys)
  let index := localPaths.foldl (projectLocalPath runtime repositoryId) index
  remoteEntries.foldl (upsertRemoteEntry repositoryId) index

/-- One entry of `delta.upsert`. -/
def upsertLocalEntry (work : ResourceIndex × List Text) (entry : StatusEntry) :
    ResourceIndex × List Text :=
  let (index, affected) := work.1.removeLocalEntry work.2 entry.path
  (({ index with localEntriesByPath := index.localEntriesByPath.set entry.path entry }
      ).addConflictArtifactOwner entry,
    entry.conflictArtifacts.foldl addKey (addKey affected entry.path))

/-- The local entries of a delta, with the paths to project again. -/
def applyLocalEntries (index : ResourceIndex) (remove : List Text) (upsert : List StatusEntry) :
    ResourceIndex × List Text :=
  upsert.foldl upsertLocalEntry
    (remove.foldl (fun work path => work.1.removeLocalEntry work.2 path) (index, []))

/-- The updating part of `applyDelta`. -/
def applyDelta (repositoryId : Text) (index : ResourceIndex) (delta : StatusDelta) :
    ResourceIndex :=
  let (index, affected) := index.applyLocalEntries delta.remove delta.upsert
  let index := affected.foldl removeProjectedLocalPath index
  let index := affected.foldl (projectLocalPath runtime repositoryId) index
  let index := delta.remoteRemove.foldl removeRemotePath index
  delta.remoteUpsert.foldl
    (fun index entry => upsertRemoteEntry repositoryId (index.removeRemotePath entry.path)
      entry) index

end

end ResourceIndex

/-! ## The state of one repository -/

/-- A `RepositoryProjectionState`: its lifecycle and its maps. -/
structure ResourceState where
  lifecycle : RepositoryProjectionState
  index : ResourceIndex

namespace ResourceState

variable (runtime : TextRuntime)

def registered (repositoryId : Text) (epoch : Nat) (workingCopyRoot : Text) : ResourceState where
  lifecycle := { repositoryId, epoch, workingCopyRoot, contents := none }
  index := .empty

def applySnapshot (state : ResourceState) (snapshot : StatusSnapshot) :
    Except SourceControlResourceStoreError ResourceState :=
  (state.lifecycle.applySnapshot snapshot.header).map fun lifecycle =>
    ⟨lifecycle, .ofSnapshot runtime state.lifecycle.repositoryId snapshot.localEntries
      snapshot.remoteEntries⟩

def applyDelta (state : ResourceState) (delta : StatusDelta) :
    Except SourceControlResourceStoreError ResourceState :=
  (state.lifecycle.applyDelta delta).map fun lifecycle =>
    ⟨lifecycle, state.index.applyDelta runtime state.lifecycle.repositoryId delta⟩

end ResourceState

/-! ## What is shown -/

structure SourceControlCountPolicy where
  countUnversioned : Bool
  ignoreChangelistsInCount : List Text

structure ScmProjectedResourceGroup where
  id : ScmResourceGroupId
  labelKey : Text
  changelist : Option Text
  resources : List ScmProjectedResource

structure ScmCommitAllTarget where
  path : Text
  changelist : Option Text
  status : Text
  directory : Text
deriving DecidableEq

structure ScmCommitAllTargets where
  hasConflicts : Bool
  targets : List ScmCommitAllTarget

/-- `SUBVERSIONR_SCM_PROJECTION_COMMIT_ALL_TARGET_INVALID`. -/
structure CommitAllTargetInvalid where
  repositoryId : Text
  path : Text

def isLocalChangeGroup (groupId : ScmResourceGroupId) : Bool :=
  decide (groupId = .changes) || groupId.isChangelist

/-- The entry is in none of the changelists that are not counted. -/
def changelistCounts (policy : SourceControlCountPolicy) (entry : StatusEntry) : Bool :=
  match entry.changelist with
  | none => true
  | some changelist => decide (changelist ∉ policy.ignoreChangelistsInCount)

def isCounted (policy : SourceControlCountPolicy) (resource : ScmProjectedResource) : Bool :=
  if resource.entry.external || decide (resource.entry.localStatus = "ignored") then false
  else if changelistCounts policy resource.entry = false then false
  else
    decide (resource.groupId = .conflicts) ||
      (isLocalChangeGroup resource.groupId &&
        decide (resource.contextValue ≠ "subversionr.workingCopyMetadata")) ||
      (decide (resource.groupId = .unversioned) && policy.countUnversioned)

def isCommitAllCandidate (policy : SourceControlCountPolicy)
    (resource : ScmProjectedResource) : Bool :=
  decide (resource.source = .ofLocal) && isLocalChangeGroup resource.groupId &&
    decide (resource.contextValue = "subversionr.changedFile") &&
    decide (resource.entry.kind = "file") && !resource.entry.external &&
    decide (resource.entry.localStatus ≠ "ignored") && changelistCounts policy resource.entry

def commitAllTargetStatus (entry : StatusEntry) : Text :=
  (([entry.localStatus, entry.nodeStatus, entry.textStatus, entry.propertyStatus] : List Text).find?
    isActionableStatus).getD entry.localStatus

def isRepositoryRelativeCommitPath (path : Text) : Bool :=
  if path.nonBlankJs = false ∨ '\\' ∈ path ∨ path.head? = some '/' ∨ path.getLast? = some '/' then
    false
  else !(path.splitOn '/').any fun part =>
    part.isEmpty || decide (part = ".") || decide (part = "..")

def commitAllTargetFromResource (repositoryId : Text) (resource : ScmProjectedResource) :
    Except CommitAllTargetInvalid ScmCommitAllTarget :=
  if isRepositoryRelativeCommitPath resource.path = false then
    .error ⟨repositoryId, resource.path⟩
  else
    .ok
      { path := resource.path
        changelist := resource.entry.changelist
        status := commitAllTargetStatus resource.entry
        directory := parentPath resource.path }

namespace ResourceIndex

variable (runtime : TextRuntime) (policy : SourceControlCountPolicy)

def sortedResources (resources : List ScmProjectedResource) : List ScmProjectedResource :=
  sortBy (fun left right => (runtime.localeCompare left.path right.path).then
    (runtime.localeCompare left.source.word right.source.word)) resources

/-- The resources of a group, in the order in which they were inserted. -/
def groupResources (index : ResourceIndex) (groupId : ScmResourceGroupId) :
    List ScmProjectedResource :=
  ((index.groups.get? groupId).getD .empty).values

def fixedProjectionGroup (index : ResourceIndex) (groupId : ScmResourceGroupId) :
    ScmProjectedResourceGroup where
  id := groupId
  labelKey := ("scm.group." : Text) ++ groupId.word
  changelist := none
  resources := sortedResources runtime (index.groupResources groupId)

/-- The name that the id of a changelist's group encodes. -/
def changelistNameFromResourceGroupId : ScmResourceGroupId → Text
  | .changelist encodedName => runtime.decodeURIComponent encodedName
  | _ => []

def changelistProjectionGroups (index : ResourceIndex) : List ScmProjectedResourceGroup :=
  let shown := index.groups.items.filter fun item => item.1.isChangelist && decide (item.2.size > 0)
  let sorted := sortBy (fun left right => runtime.localeCompareEnUs
    (changelistNameFromResourceGroupId runtime left.1)
    (changelistNameFromResourceGroupId runtime right.1)) shown
  sorted.map fun item =>
    { id := item.1
      labelKey := "scm.group.changelist"
      changelist := some (changelistNameFromResourceGroupId runtime item.1)
      resources := sortedResources runtime item.2.values }

def projectionGroups (index : ResourceIndex) : List ScmProjectedResourceGroup :=
  [index.fixedProjectionGroup runtime .conflicts,
    index.fixedProjectionGroup runtime .conflictArtifacts] ++
  index.changelistProjectionGroups runtime ++
  [index.fixedProjectionGroup runtime .changes, index.fixedProjectionGroup runtime .unversioned,
    index.fixedProjectionGroup runtime .metadata, index.fixedProjectionGroup runtime .incoming,
    index.fixedProjectionGroup runtime .externals, index.fixedProjectionGroup runtime .ignored]

def projectionCount (index : ResourceIndex) : Nat :=
  index.localResourcesByPath.values.countP (isCounted policy)

def commitAllTargets (repositoryId : Text) (index : ResourceIndex) :
    Except CommitAllTargetInvalid ScmCommitAllTargets := do
  let byKey : OrderedMap Text ScmProjectedResource :=
    (index.localResourcesByPath.values.filter fun resource => isLocalChangeGroup resource.groupId
      ).foldl (fun byKey resource => byKey.set resource.key resource) .empty
  let changes := sortedResources runtime byKey.values
  let targets ← (changes.filter (isCommitAllCandidate policy)).mapM
    (commitAllTargetFromResource repositoryId)
  pure
    { hasConflicts := decide ((index.groupResources .conflicts).length > 0)
      targets }

end ResourceIndex

end SubversionR

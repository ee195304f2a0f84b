import SubversionR.Protocol
import SubversionR.Lib.OrderedMap

/-!
# DirtyPathSet — from file events to refresh targets

`dirtyPathSet.ts`: the set of paths the file watcher has reported for one repository since the
last refresh.  `record` adds an event; when the queue outgrows `maxDirtyPaths` the records of one
directory, then of one subtree, are folded into a target, and in the end the whole set overflows
into one target for the working copy.  `toRefreshTargets` lists the targets of the next refresh,
and `mergeTargets` takes the targets of a refresh that failed back in.

`fold` stands for `toLocaleLowerCase`, the runtime's case folding, and is a parameter of everything
below.  Lengths and positions of strings count UTF-16 code units.
-/

namespace SubversionR

open OrderedMaps

/-! ## Types -/

inductive PathCasePolicy where
  | caseSensitive
  | caseInsensitive
deriving DecidableEq

inductive FileEventKind where
  | create
  | change
  | delete
  | rename
  | metadata
deriving DecidableEq

structure RepositoryWatchScope where
  repositoryId : Text
  epoch : Nat
  workingCopyRoot : Text
  pathCase : PathCasePolicy
  boundaryRoots : Option (List Text)
deriving DecidableEq

structure DirtyFileEvent where
  path : Text
  kind : FileEventKind
  timestamp : Int

structure DirtyPathRecord where
  path : Text
  eventKinds : Finset FileEventKind
  firstKind : FileEventKind
  lastKind : FileEventKind
  firstTimestamp : Int
  lastTimestamp : Int
  eventCount : Nat
deriving DecidableEq

structure SubtreeFoldGroup where
  ancestor : Text
  paths : List Text

structure DirtyPathSet where
  scope : RepositoryWatchScope
  maxDirtyPaths : Int
  entries : OrderedMap Text DirtyPathRecord
  explicitTargets : OrderedMap Text StatusRefreshTarget
  foldedTargets : OrderedMap Text StatusRefreshTarget
  overflowed : Bool
  overflowedAt : Option Int
deriving DecidableEq

def defaultMaxDirtyPaths : Int := 512

/-- The constructor; `maxDirtyPaths` is the option of that name. -/
def DirtyPathSet.new (scope : RepositoryWatchScope) (maxDirtyPaths : Option Int) :
    DirtyPathSet where
  scope := scope
  maxDirtyPaths := maxDirtyPaths.getD defaultMaxDirtyPaths
  entries := .empty
  explicitTargets := .empty
  foldedTargets := .empty
  overflowed := false
  overflowedAt := none

/-! ## Strings and sorting -/

namespace Text

/-- `text.slice(from)`, for a position between two characters. -/
def sliceFrom : Nat → Text → Text
  | 0, t => t
  | _, [] => []
  | from' + 1, c :: rest => sliceFrom (from' + 1 - (utf16Units c).length) rest

end Text

def compareText (left right : Text) : Ordering := compare left.utf16 right.utf16

/-- `Array.prototype.sort`, which is stable. -/
def sortBy {α : Type} (cmp : α → α → Ordering) (items : List α) : List α :=
  items.insertionSort fun a b => cmp a b ≠ .gt

theorem mem_sortBy {α : Type} {cmp : α → α → Ordering} {items : List α} {a : α} :
    a ∈ sortBy cmp items ↔ a ∈ items :=
  (List.perm_insertionSort _ items).mem_iff

def depthRank : StatusRefreshDepth → Nat
  | .empty => 0
  | .files => 1
  | .immediates => 2
  | .infinity => 3

def compareTargets (left right : StatusRefreshTarget) : Ordering :=
  ((compareText left.path right.path).then
    (compare (depthRank left.depth) (depthRank right.depth))).then
    (compareText left.reason right.reason)

def targetKey (target : StatusRefreshTarget) : Text :=
  target.path ++ ['\x00'] ++ target.depth.word ++ ['\x00'] ++ target.reason

/-! ## Relative paths -/

/-- The part of a path before its last slash, or `.`. -/
def parentPath (path : Text) : Text :=
  match path.reverse.dropWhile (· ≠ '/') with
  | [] => "."
  | _ :: front => front.reverse

def isDirectChild (parent path : Text) : Bool :=
  if parent = "." then !decide ('/' ∈ path)
  else
    match Text.stripPrefix (parent ++ ['/']) path with
    | none => false
    | some rest => !decide ('/' ∈ rest)

/-- The loop of `ancestorPaths`; each turn shortens `current`, so its length bounds the turns. -/
def ancestorPathsFrom : Nat → Text → List Text
  | 0, _ => []
  | turns + 1, current =>
    if current = "." then [] else current :: ancestorPathsFrom turns (parentPath current)

def ancestorPaths (path : Text) : List Text := ancestorPathsFrom (path.length + 1) (parentPath path)

def pathDepth (path : Text) : Nat :=
  if path = "." then 0 else (path.splitOn '/').length

def normalizeAbsolutePath (path : Text) : Text := Text.trimEndMatches (· = '/') path.forwardSlashes

/-- The empty components of `/root` and of `//server/share`. -/
def isAllowedAbsolutePrefix (parts : List Text) (index : Nat) : Bool :=
  (decide (index = 0) && decide (parts.length > 1)) ||
    (decide (index = 1) && decide (parts.head? = some []) && decide (parts.length > 2))

def hasUnsafePathSegments (path : Text) : Bool :=
  let parts := path.splitOn '/'
  parts.zipIdx.any fun (part, index) =>
    if part = "." ∨ part = ".." then true
    else if part ≠ [] then false
    else !isAllowedAbsolutePrefix parts index

section CaseFolding

variable (fold : Text → Text)

def comparisonKey (scope : RepositoryWatchScope) (path : Text) : Text :=
  match scope.pathCase with
  | .caseInsensitive => fold path
  | .caseSensitive => path

/-- `key === parentKey || key.startsWith(parentKey + "/")`. -/
def isSameOrInside (parentKey key : Text) : Bool :=
  decide (key = parentKey) || (parentKey ++ ['/']).isPrefixOf key

def isInsideBoundary (scope : RepositoryWatchScope) (candidate : Text) : Bool :=
  (scope.boundaryRoots.getD []).any fun boundaryRoot =>
    isSameOrInside (comparisonKey fold scope (normalizeAbsolutePath boundaryRoot))
      (comparisonKey fold scope candidate)

def isSvnInternal (scope : RepositoryWatchScope) (relativePath : Text) : Bool :=
  isSameOrInside ".svn" (comparisonKey fold scope relativePath)

def repositoryRelativePath (scope : RepositoryWatchScope) (eventPath : Text) : Option Text :=
  let root := normalizeAbsolutePath scope.workingCopyRoot
  let candidate := normalizeAbsolutePath eventPath
  if hasUnsafePathSegments root || hasUnsafePathSegments candidate then none
  else
    let rootKey := comparisonKey fold scope root
    let candidateKey := comparisonKey fold scope candidate
    if !isSameOrInside rootKey candidateKey then none
    else if isInsideBoundary fold scope candidate then none
    else
      let relative : Text :=
        if candidateKey = rootKey then "." else Text.sliceFrom (root.utf16.length + 1) candidate
      if isSvnInternal fold scope relative then none
      else some relative

/-! ## Targets of one record -/

def parentTarget (path reason : Text) : StatusRefreshTarget where
  path := parentPath path
  depth := .immediates
  reason := reason

def isCreateThenDelete (record : DirtyPathRecord) : Bool :=
  decide (.create ∈ record.eventKinds) && decide (.delete ∈ record.eventKinds)
    && decide (record.firstKind = .create) && decide (record.lastKind = .delete)

def isDeleteThenCreate (record : DirtyPathRecord) : Bool :=
  decide (.create ∈ record.eventKinds) && decide (.delete ∈ record.eventKinds)
    && decide (record.firstKind = .delete) && decide (record.lastKind = .create)

def requiresSiblingDirectoryEntries (record : DirtyPathRecord) : Bool :=
  decide (.create ∈ record.eventKinds) || decide (.delete ∈ record.eventKinds)

def targetsForRecord (record : DirtyPathRecord) : List StatusRefreshTarget :=
  if .rename ∈ record.eventKinds then [⟨".", .infinity, "manualFullReconcile"⟩]
  else if isCreateThenDelete record then [parentTarget record.path "childDeleted"]
  else if isDeleteThenCreate record then
    [parentTarget record.path "childReplaced", ⟨record.path, .empty, "fileReplaced"⟩]
  else
    (if .create ∈ record.eventKinds then
      [parentTarget record.path "childCreated", ⟨record.path, .empty, "fileCreated"⟩]
    else []) ++
    (if .delete ∈ record.eventKinds then
      [parentTarget record.path "childDeleted", ⟨record.path, .empty, "fileDeleted"⟩]
    else []) ++
    (if .change ∈ record.eventKinds ∨ .metadata ∈ record.eventKinds then
      [⟨record.path, .empty, "fileChanged"⟩]
    else [])

namespace DirtyPathSet

/-! ## Folding -/

def watcherQueueSize (set : DirtyPathSet) : Nat := set.entries.size + set.foldedTargets.size

def isSameOrDescendantOf (set : DirtyPathSet) (ancestor path : Text) : Bool :=
  isSameOrInside (comparisonKey fold set.scope ancestor)
    (comparisonKey fold set.scope path)

def isDescendantOf (set : DirtyPathSet) (ancestor path : Text) : Bool :=
  (comparisonKey fold set.scope ancestor ++ ['/']).isPrefixOf
    (comparisonKey fold set.scope path)

def setFoldedTarget (set : DirtyPathSet) (path : Text) (depth : StatusRefreshDepth)
    (reason : Text) : DirtyPathSet :=
  let key := comparisonKey fold set.scope path
  let targetDepth :=
    match set.foldedTargets.get? key with
    | some existing => if depthRank existing.depth > depthRank depth then existing.depth else depth
    | none => depth
  { set with foldedTargets := set.foldedTargets.set key ⟨path, targetDepth, reason⟩ }

/-- The records of one directory each, without renamed ones, in the order of the first record. -/
def siblingGroups (set : DirtyPathSet) : OrderedMap Text (List DirtyPathRecord) :=
  set.entries.values.foldl (fun groups record =>
    if .rename ∈ record.eventKinds then groups
    else
      let key := comparisonKey fold set.scope (parentPath record.path)
      groups.set key ((groups.get? key).getD [] ++ [record])) .empty

/-- One turn of the loop of `foldSiblingRecordsIntoTargets`; it stops once the queue fits. -/
def foldSiblingGroup (set : DirtyPathSet) (records : List DirtyPathRecord) : DirtyPathSet :=
  if set.watcherQueueSize ≤ set.maxDirtyPaths then set
  else
    match records with
    | [] => set
    | first :: _ =>
      let depth :=
        if records.any requiresSiblingDirectoryEntries then .immediates else .files
      let folded := set.setFoldedTarget fold
        (parentPath first.path) depth "dirtyPathFold"
      { folded with
        entries := records.foldl (fun entries record =>
          entries.delete (comparisonKey fold set.scope record.path)) folded.entries }

def foldSiblingRecordsIntoTargets (set : DirtyPathSet) : DirtyPathSet :=
  let foldableGroups :=
    sortBy (fun left right => (compare right.length left.length).then
        (compareText ((left.head?.map DirtyPathRecord.path).getD [])
          ((right.head?.map DirtyPathRecord.path).getD [])))
      ((set.siblingGroups fold).values.filter fun records => records.length > 1)
  foldableGroups.foldl (foldSiblingGroup fold) set

def foldableQueuePaths (set : DirtyPathSet) : List Text :=
  (set.entries.values.filter fun record => .rename ∉ record.eventKinds).map DirtyPathRecord.path ++
    set.foldedTargets.values.map StatusRefreshTarget.path

/-- The queue paths below each ancestor directory. -/
def subtreeGroups (set : DirtyPathSet) : OrderedMap Text SubtreeFoldGroup :=
  set.foldableQueuePaths.foldl (fun groups path =>
    (ancestorPaths path).foldl (fun groups ancestor =>
      let key := comparisonKey fold set.scope ancestor
      match groups.get? key with
      | some group => groups.set key { group with paths := group.paths ++ [path] }
      | none => groups.set key ⟨ancestor, [path]⟩) groups) .empty

def queueSizeAfterSubtreeFold (set : DirtyPathSet) (ancestor : Text) : Int :=
  let covered :=
    (set.entries.values.countP fun record =>
      set.isSameOrDescendantOf fold ancestor record.path) +
    (set.foldedTargets.values.countP fun target =>
      set.isSameOrDescendantOf fold ancestor target.path)
  set.watcherQueueSize - covered + 1

def deleteEntriesInside (set : DirtyPathSet) (ancestor : Text) : DirtyPathSet :=
  { set with
    entries := set.entries.values.foldl (fun entries record =>
      if set.isSameOrDescendantOf fold ancestor record.path then
        entries.delete (comparisonKey fold set.scope record.path)
      else entries) set.entries }

def deleteFoldedTargetsInside (set : DirtyPathSet) (ancestor : Text) : DirtyPathSet :=
  { set with
    foldedTargets := set.foldedTargets.values.foldl (fun foldedTargets target =>
      if comparisonKey fold set.scope target.path ≠
            comparisonKey fold set.scope ancestor ∧
          set.isDescendantOf fold ancestor target.path then
        foldedTargets.delete (comparisonKey fold set.scope target.path)
      else foldedTargets) set.foldedTargets }

/-- The groups that bring the queue within its bound first, then the deepest, then the largest. -/
def compareSubtreeGroups (set : DirtyPathSet) (left right : SubtreeFoldGroup) : Ordering :=
  let leftFits := decide (set.queueSizeAfterSubtreeFold fold left.ancestor ≤
    set.maxDirtyPaths)
  let rightFits := decide (set.queueSizeAfterSubtreeFold fold right.ancestor ≤
    set.maxDirtyPaths)
  if leftFits ≠ rightFits then (if rightFits then .gt else .lt)
  else
    ((compare (pathDepth right.ancestor) (pathDepth left.ancestor)).then
      (compare right.paths.length left.paths.length)).then
      (compareText left.ancestor right.ancestor)

/-- One turn of the loop of `foldSubtreeRecordsIntoTargets`; it stops once the queue fits. -/
def foldSubtreeGroup (set : DirtyPathSet) (group : SubtreeFoldGroup) : DirtyPathSet :=
  if set.watcherQueueSize ≤ set.maxDirtyPaths then set
  else
    ((set.setFoldedTarget fold group.ancestor .infinity "dirtyPathSubtreeFold"
      ).deleteEntriesInside fold group.ancestor
      ).deleteFoldedTargetsInside fold group.ancestor

def foldSubtreeRecordsIntoTargets (set : DirtyPathSet) : DirtyPathSet :=
  let foldableGroups :=
    sortBy (set.compareSubtreeGroups fold)
      ((set.subtreeGroups fold).values.filter fun group => group.paths.length > 1)
  foldableGroups.foldl (foldSubtreeGroup fold) set

def findFoldedTargetCovering (set : DirtyPathSet) (path : Text) : Option StatusRefreshTarget :=
  let directParent := parentPath path
  let infinityTargets :=
    sortBy (fun left right => (compare (pathDepth right.path) (pathDepth left.path)).then
        (compareText left.path right.path))
      (set.foldedTargets.values.filter fun target =>
        decide (target.depth = .infinity) &&
          set.isDescendantOf fold target.path path)
  match set.foldedTargets.get? (comparisonKey fold set.scope directParent) with
  | some directTarget =>
    if isDirectChild directParent path then some directTarget else infinityTargets.head?
  | none => infinityTargets.head?

/-- `mergeIntoFoldedTargetIfCovered`: the new set when a folded target covers the path. -/
def mergeIntoFoldedTargetIfCovered (set : DirtyPathSet) (path : Text) (kind : FileEventKind) :
    Option DirtyPathSet :=
  match set.findFoldedTargetCovering fold path with
  | none => none
  | some target =>
    if target.depth ≠ .infinity ∧ (kind = .create ∨ kind = .delete) then
      some (set.setFoldedTarget fold target.path .immediates "dirtyPathFold")
    else some set

/-! ## Recording and draining -/

/-- The record of a path after one more event. -/
def updateRecord (existing : DirtyPathRecord) (event : DirtyFileEvent) : DirtyPathRecord :=
  { existing with
    eventKinds := insert event.kind existing.eventKinds
    firstTimestamp := min event.timestamp existing.firstTimestamp
    lastTimestamp := max event.timestamp existing.lastTimestamp
    lastKind := event.kind
    eventCount := existing.eventCount + 1 }

/-- The end of `record`: fold, and in the end overflow, a queue that has outgrown its bound. -/
def shrink (set : DirtyPathSet) (timestamp : Int) : DirtyPathSet :=
  if set.watcherQueueSize ≤ set.maxDirtyPaths then set
  else
    let set := set.foldSiblingRecordsIntoTargets fold
    if set.watcherQueueSize ≤ set.maxDirtyPaths then set
    else
      let set := set.foldSubtreeRecordsIntoTargets fold
      if set.watcherQueueSize ≤ set.maxDirtyPaths then set
      else
        { set with
          entries := .empty
          foldedTargets := .empty
          overflowed := true
          overflowedAt := some timestamp }

def record (set : DirtyPathSet) (event : DirtyFileEvent) : Bool × DirtyPathSet :=
  if set.overflowed then (true, set)
  else
    match repositoryRelativePath fold set.scope event.path with
    | none => (false, set)
    -- the empty string is falsy
    | some [] => (false, set)
    | some normalized =>
      match set.mergeIntoFoldedTargetIfCovered fold normalized event.kind with
      | some merged => (true, merged)
      | none =>
        let key := comparisonKey fold set.scope normalized
        match set.entries.get? key with
        | some existing =>
          (true, { set with entries := set.entries.set key (updateRecord existing event) })
        | none =>
          let added : DirtyPathRecord :=
            { path := normalized
              eventKinds := {event.kind}
              firstKind := event.kind
              lastKind := event.kind
              firstTimestamp := event.timestamp
              lastTimestamp := event.timestamp
              eventCount := 1 }
          let set := { set with entries := set.entries.set key added }
          (true, set.shrink fold event.timestamp)

def sortedRecords (set : DirtyPathSet) : List DirtyPathRecord :=
  sortBy (fun left right => compareText left.path right.path) set.entries.values

def toRefreshTargets (set : DirtyPathSet) : List StatusRefreshTarget :=
  if set.overflowed then [⟨".", .infinity, "watcherOverflow"⟩]
  else
    let listed := set.explicitTargets.values ++ set.foldedTargets.values ++
      set.sortedRecords.flatMap targetsForRecord
    let targets : OrderedMap Text StatusRefreshTarget :=
      listed.foldl (fun targets target => targets.set (targetKey target) target) .empty
    sortBy compareTargets targets.values

def clear (set : DirtyPathSet) : DirtyPathSet :=
  { set with
    entries := .empty
    explicitTargets := .empty
    foldedTargets := .empty
    overflowed := false
    overflowedAt := none }

def drainToRefreshTargets (set : DirtyPathSet) : List StatusRefreshTarget × DirtyPathSet :=
  (set.toRefreshTargets, set.clear)

def mergeTargets (set : DirtyPathSet) (targets : List StatusRefreshTarget) : DirtyPathSet :=
  if targets.isEmpty then set
  else if targets.any fun target => decide (target.path = ".") && decide (target.depth = .infinity)
  then
    { set with
      entries := .empty
      explicitTargets := .empty
      foldedTargets := .empty
      overflowed := true }
  else
    { set with
      explicitTargets := targets.foldl (fun explicitTargets target =>
        explicitTargets.set (targetKey target) target) set.explicitTargets }

end DirtyPathSet

end CaseFolding

end SubversionR

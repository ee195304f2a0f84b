import SubversionR.Lib.PathOrder
import SubversionR.Daemon.Parameters

/-!
# Daemon discovery — finding working copies below the workspace roots

`dispatch_repository_discover` of the daemon's `state.rs`.  For each workspace root it opens the
working copy there, optionally the external working copies its status names, and optionally the
working copies in subdirectories that look like one.  The file system and the native bridge are
parameters; besides the answer the model returns the paths handed to the bridge, in order, and the
number of earlier calls tells two openings of one path apart.

* `discoverRoots_reaches` — the complete list of the paths a discovery may hand to the bridge;
* `discoverRoots_reached` — each of them is handed over in some surroundings;
* `nestedWorkingCopyHintPaths_atOrBelow` — the nested ones lie below their root.
-/

namespace SubversionR

open JsonValues PathOrder

/-- What the bridge answers to the calls that open a working copy. -/
structure OpenBridge where
  openWorkingCopy : (call : Nat) → (path : Text) → Except BridgeFailure RepositoryIdentity

/-- The directories discovery walks through.  `childDirectories` gives the names of the directories
in a directory that are no symbolic links; `hasAdminDir` tells whether a directory holds the
administrative directory of a working copy. -/
structure FileSystem where
  childDirectories : (directory : Text) → List Text
  hasAdminDir : (directory : Text) → Bool

/-- The empty file system. -/
def FileSystem.empty : FileSystem := ⟨fun _ => [], fun _ => false⟩

structure RepositoryDiscoveryCandidate where
  identity : RepositoryIdentity
  isNested : Bool
  isExternal : Bool
  parentWorkingCopyRoot : Option Text
deriving DecidableEq

/-- `discovery_path_key`. -/
def discoveryPathKey (platform : Platform) (path : Text) : Text :=
  foldCase platform (normalizeAbsolutePathText path)

/-- `PathBuf::push` of one component.  On Windows nothing is put between a bare drive and the
component. -/
def pushComponent (platform : Platform) (path component : Text) : Text :=
  match platform with
  | .posix =>
    if path = [] ∨ path.getLast? = some '/' then path ++ component else path ++ '/' :: component
  | .windows =>
    let bareDrive : Bool := match path with
      | [drive, ':'] => drive.isAlpha
      | _ => false
    if path = [] ∨ path.getLast? = some '/' ∨ path.getLast? = some '\\' ∨ bareDrive then
      path ++ component
    else path ++ '\\' :: component

/-- `absolute_working_copy_path`. -/
def absoluteWorkingCopyPath (platform : Platform) (identity : RepositoryIdentity)
    (repositoryRelativePath : Text) : Text :=
  (repositoryRelativePath.forwardSlashes.splitOn '/').foldl (pushComponent platform)
    identity.workingCopyRoot

/-! ## Nested working copies -/

/-- `discovery_ignore_matches`; `relative` is the path below the workspace root. -/
def discoveryIgnoreMatches (platform : Platform) (name relative : Text) (patterns : List Text) :
    Bool :=
  let nameKey := foldCase platform name
  let relativePathKey := foldCase platform relative.forwardSlashes
  patterns.any fun pattern =>
    let normalized := Text.trimMatches (· = '/')
      (Text.trimMatches Text.rustWhitespace pattern).forwardSlashes
    if normalized = [] then false
    else
      let normalizedKey := foldCase platform normalized
      if normalizedKey = nameKey ∨ normalizedKey = relativePathKey then true
      else
        match Text.stripPrefix "**/" normalizedKey with
        | none => false
        | some suffix =>
          let suffix := Text.trimMatches (· = '/') suffix
          decide (suffix ≠ []) && (decide (suffix = nameKey) || decide (suffix = relativePathKey)
            || decide (('/' :: suffix) <:+ relativePathKey))

/-- A directory that looks like a working copy, with its number of components below the root. -/
structure NestedHint where
  components : Nat
  path : Text

/-- The walk of `nested_working_copy_hint_paths` below one directory, `remaining` levels deep.  The
stack of the source takes the directories of one level from the last to the first. -/
def nestedHintsBelow (platform : Platform) (files : FileSystem) (ignore : List Text) :
    (remaining components : Nat) → (directory relative : Text) → List NestedHint
  | 0, _, _, _ => []
  | remaining + 1, components, directory, relative =>
    let below (name : Text) : Text := if relative = [] then name else relative ++ '/' :: name
    let children := (files.childDirectories directory).filter fun (name : Text) =>
      decide (name ≠ ".svn") && !discoveryIgnoreMatches platform name (below name) ignore
    let hints := (children.map (pushComponent platform directory)).filter files.hasAdminDir
    hints.map (NestedHint.mk (components + 1)) ++
      children.reverse.flatMap fun name =>
        nestedHintsBelow platform files ignore remaining (components + 1)
          (pushComponent platform directory name) (below name)

/-- `nested_working_copy_hint_paths`: the shallow ones first, then by key. -/
def nestedWorkingCopyHintPaths (platform : Platform) (files : FileSystem) (workspaceRoot : Text)
    (discoveryDepth : Nat) (ignore : List Text) : List Text :=
  let le (left right : NestedHint) : Bool :=
    decide (left.components < right.components) ||
      (left.components == right.components &&
        (compare (discoveryPathKey platform left.path)
          (discoveryPathKey platform right.path)).isLE)
  ((nestedHintsBelow platform files ignore discoveryDepth 0 workspaceRoot []).mergeSort le).map
    NestedHint.path

/-! ## The candidates -/

/-- `nearest_parent_working_copy_root`; of several roots of one length the last is taken. -/
def nearestParentWorkingCopyRoot (platform : Platform)
    (candidates : List RepositoryDiscoveryCandidate) (workingCopyRoot : Text) : Option Text :=
  let rootKey := discoveryPathKey platform workingCopyRoot
  let parents := (candidates.map fun candidate => candidate.identity.workingCopyRoot).filter
    fun root =>
      let parentKey := discoveryPathKey platform root
      decide (parentKey ≠ rootKey) && isDescendantPathKey rootKey parentKey
  parents.foldl (fun best root =>
    match best with
    | none => some root
    | some other =>
      if (discoveryPathKey platform other).utf8.length ≤
        (discoveryPathKey platform root).utf8.length
      then some root else some other) none

/-- What the loop of `dispatch_repository_discover` has found so far. -/
structure DiscoveryState where
  candidates : List RepositoryDiscoveryCandidate
  fileExternalBoundaries : List Text
  bridgePaths : List Text

instance : Inhabited DiscoveryState := ⟨⟨[], [], []⟩⟩

/-- `push_discovery_candidate_with_flags`; the roots seen so far are those of the candidates. -/
def DiscoveryState.pushCandidate (platform : Platform) (ignoredRootKeys : List Text)
    (identity : RepositoryIdentity) (fallbackParent : Option Text) (isExternal : Bool)
    (found : DiscoveryState) : DiscoveryState :=
  let rootKey := discoveryPathKey platform identity.workingCopyRoot
  if rootKey ∈ ignoredRootKeys ∨
      rootKey ∈ found.candidates.map fun candidate =>
        discoveryPathKey platform candidate.identity.workingCopyRoot then found
  else
    let parent := (nearestParentWorkingCopyRoot platform found.candidates
      identity.workingCopyRoot).or
      (fallbackParent.filter fun parent =>
        isDescendantPathKey rootKey (discoveryPathKey platform parent))
    { found with
      candidates := found.candidates ++
        [{ identity, isNested := parent.isSome && !isExternal, isExternal,
           parentWorkingCopyRoot := parent }] }

/-- A call of the bridge that opens a working copy, written down. -/
def DiscoveryState.opening (bridge : OpenBridge) (path : Text) (found : DiscoveryState) :
    Except BridgeFailure RepositoryIdentity × DiscoveryState :=
  (bridge.openWorkingCopy found.bridgePaths.length path,
    { found with bridgePaths := found.bridgePaths ++ [path] })

/-- The paths of the external entries of one kind, each key once. -/
def externalPaths (platform : Platform) (identity : RepositoryIdentity) (kind : Text)
    (entries : List StatusEntry) : List Text :=
  let paths := (entries.filter fun entry =>
    entry.external && decide (entry.kind = kind) && decide (entry.path ≠ ("." : Text))
      && validRepositoryRelativePath entry.path).map fun entry =>
        absoluteWorkingCopyPath platform identity entry.path
  paths.foldl (fun kept path =>
    if discoveryPathKey platform path ∈ kept.map (discoveryPathKey platform) then kept
    else kept ++ [path]) []

/-- A failed opening ends the discovery unless there is no working copy at the path. -/
def wcNotFound (failure : BridgeFailure) : Bool := decide (failure.code = "SVN_WC_NOT_FOUND")

/-- Open a list of paths one after the other and push what is found. -/
def openCandidates (platform : Platform) (bridge : OpenBridge) (ignoredRootKeys : List Text)
    (fallbackParent : Option Text) (isExternal : Bool) :
    List Text → DiscoveryState → Except BridgeFailure Unit × DiscoveryState
  | [], found => (.ok (), found)
  | path :: paths, found =>
    match found.opening bridge path with
    | (.ok identity, found) =>
      openCandidates platform bridge ignoredRootKeys fallbackParent isExternal paths
        (found.pushCandidate platform ignoredRootKeys identity fallbackParent isExternal)
    | (.error failure, found) =>
      if wcNotFound failure then
        openCandidates platform bridge ignoredRootKeys fallbackParent isExternal paths found
      else (.error failure, found)

/-- The checked parameters of a discovery. -/
structure DiscoverRequest where
  workspaceRoots : List Text
  discoverNested : Bool
  discoveryDepth : Nat
  discoveryIgnore : List Text
  ignoredRoots : List Text
  lazyExternals : Bool

/-- The externals of one working copy (`externalsMode` is `lazy`): its status is read, the file
externals become boundaries and the directory externals are opened. -/
def discoverExternals (platform : Platform) (bridge : OpenBridge) (status : StatusBridge)
    (ignoredRootKeys : List Text) (identity : RepositoryIdentity) (found : DiscoveryState) :
    Except BridgeFailure Unit × DiscoveryState :=
  let found := { found with bridgePaths := found.bridgePaths ++ [identity.workingCopyRoot] }
  match status.statusSnapshot identity 0 with
  | .error failure => (.error failure, found)
  | .ok snapshot =>
    let boundaries := (externalPaths platform identity "file" snapshot.localEntries).filter
      fun path => decide (discoveryPathKey platform path ∉
        found.fileExternalBoundaries.map (discoveryPathKey platform))
    openCandidates platform bridge ignoredRootKeys (some identity.workingCopyRoot) true
      (externalPaths platform identity "dir" snapshot.localEntries)
      { found with fileExternalBoundaries := found.fileExternalBoundaries ++ boundaries }

/-- The working copy at a workspace root and, if asked for, its externals.  The result names the
parent of the nested ones. -/
def discoverRoot (platform : Platform) (bridge : OpenBridge) (status : StatusBridge)
    (request : DiscoverRequest) (workspaceRoot : Text) (found : DiscoveryState) :
    Except BridgeFailure (Option Text) × DiscoveryState :=
  let ignoredRootKeys := request.ignoredRoots.map (discoveryPathKey platform)
  match request.ignoredRoots.find? fun ignored =>
    decide (discoveryPathKey platform ignored = discoveryPathKey platform workspaceRoot) with
  | some ignored => (.ok (some ignored), found)
  | none =>
    match found.opening bridge workspaceRoot with
    | (.error failure, found) => (if wcNotFound failure then .ok none else .error failure, found)
    | (.ok identity, found) =>
      let found := found.pushCandidate platform ignoredRootKeys identity none false
      if request.lazyExternals then
        match discoverExternals platform bridge status ignoredRootKeys identity found with
        | (.error failure, found) => (.error failure, found)
        | (.ok _, found) => (.ok (some identity.workingCopyRoot), found)
      else (.ok (some identity.workingCopyRoot), found)

/-- The loop of `dispatch_repository_discover` over the workspace roots. -/
def discoverRoots (platform : Platform) (bridge : OpenBridge) (status : StatusBridge)
    (files : FileSystem) (request : DiscoverRequest) :
    List Text → DiscoveryState → Except BridgeFailure Unit × DiscoveryState
  | [], found => (.ok (), found)
  | workspaceRoot :: rest, found =>
    match discoverRoot platform bridge status request workspaceRoot found with
    | (.error failure, found) => (.error failure, found)
    | (.ok parent, found) =>
      if request.discoverNested then
        let ignoredRootKeys := request.ignoredRoots.map (discoveryPathKey platform)
        let nested := (nestedWorkingCopyHintPaths platform files workspaceRoot
          request.discoveryDepth
          request.discoveryIgnore).filter fun path =>
            decide (discoveryPathKey platform path ∉ ignoredRootKeys)
        match openCandidates platform bridge ignoredRootKeys parent false nested found with
        | (.error failure, found) => (.error failure, found)
        | (.ok _, found) => discoverRoots platform bridge status files request rest found
      else discoverRoots platform bridge status files request rest found

/-- `MAX_REPOSITORY_DISCOVERY_DEPTH`. -/
def maxRepositoryDiscoveryDepth : Nat := 64

/-- The parameters of `repository/discover`. -/
def discoverRequest (params : Json) : Except DaemonError DiscoverRequest :=
  match stringArrayParam params "workspaceRoots" false with
  | none => .error (.invalidParams "workspaceRoots")
  | some workspaceRoots =>
    match boolParam params "discoverNested" with
    | none => .error (.invalidParams "discoverNested")
    | some discoverNested =>
      match u64Param params "discoveryDepth" with
      | none => .error (.invalidParams "discoveryDepth")
      | some discoveryDepth =>
        if maxRepositoryDiscoveryDepth < discoveryDepth then .error
          (.invalidParams "discoveryDepth")
        else
          match stringArrayParam params "discoveryIgnore" true with
          | none => .error (.invalidParams "discoveryIgnore")
          | some discoveryIgnore =>
            match stringArrayParam params "ignoredRoots" true with
            | none => .error (.invalidParams "ignoredRoots")
            | some ignoredRoots =>
              match stringParamWith params "externalsMode" fun _ => true with
              | none => .error (.invalidParams "externalsMode")
              | some externalsMode =>
                if externalsMode = "off" ∨ externalsMode = "lazy" then
                  .ok { workspaceRoots, discoverNested, discoveryDepth, discoveryIgnore,
                        ignoredRoots, lazyExternals := externalsMode = "lazy" }
                else .error (.bridge ⟨"REPOSITORY_DISCOVERY_MODE_UNSUPPORTED", "unsupported",
                  "error.repository.discoveryModeUnsupported", false⟩)

/-! ## The paths handed to the bridge -/

/-- The workspace root is one of the roots the client asked to leave out. -/
def DiscoverRequest.Ignores (platform : Platform) (request : DiscoverRequest)
    (path : Text) : Prop :=
  discoveryPathKey platform path ∈ request.ignoredRoots.map (discoveryPathKey platform)

/-- **The paths a discovery may hand to the bridge** on behalf of one workspace root: the root
itself, with the externals any path at all, and the paths below the root that look like a working
copy in some file system. -/
inductive DiscoverRequest.Reaches (platform : Platform) (request : DiscoverRequest) (root : Text) :
    Text → Prop where
  | opened (h : ¬ request.Ignores platform root) : request.Reaches platform root root
  | followed (path : Text) (h : ¬ request.Ignores platform root)
      (externals : request.lazyExternals = true) : request.Reaches platform root path
  | nested (path : Text) (files : FileSystem) (asked : request.discoverNested = true)
      (hint : path ∈ nestedWorkingCopyHintPaths platform files root request.discoveryDepth
        request.discoveryIgnore)
      (h : ¬ request.Ignores platform path) : request.Reaches platform root path

@[simp]
theorem DiscoveryState.bridgePaths_pushCandidate (platform : Platform) (ignoredRootKeys : List Text)
    (identity : RepositoryIdentity) (fallbackParent : Option Text) (isExternal : Bool)
    (found : DiscoveryState) :
    (found.pushCandidate platform ignoredRootKeys identity fallbackParent isExternal).bridgePaths =
      found.bridgePaths := by
  unfold DiscoveryState.pushCandidate
  dsimp only
  split
  · rfl
  · rfl

variable {path : Text}

theorem DiscoveryState.bridgePaths_opening {bridge : OpenBridge} {found found' : DiscoveryState}
    {answer : Except BridgeFailure RepositoryIdentity}
    (h : found.opening bridge path = (answer, found')) :
    found'.bridgePaths = found.bridgePaths ++ [path] := by
  cases h
  rfl

section

variable {platform : Platform} {bridge : OpenBridge} {status : StatusBridge} {files : FileSystem}
  {request : DiscoverRequest} {path root : Text} {found : DiscoveryState}

theorem openCandidates_bridgePaths {ignoredRootKeys : List Text} {fallbackParent : Option Text}
    {isExternal : Bool} {paths : List Text}
    (h : path ∈ (openCandidates platform bridge ignoredRootKeys fallbackParent isExternal paths
      found).2.bridgePaths) :
    path ∈ found.bridgePaths ∨ path ∈ paths := by
  induction paths generalizing found with
  | nil => exact .inl h
  | cons next paths ih =>
    -- every way on starts from the paths found so far and the next one
    have hgo : path ∈ found.bridgePaths ++ [next] ∨ path ∈ paths →
        path ∈ found.bridgePaths ∨ path ∈ next :: paths := by
      simp only [List.mem_append, List.mem_cons]
      tauto
    unfold openCandidates at h
    split at h
    · rename_i found' hopening
      rcases ih h with hfound | hrest
      · rw [DiscoveryState.bridgePaths_pushCandidate,
          DiscoveryState.bridgePaths_opening hopening] at hfound
        exact hgo (.inl hfound)
      · exact hgo (.inr hrest)
    · rename_i found' hopening
      have hfound' := DiscoveryState.bridgePaths_opening hopening
      split at h
      · exact hgo (hfound' ▸ ih h)
      · exact hgo (.inl (hfound' ▸ h))

theorem ignored_find_eq_none_iff {ignoredRoots : List Text} :
    (ignoredRoots.find? fun ignored =>
      decide (discoveryPathKey platform ignored = discoveryPathKey platform root)) = none ↔
      discoveryPathKey platform root ∉ ignoredRoots.map (discoveryPathKey platform) := by
  simp [List.find?_eq_none]

/-- The paths of one workspace root without the nested ones. -/
theorem discoverRoot_bridgePaths
    (h : path ∈ (discoverRoot platform bridge status request root found).2.bridgePaths) :
    path ∈ found.bridgePaths ∨ request.Reaches platform root path := by
  unfold discoverRoot at h
  split at h
  · exact .inl h
  rename_i hfind
  have hroot : ¬ request.Ignores platform root := ignored_find_eq_none_iff.mp hfind
  have hopened : path ∈ found.bridgePaths ++ [root] →
      path ∈ found.bridgePaths ∨ request.Reaches platform root path := by
    intro hmem
    rcases List.mem_append.mp hmem with hmem | hmem
    · exact .inl hmem
    · rw [List.mem_singleton.mp hmem]
      exact .inr (.opened hroot)
  split at h
  · rename_i found' hopening
    exact hopened (DiscoveryState.bridgePaths_opening hopening ▸ h)
  · rename_i found' hopening
    split at h
    · rename_i hlazy
      exact .inr (.followed path hroot hlazy)
    · rw [DiscoveryState.bridgePaths_pushCandidate,
        DiscoveryState.bridgePaths_opening hopening] at h
      exact hopened h

variable {roots : List Text}

/-- **Every path a discovery hands to the bridge** belongs to one of the workspace roots. -/
theorem discoverRoots_reaches
    (h : path ∈ (discoverRoots platform bridge status files request roots found).2.bridgePaths) :
    path ∈ found.bridgePaths ∨ ∃ root ∈ roots, request.Reaches platform root path := by
  induction roots generalizing found with
  | nil => exact .inl h
  | cons root roots ih =>
    -- a bridge call is due to this root or, by induction, to a later one
    have hhere : request.Reaches platform root path →
        path ∈ found.bridgePaths ∨ ∃ root' ∈ root :: roots, request.Reaches platform root' path :=
      fun hreaches => .inr ⟨root, List.mem_cons_self, hreaches⟩
    have hlater : (∃ root' ∈ roots, request.Reaches platform root' path) →
        path ∈ found.bridgePaths ∨ ∃ root' ∈ root :: roots,
          request.Reaches platform root' path := by
      rintro ⟨root', hmem, hreaches⟩
      exact .inr ⟨root', List.mem_cons_of_mem _ hmem, hreaches⟩
    unfold discoverRoots at h
    rcases hroot : discoverRoot platform bridge status request root found with ⟨answer, found'⟩
    have hfound' : path ∈ found'.bridgePaths → path ∈ found.bridgePaths ∨
        ∃ root' ∈ root :: roots, request.Reaches platform root' path := by
      intro hmem
      rcases @discoverRoot_bridgePaths platform bridge status request path root found
        (by rw [hroot]; exact hmem) with hfound | hreaches
      · exact .inl hfound
      · exact hhere hreaches
    rw [hroot] at h
    cases answer with
    | error failure => exact hfound' h
    | ok parent =>
      dsimp only at h
      split at h
      · rename_i hnested
        split at h
        all_goals
          rename_i found'' hopen
          -- nested candidates are opened after their parent, within its depth
          have hcandidates : path ∈ found''.bridgePaths → path ∈ found.bridgePaths ∨
              ∃ root' ∈ root :: roots, request.Reaches platform root' path := by
            intro hmem
            rcases openCandidates_bridgePaths (by rw [hopen]; exact hmem) with hfound | hhint
            · exact hfound' hfound
            · rw [List.mem_filter, decide_eq_true_iff] at hhint
              exact hhere (.nested path files hnested hhint.1 hhint.2)
        · exact hcandidates h
        · rcases ih h with hfound | hrest
          · exact hcandidates hfound
          · exact hlater hrest
      · rcases ih h with hfound | hrest
        · exact hfound' hfound
        · exact hlater hrest

/-! ### Surroundings in which they are handed over -/

/-- A bridge that finds no working copy anywhere. -/
def OpenBridge.findingNone : OpenBridge := ⟨fun _ _ => .error ⟨"SVN_WC_NOT_FOUND", [], [], false⟩⟩

/-- A bridge that finds the working copy `root` at every path. -/
def OpenBridge.finding (root : Text) : OpenBridge := ⟨fun _ _ => .ok ⟨[], [], root, [], 0⟩⟩

/-- A bridge that answers no status call. -/
def StatusBridge.refusing : StatusBridge where
  statusSnapshot := fun _ _ => .error ⟨[], [], [], false⟩
  statusScan := fun _ _ _ _ _ => .error ⟨[], [], [], false⟩
  statusRemoteCheck := fun _ _ => .error ⟨[], [], [], false⟩

theorem openCandidates_findingNone {ignoredRootKeys : List Text} {fallbackParent : Option Text}
    {isExternal : Bool} (paths : List Text) :
    openCandidates platform .findingNone ignoredRootKeys fallbackParent isExternal paths found =
      (.ok (), { found with bridgePaths := found.bridgePaths ++ paths }) := by
  induction paths generalizing found with
  | nil =>
    unfold openCandidates
    rw [List.append_nil]
  | cons next paths ih =>
    unfold openCandidates DiscoveryState.opening OpenBridge.findingNone
    show openCandidates platform .findingNone ignoredRootKeys fallbackParent isExternal paths _ = _
    rw [ih, List.append_assoc]
    rfl

/-- Where no working copy is found, a root that is not left out is handed over. -/
theorem discoverRoot_findingNone :
    ∃ parent, discoverRoot platform .findingNone status request root found =
      (.ok parent, { found with bridgePaths := found.bridgePaths ++
        (if discoveryPathKey platform root ∈ request.ignoredRoots.map (discoveryPathKey platform)
          then [] else [root]) }) := by
  unfold discoverRoot
  split
  · rename_i hfind
    have hignored : discoveryPathKey platform root ∈
        request.ignoredRoots.map (discoveryPathKey platform) := by
      by_contra hnot
      rw [ignored_find_eq_none_iff.mpr hnot] at hfind
      cases hfind
    rw [if_pos hignored, List.append_nil]
    exact ⟨_, rfl⟩
  · rename_i hfind
    rw [if_neg (ignored_find_eq_none_iff.mp hfind)]
    exact ⟨none, rfl⟩

/-- Where no working copy is found, all roots and all nested paths are tried. -/
theorem discoverRoots_findingNone (hmem : root ∈ roots)
    (hpath : (path = root ∧ ¬ request.Ignores platform root) ∨
      (request.discoverNested = true ∧ path ∈ nestedWorkingCopyHintPaths platform files root
        request.discoveryDepth request.discoveryIgnore ∧ ¬ request.Ignores platform path)) :
    path ∈ (discoverRoots platform .findingNone status files request roots
      found).2.bridgePaths := by
  -- what has been tried stays tried
  have hkeeps : ∀ (roots : List Text) (found : DiscoveryState), path ∈ found.bridgePaths →
      path ∈ (discoverRoots platform .findingNone status files request roots
        found).2.bridgePaths := by
    intro roots
    induction roots with
    | nil => exact fun _ h => h
    | cons next roots ih =>
      intro found h
      obtain ⟨parent, hnext⟩ := @discoverRoot_findingNone platform status request next found
      unfold discoverRoots
      rw [hnext]
      dsimp only
      split
      · rw [openCandidates_findingNone]
        exact ih _ (List.mem_append_left _ (List.mem_append_left _ h))
      · exact ih _ (List.mem_append_left _ h)
  induction roots generalizing found with
  | nil => cases hmem
  | cons next roots ih =>
    obtain ⟨parent, hnext⟩ := @discoverRoot_findingNone platform status request next found
    unfold discoverRoots
    rw [hnext]
    dsimp only
    rcases List.mem_cons.mp hmem with rfl | hlater
    · rcases hpath with ⟨rfl, hnot⟩ | ⟨hnested, hhint, hnot⟩
      · have hhere : path ∈ found.bridgePaths ++ [path] := by simp
        unfold DiscoverRequest.Ignores at hnot
        split
        · rw [openCandidates_findingNone]
          exact hkeeps _ _ (List.mem_append_left _ hhere)
        · exact hkeeps _ _ hhere
      · rw [if_pos hnested, openCandidates_findingNone]
        refine hkeeps _ _ (List.mem_append_right _ ?_)
        rw [List.mem_filter, decide_eq_true_iff]
        exact ⟨hhint, hnot⟩
    · split
      · rw [openCandidates_findingNone]
        exact ih hlater
      · exact ih hlater

theorem nestedWorkingCopyHintPaths_empty (depth : Nat) (ignore : List Text) :
    nestedWorkingCopyHintPaths platform .empty root depth ignore = [] := by
  unfold nestedWorkingCopyHintPaths
  cases depth with
  | zero => simp [nestedHintsBelow]
  | succ depth => simp [nestedHintsBelow, FileSystem.empty]

/-- A root that is left out is passed over. -/
theorem discoverRoot_ignored (h : request.Ignores platform root) :
    ∃ parent, discoverRoot platform bridge status request root found = (.ok parent, found) := by
  unfold discoverRoot
  split
  · exact ⟨_, rfl⟩
  · rename_i hfind
    exact absurd h (ignored_find_eq_none_iff.mp hfind)

/-- With the externals, the status of whatever working copy is found is asked for. -/
theorem discoverRoot_finding (hroot : ¬ request.Ignores platform root)
    (hlazy : request.lazyExternals = true) :
    ∃ failure found', discoverRoot platform (.finding path) .refusing request root found =
      (.error failure, found') ∧ path ∈ found'.bridgePaths := by
  unfold discoverRoot
  rw [ignored_find_eq_none_iff.mpr hroot]
  dsimp only [DiscoveryState.opening, OpenBridge.finding, discoverExternals, StatusBridge.refusing]
  rw [if_pos hlazy]
  exact ⟨_, _, rfl, by simp⟩

theorem discoverRoots_finding (hmem : root ∈ roots) (hroot : ¬ request.Ignores platform root)
    (hlazy : request.lazyExternals = true) :
    path ∈ (discoverRoots platform (.finding path) .refusing .empty request roots
      found).2.bridgePaths := by
  induction roots generalizing found with
  | nil => cases hmem
  | cons next roots ih =>
    unfold discoverRoots
    by_cases hnext : request.Ignores platform next
    · -- nothing is nested below a root that is left out
      have hne : root ≠ next := by
        rintro rfl
        exact hroot hnext
      have hlater : root ∈ roots := (List.mem_cons.mp hmem).resolve_left hne
      obtain ⟨_, hignored⟩ := discoverRoot_ignored hnext
      rw [hignored, nestedWorkingCopyHintPaths_empty]
      dsimp only
      split
      · exact ih hlater
      · exact ih hlater
    · obtain ⟨_, _, hfinding, hpath⟩ := discoverRoot_finding hnext hlazy
      rw [hfinding]
      exact hpath

/-- **Each path a discovery may hand to the bridge is handed over in some surroundings.** -/
theorem discoverRoots_reached {roots : List Text} (hmem : root ∈ roots)
    (h : request.Reaches platform root path) :
    ∃ bridge status files,
      path ∈ (discoverRoots platform bridge status files request roots found).2.bridgePaths := by
  cases h with
  | opened hroot =>
    exact ⟨.findingNone, .refusing, .empty, discoverRoots_findingNone hmem (.inl ⟨rfl, hroot⟩)⟩
  | followed path hroot externals =>
    exact ⟨.finding path, .refusing, .empty, discoverRoots_finding hmem hroot externals⟩
  | nested path files asked hint hpath =>
    exact ⟨.findingNone, .refusing, files,
      discoverRoots_findingNone hmem (.inr ⟨asked, hint, hpath⟩)⟩

end

/-! ### The keys of nested paths -/

/-- Slashes at the end of a text are part of the way down. -/
theorem trimEnd_slash_append (x rest : Text) :
    ∃ rest', x ++ '/' :: rest = Text.trimEndMatches (· = '/') x ++ '/' :: rest' := by
  induction x using List.reverseRecOn generalizing rest with
  | nil => exact ⟨rest, rfl⟩
  | append_singleton x c ih =>
    rw [Text.trimEndMatches_concat]
    by_cases hc : c = '/'
    · subst hc
      obtain ⟨rest', hrest⟩ := ih ('/' :: rest)
      exact ⟨rest', by simpa using hrest⟩
    · rw [if_neg (by simpa using hc)]
      exact ⟨rest, rfl⟩

theorem trimEnd_slash_atOrBelow (x y : Text) :
    AtOrBelow '/' (Text.trimEndMatches (· = '/') (x ++ '/' :: y))
      (Text.trimEndMatches (· = '/') x) := by
  induction y using List.reverseRecOn with
  | nil =>
    rw [Text.trimEndMatches_concat, if_pos (by simp)]
    exact .refl _
  | append_singleton y c ih =>
    rw [← List.cons_append, ← List.append_assoc, Text.trimEndMatches_concat]
    by_cases hc : c = '/'
    · rw [if_pos (by simpa using hc)]
      exact ih
    · rw [if_neg (by simpa using hc), List.append_assoc, List.cons_append]
      exact .inr (trimEnd_slash_append x (y ++ [c]))

variable {platform : Platform}

theorem foldCase_atOrBelow {b a : Text} (h : AtOrBelow '/' b a) :
    AtOrBelow '/' (foldCase platform b) (foldCase platform a) := by
  rcases h with rfl | ⟨rest, rfl⟩
  · exact .refl _
  · cases platform with
    | posix => exact .inr ⟨rest, rfl⟩
    | windows =>
      have hslash : Char.toLower '/' = '/' := by decide
      refine .inr ⟨Text.toAsciiLowercase rest, ?_⟩
      simp [foldCase, Text.toAsciiLowercase, hslash]

/-- A component can be pushed with a separator in front of it: the path is neither empty nor a bare
drive. -/
def Anchored (path : Text) : Prop := path ≠ [] ∧ ∀ drive : Char, drive.isAlpha → path ≠ [drive, ':']

theorem anchored_of_isAbsolute (h : isAbsoluteRustPath platform path = true) : Anchored path := by
  refine ⟨?_, ?_⟩
  · rintro rfl
    cases platform with
    | posix => simp [isAbsoluteRustPath] at h
    | windows => simp [isAbsoluteRustPath, isAbsoluteWindows] at h
  · rintro drive hdrive rfl
    cases platform with
    | posix =>
      have hslash : drive = '/' := by simpa [isAbsoluteRustPath] using h
      subst hslash
      revert hdrive
      decide
    | windows => simp [isAbsoluteRustPath, isAbsoluteWindows] at h

/-- A component is put behind a separator, the path's own or a new one. -/
theorem pushComponent_eq {platform : Platform} {path : Text} (h : Anchored path)
    (component : Text) :
    ∃ front separator, (separator = '/' ∨ separator = '\\') ∧
      (path = front ∨ path = front ++ [separator]) ∧
      pushComponent platform path component = front ++ separator :: component := by
  have hlast : ∀ c, path.getLast? = some c → path = path.dropLast ++ [c] := by
    intro c hc
    exact (List.dropLast_append_getLast? c hc).symm
  cases platform with
  | posix =>
    unfold pushComponent
    dsimp only
    split
    · rename_i hend
      have heq := hlast '/' (hend.resolve_left h.1)
      refine ⟨path.dropLast, '/', .inl rfl, .inr heq, ?_⟩
      rw [← List.singleton_append, ← List.append_assoc, ← heq]
    · exact ⟨path, '/', .inl rfl, .inl rfl, rfl⟩
  | windows =>
    have hsplit : ∀ c, (c = '/' ∨ c = '\\') → path.getLast? = some c →
        ∃ front separator, (separator = '/' ∨ separator = '\\') ∧
          (path = front ∨ path = front ++ [separator]) ∧
          path ++ component = front ++ separator :: component := by
      intro c hc hget
      have heq := hlast c hget
      refine ⟨path.dropLast, c, hc, .inr heq, ?_⟩
      rw [← List.singleton_append, ← List.append_assoc, ← heq]
    unfold pushComponent
    dsimp only
    split_ifs with hend
    · rcases hend with hnil | hslash | hback | hbare
      · exact absurd hnil h.1
      · exact hsplit '/' (.inl rfl) hslash
      · exact hsplit '\\' (.inr rfl) hback
      · split at hbare
        · rename_i drive
          exact absurd rfl (h.2 drive hbare)
        · cases hbare
    · exact ⟨path, '\\', .inr rfl, .inl rfl, rfl⟩

theorem anchored_pushComponent (h : Anchored path) (component : Text) :
    Anchored (pushComponent platform path component) := by
  obtain ⟨front, separator, hseparator, hpath, hpush⟩ := @pushComponent_eq platform path h component
  rw [hpush]
  refine ⟨by simp, ?_⟩
  intro _ hdrive heq
  -- the separator would be the drive or its colon
  cases front with
  | nil =>
    rw [List.nil_append, List.cons.injEq] at heq
    rcases hseparator with rfl | rfl
    · rw [← heq.1] at hdrive
      revert hdrive
      decide
    · rw [← heq.1] at hdrive
      revert hdrive
      decide
  | cons c front =>
    rw [List.cons_append, List.cons.injEq] at heq
    cases front with
    | nil =>
      rw [List.nil_append, List.cons.injEq] at heq
      rcases hseparator with rfl | rfl
      · exact absurd heq.2.1 (by decide)
      · exact absurd heq.2.1 (by decide)
    | cons c' front => simp at heq

theorem forwardSlashes_append_separator {separator : Char}
    (h : separator = '/' ∨ separator = '\\') (front rest : Text) :
    Text.forwardSlashes (front ++ separator :: rest) =
      front.forwardSlashes ++ '/' :: rest.forwardSlashes := by
  unfold Text.forwardSlashes
  rw [List.map_append, List.map_cons]
  rcases h with rfl | rfl
  · rfl
  · rfl

/-- **A pushed component leads down.** -/
theorem pushComponent_atOrBelow (h : Anchored path) (component : Text) :
    AtOrBelow '/' (discoveryPathKey platform (pushComponent platform path component))
      (discoveryPathKey platform path) := by
  obtain ⟨front, separator, hseparator, hpath, hpush⟩ := @pushComponent_eq platform path h component
  have hkey : normalizeAbsolutePathText path =
    Text.trimEndMatches (· = '/') front.forwardSlashes := by
    unfold normalizeAbsolutePathText
    rcases hpath with rfl | rfl
    · rfl
    · rw [forwardSlashes_append_separator hseparator, Text.forwardSlashes_nil,
        Text.trimEndMatches_concat, if_pos (by simp)]
  unfold discoveryPathKey
  rw [hpush, hkey]
  unfold normalizeAbsolutePathText
  rw [forwardSlashes_append_separator hseparator]
  exact foldCase_atOrBelow (trimEnd_slash_atOrBelow _ _)

theorem nestedHintsBelow_atOrBelow {files : FileSystem} {ignore : List Text}
    {remaining components : Nat} {directory relative : Text} {hint : NestedHint}
    (hdirectory : Anchored directory)
    (h : hint ∈ nestedHintsBelow platform files ignore remaining components directory relative) :
    AtOrBelow '/' (discoveryPathKey platform hint.path) (discoveryPathKey platform directory) := by
  induction remaining generalizing components directory relative with
  | zero => cases h
  | succ remaining ih =>
    rcases List.mem_append.mp h with hhere | hbelow
    · obtain ⟨path, hpath, rfl⟩ := List.mem_map.mp hhere
      obtain ⟨name, -, rfl⟩ := List.mem_map.mp (List.mem_of_mem_filter hpath)
      exact pushComponent_atOrBelow hdirectory name
    · obtain ⟨name, -, hname⟩ := List.mem_flatMap.mp hbelow
      have hchild := ih (anchored_pushComponent hdirectory name) hname
      exact hchild.trans (pushComponent_atOrBelow hdirectory name)

/-- **Nested paths lie at or below their workspace root.** -/
theorem nestedWorkingCopyHintPaths_atOrBelow {files : FileSystem} {root : Text} {depth : Nat}
    {ignore : List Text} (hroot : Anchored root)
    (h : path ∈ nestedWorkingCopyHintPaths platform files root depth ignore) :
    AtOrBelow '/' (discoveryPathKey platform path) (discoveryPathKey platform root) := by
  obtain ⟨_, hmem, rfl⟩ := List.mem_map.mp h
  rw [List.mem_mergeSort] at hmem
  exact nestedHintsBelow_atOrBelow hroot hmem

end SubversionR

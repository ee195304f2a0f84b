import SubversionR.Lanes.Steps

/-!
# Gate completeness — does the gate read the paths the handlers use?

The gate derives the paths of a request from the raw parameters, the handler reads the parameters
again in its own way.  The gate is complete for a request when no handler, in whatever surroundings,
hands a path to the bridge that overlaps a lane the gate has not found.

* `handle_covered` — except for opening and discovery, every path handed over is one the gate reads;
* `refusesAll_iff` — which paths the gate protects, whatever lanes there are: those at or below one
  it reads;
* `lane_gate_complete_iff` — completeness, exactly, by the parameters of the request.
-/

namespace SubversionR

open KeyedMaps KeyedMap JsonValues PathOrder

namespace Daemon

/-- The path is absolute or the root of the session the request names, and overlaps a lane. -/
def HitsLane (platform : Platform) (daemon : Daemon) (params : Json) (path : Text) : Prop :=
  (isAbsoluteRustPath platform path = true ∨
    ∃ session, Names params daemon session ∧ session.identity.workingCopyRoot = path) ∧
  daemon.MeetsLane (absolutePathKey platform path)

/-- **The gate is complete for the request**: in whatever surroundings, when the handler would hand
a path to the bridge that overlaps a lane, the gate refuses the request. -/
def GateComplete (platform : Platform) (daemon : Daemon) (request : JsonRpcRequest) : Prop :=
  ∀ env : DaemonEnvironment, ∀ path ∈ (daemon.handle (env.on platform) request).bridgePaths,
    daemon.HitsLane platform request.params path →
      (nativeLaneFailureForRequest platform daemon request).isSome = true

/-- The gate reads a path at or above this one. -/
def ReadsAbove (platform : Platform) (request : JsonRpcRequest) (path : Text) : Prop :=
  ∃ read ∈ readPaths platform request,
    AtOrBelow '/' (absolutePathKey platform path) (absolutePathKey platform read)

/-- **The gate and the handler read the parameters alike.**  An opening has no `targetPath`, or an
absolute one at or above its `path`.  For a discovery the gate reads a path at or above each
absolute path that may be handed over: the trimmed workspace roots, what may be nested below them
and, with the externals, any path. -/
def ReadAlike (platform : Platform) (request : JsonRpcRequest) : Prop :=
  match request.method with
  | .repositoryOpen => ∀ path given, openPathParam request.params = some path →
      repositoryOpenBoundaryRoots request.params = .ok given →
      isAbsoluteRustPath platform path = true →
        request.params.prop "targetPath" = none ∨
          ∃ target, request.params.prop "targetPath" = some (.str target) ∧
            isAbsoluteRustPath platform target = true ∧
            AtOrBelow '/' (absolutePathKey platform path) (absolutePathKey platform target)
  | .repositoryDiscover => ∀ discover, discoverRequest request.params = .ok discover →
      ∀ root ∈ discover.workspaceRoots, ∀ path, discover.Reaches platform root path →
        isAbsoluteRustPath platform path = true → ReadsAbove platform request path
  | _ => True

section

variable {platform : Platform} {env : DaemonEnvironment} {daemon : Daemon}
  {request : JsonRpcRequest}

/-! ## Handlers whose paths the gate reads -/

/-- The gate reads the keys of all the paths. -/
def Covered (platform : Platform) (daemon : Daemon) (request : JsonRpcRequest) (paths : List Text) :
    Prop :=
  ∀ path ∈ paths, absolutePathKey platform path ∈ requestPathKeys platform daemon request

theorem covered_nil : Covered platform daemon request [] := by
  intro _ hpath
  cases hpath

variable {session : RepositorySession}

theorem Names.covered (h : Names request.params daemon session) :
    Covered platform daemon request [session.identity.workingCopyRoot] := by
  intro _ hpath
  rw [List.mem_singleton.mp hpath]
  exact h.mem_requestPathKeys

/-- The preflight itself calls no bridge. -/
theorem beginRemotePreflight_covered {urls : List Text} {lanePath : Text} {handled : Handled}
    (h : daemon.beginRemotePreflight env request urls lanePath = some handled) :
    Covered platform daemon request handled.bridgePaths := by
  have hnone : handled.bridgePaths = [] := by
    unfold beginRemotePreflight at h
    dsimp only at h
    repeat' split at h
    all_goals
      cases h
    all_goals rfl
  rw [hnone]
  exact covered_nil

theorem namedRoot_covered : Covered platform daemon request (daemon.namedRoot request.params) := by
  unfold namedRoot
  split
  · exact covered_nil
  rename_i hparams
  split
  · exact covered_nil
  · rename_i hsession
    exact (names_of_requireSession hparams hsession).covered

theorem refreshedRoot_covered :
    Covered platform daemon request (daemon.refreshedRoot env request.params) := by
  unfold refreshedRoot
  split
  · rename_i hparams _
    split
    · exact covered_nil
    rename_i hsession
    split
    · exact covered_nil
    · exact (names_of_requireSession hparams hsession).covered
  · exact covered_nil

theorem dispatchRepositoryCheckout_covered :
    Covered env.platform daemon request
      (daemon.dispatchRepositoryCheckout env request).bridgePaths := by
  unfold dispatchRepositoryCheckout
  split
  · exact covered_nil
  rename_i hcheckout
  split
  · rename_i hpreflight
    exact beginRemotePreflight_covered hpreflight
  · intro _ hpath
    rw [List.mem_singleton.mp hpath]
    exact checkout_mem_requestPathKeys hcheckout

theorem readSession_covered {remote : Bool} (h : Names request.params daemon session) :
    Covered platform daemon request (daemon.readSession env request remote
      session).bridgePaths := by
  unfold readSession
  split
  · split
    · rename_i hpreflight
      exact beginRemotePreflight_covered hpreflight
    · exact h.covered
  · split
    · exact covered_nil
    · exact h.covered

/-- A handler that needs a session and answers through `k`. -/
theorem sessionRequest_covered {expected : List String} {checks : List FieldCheck}
    {k : RepositorySession → Handled}
    (hk : ∀ session, Names request.params daemon session →
      Covered platform daemon request (k session).bridgePaths) :
    Covered platform daemon request
      (match daemon.sessionRequest expected checks request.params with
        | .error error => daemon.refuse error
        | .ok session => k session).bridgePaths := by
  split
  · exact covered_nil
  · rename_i session hrequest
    exact hk session (names_of_sessionRequest hrequest)

theorem performOperation_covered {kind : OperationKind} (h : Names request.params daemon session) :
    Covered platform daemon request (daemon.performOperation env kind session).bridgePaths := by
  -- a relocation opens the same root once more
  have htwice : Covered platform daemon request
      [session.identity.workingCopyRoot, session.identity.workingCopyRoot] := by
    intro path hpath
    exact h.covered path (by simpa using hpath)
  unfold performOperation
  dsimp only
  split
  · split
    · exact htwice
    · exact htwice
  · exact h.covered

theorem dispatchOperationRun_covered :
    Covered platform daemon request (daemon.dispatchOperationRun env request).bridgePaths := by
  unfold dispatchOperationRun
  split
  · exact covered_nil
  rename_i hrequest
  have hnamed := names_of_operationRequest hrequest
  split
  · split
    · rename_i hpreflight
      exact beginRemotePreflight_covered hpreflight
    · exact performOperation_covered hnamed
  · split
    · exact covered_nil
    · exact performOperation_covered hnamed

/-- **The gate reads every path of the other handlers.** -/
theorem handle_covered (hopen : request.method ≠ .repositoryOpen)
    (hdiscover : request.method ≠ .repositoryDiscover) :
    Covered env.platform daemon request (daemon.handle env request).bridgePaths := by
  unfold handle
  cases hmethod : request.method with
  | repositoryOpen => exact absurd hmethod hopen
  | repositoryDiscover => exact absurd hmethod hdiscover
  | initializeBackend =>
    show Covered _ _ _ (daemon.dispatchInitialize env request.params).bridgePaths
    unfold dispatchInitialize
    split
    · exact covered_nil
    split
    · dsimp only
      repeat' split
      all_goals exact covered_nil
    · exact covered_nil
  | workspaceTrustUpdate =>
    dsimp only
    unfold dispatchWorkspaceTrustUpdate
    repeat' split
    all_goals exact covered_nil
  | repositoryCheckout => exact dispatchRepositoryCheckout_covered
  | repositoryClose => exact covered_nil
  | statusGetSnapshot => exact namedRoot_covered
  | statusRefresh => exact refreshedRoot_covered
  -- the preflight reads the session it was asked about and no other
  | statusCheckRemote =>
    refine sessionRequest_covered fun session hnamed => ?_
    split
    · rename_i hpreflight
      exact beginRemotePreflight_covered hpreflight
    · split <;> exact hnamed.covered
  | contentGet => exact sessionRequest_covered fun _ hnamed => readSession_covered hnamed
  | propertiesList => exact sessionRequest_covered fun _ hnamed => hnamed.covered
  | historyLog | historyBlame =>
    exact sessionRequest_covered fun _ hnamed => readSession_covered hnamed
  | operationRun => exact dispatchOperationRun_covered
  | remoteRecoverWorkingCopy =>
    dsimp only
    unfold dispatchRemoteRecoverWorkingCopy
    split
    all_goals exact covered_nil
  | diagnosticsGet =>
    dsimp only
    unfold dispatchDiagnosticsGet
    split
    all_goals exact covered_nil
  | shutdown =>
    dsimp only
    unfold dispatchShutdown
    repeat' split
    all_goals exact covered_nil
  | unknown name => exact covered_nil

/-! ## Opening and discovery -/

variable {path : Text}

/-- The gate refuses a request for a path it reads. -/
theorem gate_of_mem (hgated : gateExempt request.method = false)
    (hhits : daemon.HitsLane platform request.params path)
    (hmem : absolutePathKey platform path ∈ requestPathKeys platform daemon request) :
    (nativeLaneFailureForRequest platform daemon request).isSome = true :=
  nativeLaneFailureForRequest_isSome_iff.mpr ⟨hgated, _, hmem, hhits.2⟩

/-- Surroundings with the given bridge and files. -/
def surroundings (opening : OpenBridge) (status : StatusBridge) (files : FileSystem) :
    DaemonEnvironment where
  platform := .posix
  codec := ⟨fun _ => none, fun _ => none, fun _ => none⟩
  now := []
  status := status
  opening := opening
  native := .ok .null
  files := files
  worker := ⟨true, fun _ => .ok (), .ok (), .ok ()⟩

theorem bridgePaths_open (hmethod : request.method = .repositoryOpen) :
    (daemon.handle env request).bridgePaths = openedPath request.params := by
  unfold handle
  rw [hmethod]
  rfl

theorem mem_openedPath_iff {params : Json} :
    path ∈ openedPath params ↔
      openPathParam params = some path ∧ ∃ given, repositoryOpenBoundaryRoots params =
        .ok given := by
  unfold openedPath
  split
  · rename_i given hpath hgiven
    rw [List.mem_singleton, hpath, hgiven]
    constructor
    · rintro rfl
      exact ⟨rfl, given, rfl⟩
    · rintro ⟨heq, -⟩
      cases heq
      rfl
  · rename_i hnot
    simp only [List.not_mem_nil, false_iff]
    rintro ⟨hpath, given, hgiven⟩
    exact hnot _ _ hpath hgiven

section

variable (hmethod : request.method = .repositoryDiscover)

include hmethod

theorem bridgePaths_discover {discover : DiscoverRequest}
    (hdiscover : discoverRequest request.params = .ok discover) :
    (daemon.handle env request).bridgePaths =
      (discoverRoots env.platform env.opening env.status env.files discover
        discover.workspaceRoots default).2.bridgePaths := by
  unfold handle
  rw [hmethod]
  unfold dispatchRepositoryDiscover
  rw [hdiscover]
  dsimp only
  split
  all_goals
    rename_i heq
    rw [heq]
    rfl

theorem bridgePaths_discover_refused {error : DaemonError}
    (hdiscover : discoverRequest request.params = .error error) :
    (daemon.handle env request).bridgePaths = [] := by
  unfold handle
  rw [hmethod]
  unfold dispatchRepositoryDiscover
  rw [hdiscover]
  rfl

/-- What a discovery hands over, in some surroundings or other. -/
theorem exists_bridgePaths_discover_iff :
    (∃ env : DaemonEnvironment, path ∈ (daemon.handle (env.on platform) request).bridgePaths) ↔
      ∃ discover, discoverRequest request.params = .ok discover ∧
        ∃ root ∈ discover.workspaceRoots, discover.Reaches platform root path := by
  constructor
  · rintro ⟨env, hpath⟩
    cases hdiscover : discoverRequest request.params with
    | error error =>
      rw [bridgePaths_discover_refused hmethod hdiscover] at hpath
      cases hpath
    | ok discover =>
      rw [bridgePaths_discover hmethod hdiscover] at hpath
      rcases discoverRoots_reaches hpath with hstart | hreaches
      · cases hstart
      · exact ⟨discover, rfl, hreaches⟩
  · rintro ⟨discover, hdiscover, root, hroot, hreaches⟩
    obtain ⟨opening, status, files, hpath⟩ :=
      @discoverRoots_reached platform discover path root default discover.workspaceRoots hroot
        hreaches
    refine ⟨surroundings opening status files, ?_⟩
    rw [bridgePaths_discover hmethod hdiscover]
    exact hpath

end

/-! ## The paths the gate protects -/

/-- Whatever lanes there are, the gate refuses the request if the path hits one. -/
def RefusesAll (platform : Platform) (request : JsonRpcRequest) (path : Text) : Prop :=
  ∀ daemon : Daemon, daemon.HitsLane platform request.params path →
    (nativeLaneFailureForRequest platform daemon request).isSome = true

theorem MeetsLane.of_atOrBelow {key above : Text} (h : daemon.MeetsLane key)
    (hbelow : AtOrBelow '/' key above) : daemon.MeetsLane above := by
  obtain ⟨laneKey, state, hlane, hoverlap⟩ := h
  exact ⟨laneKey, state, hlane, overlaps_of_atOrBelow hbelow hoverlap⟩

/-- A daemon without sessions, in which one lane is not free. -/
def withLane (laneKey : Text) : Daemon :=
  Daemon.new.setLane laneKey (.blocked [] .unknownRemote false)

theorem meetsLane_withLane_iff {laneKey key : Text} :
    (withLane laneKey).MeetsLane key ↔ Overlaps '/' key laneKey := by
  simp [MeetsLane, withLane, laneAt_setLane]

/-- **The gate protects exactly the paths at or below one it reads.** -/
theorem refusesAll_iff (hgated : gateExempt request.method = false) :
    RefusesAll platform request path ↔
      (isAbsoluteRustPath platform path = true → ReadsAbove platform request path) := by
  constructor
  · intro h habsolute
    have hkeys : ∀ c, Overlaps '/' (absolutePathKey platform path) c →
        ∃ a ∈ (readPaths platform request).map (absolutePathKey platform), Overlaps '/' a c := by
      intro laneKey hoverlap
      have hgate := h (withLane laneKey) ⟨.inl habsolute, meetsLane_withLane_iff.mpr hoverlap⟩
      obtain ⟨-, key, hkey, hmeets⟩ := nativeLaneFailureForRequest_isSome_iff.mp hgate
      rcases mem_requestPathKeys_iff.mp hkey with ⟨session, hnamed, -⟩ | ⟨read, hread, rfl⟩
      · -- there is no session to name
        cases hnamed.isOpen
      · exact ⟨_, List.mem_map_of_mem hread, meetsLane_withLane_iff.mp hmeets⟩
    obtain ⟨_, hmem, habove⟩ := (forall_overlaps_iff (by decide : 'x' ≠ '/')).mp hkeys
    obtain ⟨read, hread, rfl⟩ := List.mem_map.mp hmem
    exact ⟨read, hread, habove⟩
  · rintro h daemon ⟨habsolute | ⟨session, hnamed, rfl⟩, hmeets⟩
    · obtain ⟨read, hread, habove⟩ := h habsolute
      exact nativeLaneFailureForRequest_isSome_iff.mpr ⟨hgated, _,
        mem_requestPathKeys_iff.mpr (.inr ⟨read, hread, rfl⟩), hmeets.of_atOrBelow habove⟩
    · exact nativeLaneFailureForRequest_isSome_iff.mpr
        ⟨hgated, _, hnamed.mem_requestPathKeys, hmeets⟩

/-- What the gate reads from an opening. -/
theorem readsAbove_open_iff (hmethod : request.method = .repositoryOpen)
    (hpath : openPathParam request.params = some path)
    (habsolute : isAbsoluteRustPath platform path = true) :
    ReadsAbove platform request path ↔ request.params.prop "targetPath" = none ∨
      ∃ target, request.params.prop "targetPath" = some (.str target) ∧
        isAbsoluteRustPath platform target = true ∧
        AtOrBelow '/' (absolutePathKey platform path) (absolutePathKey platform target) := by
  have hprop : request.params.prop "path" = some (.str path) := by
    unfold openPathParam at hpath
    split at hpath
    · rename_i htext
      split at hpath
      · cases hpath
        exact htext
      · cases hpath
    · cases hpath
  unfold ReadsAbove readPaths
  cases htarget : request.params.prop "targetPath" with
  | none =>
    have hself := @AtOrBelow.refl Char '/' (absolutePathKey platform path)
    simp [namedPath, htarget, hprop, hmethod, habsolute, hself]
  | some target =>
    cases target with
    | str target => simp [namedPath, htarget, hmethod, and_assoc]
    | _ => simp [namedPath, htarget, hmethod]

/-- A path a discovery without externals reaches lies at or below its root. -/
theorem reaches_atOrBelow {discover : DiscoverRequest} {root : Text}
    (hexternals : discover.lazyExternals = false)
    (habsolute : isAbsoluteRustPath platform root = true)
      (h : discover.Reaches platform root path) :
    AtOrBelow '/' (absolutePathKey platform path) (absolutePathKey platform root) := by
  cases h with
  | opened h => exact .refl _
  | followed path h externals =>
    rw [hexternals] at externals
    cases externals
  | nested path files asked hint h =>
    exact nestedWorkingCopyHintPaths_atOrBelow (anchored_of_isAbsolute habsolute) hint

/-- A discovery without externals reads alike if its roots are absolute and written as the handler
uses them. -/
theorem readAlike_discover {discover : DiscoverRequest}
    (hmethod : request.method = .repositoryDiscover)
    (hrequest : discoverRequest request.params = .ok discover)
    (hexternals : discover.lazyExternals = false)
    (hroots : request.params.prop "workspaceRoots" = some (.arr (discover.workspaceRoots.map .str)))
    (habsolute : ∀ root ∈ discover.workspaceRoots, isAbsoluteRustPath platform root = true) :
    ReadAlike platform request := by
  unfold ReadAlike
  rw [hmethod]
  intro discover' hrequest' root hroot path hreaches _
  cases hrequest.symm.trans hrequest'
  refine ⟨root, ?_, reaches_atOrBelow hexternals (habsolute root hroot) hreaches⟩
  simp [readPaths, hmethod, hroots, hroot, habsolute root hroot]

end

/-- **Completeness of the lane gate.**  For a request whose method is not exempt, the gate is
complete in every state of the daemon exactly when it and the handler read the parameters alike.
So they do when the request neither opens nor discovers, and in a discovery without externals whose
workspace roots are absolute and stand there without white space around them. -/
theorem lane_gate_complete_iff (platform : Platform) (request : JsonRpcRequest)
    (hgated : gateExempt request.method = false) :
    ((∀ daemon : Daemon, daemon.GateComplete platform request) ↔ ReadAlike platform request) ∧
    (∀ discover, request.method = .repositoryDiscover →
      discoverRequest request.params = .ok discover → discover.lazyExternals = false →
      request.params.prop "workspaceRoots" = some (.arr (discover.workspaceRoots.map .str)) →
      (∀ root ∈ discover.workspaceRoots, isAbsoluteRustPath platform root = true) →
      ReadAlike platform request) := by
  refine ⟨?_, fun _ => readAlike_discover⟩
  by_cases hopen : request.method = .repositoryOpen
  · have hcomplete : (∀ daemon : Daemon, daemon.GateComplete platform request) ↔
        ∀ path ∈ openedPath request.params, RefusesAll platform request path := by
      simp only [GateComplete, bridgePaths_open hopen]
      exact ⟨fun h path hpath daemon => h daemon (surroundings .findingNone .refusing .empty) path
        hpath, fun h daemon _ path hpath => h path hpath daemon⟩
    rw [hcomplete]
    unfold ReadAlike
    rw [hopen]
    constructor
    · intro h path given hparam hgiven habsolute
      have hrefuses := h path (mem_openedPath_iff.mpr ⟨hparam, given, hgiven⟩)
      exact (readsAbove_open_iff hopen hparam habsolute).mp
        ((refusesAll_iff hgated).mp hrefuses habsolute)
    · intro h path hpath
      obtain ⟨hparam, given, hgiven⟩ := mem_openedPath_iff.mp hpath
      refine (refusesAll_iff hgated).mpr fun habsolute => ?_
      exact (readsAbove_open_iff hopen hparam habsolute).mpr (h path given hparam hgiven habsolute)
  by_cases hdiscover : request.method = .repositoryDiscover
  · unfold ReadAlike
    rw [hdiscover]
    constructor
    · intro h discover hrequest root hroot path hreaches habsolute
      refine (refusesAll_iff hgated).mp (fun daemon hhits => ?_) habsolute
      obtain ⟨env, hpath⟩ := (exists_bridgePaths_discover_iff hdiscover).mpr
        ⟨discover, hrequest, root, hroot, hreaches⟩
      exact h daemon env path hpath hhits
    · intro h daemon env path hpath hhits
      obtain ⟨discover, hrequest, root, hroot, hreaches⟩ :=
        (exists_bridgePaths_discover_iff hdiscover).mp ⟨env, hpath⟩
      exact (refusesAll_iff hgated).mpr (h discover hrequest root hroot path hreaches) daemon hhits
  · -- the other handlers hand over what the gate reads
    refine iff_of_true (fun daemon env path hpath hhits => ?_) ?_
    · exact gate_of_mem hgated hhits
        (@handle_covered (env.on platform) daemon request hopen hdiscover path hpath)
    · unfold ReadAlike
      split
      · exact absurd ‹_› hopen
      · exact absurd ‹_› hdiscover
      · trivial

end Daemon

namespace LaneExample

open JsonValues

def openRequest (params : List (String × Json)) : JsonRpcRequest :=
  ⟨.repositoryOpen, .obj (("path", .str "/wc/sub".toList) :: params)⟩

/-- A discovery below one root, with everything optional turned off. -/
def discoverAt (root : Text) : JsonRpcRequest :=
  ⟨.repositoryDiscover, .obj
    [("workspaceRoots", .arr [.str root]), ("discoverNested", .bool false),
     ("discoveryDepth", .int 0), ("discoveryIgnore", .arr []), ("ignoredRoots", .arr []),
     ("externalsMode", .str "off".toList)]⟩

theorem updating_hitsLane (params : Json) : updating.HitsLane .posix params "/wc/sub" :=
  ⟨.inl rfl, "/wc/sub", _, updating_lane, .inl (.refl _)⟩

/-- The working copy of a running worker is opened when a `targetPath` is named as well, and
discovered when a blank stands in front of its root. -/
theorem lane_gate_is_passed_by :
    ¬ updating.GateComplete .posix (openRequest [("targetPath", .str "/elsewhere".toList)]) ∧
      ¬ updating.GateComplete .posix (discoverAt " /wc/sub") := by
  constructor
  · intro hcomplete
    have hgate := hcomplete environment "/wc/sub" (by decide +kernel) (updating_hitsLane _)
    revert hgate
    decide +kernel
  · intro hcomplete
    have hgate := hcomplete environment "/wc/sub" (by decide +kernel) (updating_hitsLane _)
    revert hgate
    decide +kernel

/-- An opening whose `targetPath` is the parent of its path does not pass by the gate. -/
theorem open_below_target_is_gated :
    updating.GateComplete .posix (openRequest [("targetPath", .str "/wc".toList)]) := by
  refine (Daemon.lane_gate_complete_iff .posix _ rfl).1.mpr ?_ updating
  intro path given hpath _ _
  cases hpath
  exact .inr ⟨"/wc", rfl, rfl, .inr ⟨"sub", rfl⟩⟩

end LaneExample

end SubversionR

import SubversionR.Daemon.Dispatch

/-!
# What a client reconciles after an operation — the answers of `operation/run`

A successful operation answers with the paths it touched and with a hint: refresh these targets, or
reconcile the whole working copy.  The targets are made from the request, the touched paths come
from the native library, so a touched path may lie outside every target.

* `coverageMatches_iff_below` — the test of the daemon, without its string operations;
* `covered_iff` — a path is covered for entries of every kind;
* `MayTouch` — what an operation can change, by kind and options;
* `reconcile_hints_cover_iff` — which reports of touched paths the hint covers.
-/

namespace SubversionR

open JsonValues Fallible

/-! ## The answer -/

structure OperationResult where
  touchedPaths : List Text
  skippedPaths : List Text
  /-- The revision that an update, a switch, a commit or a branch reports. -/
  revision : Int

structure OperationWarning where
  code : Text
  messageKey : Text
  path : Text

structure OperationSummary where
  affectedPaths : Nat
  skippedPaths : Nat

structure OperationReconcileHint where
  targets : List StatusRefreshTarget
  requiresFullReconcile : Bool

structure OperationRunResponse where
  repositoryId : Text
  epoch : Nat
  operationId : Text
  kind : Text
  touchedPaths : List Text
  revision : Option Int
  summary : OperationSummary
  warnings : List OperationWarning
  reconcile : OperationReconcileHint

/-- The paths of an accepted request. -/
def optionPaths (options : Json) : List Text :=
  (stringArrayValue (options.prop "paths") false).getD []

/-- The depth of an accepted request; the readers let only the four words pass. -/
def optionDepth (options : Json) : StatusRefreshDepth :=
  (StatusRefreshDepth.ofWord? (optionText options "depth")).getD .empty

def optionFlag (options : Json) (field : String) : Bool := (boolParam options field).getD false

/-- `path.rsplit_once('/')` with a parent that is not empty. -/
def parentReconcilePath (path : Text) : Text :=
  match path.reverse.dropWhile (· ≠ '/') with
  | [] => "."
  | _ :: front => if front = [] then "." else front.reverse

def pushUniquePath (paths : List Text) (path : Text) : List Text :=
  if path ∈ paths then paths else paths ++ [path]

def moveReconcilePaths (sourcePath destinationPath : Text) : List Text :=
  pushUniquePath (pushUniquePath [] (parentReconcilePath sourcePath))
    (parentReconcilePath destinationPath)

/-- The three ways an operation succeeds: `operation_run_success`,
`operation_run_full_reconcile_success` and `operation_run_remote_success`. -/
inductive OperationSuccess where
  | targets (paths : List Text) (depth : StatusRefreshDepth) (reason : Text)
  | fullReconcile
  | remote
deriving DecidableEq

/-- The arms of `dispatch_operation_run`. -/
def operationSuccess (kind : OperationKind) (options : Json) (result : OperationResult) :
    OperationSuccess :=
  match kind with
  | .revert => .targets (optionPaths options) (optionDepth options) "operationRevert"
  | .add => .targets (optionPaths options) (optionDepth options) "operationAdd"
  | .remove => .targets (optionPaths options) .empty "operationRemove"
  | .move =>
    .targets (moveReconcilePaths (optionText options "sourcePath")
      (optionText options "destinationPath")) .immediates "operationMove"
  | .resolve => .targets (optionPaths options) (optionDepth options) "operationResolve"
  | .cleanup => .fullReconcile
  | .upgrade => .fullReconcile
  | .update => .fullReconcile
  | .propertySet => .targets [optionText options "path"] .empty "operationPropertySet"
  | .propertyDelete => .targets [optionText options "path"] .empty "operationPropertyDelete"
  | .changelistSet => .targets (optionPaths options) (optionDepth options) "operationChangelistSet"
  | .changelistClear =>
    .targets (optionPaths options) (optionDepth options) "operationChangelistClear"
  | .lock => .targets (optionPaths options) .empty "operationLock"
  | .unlock => .targets (optionPaths options) .empty "operationUnlock"
  | .branchCreate => .remote
  | .switch => .fullReconcile
  | .relocate => .fullReconcile
  | .merge =>
    if optionFlag options "dryRun" then
      .targets (if result.touchedPaths = [] then [optionText options "targetPath"]
        else result.touchedPaths) (optionDepth options) "operationMergePreview"
    else .fullReconcile
  | .commit => .targets (optionPaths options) (optionDepth options) "operationCommit"

def OperationSuccess.reconcile : OperationSuccess → OperationReconcileHint
  | targets paths depth reason => ⟨paths.map fun path => ⟨path, depth, reason⟩, false⟩
  | fullReconcile => ⟨[], true⟩
  | remote => ⟨[], false⟩

/-- The kinds whose native call reports a revision. -/
def OperationKind.reportsRevision : OperationKind → Bool
  | update | branchCreate | switch | commit => true
  | _ => false

/-- The answer to a request that was run; `nextOperationId` is the daemon's counter. -/
def operationRunResponse (session : RepositorySession) (kind : OperationKind) (options : Json)
    (nextOperationId : Nat) (result : OperationResult) : OperationRunResponse where
  repositoryId := session.repositoryId
  epoch := session.epoch
  operationId := "op-".toList ++ (toString nextOperationId).toList
  kind := kind.word
  touchedPaths := result.touchedPaths
  revision := if kind.reportsRevision then some result.revision else none
  -- the counts are cast to `u32`
  summary := ⟨result.touchedPaths.length % 2 ^ 32, result.skippedPaths.length % 2 ^ 32⟩
  warnings := result.skippedPaths.map fun path =>
    ⟨"SVN_OPERATION_PATH_SKIPPED", "warning.operation.pathSkipped", path⟩
  reconcile := (operationSuccess kind options result).reconcile

/-! ## Coverage, geometrically -/

/-- `path` lies `rest` below `root`; everything lies below `.`. -/
def LiesBelow (root path rest : Text) : Prop :=
  if root = "." then path = rest ∧ path ≠ "." else path = root ++ '/' :: rest

/-- What a depth admits below its root. -/
def StatusRefreshDepth.Admits (rest : Text) : StatusRefreshDepth → Prop
  | empty => False
  | files => '/' ∉ rest
  | immediates => '/' ∉ rest
  | infinity => True

/-- `path` is `root` or lies below it as far as the depth goes. -/
def WithinDepth (depth : StatusRefreshDepth) (root path : Text) : Prop :=
  path = root ∨ ∃ rest, LiesBelow root path rest ∧ depth.Admits rest

/-- A proper ancestor of `path`. -/
def IsAncestor (ancestor path : Text) : Prop := ∃ rest, path = ancestor ++ '/' :: rest

section

variable {depth : StatusRefreshDepth}

theorem depthReaches_iff {rest kind : Text} :
    depthReaches depth rest kind = true ↔
      depth.Admits rest ∧ (depth = .files → kind = "file") := by
  cases depth with
  | empty | files | immediates | infinity => simp [depthReaches, StatusRefreshDepth.Admits]

/-- **The test of the daemon**, which reads both paths with forward slashes. -/
theorem coverageMatches_iff_below {target : Text} {entry : StatusEntry} :
    coverageMatches target depth entry = true ↔
      entry.path.forwardSlashes = target.forwardSlashes ∨
        ∃ rest, LiesBelow target.forwardSlashes entry.path.forwardSlashes rest ∧
          depth.Admits rest ∧ (depth = .files → entry.kind = "file") := by
  unfold coverageMatches LiesBelow
  dsimp only
  generalize entry.path.forwardSlashes = path
  -- below "." lies every path; below another target what starts with it
  by_cases hroot : target.forwardSlashes = "."
  · rw [if_pos hroot]
    simp only [hroot, if_true]
    by_cases hpath : path = "."
    · simp [hpath]
    · rw [if_neg hpath, depthReaches_iff]
      constructor
      · intro h
        exact .inr ⟨path, ⟨rfl, hpath⟩, h⟩
      · rintro (heq | ⟨rest, ⟨rfl, -⟩, h⟩)
        · exact absurd heq hpath
        · exact h
  · rw [if_neg hroot]
    simp only [hroot, if_false]
    by_cases hpath : path = target.forwardSlashes
    · simp [hpath]
    · rw [if_neg hpath]
      cases hstrip : Text.stripPrefix (target.forwardSlashes ++ ['/']) path with
      | none =>
        simp only [hpath, false_or, Bool.false_eq_true, false_iff, not_exists, not_and]
        intro rest hbelow
        have hsome : Text.stripPrefix (target.forwardSlashes ++ ['/']) path = some rest :=
          Text.stripPrefix_eq_some_iff.mpr (by simpa using hbelow)
        rw [hstrip] at hsome
        cases hsome
      | some rest =>
        have hrest := Text.stripPrefix_eq_some_iff.mp hstrip
        rw [List.append_assoc, List.singleton_append] at hrest
        rw [depthReaches_iff]
        constructor
        · intro h
          exact .inr ⟨rest, hrest, h⟩
        · rintro (heq | ⟨rest', hrest', h⟩)
          · exact absurd heq hpath
          · have hsame := List.append_cancel_left (hrest'.symm.trans hrest)
            cases hsame
            exact h

/-- The same, on a path written with slashes. -/
theorem coverageMatches_iff {target : Text} {entry : StatusEntry} (hslashes : '\\' ∉ entry.path) :
    coverageMatches target depth entry = true ↔
      entry.path = target.forwardSlashes ∨ ∃ rest, LiesBelow target.forwardSlashes entry.path rest ∧
        depth.Admits rest ∧ (depth = .files → entry.kind = "file") := by
  rw [coverageMatches_iff_below, Text.forwardSlashes_of_notMem hslashes]

/-- Whatever kind of entry is at the path, some target covers it. -/
def Covered (targets : List StatusRefreshTarget) (path : Text) : Prop :=
  ∀ entry : StatusEntry, entry.path = path →
    ∃ target ∈ targets, coverageMatches target.path target.depth entry = true

/-- An entry for a directory. -/
def directoryAt (path : Text) : StatusEntry := { StatusEntry.file path "normal" with kind := "dir" }

variable {reason path : Text}

/-- A path is covered for entries of every kind exactly if it lies within the depth of a target;
the depth of files then covers nothing but the target itself. -/
theorem covered_iff {paths : List Text} (hslashes : '\\' ∉ path) :
    Covered (paths.map fun target => ⟨target, depth, reason⟩) path ↔
      ∃ target ∈ paths, WithinDepth depth target.forwardSlashes path ∧
        (depth = .files → path = target.forwardSlashes) := by
  constructor
  · intro h
    obtain ⟨_, hmem, hcovers⟩ := h (directoryAt path) rfl
    obtain ⟨target, htarget, rfl⟩ := List.mem_map.mp hmem
    refine ⟨target, htarget, ?_⟩
    rcases (coverageMatches_iff hslashes).mp hcovers with heq | ⟨rest, hbelow, hadmits, hkind⟩
    · exact ⟨.inl heq, fun _ => heq⟩
    · -- a directory is no file
      refine ⟨.inr ⟨rest, hbelow, hadmits⟩, fun hfiles => ?_⟩
      have hdir : ("dir" : Text) = "file" := hkind hfiles
      exact absurd hdir (by decide)
  · rintro ⟨target, htarget, hwithin, hfiles⟩ _ rfl
    refine ⟨_, List.mem_map.mpr ⟨target, htarget, rfl⟩, (coverageMatches_iff hslashes).mpr ?_⟩
    rcases hwithin with heq | ⟨rest, hbelow, hadmits⟩
    · exact .inl heq
    · by_cases hdepth : depth = .files
      · exact .inl (hfiles hdepth)
      · exact .inr ⟨rest, hbelow, hadmits, fun h => absurd h hdepth⟩

/-! ## What an operation may touch -/

/-- The kinds that answer with targets of their own. -/
def OperationKind.isHinted : OperationKind → Bool
  | add | remove | move | revert | resolve | commit | changelistSet | changelistClear | lock
  | unlock | propertySet | propertyDelete => true
  | _ => false

/-- The path lies within the depth of a requested path. -/
def WithinRequest (options : Json) (depth : StatusRefreshDepth) (path : Text) : Prop :=
  ∃ requested ∈ optionPaths options, WithinDepth depth requested.forwardSlashes path

/-- The path is one of the requested ones. -/
def IsRequested (options : Json) (path : Text) : Prop :=
  ∃ requested ∈ optionPaths options, path = requested.forwardSlashes

/-- The paths an operation may touch: those of its request, as far as its depth goes; a removal and
a move take whole trees; missing parents are added on the way. -/
def MayTouch (options : Json) (path : Text) : OperationKind → Prop
  | .revert | .resolve | .changelistSet | .changelistClear | .commit =>
    WithinRequest options (optionDepth options) path
  | .add =>
    WithinRequest options (optionDepth options) path ∨
      optionFlag options "addParents" = true ∧
        ∃ requested ∈ optionPaths options, IsAncestor path requested.forwardSlashes
  | .remove => WithinRequest options .infinity path
  | .move =>
    WithinDepth .infinity (optionText options "sourcePath").forwardSlashes path ∨
      WithinDepth .infinity (optionText options "destinationPath").forwardSlashes path ∨
      optionFlag options "makeParents" = true ∧
        IsAncestor path (optionText options "destinationPath").forwardSlashes
  | .lock | .unlock => IsRequested options path
  | .propertySet | .propertyDelete => path = (optionText options "path").forwardSlashes
  | _ => False

/-- The touched paths the hint of an operation reaches. -/
def Hinted (options : Json) (path : Text) : OperationKind → Prop
  | .remove => IsRequested options path
  | .move =>
    WithinDepth .immediates
        (parentReconcilePath (optionText options "sourcePath")).forwardSlashes path ∨
      WithinDepth .immediates
        (parentReconcilePath (optionText options "destinationPath")).forwardSlashes path
  | .add =>
    (¬ ∃ requested ∈ optionPaths options, IsAncestor path requested.forwardSlashes) ∧
      (optionDepth options = .files → IsRequested options path)
  | .revert | .changelistSet | .changelistClear =>
    optionDepth options = .files → IsRequested options path
  | _ => True

/-! ## Accepted options -/

theorem FieldCheck.test_of_runAll {checks : List FieldCheck} {value : Json}
    (h : FieldCheck.runAll checks value = .ok ()) {check : FieldCheck} (hcheck : check ∈ checks) :
    check.test value = true := by
  unfold FieldCheck.runAll at h
  split at h
  · cases h
  · rename_i hnone
    simpa using List.find?_eq_none.mp hnone check hcheck

variable {params options : Json}

theorem operationOptions_eq_ok {keys : List String} {checks : List FieldCheck}
    (h : operationOptions keys checks params = .ok options) {check : FieldCheck}
    (hcheck : check ∈ checks) : check.test options = true := by
  unfold operationOptions at h
  split at h
  · split at h
    · cases h
    split at h
    · cases h
    rename_i fields _ _ _ _
    cases hrun : FieldCheck.runAll checks (.obj fields) with
    | error field =>
      rw [hrun] at h
      cases h
    | ok _ =>
      rw [hrun] at h
      cases h
      exact FieldCheck.test_of_runAll hrun hcheck
  · cases h

theorem optionDepth_of_test
    (h : (FieldCheck.text "options." "depth" fun depth => depth = "empty").test options = true) :
    optionDepth options = .empty := by
  have htext : textValue options "depth" (fun depth => depth = "empty") = true := h
  unfold textValue at htext
  unfold optionDepth optionText
  split at htext
  · rename_i text _
    have hempty : text = "empty" := by simpa using htext
    rw [hempty]
    decide
  · cases htext

variable {kind : OperationKind}

theorem operationRequest_options {daemon : Daemon} {session : RepositorySession}
    (h : daemon.operationRequest params = .ok (session, kind, options)) :
    kind.options params = .ok options := by
  unfold Daemon.operationRequest at h
  split at h
  · cases h
  split at h
  · cases h
  split at h
  · cases h
  split at h
  · cases h
  split at h
  · cases h
  rename_i hoptions
  split at h
  · cases h
  · cases h
    exact hoptions

/-! ## Which reports are covered -/

theorem isRequested_iff_of_files :
    (∃ target ∈ optionPaths options, WithinDepth .files target.forwardSlashes path ∧
        (StatusRefreshDepth.files = .files → path = target.forwardSlashes)) ↔
      IsRequested options path := by
  constructor
  · rintro ⟨target, htarget, -, heq⟩
    exact ⟨target, htarget, heq rfl⟩
  · rintro ⟨target, htarget, heq⟩
    exact ⟨target, htarget, .inl heq, fun _ => heq⟩

/-- What lies within the depth of the request is covered, except the children of the depth of
files. -/
theorem covered_iff_of_withinRequest (hslashes : '\\' ∉ path)
    (hwithin : WithinRequest options (optionDepth options) path) :
    Covered ((optionPaths options).map fun target => ⟨target, optionDepth options, reason⟩) path ↔
      (optionDepth options = .files → IsRequested options path) := by
  rw [covered_iff hslashes]
  by_cases hfiles : optionDepth options = .files
  · rw [hfiles, isRequested_iff_of_files]
    exact ⟨fun h _ => h, fun h => h rfl⟩
  · obtain ⟨target, htarget, hdepth⟩ := hwithin
    exact iff_of_true ⟨target, htarget, hdepth, fun h => absurd h hfiles⟩
      fun h => absurd h hfiles

theorem covered_iff_of_empty {paths : List Text} (hslashes : '\\' ∉ path) :
    Covered (paths.map fun target => ⟨target, .empty, reason⟩) path ↔
      ∃ target ∈ paths, path = target.forwardSlashes := by
  rw [covered_iff hslashes]
  constructor
  · rintro ⟨target, htarget, hwithin, -⟩
    rcases hwithin with heq | ⟨_, -, hadmits⟩
    · exact ⟨target, htarget, heq⟩
    · exact hadmits.elim
  · rintro ⟨target, htarget, heq⟩
    exact ⟨target, htarget, .inl heq, fun _ => heq⟩

/-- An ancestor of a path does not lie within the path. -/
theorem not_withinDepth_of_isAncestor {ancestor : Text} (h : IsAncestor ancestor path) :
    ¬ WithinDepth depth path ancestor := by
  obtain ⟨rest, rfl⟩ := h
  have hlength : ancestor.length < (ancestor ++ '/' :: rest).length := by
    rw [List.length_append, List.length_cons]
    omega
  rintro (heq | ⟨below, hbelow, -⟩)
  · have := congrArg List.length heq
    omega
  · unfold LiesBelow at hbelow
    split at hbelow
    · -- `.` has no ancestor
      rename_i hdot
      have hslash : '/' ∈ (ancestor ++ '/' :: rest) := by simp
      rw [hdot] at hslash
      exact absurd hslash (by decide)
    · have := congrArg List.length hbelow
      rw [List.length_append, List.length_cons] at this
      omega

theorem mem_moveReconcilePaths {source destination : Text} :
    path ∈ moveReconcilePaths source destination ↔
      path = parentReconcilePath source ∨ path = parentReconcilePath destination := by
  unfold moveReconcilePaths pushUniquePath
  split
  · rename_i hmem
    cases hmem
  · split
    · rename_i hsame
      simp only [List.nil_append, List.mem_singleton] at hsame ⊢
      rw [hsame]
      tauto
    · simp

section Covering

variable {options : Json} {path : Text} (hslashes : '\\' ∉ path)
include hslashes

theorem covered_add_iff {reason : Text} (htouch : MayTouch options path .add)
    (hone : ∀ a ∈ optionPaths options, ∀ b ∈ optionPaths options, a = b) :
    Covered ((optionPaths options).map fun target => ⟨target, optionDepth options, reason⟩) path ↔
      Hinted options path .add := by
  rcases htouch with hwithin | ⟨-, hancestor⟩
  · rw [covered_iff_of_withinRequest hslashes hwithin]
    refine ⟨fun h => ⟨?_, h⟩, fun h => h.2⟩
    rintro ⟨requested, hrequested, hancestor⟩
    obtain ⟨target, htarget, hdepth⟩ := hwithin
    cases hone _ htarget _ hrequested
    exact not_withinDepth_of_isAncestor hancestor hdepth
  · refine iff_of_false ?_ fun h => h.1 hancestor
    rw [covered_iff hslashes]
    rintro ⟨target, htarget, hwithin, -⟩
    obtain ⟨requested, hrequested, hancestor⟩ := hancestor
    cases hone _ htarget _ hrequested
    exact not_withinDepth_of_isAncestor hancestor hwithin

theorem covered_move_iff {reason : Text} :
    Covered ((moveReconcilePaths (optionText options "sourcePath")
        (optionText options "destinationPath")).map fun target => ⟨target, .immediates, reason⟩)
        path ↔ Hinted options path .move := by
  rw [covered_iff hslashes]
  constructor
  · rintro ⟨target, htarget, hwithin, -⟩
    rcases mem_moveReconcilePaths.mp htarget with rfl | rfl
    · exact .inl hwithin
    · exact .inr hwithin
  · rintro (hwithin | hwithin)
    · exact ⟨_, mem_moveReconcilePaths.mpr (.inl rfl), hwithin, fun h => by cases h⟩
    · exact ⟨_, mem_moveReconcilePaths.mpr (.inr rfl), hwithin, fun h => by cases h⟩

end Covering

theorem onePath_of_test (h : FieldCheck.onePath.test options = true) :
    ∀ a ∈ optionPaths options, ∀ b ∈ optionPaths options, a = b := by
  have hone : ((stringArrayValue (options.prop "paths") false).any fun paths =>
      paths.length = 1) = true := h
  unfold optionPaths
  cases hpaths : stringArrayValue (options.prop "paths") false with
  | none => simp
  | some paths =>
    rw [hpaths] at hone
    obtain ⟨_, rfl⟩ := List.length_eq_one_iff.mp (by simpa using hone)
    intro a ha b hb
    rw [Option.getD_some, List.mem_singleton] at ha hb
    rw [ha, hb]

/-- One touched path. -/
theorem covered_response_iff {result : OperationResult} (hkind : kind.isHinted = true)
    (hoptions : kind.options params = .ok options) (hslashes : '\\' ∉ path)
    (htouch : MayTouch options path kind) :
    Covered (operationSuccess kind options result).reconcile.targets path ↔
      Hinted options path kind := by
  cases kind with
  | revert | changelistSet | changelistClear => exact covered_iff_of_withinRequest hslashes htouch
  | add =>
    have hone := onePath_of_test (operationOptions_eq_ok hoptions (by simp))
    exact covered_add_iff hslashes htouch hone
  | remove => exact covered_iff_of_empty hslashes
  | move => exact covered_move_iff hslashes
  | resolve | commit =>
    have hdepth := optionDepth_of_test (operationOptions_eq_ok hoptions (by simp))
    refine iff_of_true ((covered_iff_of_withinRequest hslashes htouch).mpr fun hfiles => ?_) trivial
    rw [hdepth] at hfiles
    cases hfiles
  | lock => exact iff_of_true ((covered_iff_of_empty hslashes).mpr htouch) trivial
  | unlock => exact iff_of_true ((covered_iff_of_empty hslashes).mpr htouch) trivial
  | propertySet | propertyDelete =>
    exact iff_of_true ((covered_iff_of_empty hslashes).mpr ⟨_, List.mem_singleton_self _, htouch⟩)
      trivial
  | cleanup | upgrade | update | branchCreate | switch | relocate | merge => cases hkind

theorem requiresFullReconcile_of_isHinted (hkind : kind.isHinted = true) (options : Json)
    (result : OperationResult) :
    (operationSuccess kind options result).reconcile.requiresFullReconcile = false := by
  cases kind <;> first | rfl | cases hkind

/-- **Which reports of touched paths the hint covers.**  For every accepted request and every report
of paths the operation may touch, the hint covers all of them exactly if each is one the hint
reaches: of a removal only the requested paths, of a move only what lies at or directly below the
parents of its two ends, of an addition no added parent, and of an operation with the depth of files
only the requested paths. -/
theorem reconcile_hints_cover_iff {daemon : Daemon} {params options : Json}
    {session : RepositorySession} {kind : OperationKind} {nextOperationId : Nat}
    {result : OperationResult}
    (hrequest : daemon.operationRequest params = .ok (session, kind, options))
    (hkind : kind.isHinted = true)
    (htouched : ∀ path ∈ result.touchedPaths, MayTouch options path kind ∧ '\\' ∉ path) :
    ((operationRunResponse session kind options nextOperationId
          result).reconcile.requiresFullReconcile = true ∨
        ∀ path ∈ (operationRunResponse session kind options nextOperationId result).touchedPaths,
          Covered (operationRunResponse session kind options nextOperationId
            result).reconcile.targets path) ↔
      ∀ path ∈ result.touchedPaths, Hinted options path kind := by
  have hoptions := operationRequest_options hrequest
  have hfull : (operationRunResponse session kind options nextOperationId
      result).reconcile.requiresFullReconcile = false :=
    requiresFullReconcile_of_isHinted hkind options result
  rw [hfull]
  constructor
  · intro h path hpath
    obtain ⟨htouch, hslashes⟩ := htouched path hpath
    have hcovered := h.resolve_left (by decide) path hpath
    exact (covered_response_iff hkind hoptions hslashes htouch).mp hcovered
  · intro h
    refine .inr fun path hpath => ?_
    obtain ⟨htouch, hslashes⟩ := htouched path hpath
    exact (covered_response_iff hkind hoptions hslashes htouch).mpr (h path hpath)

/-! ## A directory, a move and two parents -/

end

namespace OperationHintExample

def session : RepositorySession := .opened "uuid:/wc" 1 .sample .none

def daemon : Daemon :=
  { Daemon.new with repositories := Daemon.new.repositories.insert session }

def params (kind : String) (options : List (String × Json)) : Json :=
  .obj [("repositoryId", .str "uuid:/wc"), ("epoch", .int 1), ("kind", .str kind.toList),
    ("options", .obj (("version", .int 1) :: options))]

def removeOptionFields : List (String × Json) :=
  [("paths", .arr [.str "dir"]), ("force", .bool false), ("keepLocal", .bool false)]

def moveOptionFields : List (String × Json) :=
  [("sourcePath", .str "a"), ("destinationPath", .str "b"), ("makeParents", .bool false)]

def addOptionFields : List (String × Json) :=
  [("paths", .arr [.str "p/q/new.txt"]), ("depth", .str "infinity"), ("force", .bool false),
    ("noIgnore", .bool false), ("noAutoprops", .bool false), ("addParents", .bool true)]

/-- The answer to a request, with a report of the touched paths. -/
def response (kind : OperationKind) (options : List (String × Json)) (touchedPaths : List Text) :
    OperationRunResponse :=
  operationRunResponse session kind (.obj (("version", .int 1) :: options)) 1 ⟨touchedPaths, [], 0⟩

/-- Removing one file is covered. -/
theorem removed_file_is_covered :
    (response .remove removeOptionFields ["dir"]).reconcile.requiresFullReconcile = true ∨
      ∀ path ∈ (response .remove removeOptionFields ["dir"]).touchedPaths,
        Covered (response .remove removeOptionFields ["dir"]).reconcile.targets path := by
  have hrequest : daemon.operationRequest (params "remove" removeOptionFields) =
      .ok (session, .remove, .obj (("version", .int 1) :: removeOptionFields)) := rfl
  have hrequested : IsRequested (.obj (("version", .int 1) :: removeOptionFields)) "dir" :=
    ⟨"dir", by decide +kernel, by decide⟩
  refine (reconcile_hints_cover_iff hrequest rfl ?_).mpr ?_
  · intro path hpath
    rw [show path = "dir" from List.mem_singleton.mp hpath]
    exact ⟨⟨"dir", by decide +kernel, .inl (by decide)⟩, by decide⟩
  · intro path hpath
    rw [show path = "dir" from List.mem_singleton.mp hpath]
    exact hrequested

/-- A path that no target covers as a file. -/
theorem not_covered {targets : List StatusRefreshTarget} {path : Text}
    (h : ∀ target ∈ targets,
      coverageMatches target.path target.depth (.file path "deleted") = false) :
    ¬ Covered targets path := by
  intro hcovered
  obtain ⟨target, htarget, hcovers⟩ := hcovered (.file path "deleted") rfl
  rw [h target htarget] at hcovers
  cases hcovers

/-- Removing the directory `dir` touches the file in it, moving `a` to `b` touches what is in it,
and adding `p/q/new.txt` with its parents touches `p`; none of them is covered. -/
theorem touched_paths_not_covered :
    (daemon.operationRequest (params "remove" removeOptionFields) =
        .ok (session, .remove, .obj (("version", .int 1) :: removeOptionFields)) ∧
      MayTouch (.obj (("version", .int 1) :: removeOptionFields)) "dir/file.txt" .remove ∧
      ¬ Covered (response .remove removeOptionFields
          ["dir", "dir/file.txt"]).reconcile.targets "dir/file.txt") ∧
    (daemon.operationRequest (params "move" moveOptionFields) =
        .ok (session, .move, .obj (("version", .int 1) :: moveOptionFields)) ∧
      MayTouch (.obj (("version", .int 1) :: moveOptionFields)) "b/file.txt" .move ∧
      ¬ Covered (response .move moveOptionFields
          ["a", "b", "b/file.txt"]).reconcile.targets "b/file.txt") ∧
    (daemon.operationRequest (params "add" addOptionFields) =
        .ok (session, .add, .obj (("version", .int 1) :: addOptionFields)) ∧
      MayTouch (.obj (("version", .int 1) :: addOptionFields)) "p" .add ∧
      ¬ Covered (response .add addOptionFields
          ["p", "p/q", "p/q/new.txt"]).reconcile.targets "p") := by
  refine ⟨⟨rfl, ?_, not_covered (by decide +kernel)⟩, ⟨rfl, ?_, not_covered (by decide +kernel)⟩,
    ⟨rfl, ?_, not_covered (by decide +kernel)⟩⟩
  · exact ⟨"dir", by decide +kernel, .inr ⟨"file.txt", rfl, trivial⟩⟩
  · exact .inr (.inl (.inr ⟨"file.txt", rfl, trivial⟩))
  · exact .inr ⟨by decide +kernel, "p/q/new.txt", by decide +kernel, "q/new.txt", by decide⟩

end OperationHintExample

end SubversionR

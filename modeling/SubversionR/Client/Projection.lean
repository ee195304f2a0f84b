import SubversionR.Client.SnapshotStore
import SubversionR.Client.RemoteConnection

/-!
# Source control projection — the lifecycle of what the user sees

`sourceControlResourceStore.ts` and `sourceControlProjectionService.ts`: for each repository the
extension shows, the epoch and generation of the status it shows and how fresh it is.  The checks
that decide whether an update is taken read nothing else; the resources themselves are not part of
this module.

* `replaceSnapshot_eq_ok_iff`, `applyDelta_eq_ok_iff`, `markStale_eq_ok_iff` — when an update of a
  registered repository is taken, and what it leaves.
-/

namespace SubversionR

open KeyedMaps KeyedMap

inductive ScmProjectionRefreshKind where
  | snapshot
  | delta
  | stale
deriving DecidableEq

structure ScmProjectionFreshness where
  repositoryCompleteness : Text
  lastRefreshCompleteness : Text
  lastRefreshKind : ScmProjectionRefreshKind

/-- The fields of a projection that the first snapshot sets. -/
structure ProjectionContents where
  generation : Nat
  freshness : ScmProjectionFreshness

structure RepositoryProjectionState where
  repositoryId : Text
  epoch : Nat
  workingCopyRoot : Text
  contents : Option ProjectionContents
deriving Inhabited

inductive SourceControlResourceStoreError where
  | inputInvalid (field : Text)
  | repositoryAlreadyRegistered (repositoryId : Text)
  | repositoryNotRegistered (repositoryId : Text)
  | epochMismatch (source : ScmProjectionRefreshKind) (repositoryId : Text) (expected actual : Nat)
  | snapshotGenerationStale (repositoryId : Text) (current actual : Nat)
  | deltaGenerationStale (repositoryId : Text) (current actual : Nat)
  | stateUninitialized (repositoryId : Text)
deriving DecidableEq

def SourceControlResourceStoreError.code : SourceControlResourceStoreError → Text
  | inputInvalid _ => "SUBVERSIONR_SCM_PROJECTION_INPUT_INVALID"
  | repositoryAlreadyRegistered _ => "SUBVERSIONR_SCM_PROJECTION_REPOSITORY_ALREADY_REGISTERED"
  | repositoryNotRegistered _ => "SUBVERSIONR_SCM_PROJECTION_REPOSITORY_NOT_REGISTERED"
  | epochMismatch .snapshot .. => "SUBVERSIONR_SCM_PROJECTION_SNAPSHOT_EPOCH_MISMATCH"
  | epochMismatch .delta .. => "SUBVERSIONR_SCM_PROJECTION_DELTA_EPOCH_MISMATCH"
  | epochMismatch .stale .. => "SUBVERSIONR_SCM_PROJECTION_STALE_EPOCH_MISMATCH"
  | snapshotGenerationStale .. => "SUBVERSIONR_SCM_PROJECTION_SNAPSHOT_GENERATION_STALE"
  | deltaGenerationStale .. => "SUBVERSIONR_SCM_PROJECTION_DELTA_GENERATION_STALE"
  | stateUninitialized _ => "SUBVERSIONR_SCM_PROJECTION_STATE_UNINITIALIZED"

/-- What the projection reads of a snapshot besides its entries. -/
structure SnapshotHeader where
  repositoryId : Text
  epoch : Nat
  generation : Nat
  completeness : Text
  workingCopyRoot : Text

def StatusSnapshot.header (snapshot : StatusSnapshot) : SnapshotHeader :=
  ⟨snapshot.repositoryId, snapshot.epoch, snapshot.generation, snapshot.completeness,
    snapshot.identity.workingCopyRoot⟩

def StoredStatusSnapshot.header (snapshot : StoredStatusSnapshot) : SnapshotHeader :=
  ⟨snapshot.repositoryId, snapshot.epoch, snapshot.generation, snapshot.completeness,
    snapshot.identity.workingCopyRoot⟩

def freshnessAfterDelta (current : ScmProjectionFreshness) (deltaCompleteness : Text) :
    ScmProjectionFreshness where
  repositoryCompleteness :=
    if deltaCompleteness = "partial" then current.repositoryCompleteness else deltaCompleteness
  lastRefreshCompleteness := deltaCompleteness
  lastRefreshKind := .delta

namespace RepositoryProjectionState

def requireEpoch (state : RepositoryProjectionState) (actual : Nat)
    (source : ScmProjectionRefreshKind) : Except SourceControlResourceStoreError Unit :=
  if state.epoch = actual then .ok ()
  else .error (.epochMismatch source state.repositoryId state.epoch actual)

def applySnapshotToState (state : RepositoryProjectionState) (snapshot : SnapshotHeader) :
    RepositoryProjectionState :=
  { state with
    contents := some
      { generation := snapshot.generation
        freshness :=
          { repositoryCompleteness := snapshot.completeness
            lastRefreshCompleteness := snapshot.completeness
            lastRefreshKind := .snapshot } }
    workingCopyRoot := snapshot.workingCopyRoot }

/-- Whether the projection already shows a later generation. -/
def isNewerThan (state : RepositoryProjectionState) (snapshot : SnapshotHeader) : Option Nat :=
  (state.contents.map ProjectionContents.generation).filter fun current =>
    decide (snapshot.generation < current)

def applySnapshot (state : RepositoryProjectionState) (snapshot : SnapshotHeader) :
    Except SourceControlResourceStoreError RepositoryProjectionState := do
  state.requireEpoch snapshot.epoch .snapshot
  match state.isNewerThan snapshot with
  | some current =>
    .error (.snapshotGenerationStale state.repositoryId current snapshot.generation)
  | none => .ok (state.applySnapshotToState snapshot)

def replaceSnapshot (state : RepositoryProjectionState) (snapshot : SnapshotHeader) :
    Except SourceControlResourceStoreError RepositoryProjectionState :=
  match state.isNewerThan snapshot with
  | some current =>
    if state.epoch = snapshot.epoch then
      .error (.snapshotGenerationStale state.repositoryId current snapshot.generation)
    else .ok ({ state with epoch := snapshot.epoch }.applySnapshotToState snapshot)
  | none => .ok ({ state with epoch := snapshot.epoch }.applySnapshotToState snapshot)

def applyDelta (state : RepositoryProjectionState) (delta : StatusDelta) :
    Except SourceControlResourceStoreError RepositoryProjectionState := do
  state.requireEpoch delta.epoch .delta
  match state.contents with
  | none => .error (.stateUninitialized state.repositoryId)
  | some contents =>
    if delta.generation ≤ contents.generation then
      .error (.deltaGenerationStale state.repositoryId contents.generation delta.generation)
    else
      .ok { state with
        contents := some
          { generation := delta.generation
            freshness := freshnessAfterDelta contents.freshness delta.completeness } }

def markStale (state : RepositoryProjectionState) (mark : StatusStaleMark) :
    Except SourceControlResourceStoreError RepositoryProjectionState := do
  state.requireEpoch mark.epoch .stale
  match state.contents with
  | none => .error (.stateUninitialized state.repositoryId)
  | some contents =>
    .ok { state with
      contents := some
        { contents with
          freshness :=
            { repositoryCompleteness := "stale"
              lastRefreshCompleteness := "stale"
              lastRefreshKind := .stale } } }

/-! ### When an update is taken -/

variable {state state' : RepositoryProjectionState}

/-- What follows the check of the epoch happens when the epoch is the expected one. -/
theorem requireEpoch_bind_eq_ok_iff {actual : Nat} {source : ScmProjectionRefreshKind}
    {rest : Except SourceControlResourceStoreError RepositoryProjectionState} :
    (state.requireEpoch actual source >>= fun _ => rest) = .ok state' ↔
      state.epoch = actual ∧ rest = .ok state' := by
  unfold requireEpoch
  by_cases h : state.epoch = actual
  · simp [h, bind, Except.bind]
  · simp [h, bind, Except.bind]

theorem applySnapshot_eq_ok_iff {snapshot : SnapshotHeader} :
    state.applySnapshot snapshot = .ok state' ↔
      state.epoch = snapshot.epoch ∧ state.isNewerThan snapshot = none ∧
        state' = state.applySnapshotToState snapshot := by
  unfold applySnapshot
  rw [requireEpoch_bind_eq_ok_iff]
  cases hnewer : state.isNewerThan snapshot with
  | none => simp [eq_comm]
  | some current => simp

theorem replaceSnapshot_eq_ok_iff {snapshot : SnapshotHeader} :
    state.replaceSnapshot snapshot = .ok state' ↔
      (state.epoch = snapshot.epoch → state.isNewerThan snapshot = none) ∧
        state' = { state with epoch := snapshot.epoch }.applySnapshotToState snapshot := by
  unfold replaceSnapshot
  cases hnewer : state.isNewerThan snapshot with
  | none => simp [eq_comm]
  | some current =>
    by_cases hepoch : state.epoch = snapshot.epoch
    · simp [hepoch]
    · simp [hepoch, eq_comm]

theorem applyDelta_eq_ok_iff {delta : StatusDelta} :
    state.applyDelta delta = .ok state' ↔
      state.epoch = delta.epoch ∧ ∃ contents, state.contents = some contents ∧
        contents.generation < delta.generation ∧
        state' =
          { state with
            contents := some
              { generation := delta.generation
                freshness := freshnessAfterDelta contents.freshness delta.completeness } } := by
  unfold applyDelta
  rw [requireEpoch_bind_eq_ok_iff]
  cases hcontents : state.contents with
  | none => simp
  | some contents =>
    by_cases hgeneration : delta.generation ≤ contents.generation
    · simp [hgeneration, Nat.not_lt.mpr hgeneration]
    · simp [hgeneration, Nat.lt_of_not_le hgeneration, @eq_comm _ state']

theorem markStale_eq_ok_iff {mark : StatusStaleMark} :
    state.markStale mark = .ok state' ↔
      state.epoch = mark.epoch ∧ ∃ contents, state.contents = some contents ∧
        state' =
          { state with
            contents := some
              { contents with
                freshness :=
                  { repositoryCompleteness := "stale"
                    lastRefreshCompleteness := "stale"
                    lastRefreshKind := .stale } } } := by
  unfold markStale
  rw [requireEpoch_bind_eq_ok_iff]
  cases hcontents : state.contents with
  | none => simp
  | some contents => simp [@eq_comm _ state']

end RepositoryProjectionState

/-! ## The projections of all repositories -/

structure SourceControlProjection where
  repositories : KeyedMap RepositoryProjectionState.repositoryId

namespace SourceControlProjection

def empty : SourceControlProjection := ⟨KeyedMap.empty⟩

def registerRepository (projection : SourceControlProjection) (repositoryId : Text) (epoch : Nat)
    (workingCopyRoot : Text) : Except SourceControlResourceStoreError SourceControlProjection :=
  if repositoryId.nonBlankJs = false then .error (.inputInvalid "repositoryId")
  else if isSafeInteger epoch = false then .error (.inputInvalid "epoch")
  else if workingCopyRoot.nonBlankJs = false then .error (.inputInvalid "workingCopyRoot")
  else if projection.repositories.contains repositoryId then
    .error (.repositoryAlreadyRegistered repositoryId)
  else
    .ok ⟨projection.repositories.insert
      { repositoryId, epoch, workingCopyRoot, contents := none }⟩

def unregisterRepository (projection : SourceControlProjection) (repositoryId : Text) :
    SourceControlProjection :=
  ⟨projection.repositories.erase repositoryId⟩

def update (projection : SourceControlProjection) (repositoryId : Text)
    (operation : RepositoryProjectionState →
      Except SourceControlResourceStoreError RepositoryProjectionState) :
    Except SourceControlResourceStoreError SourceControlProjection :=
  match projection.repositories.get? repositoryId with
  | none => .error (.repositoryNotRegistered repositoryId)
  | some state =>
    match operation state with
    | .error error => .error error
    | .ok state' => .ok ⟨projection.repositories.insert state'⟩

def applySnapshot (projection : SourceControlProjection) (snapshot : SnapshotHeader) :
    Except SourceControlResourceStoreError SourceControlProjection :=
  projection.update snapshot.repositoryId (·.applySnapshot snapshot)

def replaceSnapshot (projection : SourceControlProjection) (snapshot : SnapshotHeader) :
    Except SourceControlResourceStoreError SourceControlProjection :=
  projection.update snapshot.repositoryId (·.replaceSnapshot snapshot)

def applyDelta (projection : SourceControlProjection) (delta : StatusDelta) :
    Except SourceControlResourceStoreError SourceControlProjection :=
  projection.update delta.repositoryId (·.applyDelta delta)

def markStale (projection : SourceControlProjection) (mark : StatusStaleMark) :
    Except SourceControlResourceStoreError SourceControlProjection :=
  projection.update mark.repositoryId (·.markStale mark)

/-- The projection of a repository that has received a snapshot. -/
def getProjection (projection : SourceControlProjection) (repositoryId : Text) :
    Option RepositoryProjectionState :=
  (projection.repositories.get? repositoryId).filter fun state => state.contents.isSome

/-- `updateRemoteConnectionState` hands the state on to the view when it belongs to what is shown;
otherwise it throws (`SUBVERSIONR_SCM_REMOTE_STATE_PROJECTION_UNAVAILABLE`). -/
def showsRemoteConnectionState (projection : SourceControlProjection)
    (state : RemoteConnectionState) : Bool :=
  (projection.getProjection state.repositoryId).any fun shown => decide (shown.epoch = state.epoch)

theorem update_eq_ok_iff {projection projection' : SourceControlProjection} {repositoryId : Text}
    {operation : RepositoryProjectionState →
      Except SourceControlResourceStoreError RepositoryProjectionState} :
    projection.update repositoryId operation = .ok projection' ↔
      ∃ state state', projection.repositories.get? repositoryId = some state ∧
        operation state = .ok state' ∧ projection' = ⟨projection.repositories.insert state'⟩ := by
  unfold update
  cases hget : projection.repositories.get? repositoryId with
  | none => simp
  | some state =>
    cases hop : operation state with
    | error error => simp [hop]
    | ok state' =>
      simp only [hop, Except.ok.injEq, Option.some.injEq, exists_and_left, exists_eq_left']
      exact eq_comm

/-- The epoch and the generation that are shown. -/
def position (projection : SourceControlProjection) (repositoryId : Text) :
    Option (Nat × Option Nat) :=
  (projection.repositories.get? repositoryId).map fun state =>
    (state.epoch, state.contents.map ProjectionContents.generation)

variable {projection : SourceControlProjection}

theorem position_of_markStale {projection' : SourceControlProjection} {mark : StatusStaleMark}
    (h : projection.markStale mark = .ok projection') (repositoryId : Text) :
    projection'.position repositoryId = projection.position repositoryId := by
  obtain ⟨_, _, hget, hmark, rfl⟩ := update_eq_ok_iff.mp h
  obtain ⟨-, _, hcontents, rfl⟩ := RepositoryProjectionState.markStale_eq_ok_iff.mp hmark
  refine map_get?_insert_of_get? hget (by rfl) ?_ repositoryId
  rw [hcontents]
  rfl

/-- A mark of the epoch that is shown is taken. -/
theorem markStale_of_getProjection {mark : StatusStaleMark} {shown : RepositoryProjectionState}
    (h : projection.getProjection mark.repositoryId = some shown)
    (hepoch : shown.epoch = mark.epoch) :
    ∃ projection', projection.markStale mark = .ok projection' := by
  obtain ⟨hget, hcontents⟩ := Option.filter_eq_some_iff.mp h
  obtain ⟨contents, hsome⟩ := Option.isSome_iff_exists.mp hcontents
  exact ⟨_, update_eq_ok_iff.mpr ⟨shown, _, hget,
    RepositoryProjectionState.markStale_eq_ok_iff.mpr ⟨hepoch, contents, hsome, rfl⟩, rfl⟩⟩

/-- A later delta of the epoch that is shown is taken. -/
theorem applyDelta_of_position {delta : StatusDelta} {generation : Nat}
    (h : projection.position delta.repositoryId = some (delta.epoch, some generation))
    (hlt : generation < delta.generation) :
    ∃ projection', projection.applyDelta delta = .ok projection' ∧
      projection'.position delta.repositoryId = some (delta.epoch, some delta.generation) := by
  obtain ⟨state, hget, hstate⟩ := Option.map_eq_some_iff.mp h
  obtain ⟨hepoch, hgeneration⟩ := Prod.mk.inj hstate
  obtain ⟨contents, hcontents, rfl⟩ := Option.map_eq_some_iff.mp hgeneration
  have hkey : state.repositoryId = delta.repositoryId := key_of_get? hget
  have happly := RepositoryProjectionState.applyDelta_eq_ok_iff.mpr
    ⟨hepoch, contents, hcontents, hlt, rfl⟩
  refine ⟨_, update_eq_ok_iff.mpr ⟨state, _, hget, happly, rfl⟩, ?_⟩
  unfold position
  rw [get?_insert, if_pos hkey]
  simp [hepoch]

end SourceControlProjection

end SubversionR

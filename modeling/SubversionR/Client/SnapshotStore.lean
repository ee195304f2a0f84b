import SubversionR.Protocol
import SubversionR.Lib.MapDelta
import SubversionR.Client.Values

/-!
# StatusSnapshotStore — the extension's copy of the entries

`statusSnapshotStore.ts`: one `RepositoryState` for each registered repository, replaced by
snapshots and patched by deltas.  The fields the source leaves `undefined` until the first
snapshot are always set together; they are one optional record here.

* `RepositoryState.applyDelta_eq_ok_iff` — the checks of `applyDelta`, and the state it leaves;
* `StatusSnapshotStore.update_eq_ok_iff` — every store operation replaces one registered state.
-/

namespace SubversionR

open KeyedMaps KeyedMap

/-- The fields of a state that the first snapshot sets. -/
structure StatusContents where
  generation : Nat
  completeness : Text
  identity : RepositoryIdentity
  summary : StatusSummary
  timestamp : Text
  source : Text
deriving DecidableEq

structure RepositoryState where
  repositoryId : Text
  epoch : Nat
  localEntries : EntryMap
  remoteEntries : EntryMap
  contents : Option StatusContents
deriving DecidableEq, Inhabited

structure StoredStatusSnapshot where
  repositoryId : Text
  epoch : Nat
  generation : Nat
  completeness : Text
  identity : RepositoryIdentity
  localEntries : List StatusEntry
  remoteEntries : List StatusEntry
  summary : StatusSummary
  timestamp : Text
  source : Text

structure StatusStaleMark where
  repositoryId : Text
  epoch : Nat
  reason : Text
  timestamp : Text
  source : Text

/-- The store's errors, each with the arguments it reports. -/
inductive StatusSnapshotStoreError where
  | inputInvalid (field : Text)
  | repositoryAlreadyRegistered (repositoryId : Text)
  | repositoryNotRegistered (repositoryId : Text)
  | snapshotEpochMismatch (repositoryId : Text) (expected actual : Nat)
  | snapshotGenerationStale (repositoryId : Text) (current actual : Nat)
  | deltaEpochMismatch (repositoryId : Text) (expected actual : Nat)
  | deltaGenerationStale (repositoryId : Text) (current actual : Nat)
  | deltaSummaryInvalid (repositoryId field : Text) (current : Nat) (delta : Int)
  | staleEpochMismatch (repositoryId : Text) (expected actual : Nat)
  | stateUninitialized (repositoryId : Text)
deriving DecidableEq

def StatusSnapshotStoreError.code : StatusSnapshotStoreError → String
  | inputInvalid _ => "SUBVERSIONR_STATUS_STORE_INPUT_INVALID"
  | repositoryAlreadyRegistered _ => "SUBVERSIONR_STATUS_STORE_REPOSITORY_ALREADY_REGISTERED"
  | repositoryNotRegistered _ => "SUBVERSIONR_STATUS_STORE_REPOSITORY_NOT_REGISTERED"
  | snapshotEpochMismatch .. => "SUBVERSIONR_STATUS_STORE_SNAPSHOT_EPOCH_MISMATCH"
  | snapshotGenerationStale .. => "SUBVERSIONR_STATUS_STORE_SNAPSHOT_GENERATION_STALE"
  | deltaEpochMismatch .. => "SUBVERSIONR_STATUS_STORE_DELTA_EPOCH_MISMATCH"
  | deltaGenerationStale .. => "SUBVERSIONR_STATUS_STORE_DELTA_GENERATION_STALE"
  | deltaSummaryInvalid .. => "SUBVERSIONR_STATUS_STORE_DELTA_SUMMARY_INVALID"
  | staleEpochMismatch .. => "SUBVERSIONR_STATUS_STORE_STALE_EPOCH_MISMATCH"
  | stateUninitialized _ => "SUBVERSIONR_STATUS_STORE_STATE_UNINITIALIZED"

namespace RepositoryState

def entriesByPath (entries : List StatusEntry) : EntryMap := ofList entries

def applySnapshotToState (state : RepositoryState) (snapshot : StatusSnapshot) :
    RepositoryState :=
  { state with
    localEntries := entriesByPath snapshot.localEntries
    remoteEntries := entriesByPath snapshot.remoteEntries
    contents := some
      { generation := snapshot.generation
        completeness := snapshot.completeness
        identity := snapshot.identity
        summary := snapshot.summary
        timestamp := snapshot.timestamp
        source := snapshot.source } }

/-- The generation check of `applySnapshot` and `replaceSnapshot`. -/
def snapshotIsStale (state : RepositoryState) (snapshot : StatusSnapshot) :
    Option StatusSnapshotStoreError :=
  match state.contents with
  | some contents =>
    if snapshot.generation < contents.generation then
      some (.snapshotGenerationStale state.repositoryId contents.generation snapshot.generation)
    else none
  | none => none

def applySnapshot (state : RepositoryState) (snapshot : StatusSnapshot) :
    Except StatusSnapshotStoreError RepositoryState :=
  if state.epoch ≠ snapshot.epoch then
    .error (.snapshotEpochMismatch state.repositoryId state.epoch snapshot.epoch)
  else
    match state.snapshotIsStale snapshot with
    | some error => .error error
    | none => .ok (state.applySnapshotToState snapshot)

/-- A snapshot of another epoch replaces the state whatever its generation. -/
def replaceSnapshot (state : RepositoryState) (snapshot : StatusSnapshot) :
    Except StatusSnapshotStoreError RepositoryState :=
  match (if state.epoch = snapshot.epoch then state.snapshotIsStale snapshot else none) with
  | some error => .error error
  | none => .ok ({ state with epoch := snapshot.epoch }.applySnapshotToState snapshot)

def applySummaryValue (repositoryId field : Text) (current : Nat) (delta : Int) :
    Except StatusSnapshotStoreError Nat :=
  let next := (current : Int) + delta
  if isSafeInteger next = false ∨ next < 0 then
    .error (.deltaSummaryInvalid repositoryId field current delta)
  else .ok next.toNat

def applySummaryDelta (repositoryId : Text) (summary : StatusSummary)
    (delta : StatusSummaryDelta) : Except StatusSnapshotStoreError StatusSummary := do
  let localChanges ←
    applySummaryValue repositoryId "localChanges" summary.localChanges delta.localChanges
  let remoteChanges ←
    applySummaryValue repositoryId "remoteChanges" summary.remoteChanges delta.remoteChanges
  let conflicts ← applySummaryValue repositoryId "conflicts" summary.conflicts delta.conflicts
  let unversioned ←
    applySummaryValue repositoryId "unversioned" summary.unversioned delta.unversioned
  .ok { localChanges, remoteChanges, conflicts, unversioned }

def applyDelta (state : RepositoryState) (delta : StatusDelta) :
    Except StatusSnapshotStoreError RepositoryState :=
  if state.epoch ≠ delta.epoch then
    .error (.deltaEpochMismatch state.repositoryId state.epoch delta.epoch)
  else
    match state.contents with
    | none => .error (.stateUninitialized state.repositoryId)
    | some contents =>
      if delta.generation ≤ contents.generation then
        .error (.deltaGenerationStale state.repositoryId contents.generation delta.generation)
      else
        match applySummaryDelta state.repositoryId contents.summary delta.summaryDelta with
        | .error error => .error error
        | .ok summary =>
          .ok
            { state with
              localEntries := state.localEntries.patch delta.remove delta.upsert
              remoteEntries := state.remoteEntries.patch delta.remoteRemove delta.remoteUpsert
              contents := some
                { contents with
                  generation := delta.generation
                  completeness := delta.completeness
                  summary := summary
                  timestamp := delta.timestamp
                  source := delta.source } }

def markStale (state : RepositoryState) (mark : StatusStaleMark) :
    Except StatusSnapshotStoreError RepositoryState :=
  if state.epoch ≠ mark.epoch then
    .error (.staleEpochMismatch state.repositoryId state.epoch mark.epoch)
  else
    match state.contents with
    | none => .error (.stateUninitialized state.repositoryId)
    | some contents =>
      .ok
        { state with
          contents := some
            { contents with
              completeness := "stale", timestamp := mark.timestamp, source := mark.source } }

def snapshotFromState (state : RepositoryState) : Option StoredStatusSnapshot :=
  state.contents.map fun contents =>
    { repositoryId := state.repositoryId
      epoch := state.epoch
      generation := contents.generation
      completeness := contents.completeness
      identity := contents.identity
      localEntries := state.localEntries.values
      remoteEntries := state.remoteEntries.values
      summary := contents.summary
      timestamp := contents.timestamp
      source := contents.source }

end RepositoryState

/-! ## The store -/

structure StatusSnapshotStore where
  repositories : KeyedMap RepositoryState.repositoryId
deriving DecidableEq

namespace StatusSnapshotStore

def empty : StatusSnapshotStore := ⟨KeyedMap.empty⟩

def registerRepository (store : StatusSnapshotStore) (repositoryId : Text) (epoch : Nat) :
    Except StatusSnapshotStoreError StatusSnapshotStore :=
  if repositoryId.nonBlankJs = false then .error (.inputInvalid "repositoryId")
  else if isSafeInteger epoch = false then .error (.inputInvalid "epoch")
  else if store.repositories.contains repositoryId then
    .error (.repositoryAlreadyRegistered repositoryId)
  else
    .ok ⟨store.repositories.insert
      { repositoryId, epoch, localEntries := KeyedMap.empty, remoteEntries := KeyedMap.empty,
        contents := none }⟩

def unregisterRepository (store : StatusSnapshotStore) (repositoryId : Text) :
    StatusSnapshotStore :=
  ⟨store.repositories.erase repositoryId⟩

/-- The lookup every operation on a registered repository starts with. -/
def update (store : StatusSnapshotStore) (repositoryId : Text)
    (operation : RepositoryState → Except StatusSnapshotStoreError RepositoryState) :
    Except StatusSnapshotStoreError StatusSnapshotStore :=
  match store.repositories.get? repositoryId with
  | none => .error (.repositoryNotRegistered repositoryId)
  | some state =>
    match operation state with
    | .error error => .error error
    | .ok state' => .ok ⟨store.repositories.insert state'⟩

def applySnapshot (store : StatusSnapshotStore) (snapshot : StatusSnapshot) :
    Except StatusSnapshotStoreError StatusSnapshotStore :=
  store.update snapshot.repositoryId (·.applySnapshot snapshot)

def replaceSnapshot (store : StatusSnapshotStore) (snapshot : StatusSnapshot) :
    Except StatusSnapshotStoreError StatusSnapshotStore :=
  store.update snapshot.repositoryId (·.replaceSnapshot snapshot)

def applyDelta (store : StatusSnapshotStore) (delta : StatusDelta) :
    Except StatusSnapshotStoreError StatusSnapshotStore :=
  store.update delta.repositoryId (·.applyDelta delta)

def markStale (store : StatusSnapshotStore) (mark : StatusStaleMark) :
    Except StatusSnapshotStoreError StatusSnapshotStore :=
  if mark.repositoryId.nonBlankJs = false then .error (.inputInvalid "repositoryId")
  else if mark.reason.nonBlankJs = false then .error (.inputInvalid "reason")
  else if mark.timestamp.nonBlankJs = false then .error (.inputInvalid "timestamp")
  else if mark.source.nonBlankJs = false then .error (.inputInvalid "source")
  else if isSafeInteger mark.epoch = false then .error (.inputInvalid "epoch")
  else store.update mark.repositoryId (·.markStale mark)

def getSnapshot (store : StatusSnapshotStore) (repositoryId : Text) :
    Option StoredStatusSnapshot :=
  (store.repositories.get? repositoryId).bind RepositoryState.snapshotFromState

end StatusSnapshotStore

/-! ## What the operations check -/

namespace RepositoryState

variable {repositoryId : Text}

theorem applySummaryValue_eq_ok {field : Text} {current : Nat} {delta : Int} {next : Nat}
    (hnext : (current : Int) + delta = next) (hsafe : next ≤ 2 ^ 53 - 1) :
    applySummaryValue repositoryId field current delta = .ok next := by
  unfold applySummaryValue
  rw [hnext, if_neg, Int.toNat_natCast]
  unfold isSafeInteger
  simp only [Bool.and_eq_false_iff, decide_eq_false_iff_not]
  omega

/-- A value that passes the check is the exact sum. -/
theorem eq_of_applySummaryValue {field : Text} {current : Nat} {delta : Int} {next : Nat}
    (h : applySummaryValue repositoryId field current delta = .ok next) :
    (next : Int) = current + delta := by
  unfold applySummaryValue at h
  dsimp only at h
  split at h
  · cases h
  rename_i hvalid
  push Not at hvalid
  rw [← Except.ok.inj h, Int.toNat_of_nonneg hvalid.2]

theorem eq_of_applySummaryDelta {summary summary' : StatusSummary} {delta : StatusSummaryDelta}
    (h : applySummaryDelta repositoryId summary delta = .ok summary') :
    (summary'.localChanges : Int) = summary.localChanges + delta.localChanges ∧
      (summary'.remoteChanges : Int) = summary.remoteChanges + delta.remoteChanges ∧
      (summary'.conflicts : Int) = summary.conflicts + delta.conflicts ∧
      (summary'.unversioned : Int) = summary.unversioned + delta.unversioned := by
  obtain ⟨localChanges, hlocal, h⟩ := Fallible.bind_eq_ok_iff.mp h
  obtain ⟨remoteChanges, hremote, h⟩ := Fallible.bind_eq_ok_iff.mp h
  obtain ⟨conflicts, hconflicts, h⟩ := Fallible.bind_eq_ok_iff.mp h
  obtain ⟨unversioned, hunversioned, h⟩ := Fallible.bind_eq_ok_iff.mp h
  rw [← Except.ok.inj h]
  exact ⟨eq_of_applySummaryValue hlocal, eq_of_applySummaryValue hremote,
    eq_of_applySummaryValue hconflicts, eq_of_applySummaryValue hunversioned⟩

variable {state state' : RepositoryState}

theorem applyDelta_eq_ok_iff {delta : StatusDelta} :
    state.applyDelta delta = .ok state' ↔
      state.epoch = delta.epoch ∧ ∃ contents, state.contents = some contents ∧
        contents.generation < delta.generation ∧ ∃ summary,
          applySummaryDelta state.repositoryId contents.summary delta.summaryDelta = .ok summary ∧
          state' =
            { state with
              localEntries := state.localEntries.patch delta.remove delta.upsert
              remoteEntries := state.remoteEntries.patch delta.remoteRemove delta.remoteUpsert
              contents := some
                { contents with
                  generation := delta.generation
                  completeness := delta.completeness
                  summary := summary
                  timestamp := delta.timestamp
                  source := delta.source } } := by
  unfold applyDelta
  by_cases hepoch : state.epoch = delta.epoch
  · rw [if_neg (not_not.mpr hepoch)]
    cases hcontents : state.contents with
    | none => simp
    | some contents =>
      by_cases hgen : delta.generation ≤ contents.generation
      · simp [hgen, Nat.not_lt.mpr hgen]
      · cases hsummary : applySummaryDelta state.repositoryId contents.summary
          delta.summaryDelta with
        | error error => simp [hsummary, hgen]
        | ok summary =>
          simp only [hgen, if_false, hsummary, Except.ok.injEq, hepoch, true_and,
            Option.some.injEq, exists_eq_left', Nat.lt_of_not_le hgen]
          exact eq_comm
  · rw [if_pos hepoch]
    simp [hepoch]

/-- A snapshot of another epoch is always taken. -/
theorem replaceSnapshot_of_epoch_ne {snapshot : StatusSnapshot} (h : state.epoch ≠ snapshot.epoch) :
    state.replaceSnapshot snapshot =
      .ok ({ state with epoch := snapshot.epoch }.applySnapshotToState snapshot) := by
  unfold replaceSnapshot
  rw [if_neg h]

/-- Whichever of the two operations installs a snapshot, the state becomes the snapshot's. -/
theorem eq_of_applySnapshot {snapshot : StatusSnapshot}
    (h : state.applySnapshot snapshot = .ok state' ∨ state.replaceSnapshot snapshot = .ok state') :
    state' = { state with epoch := snapshot.epoch }.applySnapshotToState snapshot := by
  rcases h with h | h
  · unfold applySnapshot at h
    split at h
    · cases h
    rename_i hepoch
    split at h
    · cases h
    · cases h
      rw [← not_not.mp hepoch]
  · unfold replaceSnapshot at h
    split at h
    · cases h
    · cases h
      rfl

/-- Marking a state stale keeps its entries and counts. -/
theorem eq_of_markStale {mark : StatusStaleMark} (h : state.markStale mark = .ok state') :
    ∃ contents, state.contents = some contents ∧
      state' = { state with contents := some { contents with
        completeness := "stale", timestamp := mark.timestamp, source := mark.source } } := by
  unfold markStale at h
  split at h
  · cases h
  split at h
  · cases h
  rename_i contents hcontents
  cases h
  exact ⟨contents, hcontents, rfl⟩

/-- A delta never moves a state to another repository. -/
theorem applyDelta_repositoryId {delta : StatusDelta} (h : state.applyDelta delta = .ok state') :
    state'.repositoryId = state.repositoryId := by
  obtain ⟨-, _, -, -, _, -, rfl⟩ := applyDelta_eq_ok_iff.mp h
  rfl

end RepositoryState

namespace StatusSnapshotStore

theorem update_eq_ok_iff {store store' : StatusSnapshotStore} {repositoryId : Text}
    {operation : RepositoryState → Except StatusSnapshotStoreError RepositoryState} :
    store.update repositoryId operation = .ok store' ↔
      ∃ state state', store.repositories.get? repositoryId = some state ∧
        operation state = .ok state' ∧ store' = ⟨store.repositories.insert state'⟩ := by
  unfold update
  cases hget : store.repositories.get? repositoryId with
  | none => simp
  | some state =>
    cases hop : operation state with
    | error error => simp [hop]
    | ok state' =>
      simp only [hop, Except.ok.injEq, Option.some.injEq, exists_and_left, exists_eq_left']
      exact eq_comm

/-- After an operation that keeps the repository of a state, the store holds the new state. -/
theorem get?_of_update {store store' : StatusSnapshotStore} {repositoryId : Text}
    {operation : RepositoryState → Except StatusSnapshotStoreError RepositoryState}
    (hkeeps : ∀ state state', operation state = .ok state' →
      state'.repositoryId = state.repositoryId)
    (h : store.update repositoryId operation = .ok store') :
    ∃ state state', store.repositories.get? repositoryId = some state ∧
      operation state = .ok state' ∧ store'.repositories.get? repositoryId = some state' := by
  obtain ⟨state, state', hget, hop, rfl⟩ := update_eq_ok_iff.mp h
  refine ⟨state, state', hget, hop, ?_⟩
  rw [get?_insert, if_pos ((hkeeps state state' hop).trans (key_of_get? hget))]

/-- The state a store holds after it installed a snapshot. -/
theorem get?_of_applySnapshot {store store' : StatusSnapshotStore} {snapshot : StatusSnapshot}
    (h : store.applySnapshot snapshot = .ok store' ∨ store.replaceSnapshot snapshot = .ok store') :
    ∃ state, store.repositories.get? snapshot.repositoryId = some state ∧
      store'.repositories.get? snapshot.repositoryId =
        some ({ state with epoch := snapshot.epoch }.applySnapshotToState snapshot) := by
  rcases h with h | h
  · obtain ⟨state, state', hget, hop, hget'⟩ := get?_of_update (fun state state' hop => by
      rw [RepositoryState.eq_of_applySnapshot (.inl hop)]; rfl) h
    exact ⟨state, hget, by rw [hget', RepositoryState.eq_of_applySnapshot (.inl hop)]⟩
  · obtain ⟨state, state', hget, hop, hget'⟩ := get?_of_update (fun state state' hop => by
      rw [RepositoryState.eq_of_applySnapshot (.inr hop)]; rfl) h
    exact ⟨state, hget, by rw [hget', RepositoryState.eq_of_applySnapshot (.inr hop)]⟩

end StatusSnapshotStore

/-! ## What a stale mark leaves alone -/

/-- A state without the fields that only tell how fresh it is. -/
structure StatusCore where
  epoch : Nat
  localEntries : EntryMap
  remoteEntries : EntryMap
  progress : Option (Nat × StatusSummary)

def RepositoryState.core (state : RepositoryState) : StatusCore where
  epoch := state.epoch
  localEntries := state.localEntries
  remoteEntries := state.remoteEntries
  progress := state.contents.map fun contents => (contents.generation, contents.summary)

namespace StatusSnapshotStore

def core (store : StatusSnapshotStore) (repositoryId : Text) : Option StatusCore :=
  (store.repositories.get? repositoryId).map RepositoryState.core

variable {store : StatusSnapshotStore}

theorem core_of_markStale {store' : StatusSnapshotStore} {mark : StatusStaleMark}
    (h : store.markStale mark = .ok store') (id : Text) : store'.core id = store.core id := by
  have hupdate : store.update mark.repositoryId (·.markStale mark) = .ok store' := by
    unfold markStale at h
    iterate 5
      split at h
      · cases h
    exact h
  obtain ⟨_, _, hget, hmark, rfl⟩ := update_eq_ok_iff.mp hupdate
  obtain ⟨_, hcontents, rfl⟩ := RepositoryState.eq_of_markStale hmark
  refine map_get?_insert_of_get? hget (by rfl) ?_ id
  unfold RepositoryState.core
  rw [hcontents]
  rfl

/-- What an applied delta does to the core of its repository. -/
theorem core_of_applyDelta {store' : StatusSnapshotStore} {delta : StatusDelta}
    (h : store.applyDelta delta = .ok store') :
    ∃ core generation summary summary', store.core delta.repositoryId = some core ∧
      core.epoch = delta.epoch ∧ core.progress = some (generation, summary) ∧
      generation < delta.generation ∧
      RepositoryState.applySummaryDelta delta.repositoryId summary delta.summaryDelta =
        .ok summary' ∧
      store'.core delta.repositoryId = some
        { core with
          localEntries := core.localEntries.patch delta.remove delta.upsert
          remoteEntries := core.remoteEntries.patch delta.remoteRemove delta.remoteUpsert
          progress := some (delta.generation, summary') } := by
  obtain ⟨state, state', hget, happly, hget'⟩ :=
    get?_of_update (fun _ _ => RepositoryState.applyDelta_repositoryId) h
  obtain ⟨hepoch, contents, hcontents, hgeneration, summary', hsummary, rfl⟩ :=
    RepositoryState.applyDelta_eq_ok_iff.mp happly
  rw [show state.repositoryId = delta.repositoryId from key_of_get? hget] at hsummary
  refine ⟨state.core, contents.generation, contents.summary, summary', ?_, hepoch, ?_,
    hgeneration, hsummary, ?_⟩
  · unfold core
    rw [hget]
    rfl
  · unfold RepositoryState.core
    rw [hcontents]
    rfl
  · unfold core
    rw [hget']
    rfl

end StatusSnapshotStore

end SubversionR

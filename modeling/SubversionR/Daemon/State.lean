import SubversionR.Daemon.Session
import SubversionR.Daemon.Requests

/-!
# Daemon state — the open repositories and the requests that name one

`DaemonState` with the requests that open and close a repository and the three status requests.  A
request names a repository by its id and by the *epoch* the daemon gave the session when it opened
it; a request with another epoch is answered as if the repository were not open.

* `dispatchRepositoryOpen_eq_ok_iff` — the checks of an opening; it takes the next epoch;
* `dispatchStatusGetSnapshot_cases`, `dispatchStatusRefresh_cases` — a request is refused and
  changes nothing, or it is the session's own step on one of the sessions.
-/

namespace SubversionR

open KeyedMaps KeyedMap JsonValues

/-- The error of an answer.  `invalidParams` names the offending field. -/
inductive DaemonError where
  | invalidParams (field : Text)
  | repositoryNotOpen (repositoryId : Text)
  | repositoryAlreadyOpen (repositoryId : Text)
  | bridge (failure : BridgeFailure)
deriving DecidableEq

def DaemonError.code : DaemonError → Text
  | .invalidParams _ => "RPC_INVALID_PARAMS"
  | .repositoryNotOpen _ => "REPOSITORY_NOT_OPEN"
  | .repositoryAlreadyOpen _ => "REPOSITORY_ALREADY_OPEN"
  | .bridge failure => failure.code

structure RepositoryOpenResponse where
  repositoryId : Text
  epoch : Nat
  identity : RepositoryIdentity

structure RepositoryCloseResponse where
  repositoryId : Text
  epoch : Nat
  closed : Bool

structure DaemonState where
  repositories : KeyedMap RepositorySession.repositoryId
  nextEpoch : Nat

/-- `repository_id`. -/
def repositoryId (identity : RepositoryIdentity) : Text :=
  identity.repositoryUuid ++ (":" : Text) ++ identity.workingCopyRoot

/-- `unexpected_param`; the keys of a request are kept sorted. -/
def unexpectedParam (params : Json) (expectedKeys : List String) : Option Text :=
  match params with
  | .obj fields =>
    ((fields.map fun field => field.1.toList).filter fun key =>
      decide (key ∉ expectedKeys.map String.toList)).min?
  | _ => none

/-- The loop of `repository_open_boundary_roots`. -/
def boundaryRootParams : Nat → List Json → Except Text (List Text)
  | _, [] => .ok []
  | index, value :: rest =>
    match value with
    | .str root =>
      if Text.nonBlankRust root then do
        let roots ← boundaryRootParams (index + 1) rest
        .ok (root :: roots)
      else .error ("boundaryRoots." ++ toString index)
    | _ => .error ("boundaryRoots." ++ toString index)

/-- `repository_open_boundary_roots`. -/
def repositoryOpenBoundaryRoots (params : Json) : Except Text (List Text) :=
  match params.prop "boundaryRoots" with
  | none => .ok []
  | some (.arr values) => boundaryRootParams 0 values
  | some _ => .error "boundaryRoots"

/-- The `path` parameter of `repository/open`. -/
def openPathParam (params : Json) : Option Text :=
  match params.prop "path" with
  | some (.str path) => if Text.nonBlankRust path then some path else none
  | _ => none

namespace DaemonState

def new : DaemonState := ⟨KeyedMap.empty, 1⟩

/-! ## Opening and closing -/

/-- `dispatch_repository_open`; `openWorkingCopy` is the call of the native bridge. -/
def dispatchRepositoryOpen (platform : Platform)
    (openWorkingCopy : Text → Except BridgeFailure RepositoryIdentity) (params : Json)
    (state : DaemonState) : Except DaemonError RepositoryOpenResponse × DaemonState :=
  match openPathParam params with
  | none => (.error (.invalidParams "path"), state)
  | some path =>
    match repositoryOpenBoundaryRoots params with
    | .error field => (.error (.invalidParams field), state)
    | .ok boundaryRoots =>
      match openWorkingCopy path with
      | .error failure => (.error (.bridge failure), state)
      | .ok identity =>
        match repositoryBoundaryRoots platform identity boundaryRoots with
        | .error field => (.error (.invalidParams field), state)
        | .ok boundaryRoots =>
          let id := repositoryId identity
          if state.repositories.contains id then (.error (.repositoryAlreadyOpen id), state)
          else
            let epoch := state.nextEpoch
            (.ok ⟨id, epoch, identity⟩,
              { repositories := state.repositories.insert
                  (.opened id epoch identity boundaryRoots)
                nextEpoch := state.nextEpoch + 1 })

/-- The session a request names. -/
def requireSession (state : DaemonState) (repositoryId : Text) (epoch : Nat) :
    Except DaemonError RepositorySession :=
  match state.repositories.get? repositoryId with
  | none => .error (.repositoryNotOpen repositoryId)
  | some session =>
    if epoch ≠ session.epoch then .error (.repositoryNotOpen repositoryId) else .ok session

/-- The two parameters every request about an open repository has. -/
def sessionParams (params : Json) : Except DaemonError (Text × Nat) :=
  match repositoryIdParam params with
  | none => .error (.invalidParams "repositoryId")
  | some repositoryId =>
    match epochParam params with
    | none => .error (.invalidParams "epoch")
    | some epoch => .ok (repositoryId, epoch)

/-- `dispatch_repository_close`. -/
def dispatchRepositoryClose (params : Json) (state : DaemonState) :
    Except DaemonError RepositoryCloseResponse × DaemonState :=
  match sessionParams params with
  | .error error => (.error error, state)
  | .ok (repositoryId, epoch) =>
    match state.requireSession repositoryId epoch with
    | .error error => (.error error, state)
    | .ok _ =>
      (.ok ⟨repositoryId, epoch, true⟩,
        { state with repositories := state.repositories.erase repositoryId })

/-! ## The status requests -/

/-- `dispatch_status_get_snapshot`. -/
def dispatchStatusGetSnapshot (platform : Platform) (bridge : StatusBridge) (now : Text)
    (params : Json) (state : DaemonState) : Except DaemonError StatusSnapshot × DaemonState :=
  match sessionParams params with
  | .error error => (.error error, state)
  | .ok (repositoryId, epoch) =>
    match state.requireSession repositoryId epoch with
    | .error error => (.error error, state)
    | .ok session =>
      let (answer, session') := session.getSnapshot platform bridge now
      (answer.mapError .bridge,
        { state with repositories := state.repositories.insert session' })

/-- `dispatch_status_refresh`. -/
def dispatchStatusRefresh (platform : Platform) (bridge : StatusBridge) (now : Text)
    (params : Json) (state : DaemonState) : Except DaemonError StatusDelta × DaemonState :=
  match sessionParams params with
  | .error error => (.error error, state)
  | .ok (repositoryId, epoch) =>
    match statusRefreshTargets params with
    | .error field => (.error (.invalidParams field), state)
    | .ok targets =>
      match state.requireSession repositoryId epoch with
      | .error error => (.error error, state)
      | .ok session =>
        match session.refresh platform bridge now targets with
        | .error failure => (.error (.bridge failure), state)
        | .ok (delta, session') =>
          (.ok delta, { state with repositories := state.repositories.insert session' })

/-! ## Opening and closing, case by case -/

variable {platform : Platform} {params : Json} {state state' : DaemonState}

/-- **Opening a repository**: every check on the way, and the session that is added. -/
theorem dispatchRepositoryOpen_eq_ok_iff
    {openWorkingCopy : Text → Except BridgeFailure RepositoryIdentity}
    {response : RepositoryOpenResponse} :
    state.dispatchRepositoryOpen platform openWorkingCopy params = (.ok response, state') ↔
      ∃ path given identity roots,
        openPathParam params = some path ∧ repositoryOpenBoundaryRoots params = .ok given ∧
        openWorkingCopy path = .ok identity ∧
        repositoryBoundaryRoots platform identity given = .ok roots ∧
        state.repositories.get? (repositoryId identity) = none ∧
        response = ⟨repositoryId identity, state.nextEpoch, identity⟩ ∧
        state' =
          { repositories := state.repositories.insert
              (.opened (repositoryId identity) state.nextEpoch identity roots)
            nextEpoch := state.nextEpoch + 1 } := by
  unfold dispatchRepositoryOpen
  cases hpath : openPathParam params with
  | none => simp
  | some path =>
    cases hgiven : repositoryOpenBoundaryRoots params with
    | error field => simp
    | ok given =>
      cases hopen : openWorkingCopy path with
      | error failure => simp [hopen]
      | ok identity =>
        cases hroots : repositoryBoundaryRoots platform identity given with
        | error field => simp [hopen, hroots]
        | ok roots =>
          cases hcontains : state.repositories.contains (repositoryId identity) with
          | true =>
            obtain ⟨_, hsession⟩ := contains_iff_exists.mp hcontains
            simp [hopen, hroots, hcontains, hsession]
          | false =>
            have hnone := contains_eq_false_iff.mp hcontains
            simp [hopen, hroots, hcontains, hnone, @eq_comm _ response, @eq_comm _ state']

/-- A refused opening changes nothing; a repository it refuses as open is open. -/
theorem dispatchRepositoryOpen_error
    {openWorkingCopy : Text → Except BridgeFailure RepositoryIdentity} {error : DaemonError}
    (h : state.dispatchRepositoryOpen platform openWorkingCopy params = (.error error, state')) :
    state' = state ∧
      ∀ id, error = .repositoryAlreadyOpen id → state.repositories.contains id = true := by
  unfold dispatchRepositoryOpen at h
  dsimp only at h
  repeat' split at h
  all_goals cases h
  on_goal 5 =>
    rename_i hcontains
    refine ⟨rfl, fun id hid => ?_⟩
    cases hid
    exact hcontains
  all_goals exact ⟨rfl, fun id hid => by cases hid⟩

/-- Closing a repository never touches the epoch counter. -/
theorem dispatchRepositoryClose_nextEpoch {params : Json} {state : DaemonState} :
    (state.dispatchRepositoryClose params).2.nextEpoch = state.nextEpoch := by
  unfold dispatchRepositoryClose
  split
  · rfl
  split
  · rfl
  · rfl

variable {bridge : StatusBridge} {now : Text}

theorem dispatchStatusGetSnapshot_nextEpoch :
    (state.dispatchStatusGetSnapshot platform bridge now params).2.nextEpoch = state.nextEpoch := by
  unfold dispatchStatusGetSnapshot
  split
  · rfl
  split
  · rfl
  · rfl

/-! ## What the status requests do -/

variable {repositoryId : Text} {epoch : Nat}

theorem requireSession_eq_ok_iff {session : RepositorySession} :
    state.requireSession repositoryId epoch = .ok session ↔
      state.repositories.get? repositoryId = some session ∧ session.epoch = epoch := by
  unfold requireSession
  cases hget : state.repositories.get? repositoryId with
  | none => simp
  | some session' =>
    by_cases hepoch : epoch = session'.epoch
    · subst hepoch
      simp only [ne_eq, not_true_eq_false, if_false, Except.ok.injEq, Option.some.injEq]
      exact ⟨fun h => ⟨h, h ▸ rfl⟩, fun h => h.1⟩
    · simp only [ne_eq, hepoch, not_false_eq_true, if_true, Option.some.injEq, reduceCtorEq,
        false_iff]
      intro ⟨h, h'⟩
      exact hepoch (h ▸ h').symm

theorem sessionParams_eq_ok (h : sessionParams params = .ok (repositoryId, epoch)) :
    repositoryIdParam params = some repositoryId ∧ epochParam params = some epoch := by
  unfold sessionParams at h
  split at h
  · cases h
  rename_i hid
  split at h
  · cases h
  rename_i hepoch
  cases h
  exact ⟨hid, hepoch⟩

/-- The parameters of a request that names a repository and a counter value. -/
theorem sessionParams_of_props (hid : params.prop "repositoryId" = some (.str repositoryId))
    (hnonBlank : repositoryId.nonBlankRust = true)
    (hepoch : params.prop "epoch" = some (.int epoch)) (hlt : epoch < 2 ^ 64) :
    sessionParams params = .ok (repositoryId, epoch) := by
  have hrange : (0 : Int) ≤ epoch ∧ (epoch : Int) < 2 ^ 64 :=
    ⟨Int.natCast_nonneg epoch, by exact_mod_cast hlt⟩
  have hidParam : repositoryIdParam params = some repositoryId := by
    unfold repositoryIdParam
    rw [hid]
    exact if_pos hnonBlank
  have hepochParam : epochParam params = some epoch := by
    unfold epochParam
    rw [hepoch]
    exact (if_pos hrange).trans (congrArg some (Int.toNat_natCast epoch))
  unfold sessionParams
  rw [hidParam, hepochParam]

/-- A snapshot request for an open session is the session's own step. -/
theorem dispatchStatusGetSnapshot_of_session {session : RepositorySession}
    (hparams : sessionParams params = .ok (session.repositoryId, session.epoch))
    (hget : state.repositories.get? session.repositoryId = some session) :
    state.dispatchStatusGetSnapshot platform bridge now params =
      ((session.getSnapshot platform bridge now).1.mapError .bridge,
        { state with
          repositories := state.repositories.insert (session.getSnapshot platform bridge now).2
            }) := by
  have hsession : state.requireSession session.repositoryId session.epoch = .ok session :=
    requireSession_eq_ok_iff.mpr ⟨hget, rfl⟩
  unfold dispatchStatusGetSnapshot
  rw [hparams]
  dsimp only
  rw [hsession]

/-- **Closing in the daemon**: it is refused and nothing changes, or the session it names goes. -/
theorem dispatchRepositoryClose_cases {answer : Except DaemonError RepositoryCloseResponse}
    (h : state.dispatchRepositoryClose params = (answer, state')) :
    (∃ error, answer = .error error ∧ state' = state) ∨
      ∃ repositoryId session, repositoryIdParam params = some repositoryId ∧
        state.repositories.get? repositoryId = some session ∧
        state' = { state with repositories := state.repositories.erase repositoryId } := by
  unfold dispatchRepositoryClose at h
  split at h
  · cases h
    exact .inl ⟨_, rfl, rfl⟩
  · rename_i repositoryId _ hparams
    split at h
    · cases h
      exact .inl ⟨_, rfl, rfl⟩
    · rename_i session hsession
      cases h
      exact .inr ⟨repositoryId, session, (sessionParams_eq_ok hparams).1,
        (requireSession_eq_ok_iff.mp hsession).1, rfl⟩

theorem dispatchStatusGetSnapshot_cases {answer : Except DaemonError StatusSnapshot}
    (h : state.dispatchStatusGetSnapshot platform bridge now params = (answer, state')) :
    (∃ error, answer = .error error ∧ state' = state) ∨
      ∃ repositoryId session, repositoryIdParam params = some repositoryId ∧
        state.repositories.get? repositoryId = some session ∧
        answer = (session.getSnapshot platform bridge now).1.mapError .bridge ∧
        state' = { state with
          repositories := state.repositories.insert
            (session.getSnapshot platform bridge now).2 } := by
  unfold dispatchStatusGetSnapshot at h
  split at h
  · cases h
    exact .inl ⟨_, rfl, rfl⟩
  · rename_i repositoryId _ hparams
    split at h
    · cases h
      exact .inl ⟨_, rfl, rfl⟩
    · rename_i session hsession
      cases h
      exact .inr ⟨repositoryId, session, (sessionParams_eq_ok hparams).1,
        (requireSession_eq_ok_iff.mp hsession).1, rfl, rfl⟩

/-- **A refresh in the daemon**: it is refused and nothing changes, or the session it names is
refreshed. -/
theorem dispatchStatusRefresh_cases {answer : Except DaemonError StatusDelta}
    (h : state.dispatchStatusRefresh platform bridge now params = (answer, state')) :
    (∃ error, answer = .error error ∧ state' = state) ∨
      ∃ repositoryId session session' delta targets,
        repositoryIdParam params = some repositoryId ∧
        state.repositories.get? repositoryId = some session ∧
        session.refresh platform bridge now targets = .ok (delta, session') ∧
        answer = .ok delta ∧
        state' = { state with repositories := state.repositories.insert session' } := by
  unfold dispatchStatusRefresh at h
  split at h
  · cases h
    exact .inl ⟨_, rfl, rfl⟩
  · rename_i repositoryId _ hparams
    split at h
    · cases h
      exact .inl ⟨_, rfl, rfl⟩
    · rename_i targets _
      split at h
      · cases h
        exact .inl ⟨_, rfl, rfl⟩
      · rename_i session hsession
        split at h
        · cases h
          exact .inl ⟨_, rfl, rfl⟩
        · rename_i delta session' hrefresh
          cases h
          exact .inr ⟨repositoryId, session, session', delta, targets,
            (sessionParams_eq_ok hparams).1, (requireSession_eq_ok_iff.mp hsession).1,
            hrefresh, rfl, rfl⟩

end DaemonState

end SubversionR

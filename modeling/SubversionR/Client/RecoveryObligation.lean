import SubversionR.Lib.Run
import SubversionR.Client.RemoteConnection

/-!
# Recovery obligations — runs of the remote connection state store

Once a repository's recovery is required, checking or blocked, a recovery of its working copy is
due.  The module follows the obligation through every sequence of calls of the store.

* `Writes` — everything a call can write, with the checks that were passed; `apply_moves` inverts a
  call by it;
* `obligations_discharged_by_recovery_iff` — which calls let an obligation lapse that no recovery
  discharged: the three that rebuild the record of a repository whose kind has left `indeterminate`;
* `obligations_actionable_iff` — how the kind can leave it: the daemon announces a check.
-/

namespace SubversionR

open KeyedMaps KeyedMap Fallible

/-! ## Calls -/

inductive RemoteConnectionCall where
  | registerRepository (repositoryId : Text) (epoch : Nat)
  | unregisterRepository (repositoryId : Text)
  | rebindRepository (repositoryId : Text) (epoch : Nat)
  | beginCheck (repositoryId : Text) (epoch : Nat) (operationId startedAt : Text)
  | completeOnline (repositoryId : Text) (epoch : Nat) (operationId : Text)
      (transport : RemoteScheme) (checkedAt : Text) (incomingApplied : Bool)
  | completeFailure (repositoryId : Text) (epoch : Nat) (operationId failedAt : Text)
      (failure : NativeRemoteFailure) (workingCopyRecoveryRequired : Bool)
  | beginRecovery (repositoryId : Text) (epoch : Nat) (operationId startedAt deadlineAt : Text)
  | completeRecovery (repositoryId : Text) (epoch : Nat) (operationId completedAt : Text)
      (result : RemoteRecoveryResult) (failure : Option NativeRemoteFailure)
  | applyDaemonState (repositoryId : Text) (epoch : Nat) (daemon : DaemonRemoteConnectionState)
      (receivedAt : Text)

namespace RemoteConnectionStateStore

/-- The store after a call: one that throws has written nothing. -/
def after {α : Type} (store : RemoteConnectionStateStore)
    (result : Except RemoteConnectionStateStoreError (α × RemoteConnectionStateStore)) :
    RemoteConnectionStateStore :=
  match result with
  | .ok (_, store') => store'
  | .error _ => store

def apply (dateParse : Text → Option Int) (store : RemoteConnectionStateStore) :
    RemoteConnectionCall → RemoteConnectionStateStore
  | .registerRepository repositoryId epoch =>
    match store.registerRepository repositoryId epoch with
    | .ok store' => store'
    | .error _ => store
  | .unregisterRepository repositoryId => store.unregisterRepository repositoryId
  | .rebindRepository repositoryId epoch => store.after (store.rebindRepository repositoryId epoch)
  | .beginCheck repositoryId epoch operationId startedAt =>
    store.after (store.beginCheck dateParse repositoryId epoch operationId startedAt)
  | .completeOnline repositoryId epoch operationId transport checkedAt incomingApplied =>
    store.after (store.completeOnline dateParse repositoryId epoch operationId transport checkedAt
      incomingApplied)
  | .completeFailure repositoryId epoch operationId failedAt failure required =>
    store.after (store.completeFailure dateParse repositoryId epoch operationId failedAt failure
      required)
  | .beginRecovery repositoryId epoch operationId startedAt deadlineAt =>
    store.after (store.beginRecovery dateParse repositoryId epoch operationId startedAt deadlineAt)
  | .completeRecovery repositoryId epoch operationId completedAt result failure =>
    store.after (store.completeRecovery dateParse repositoryId epoch operationId completedAt result
      failure)
  | .applyDaemonState repositoryId epoch daemon receivedAt =>
    store.after (store.applyDaemonState dateParse repositoryId epoch daemon receivedAt)

/-- Every call is possible in every state. -/
def step (dateParse : Text → Option Int) (store : RemoteConnectionStateStore)
    (call : RemoteConnectionCall) : Option RemoteConnectionStateStore :=
  some (store.apply dateParse call)

/-! ## What a call can write -/

/-- The states a call can write, with the checks it has passed. -/
inductive Writes (dateParse : Text → Option Int) (store : RemoteConnectionStateStore) :
    RemoteConnectionCall → RemoteConnectionState → Prop
  | registered {id : Text} {epoch : Nat} {state : RemoteConnectionState}
      (hnew : store.getState id = none) (hid : state.repositoryId = id)
      (hdue : state.recovery.isDue = false) :
      Writes dateParse store (.registerRepository id epoch) state
  | rebound {id : Text} {epoch : Nat} {current : RemoteConnectionState}
      (hget : store.getState id = some current)
      (hvalid : validateRepository id epoch = .ok ()) (hepoch : current.epoch ≠ epoch) :
      Writes dateParse store (.rebindRepository id epoch) (rebound current epoch)
  | checkBegun {id operationId startedAt : Text} {epoch : Nat}
      {current : RemoteConnectionState} (hget : store.getState id = some current)
      (hdue : current.recovery.isDue = false) :
      Writes dateParse store (.beginCheck id epoch operationId startedAt)
        { current with kind := .checking operationId startedAt }
  | checkCompleted {id operationId checkedAt : Text} {epoch : Nat}
      {transport : RemoteScheme} {incomingApplied : Bool} {current state : RemoteConnectionState}
      (hvalid : validateOperation dateParse id epoch operationId checkedAt = .ok ())
      (hcurrent : store.currentRepository id epoch = some current)
      (hcheck : isCurrentCheck current operationId = true)
      (hid : state.repositoryId = id) (hdue : state.recovery.isDue = false) :
      Writes dateParse store
        (.completeOnline id epoch operationId transport checkedAt incomingApplied) state
  | checkFailed {id operationId failedAt : Text} {epoch : Nat}
      {failure : NativeRemoteFailure} {required : Bool} {current state : RemoteConnectionState}
      (hvalid : validateOperation dateParse id epoch operationId failedAt = .ok ())
      (hfailure : validateNativeRemoteFailure failure = .ok ())
      (hcurrent : store.currentRepository id epoch = some current)
      (hcheck : isCurrentCheck current operationId = true)
      (hid : state.repositoryId = id) (hdue : state.recovery.isDue = required)
      (hkind : required = true → ∃ reason, state.kind = .indeterminate reason) :
      Writes dateParse store
        (.completeFailure id epoch operationId failedAt failure required) state
  | recoveryBegun {id operationId startedAt deadlineAt origin : Text} {epoch : Nat}
      {current : RemoteConnectionState} {reason : RemoteIndeterminateReason}
      (hget : store.getState id = some current)
      (hkind : current.kind = .indeterminate reason) :
      Writes dateParse store (.beginRecovery id epoch operationId startedAt deadlineAt)
        { current with recovery := .checking operationId origin startedAt deadlineAt }
  | recoveryCompleted {id operationId completedAt origin startedAt deadlineAt : Text}
      {epoch : Nat} {result : RemoteRecoveryResult} {failure : Option NativeRemoteFailure}
      {current state : RemoteConnectionState} {reason : RemoteIndeterminateReason}
      (hget : store.getState id = some current)
      (hkind : current.kind = .indeterminate reason)
      (hrecovery : current.recovery = .checking operationId origin startedAt deadlineAt)
      (hid : state.repositoryId = current.repositoryId)
      (hstate : (result = .safe ∧ state.recovery.isDue = false) ∨
        (state.kind = current.kind ∧ state.recovery.isDue = true)) :
      Writes dateParse store
        (.completeRecovery id epoch operationId completedAt result failure) state
  | announced {id receivedAt : Text} {epoch : Nat} {daemon : DaemonRemoteConnectionState}
      {current state : RemoteConnectionState}
      (hvalid : validateTimestamp dateParse receivedAt "receivedAt" = .ok ())
      (hcurrent : store.currentRepository id epoch = some current)
      (hstate : announced dateParse current receivedAt daemon = some state) :
      Writes dateParse store (.applyDaemonState id epoch daemon receivedAt) state

section Cases

variable {dateParse : Text → Option Int} {store : RemoteConnectionStateStore}

theorem getState_update (state : RemoteConnectionState) (id : Text) :
    (store.update state).getState id =
      if state.repositoryId = id then some state else store.getState id :=
  get?_insert _ _ _

theorem getState_unregisterRepository (id other : Text) :
    (store.unregisterRepository id).getState other =
      if id = other then none else store.getState other :=
  get?_erase _ _ _

variable {id : Text} {state : RemoteConnectionState}

theorem repositoryId_of_getState (h : store.getState id = some state) :
    state.repositoryId = id :=
  key_of_get? h

variable {epoch : Nat}

theorem getState_of_currentRepository (h : store.currentRepository id epoch =
    some state) :
    store.getState id = some state :=
  (currentRepository_eq_some_iff.mp h).1

theorem announced_repositoryId {current : RemoteConnectionState} {receivedAt : Text}
    {daemon : DaemonRemoteConnectionState}
    (h : announced dateParse current receivedAt daemon = some state) :
    state.repositoryId = current.repositoryId := by
  unfold announced at h
  split at h
  · split at h
    · split at h
      · cases h
      · cases h
        rfl
    · cases h
      rfl
  all_goals first
    | (cases h; rfl)
    | (split at h
       · cases h
       · cases h
         rfl)

/-- A call that returns pairs leaves the store or ends with the store it returns. -/
theorem after_cases {α : Type} (store : RemoteConnectionStateStore)
    (result : Except RemoteConnectionStateStoreError (α × RemoteConnectionStateStore)) :
    store.after result = store ∨ ∃ a store', result = .ok (a, store') ∧
      store.after result = store' := by
  cases result with
  | error e => exact .inl rfl
  | ok pair => exact .inr ⟨pair.1, pair.2, rfl, rfl⟩

/-- Whether a call wrote nothing, forgot its repository or wrote one state. -/
def Moves (dateParse : Text → Option Int) (store : RemoteConnectionStateStore)
    (call : RemoteConnectionCall) (store' : RemoteConnectionStateStore) : Prop :=
  store' = store ∨
    (∃ id, call = .unregisterRepository id ∧
      store' = store.unregisterRepository id) ∨
    ∃ state, Writes dateParse store call state ∧ store' = store.update state

variable {store' : RemoteConnectionStateStore}

theorem registerRepository_moves (h : store.registerRepository id epoch = .ok store') :
    Moves dateParse store (.registerRepository id epoch) store' := by
  obtain ⟨_, -, h⟩ := bind_eq_ok_iff.mp h
  split at h
  · cases h
  rename_i hcontains
  cases h
  have hnew : store.getState id = none :=
    contains_eq_false_iff.mp (Bool.not_eq_true _ ▸ hcontains)
  exact .inr (.inr ⟨_, .registered hnew rfl rfl, rfl⟩)

theorem rebindRepository_moves (h : store.rebindRepository id epoch =
    .ok (state, store')) :
    Moves dateParse store (.rebindRepository id epoch) store' := by
  obtain ⟨hblank, hsafe, _, hget, hepoch, hresult⟩ := rebindRepository_eq_ok_iff.mp h
  obtain ⟨-, rfl⟩ := Prod.mk.inj hresult
  have hvalid := validateRepository_eq_ok_iff.mpr ⟨hblank, hsafe⟩
  exact .inr (.inr ⟨_, .rebound hget hvalid hepoch, rfl⟩)

variable {operationId : Text}

theorem beginCheck_moves {startedAt : Text}
    (h : store.beginCheck dateParse id epoch operationId startedAt =
      .ok (state, store')) :
    Moves dateParse store (.beginCheck id epoch operationId startedAt) store' := by
  obtain ⟨_, hget, -, -, hdue, rfl, rfl⟩ := beginCheck_eq_ok h
  exact .inr (.inr ⟨_, .checkBegun hget hdue, rfl⟩)

variable {result : RemoteConnectionStateApplyResult}

theorem completeOnline_moves {checkedAt : Text} {transport : RemoteScheme} {incomingApplied : Bool}
    (h : store.completeOnline dateParse id epoch operationId transport checkedAt
      incomingApplied = .ok (result, store')) :
    Moves dateParse store
      (.completeOnline id epoch operationId transport checkedAt incomingApplied)
      store' := by
  obtain ⟨_, hvalid, h⟩ := bind_eq_ok_iff.mp h
  split at h
  · cases h
    exact .inl rfl
  · rename_i current hcurrent
    split at h
    · cases h
      exact .inl rfl
    · rename_i hcheck
      cases h
      have hrunning : isCurrentCheck current operationId = true := Bool.of_not_eq_false hcheck
      exact .inr (.inr ⟨_, .checkCompleted hvalid hcurrent hrunning rfl rfl, rfl⟩)

theorem completeFailure_moves {failedAt : Text} {failure : NativeRemoteFailure} {required : Bool}
    (h : store.completeFailure dateParse id epoch operationId failedAt failure
      required = .ok (result, store')) :
    Moves dateParse store
      (.completeFailure id epoch operationId failedAt failure required) store' := by
  obtain ⟨_, hvalid, h⟩ := bind_eq_ok_iff.mp h
  obtain ⟨_, hfailure, h⟩ := bind_eq_ok_iff.mp h
  split at h
  · cases h
    exact .inl rfl
  · rename_i current hcurrent
    split at h
    · cases h
      exact .inl rfl
    · rename_i hcheck
      cases h
      have hrunning : isCurrentCheck current operationId = true := Bool.of_not_eq_false hcheck
      refine .inr (.inr ⟨_, .checkFailed hvalid hfailure hcurrent hrunning rfl ?_ ?_, rfl⟩)
      · cases required <;> rfl
      · rintro rfl
        exact ⟨_, rfl⟩

theorem beginRecovery_moves {startedAt deadlineAt : Text}
    (h : store.beginRecovery dateParse id epoch operationId startedAt deadlineAt =
      .ok (state, store')) :
    Moves dateParse store (.beginRecovery id epoch operationId startedAt deadlineAt)
      store' := by
  obtain ⟨_, -, h⟩ := bind_eq_ok_iff.mp h
  obtain ⟨_, -, h⟩ := bind_eq_ok_iff.mp h
  obtain ⟨_, hcurrent, h⟩ := bind_eq_ok_iff.mp h
  obtain ⟨hget, -⟩ := requireRepository_eq_ok_iff.mp hcurrent
  split at h
  · rename_i hkind _
    split at h
    · cases h
    · cases h
      exact .inr (.inr ⟨_, .recoveryBegun hget hkind, rfl⟩)
  · cases h

theorem completeRecovery_moves {completedAt : Text} {outcome : RemoteRecoveryResult}
    {failure : Option NativeRemoteFailure}
    (h : store.completeRecovery dateParse id epoch operationId completedAt outcome
      failure = .ok (result, store')) :
    Moves dateParse store
      (.completeRecovery id epoch operationId completedAt outcome failure) store' := by
  obtain ⟨_, -, h⟩ := bind_eq_ok_iff.mp h
  obtain ⟨_, -, h⟩ := bind_eq_ok_iff.mp h
  split at h
  · cases h
    exact .inl rfl
  · rename_i hcurrent
    have hget := getState_of_currentRepository hcurrent
    split at h
    · rename_i hkind hrecovery
      split at h
      · cases h
        exact .inl rfl
      · rename_i hsame
        obtain rfl := not_ne_iff.mp hsame
        -- the recovery in progress: its result decides what is written
        cases outcome <;> cases h <;>
          refine .inr (.inr ⟨_, .recoveryCompleted hget hkind hrecovery ?_ ?_, rfl⟩)
        case safe.refl.refine_2 => exact .inl ⟨rfl, rfl⟩
        case indeterminate.refl.refine_2 => exact .inr ⟨rfl, rfl⟩
        case blocked.refl.refine_2 => exact .inr ⟨rfl, rfl⟩
        all_goals rfl
    · cases h
      exact .inl rfl

theorem applyDaemonState_moves {receivedAt : Text} {daemon : DaemonRemoteConnectionState}
    (h : store.applyDaemonState dateParse id epoch daemon receivedAt =
      .ok (result, store')) :
    Moves dateParse store (.applyDaemonState id epoch daemon receivedAt) store' := by
  obtain ⟨_, hvalid, h⟩ := bind_eq_ok_iff.mp h
  split at h
  · cases h
    exact .inl rfl
  · rename_i hcurrent
    split at h
    · cases h
      exact .inl rfl
    · rename_i hstate
      cases h
      exact .inr (.inr ⟨_, .announced hvalid hcurrent hstate, rfl⟩)

/-- **What a call can do**: nothing, forget its repository, or write one state it has checked. -/
theorem apply_moves (call : RemoteConnectionCall) :
    Moves dateParse store call (store.apply dateParse call) := by
  -- a call that throws leaves the store
  have hafter : ∀ {α : Type}
      {result : Except RemoteConnectionStateStoreError (α × RemoteConnectionStateStore)},
      (∀ a store', result = .ok (a, store') → Moves dateParse store call store') →
      Moves dateParse store call (store.after result) := by
    intro α result hok
    obtain hsame | ⟨a, store', hresult, hsame⟩ := after_cases store result
    · exact .inl hsame
    · rw [hsame]
      exact hok a store' hresult
  cases call with
  | registerRepository id epoch =>
    show Moves dateParse store _ (match store.registerRepository id epoch with
      | .ok store' => store'
      | .error _ => store)
    cases h : store.registerRepository id epoch with
    | error e => exact .inl rfl
    | ok store' => exact registerRepository_moves h
  | unregisterRepository id => exact .inr (.inl ⟨id, rfl, rfl⟩)
  | rebindRepository => exact hafter fun _ _ => rebindRepository_moves
  | beginCheck => exact hafter fun _ _ => beginCheck_moves
  | completeOnline => exact hafter fun _ _ => completeOnline_moves
  | completeFailure => exact hafter fun _ _ => completeFailure_moves
  | beginRecovery => exact hafter fun _ _ => beginRecovery_moves
  | completeRecovery => exact hafter fun _ _ => completeRecovery_moves
  | applyDaemonState => exact hafter fun _ _ => applyDaemonState_moves

end Cases

/-! ## Discharging an obligation -/

/-- A recovery of the repository is due. -/
def Due (store : RemoteConnectionStateStore) (id : Text) : Prop :=
  ∃ state, store.getState id = some state ∧ state.recovery.isDue = true

instance (store : RemoteConnectionStateStore) (id : Text) :
    Decidable (store.Due id) :=
  decidable_of_iff ((store.getState id).any fun state => state.recovery.isDue)
    (Option.any_eq_true _ _)

/-- The call ends the obligation of a repository. -/
def Discharges (dateParse : Text → Option Int) (store : RemoteConnectionStateStore)
    (call : RemoteConnectionCall) (id : Text) : Prop :=
  store.Due id ∧ ¬ (store.apply dateParse call).Due id

end RemoteConnectionStateStore

/-- The daemon has settled the connection: nothing runs and no recovery is due. -/
def DaemonRemoteConnectionState.isSettled : DaemonRemoteConnectionState → Bool
  | .checking .. => false
  | .indeterminate _ _ recovery _ => decide (recovery = .notRequired)
  | .unchecked | .online .. | .attention _ | .unreachable _ => true

namespace RemoteConnectionStateStore

/-- The ways an obligation is meant to end: the recovery in progress reports `safe`, the daemon
settles the connection, or the repository is closed. -/
def DischargedByRecovery (store : RemoteConnectionStateStore) (id : Text) :
    RemoteConnectionCall → Prop
  | .completeRecovery other _ operationId _ .safe _ =>
    other = id ∧ ∃ state origin startedAt deadlineAt,
      store.getState id = some state ∧
        state.recovery = .checking operationId origin startedAt deadlineAt
  | .applyDaemonState other _ daemon _ => other = id ∧ daemon.isSettled = true
  | .unregisterRepository other => other = id
  | _ => False

/-- The call does not rebuild the record of a repository whose recovery is due while the kind is no
longer `indeterminate`. -/
def SparesRecovery (dateParse : Text → Option Int) (store : RemoteConnectionStateStore) :
    RemoteConnectionCall → Prop
  | .rebindRepository id epoch =>
    validateRepository id epoch = .ok () →
      ∀ current, store.getState id = some current → current.epoch ≠ epoch →
        current.recovery.isDue = true → ∃ reason, current.kind = .indeterminate reason
  | .completeOnline id epoch operationId _ checkedAt _ =>
    validateOperation dateParse id epoch operationId checkedAt = .ok () →
      ∀ current, store.currentRepository id epoch = some current →
        current.recovery.isDue = true → isCurrentCheck current operationId = false
  | .completeFailure id epoch operationId failedAt failure required =>
    validateOperation dateParse id epoch operationId failedAt = .ok () →
      validateNativeRemoteFailure failure = .ok () → required = false →
        ∀ current, store.currentRepository id epoch = some current →
          current.recovery.isDue = true → isCurrentCheck current operationId = false
  | _ => True

section Discharge

variable {dateParse : Text → Option Int} {store : RemoteConnectionStateStore}

variable {state : RemoteConnectionState} {id : Text}

theorem due_update :
    (store.update state).Due id ↔
      if state.repositoryId = id then state.recovery.isDue = true
      else store.Due id := by
  unfold Due
  rw [getState_update]
  by_cases h : state.repositoryId = id
  · simp only [if_pos h, Option.some.injEq, exists_eq_left']
  · simp only [if_neg h]

theorem rebound_isDue (current : RemoteConnectionState) (epoch : Nat) :
    (rebound current epoch).recovery.isDue = true ↔
      current.recovery.isDue = true ∧ ∃ reason, current.kind = .indeterminate reason := by
  cases hkind : current.kind <;> cases hrecovery : current.recovery <;>
    simp [rebound, hkind, hrecovery, RemoteRecoveryState.isDue]

variable {current : RemoteConnectionState}

/-- An announcement ends an obligation only if it settles the connection. -/
theorem isSettled_of_announced {receivedAt : Text} {daemon : DaemonRemoteConnectionState}
    (h : announced dateParse current receivedAt daemon = some state)
    (hbefore : current.recovery.isDue = true) (hafter : state.recovery.isDue = false) :
    daemon.isSettled = true := by
  cases daemon with
  | checking operationId startedAt =>
    -- the recovery of the current state is kept
    have hkept : state.recovery = current.recovery := by
      unfold announced at h
      dsimp only at h
      split at h
      · split at h
        · cases h
        · cases h
          rfl
      · cases h
        rfl
    rw [hkept, hbefore] at hafter
    cases hafter
  | indeterminate reason origin recovery cleanup =>
    cases recovery with
    | notRequired => rfl
    | blocked =>
      cases h
      cases hafter
    | pending =>
      cases h
      split at hafter <;> simp_all [RemoteRecoveryState.isDue]
  | unchecked | online | attention | unreachable => rfl

variable {call : RemoteConnectionCall}

/-- A state that is written over a due recovery without being due itself discharges it, or the call
did not spare the recovery. -/
theorem Writes.dischargedByRecovery (h : Writes dateParse store call state)
    (hspares : store.SparesRecovery dateParse call)
    (hget : store.getState state.repositoryId = some current)
    (hbefore : current.recovery.isDue = true) (hafter : state.recovery.isDue = false) :
    store.DischargedByRecovery state.repositoryId call := by
  -- the state that was read is the one the obligation stands in
  have hsame : ∀ {id : Text} {read : RemoteConnectionState},
      state.repositoryId = id → store.getState id = some read →
        read = current := by
    rintro id read rfl hread
    exact Option.some.inj (hread.symm.trans hget)
  cases h with
  | registered hnew hid _ =>
    rw [← hid, hget] at hnew
    cases hnew
  | rebound hread hvalid hepoch =>
    have hid := repositoryId_of_getState hread
    obtain rfl := hsame ((rebound_repositoryId _ _).trans hid) hread
    have hkind := hspares hvalid _ hread hepoch hbefore
    rw [(rebound_isDue _ _).mpr ⟨hbefore, hkind⟩] at hafter
    cases hafter
  | checkBegun hread hdue =>
    have hid := repositoryId_of_getState hread
    obtain rfl := hsame hid hread
    rw [hbefore] at hdue
    cases hdue
  | checkCompleted hvalid hcurrent hcheck hid _ =>
    obtain rfl := hsame hid (getState_of_currentRepository hcurrent)
    rw [hspares hvalid _ hcurrent hbefore] at hcheck
    cases hcheck
  | checkFailed hvalid hfailure hcurrent hcheck hid hdue _ =>
    obtain rfl := hsame hid (getState_of_currentRepository hcurrent)
    rw [hspares hvalid hfailure (hdue.symm.trans hafter) _ hcurrent hbefore] at hcheck
    cases hcheck
  | recoveryBegun => cases hafter
  | recoveryCompleted hread _ hrecovery hid hstate =>
    have hread' := repositoryId_of_getState hread
    obtain rfl := hsame (hid.trans hread') hread
    rcases hstate with ⟨rfl, -⟩ | ⟨-, hdue⟩
    · exact ⟨(hid.trans hread').symm, _, _, _, _, hget, hrecovery⟩
    · rw [hdue] at hafter
      cases hafter
  | announced hvalid hcurrent hstate =>
    have hread := getState_of_currentRepository hcurrent
    have hid := (announced_repositoryId hstate).trans (repositoryId_of_getState hread)
    obtain rfl := hsame hid hread
    exact ⟨hid.symm, isSettled_of_announced hstate hbefore hafter⟩

theorem dischargedByRecovery_of_sparesRecovery {call : RemoteConnectionCall} {id : Text}
    (hspares : store.SparesRecovery dateParse call)
    (h : store.Discharges dateParse call id) :
    store.DischargedByRecovery id call := by
  obtain ⟨⟨current, hget, hbefore⟩, hafter⟩ := h
  rcases apply_moves call with hsame | ⟨other, rfl, hforgot⟩ | ⟨state, hwrites, hwrote⟩
  · exact absurd ⟨current, hsame ▸ hget, hbefore⟩ hafter
  · show other = id
    by_contra hother
    refine hafter ⟨current, ?_, hbefore⟩
    rw [hforgot, getState_unregisterRepository, if_neg hother, hget]
  · rw [hwrote, due_update] at hafter
    by_cases hid : state.repositoryId = id
    · subst hid
      rw [if_pos rfl, Bool.not_eq_true] at hafter
      exact hwrites.dischargedByRecovery hspares hget hbefore hafter
    · rw [if_neg hid] at hafter
      exact absurd ⟨current, hget, hbefore⟩ hafter

/-- A call that writes a state without obligation over one that had it discharges it. -/
theorem discharges_of_update (hget : store.getState id = some current)
    (hbefore : current.recovery.isDue = true) (hid : state.repositoryId = id)
    (hafter : state.recovery.isDue = false)
    (happly : store.apply dateParse call = store.update state) :
    store.Discharges dateParse call id := by
  refine ⟨⟨current, hget, hbefore⟩, ?_⟩
  rw [happly, due_update, if_pos hid, hafter]
  exact Bool.false_ne_true

/-- The end of the running check writes a record without obligation. -/
theorem apply_completeOnline {operationId checkedAt : Text} {epoch : Nat} {transport : RemoteScheme}
    {incomingApplied : Bool}
    (hvalid : validateOperation dateParse id epoch operationId checkedAt = .ok ())
    (hcurrent : store.currentRepository id epoch = some current)
    (hcheck : isCurrentCheck current operationId = true) :
    ∃ state : RemoteConnectionState, state.repositoryId = id ∧
      state.recovery.isDue = false ∧
      store.apply dateParse (.completeOnline id epoch operationId transport checkedAt
        incomingApplied) = store.update state := by
  refine ⟨⟨id, epoch, .online transport checkedAt, ?_, .notRequired, none⟩, rfl, rfl, ?_⟩
  · exact if incomingApplied then ⟨.fresh, some checkedAt⟩ else staleIncoming current.incoming
  · simp only [apply, completeOnline, hvalid, hcurrent, hcheck, bind, Except.bind,
      Bool.true_eq_false, if_false, after, applying]

theorem apply_completeFailure {operationId failedAt : Text} {epoch : Nat}
    {failure : NativeRemoteFailure}
    (hvalid : validateOperation dateParse id epoch operationId failedAt = .ok ())
    (hfailure : validateNativeRemoteFailure failure = .ok ())
    (hcurrent : store.currentRepository id epoch = some current)
    (hcheck : isCurrentCheck current operationId = true) :
    ∃ state : RemoteConnectionState, state.repositoryId = id ∧
      state.recovery.isDue = false ∧
      store.apply dateParse (.completeFailure id epoch operationId failedAt failure
        false) = store.update state := by
  refine ⟨⟨id, epoch, failureKind failure, staleIncoming current.incoming, .notRequired,
    some ⟨failure.reason, failure.cleanupAppropriate, failedAt⟩⟩, rfl, rfl, ?_⟩
  simp only [apply, completeFailure, hvalid, hfailure, hcurrent, hcheck, bind, Except.bind,
    Bool.true_eq_false, Bool.false_eq_true, if_false, after, applying]

theorem sparesRecovery_of_dischargedByRecovery
    (h : ∀ id, store.Discharges dateParse call id →
      store.DischargedByRecovery id call) :
    store.SparesRecovery dateParse call := by
  cases call with
  | rebindRepository id epoch =>
    intro hvalid current hget hepoch hdue
    by_contra hkind
    have hid := (rebound_repositoryId current epoch).trans (repositoryId_of_getState hget)
    have hlost : (rebound current epoch).recovery.isDue = false := by
      rw [← Bool.not_eq_true]
      exact fun hkept => hkind ((rebound_isDue current epoch).mp hkept).2
    have hfields := validateRepository_eq_ok_iff.mp hvalid
    have hok := rebindRepository_eq_ok_iff.mpr ⟨hfields.1, hfields.2, current, hget, hepoch, rfl⟩
    have happly : store.apply dateParse (.rebindRepository id epoch) =
        store.update (rebound current epoch) := by
      simp only [apply, hok, after]
    exact h _ (discharges_of_update hget hdue hid hlost happly)
  | completeOnline id epoch operationId transport checkedAt incomingApplied =>
    intro hvalid current hcurrent hdue
    by_contra hcheck
    obtain ⟨state, hid, hlost, happly⟩ :=
      apply_completeOnline hvalid hcurrent (Bool.of_not_eq_false hcheck)
    have hget := getState_of_currentRepository hcurrent
    exact h _ (discharges_of_update hget hdue hid hlost happly)
  | completeFailure id epoch operationId failedAt failure required =>
    rintro hvalid hfailure rfl current hcurrent hdue
    by_contra hcheck
    obtain ⟨state, hid, hlost, happly⟩ :=
      apply_completeFailure hvalid hfailure hcurrent (Bool.of_not_eq_false hcheck)
    have hget := getState_of_currentRepository hcurrent
    exact h _ (discharges_of_update hget hdue hid hlost happly)
  | _ => trivial

/-- **Recovery obligations are discharged by recovery, call by call.**  Along a run every
obligation that ends is ended by a recovery that reports `safe`, by the daemon or by closing the
repository, exactly if no call rebuilds the record of a repository with an obligation while its kind
is no longer `indeterminate`: no rebind, and no end of a check that was announced meanwhile. -/
theorem obligations_discharged_by_recovery_iff (dateParse : Text → Option Int)
    (calls : List RemoteConnectionCall) :
    Runs.Along (step dateParse)
        (fun store call => ∀ id, store.Discharges dateParse call id →
          store.DischargedByRecovery id call) empty calls ↔
      Runs.Along (step dateParse) (fun store call => store.SparesRecovery dateParse call)
        empty calls := by
  constructor
  · intro h
    exact h.mono fun store call => sparesRecovery_of_dischargedByRecovery
  · intro h
    exact h.mono fun store call hspares _ => dischargedByRecovery_of_sparesRecovery hspares

end Discharge

/-! ## Acting on an obligation -/

/-- Every obligation stands in a state of kind `indeterminate`, from which a recovery can start. -/
def Actionable (store : RemoteConnectionStateStore) : Prop :=
  ∀ id state, store.getState id = some state → state.recovery.isDue = true →
    ∃ reason, state.kind = .indeterminate reason

/-- The call is no announcement of a check for a repository whose recovery is due. -/
def KeepsKind (dateParse : Text → Option Int) (store : RemoteConnectionStateStore) :
    RemoteConnectionCall → Prop
  | .applyDaemonState id epoch (.checking _ _) receivedAt =>
    validateTimestamp dateParse receivedAt "receivedAt" = .ok () →
      ∀ current, store.currentRepository id epoch = some current →
        current.recovery.isDue = false
  | _ => True

section Kinds

variable {dateParse : Text → Option Int} {store : RemoteConnectionStateStore}

theorem actionable_empty : empty.Actionable := by
  intro id _ hget
  cases hget

variable {state : RemoteConnectionState}

theorem Actionable.update (h : store.Actionable)
    (hstate : state.recovery.isDue = true → ∃ reason, state.kind = .indeterminate reason) :
    (store.update state).Actionable := by
  intro id found hget hdue
  rw [getState_update] at hget
  split at hget
  · cases hget
    exact hstate hdue
  · exact h id found hget hdue

theorem Actionable.unregisterRepository (h : store.Actionable) (id : Text) :
    (store.unregisterRepository id).Actionable := by
  intro other found hget hdue
  rw [getState_unregisterRepository] at hget
  split at hget
  · cases hget
  · exact h other found hget hdue

/-- An announcement leaves a due recovery only in a state of kind `indeterminate`, unless it is the
announcement of a check. -/
theorem kind_of_announced {current : RemoteConnectionState} {receivedAt : Text}
    {daemon : DaemonRemoteConnectionState}
    (h : announced dateParse current receivedAt daemon = some state)
    (hdue : state.recovery.isDue = true) :
    (∃ reason, state.kind = .indeterminate reason) ∨
      (∃ operationId startedAt, daemon = .checking operationId startedAt) ∧
        current.recovery.isDue = true := by
  cases daemon with
  | checking operationId startedAt =>
    refine .inr ⟨⟨_, _, rfl⟩, ?_⟩
    unfold announced at h
    dsimp only at h
    split at h
    · split at h
      · cases h
      · cases h
        exact hdue
    · cases h
      exact hdue
  | indeterminate reason origin recovery cleanup =>
    cases h
    exact .inl ⟨reason, rfl⟩
  | unchecked =>
    unfold announced at h
    dsimp only at h
    split at h <;> cases h
    cases hdue
  | online | attention | unreachable =>
    cases h
    cases hdue

/-- A state a call writes has its obligation where a recovery can start. -/
theorem Writes.kind {call : RemoteConnectionCall} (h : Writes dateParse store call state)
    (hkeeps : store.KeepsKind dateParse call) (hdue : state.recovery.isDue = true) :
    ∃ reason, state.kind = .indeterminate reason := by
  cases h with
  | registered _ _ hnone =>
    rw [hnone] at hdue
    cases hdue
  | @rebound _ _ current hget _ _ =>
    obtain ⟨hbefore, reason, hkind⟩ := (rebound_isDue _ _).mp hdue
    -- a due recovery of an indeterminate state is carried over with its kind
    cases hrecovery : current.recovery <;>
      simp_all [RemoteConnectionStateStore.rebound, RemoteRecoveryState.isDue]
  | checkBegun _ hnone =>
    rw [hnone] at hdue
    cases hdue
  | checkCompleted _ _ _ _ hnone =>
    rw [hnone] at hdue
    cases hdue
  | checkFailed _ _ _ _ _ hrequired hkind => exact hkind (hrequired.symm.trans hdue)
  | recoveryBegun _ hkind => exact ⟨_, hkind⟩
  | recoveryCompleted _ hkind _ _ hstate =>
    rcases hstate with ⟨-, hnone⟩ | ⟨hsame, -⟩
    · rw [hnone] at hdue
      cases hdue
    · exact ⟨_, hsame.trans hkind⟩
  | announced hvalid hcurrent hstate =>
    rcases kind_of_announced hstate hdue with hkind | ⟨⟨_, _, rfl⟩, hbefore⟩
    · exact hkind
    · rw [hkeeps hvalid _ hcurrent] at hbefore
      cases hbefore

/-- The announcement of a check for a repository with an obligation takes the kind away. -/
theorem apply_checking {id operationId startedAt receivedAt : Text} {epoch : Nat}
    {current : RemoteConnectionState} {reason : RemoteIndeterminateReason}
    (hvalid : validateTimestamp dateParse receivedAt "receivedAt" = .ok ())
    (hcurrent : store.currentRepository id epoch = some current)
    (hkind : current.kind = .indeterminate reason) :
    store.apply dateParse
        (.applyDaemonState id epoch (.checking operationId startedAt) receivedAt) =
      store.update { current with kind := .checking operationId startedAt } := by
  simp only [apply, applyDaemonState, hvalid, hcurrent, bind, Except.bind, announced, hkind, after,
    applying]

theorem Actionable.apply_iff (h : store.Actionable) (call : RemoteConnectionCall) :
    (store.apply dateParse call).Actionable ↔ store.KeepsKind dateParse call := by
  constructor
  · intro hafter
    unfold KeepsKind
    split
    · rename_i id _ operationId startedAt _
      intro hvalid current hcurrent
      rw [← Bool.not_eq_true]
      intro hdue
      have hget := getState_of_currentRepository hcurrent
      obtain ⟨_, hkind⟩ := h _ _ hget hdue
      rw [apply_checking hvalid hcurrent hkind] at hafter
      -- the record still carries the obligation, under the kind `checking`
      obtain ⟨_, hkind'⟩ := hafter current.repositoryId
        { current with kind := .checking operationId startedAt }
        (by rw [getState_update, if_pos rfl]) hdue
      cases hkind'
    · trivial
  · intro hkeeps
    rcases apply_moves call with hsame | ⟨other, rfl, hforgot⟩ | ⟨_, hwrites, hwrote⟩
    · exact hsame ▸ h
    · exact hforgot ▸ h.unregisterRepository other
    · rw [hwrote]
      exact h.update (hwrites.kind hkeeps)

/-- **An obligation can be acted on as long as no check is announced over it.**  Every state a run
reaches has its obligations in states of kind `indeterminate` exactly if the daemon announces no
check for a repository whose recovery is due. -/
theorem obligations_actionable_iff (dateParse : Text → Option Int)
    (calls : List RemoteConnectionCall) :
    Runs.Along (step dateParse) (fun store call => (store.apply dateParse call).Actionable)
        empty calls ↔
      Runs.Along (step dateParse) (fun store call => store.KeepsKind dateParse call)
        empty calls := by
  refine Runs.along_iff ?_ (fun store call h => h.apply_iff call) actionable_empty
  intro store call _ _ hafter hstep
  cases hstep
  exact hafter

end Kinds

end RemoteConnectionStateStore

namespace RecoveryObligationExample

open RemoteConnectionStateStore

/-- Every timestamp is the same moment. -/
def dateParse (_ : Text) : Option Int := some 0

def checkId : Text := "00000000-0000-4000-8000-000000000001"

def announcedId : Text := "00000000-0000-4000-8000-000000000002"

def recoveryId : Text := "00000000-0000-4000-8000-000000000003"

/-- A check was cut off after it had changed the working copy; then the daemon announces the next
check. -/
def overtaken : List RemoteConnectionCall :=
  [.registerRepository "r" 1, .beginCheck "r" 1 checkId "t0",
    .completeFailure "r" 1 checkId "t1" ⟨.cancelled, .operationCancelled, true⟩ true,
    .applyDaemonState "r" 1 (.checking announcedId "t2") "t2"]

/-- **Three calls let the obligation lapse**: a rebind, and both ends of the announced check. -/
theorem overtaken_obligation_lapses :
    let store := overtaken.foldl (apply dateParse) empty
    let calls : List RemoteConnectionCall :=
      [.rebindRepository "r" 2, .completeOnline "r" 1 announcedId .https "t3" true,
        .completeFailure "r" 1 announcedId "t3" ⟨.unreachable, .networkDns, false⟩ false]
    (∀ call ∈ calls, store.Discharges dateParse call "r") ∧
      ∀ call ∈ calls, ¬ store.DischargedByRecovery "r" call := by
  refine ⟨?_, ?_⟩
  · unfold Discharges
    decide +kernel
  · intro call hcall
    simp only [List.mem_cons, List.not_mem_nil, or_false] at hcall
    rcases hcall with rfl | rfl | rfl <;> exact id

/-- **The recovery cannot start** while it is due: the announced check has taken the kind. -/
theorem overtaken_recovery_cannot_start :
    let store := overtaken.foldl (apply dateParse) empty
    store.Due "r" ∧ ¬ store.Actionable ∧
      (store.beginRecovery dateParse "r" 1 recoveryId "t3" "t4").toOption = none := by
  have hstate : (overtaken.foldl (apply dateParse) empty).getState "r" = some
      ⟨"r", 1, .checking announcedId "t2", ⟨.stale, none⟩, .required checkId "t1",
        some ⟨.operationCancelled, true, "t1"⟩⟩ := by
    decide +kernel
  refine ⟨⟨_, hstate, rfl⟩, ?_, by decide +kernel⟩
  intro hactionable
  obtain ⟨_, hkind⟩ := hactionable _ _ hstate rfl
  cases hkind

end RecoveryObligationExample

end SubversionR

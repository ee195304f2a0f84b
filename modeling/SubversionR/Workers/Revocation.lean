import SubversionR.Workers.Registry
import SubversionR.Lib.Run

/-!
# Revocation — when `wait_for_zero` returns, no worker is left

A worker process is created suspended while its call holds a launch reservation, and the reservation
is dropped only after the job is registered or the child is dead.  So a living process is always
behind the launch counter or behind an entry of the job map, and `wait_for_zero` looks at both under
one lock.

* `CallStep` — what one action of a call may change;
* `Accounted` — every living process is reserved or registered, and the counter counts the calls
  that hold a reservation;
* `accounted_step` — no action of any thread opens a gap;
* `Quiescent` — no process, no reservation, and the gate is closed: only `allow_launches` ends it;
* `revocation_leaves_no_worker`.
-/

namespace SubversionR

open Option (ite_none_left_eq_some ite_none_right_eq_some)

open OrderedMaps OrderedMap WorkerCall Runs

namespace ActiveState

variable {state : ActiveState}

theorem reserveLaunch_eq_ok {state' : ActiveState} {disconnected parentDisconnected : Bool}
    (h : state.reserveLaunch disconnected parentDisconnected = .ok state') :
    state.launchAllowed = true ∧
      state' = { state with launchesInFlight := state.launchesInFlight + 1 } := by
  unfold reserveLaunch checkedSucc at h
  split at h
  · cases h
  rename_i hopen
  simp only [Bool.or_eq_true, Bool.not_eq_true', not_or, Bool.not_eq_false] at hopen
  split at h
  · rename_i hsucc
    obtain ⟨-, ⟨⟩⟩ := ite_none_right_eq_some.mp hsucc
    cases h
    exact ⟨hopen.1.1, rfl⟩
  · cases h

theorem register_eq_ok {state' : ActiveState} {job id : Nat}
    {disconnected parentDisconnected : Bool}
    (h : state.register job disconnected parentDisconnected = .ok (id, state')) :
    state.launchAllowed = true ∧ id = state.nextId + 1 ∧
      state' = { state with nextId := id, jobs := state.jobs.set id job } := by
  unfold register checkedSucc at h
  split at h
  · cases h
  rename_i hopen
  simp only [Bool.or_eq_true, Bool.not_eq_true', not_or, Bool.not_eq_false] at hopen
  split at h
  · rename_i hsucc
    obtain ⟨-, ⟨⟩⟩ := ite_none_right_eq_some.mp hsucc
    cases h
    exact ⟨hopen.1.1, rfl, rfl⟩
  · cases h

/-- Removing the completed jobs removes those and nothing else. -/
theorem removeCompleted_spec (state : ActiveState) (completed : List Nat) :
    (state.removeCompleted completed).launchesInFlight = state.launchesInFlight ∧
      (state.removeCompleted completed).nextId = state.nextId ∧
      (state.removeCompleted completed).launchAllowed = state.launchAllowed ∧
      ∀ id, (state.removeCompleted completed).jobs.get? id =
        if id ∈ completed then none else state.jobs.get? id := by
  induction completed generalizing state with
  | nil => exact ⟨rfl, rfl, rfl, fun id => by simp [removeCompleted]⟩
  | cons first completed ih =>
    obtain ⟨hlaunches, hnext, hallowed, hjobs⟩ := ih (state.dropRegistration first)
    refine ⟨hlaunches, hnext, hallowed, fun id => (hjobs id).trans ?_⟩
    show (if id ∈ completed then none else (state.jobs.delete first).get? id) = _
    rw [get?_delete]
    by_cases hfirst : id = first
    · simp [hfirst]
    · simp [hfirst]

theorem isZero_iff :
    state.isZero = true ↔ (∀ id, state.jobs.get? id = none) ∧ state.launchesInFlight = 0 := by
  unfold isZero
  rw [Bool.and_eq_true, List.isEmpty_iff, decide_eq_true_eq]
  refine and_congr_left fun _ => ⟨fun h id => ?_, fun h => ?_⟩
  · rw [get?_eq_none_iff, keys, h]
    simp
  · refine List.eq_nil_iff_forall_not_mem.mpr fun item hitem => ?_
    have hsome := get?_eq_some_iff.mpr (show (item.1, item.2) ∈ state.jobs.items from hitem)
    rw [h] at hsome
    cases hsome

end ActiveState

/-! ## What a call can do -/

/-- **What one action of a call changes** in the registry and in the call. -/
inductive CallStep (job : Nat) (state state' : ActiveState) (call call' : WorkerCall)
    (action : WorkerAction) : Prop
  /-- The registry stays as it is; a process is created only under a reservation or by a process. -/
  | unlocked (state_eq : state' = state)
      (holds : call'.phase.holdsReservation = call.phase.holdsReservation)
      (jobId : call'.phase.jobId = call.phase.jobId)
      (created : 0 < call'.processes →
        0 < call.processes ∨ call.phase.holdsReservation = true ∧ call.phase.jobId = none)
      (spent : call'.phase.isSpent = true → call'.processes = 0)
  | reserves (locks : action.locks = true) (allowed : state.launchAllowed = true)
      (state_eq : state' = { state with launchesInFlight := state.launchesInFlight + 1 })
      (before : call.phase = .entering) (call_eq : call' = { call with phase := .reserved })
  | registers (locks : action.locks = true) (allowed : state.launchAllowed = true)
      (state_eq : state' = { state with
        nextId := state.nextId + 1
        jobs := state.jobs.set (state.nextId + 1) job })
      (before : call.phase = .contained)
      (call_eq : call' = { call with phase := .registered (state.nextId + 1) })
  | dropsReservation (locks : action.locks = true) (state_eq : state' = state.dropReservation)
      (before : call.phase.holdsReservation = true)
      (after : call'.phase.holdsReservation = false) (jobId : call'.phase.jobId = call.phase.jobId)
      (processes : call'.processes = call.processes)
      (kept : call.phase.isSpent = true ∨ call.phase.jobId.isSome = true)
      (spent : call'.phase.isSpent = false)
  | dropsRegistration (id : Nat) (locks : action.locks = true)
      (state_eq : state' = state.dropRegistration id) (before : call.phase = .finishing id)
      (call_eq : call' = { call with phase := .returned })

theorem WorkerCall.step_cases {job : Nat} {state state' : ActiveState} {call call' : WorkerCall}
    {action : WorkerAction} (h : call.step job state action = some (state', call'))
    (hspent : call.phase.isSpent = true → call.processes = 0) :
    CallStep job state state' call call' action := by
  obtain ⟨phase, processes, _⟩ := call
  cases action with
  -- only a reservation and a registration ask whether launches are allowed
  | reserve disconnected parentDisconnected =>
    obtain ⟨hphase, h⟩ := ite_none_right_eq_some.mp h
    subst hphase
    split at h
    · cases h
      exact .unlocked rfl rfl rfl .inl nofun
    · rename_i hreserve
      obtain ⟨hallowed, rfl⟩ := ActiveState.reserveLaunch_eq_ok hreserve
      cases h
      exact .reserves rfl hallowed rfl rfl rfl
  | register disconnected parentDisconnected =>
    obtain ⟨hphase, h⟩ := ite_none_right_eq_some.mp h
    subst hphase
    split at h
    · cases h
      exact .unlocked rfl rfl rfl .inl nofun
    · rename_i hregister
      obtain ⟨hallowed, rfl, rfl⟩ := ActiveState.register_eq_ok hregister
      cases h
      exact .registers rfl hallowed rfl rfl rfl
  | dropReservation =>
    cases phase <;> cases h
    · exact .dropsReservation rfl rfl rfl rfl rfl rfl (.inl rfl) rfl
    · exact .dropsReservation rfl rfl rfl rfl rfl rfl (.inr rfl) rfl
  | dropRegistration =>
    cases phase <;> cases h
    exact .dropsRegistration _ rfl rfl rfl rfl
  | spawnSuspended =>
    obtain ⟨hphase, h⟩ := ite_none_right_eq_some.mp h
    subst hphase
    cases h
    exact .unlocked rfl rfl rfl (fun _ => .inr ⟨rfl, rfl⟩) nofun
  | assign =>
    obtain ⟨hphase, h⟩ := ite_none_right_eq_some.mp h
    subst hphase
    cases h
    exact .unlocked rfl rfl rfl .inl nofun
  | dropChild =>
    cases phase <;> cases h <;>
      exact .unlocked rfl rfl rfl nofun fun _ => rfl
  | resume previous =>
    cases phase <;> cases h
    by_cases hone : previous = 1
    · rw [if_pos hone]
      exact .unlocked rfl rfl rfl .inl nofun
    · rw [if_neg hone]
      exact .unlocked rfl rfl rfl .inl nofun
  | terminate =>
    cases phase <;> cases h <;>
      exact .unlocked rfl rfl rfl nofun fun _ => rfl
  -- the count was read as zero, so the call may be spent
  | observeZero =>
    cases phase <;> simp only [step] at h <;> try cases h
    all_goals
      obtain ⟨hzero, ⟨⟩⟩ := ite_none_right_eq_some.mp h
      exact .unlocked rfl rfl rfl .inl fun _ => hzero
  | retainBlocked =>
    cases phase <;> cases h
    exact .unlocked rfl rfl rfl .inl nofun
  | exit =>
    simp only [step] at h
    split at h
    · rename_i hsome
      cases h
      refine .unlocked rfl rfl rfl (fun _ => .inl hsome) fun hphase => ?_
      -- a spent call has no process left that could exit
      have hnone : processes = 0 := hspent hphase
      omega
    · cases h
  | fork =>
    simp only [step] at h
    split at h
    · rename_i hsome
      cases h
      refine .unlocked rfl rfl rfl (fun _ => .inl hsome.1) fun hphase => ?_
      have hnone : processes = 0 := hspent hphase
      omega
    · cases h

namespace WorkerSystem

/-! ## No gap between the counter and the map -/

/-- `launches` is the number of calls that hold a reservation. -/
def Counts (calls : Nat → WorkerCall) (launches : Nat) : Prop :=
  ∃ holders : Finset Nat,
    (∀ thread, thread ∈ holders ↔ (calls thread).phase.holdsReservation = true) ∧
      launches = holders.card

/-- Every living process stands behind the launch counter or in the job map. -/
structure Accounted (system : WorkerSystem) : Prop where
  counted : Counts system.calls system.active.launchesInFlight
  covered : ∀ {thread}, 0 < (system.calls thread).processes →
    (system.calls thread).phase.holdsReservation = true ∨
      (system.calls thread).phase.jobId.isSome = true
  listed : ∀ {thread id}, 0 < (system.calls thread).processes →
    (system.calls thread).phase.jobId = some id → system.active.jobs.get? id = some thread
  spent : ∀ {thread}, (system.calls thread).phase.isSpent = true →
    (system.calls thread).processes = 0
  /-- A job in the map is that of the call that registered it. -/
  owned : ∀ {id thread}, system.active.jobs.get? id = some thread →
    (system.calls thread).phase.jobId = some id
  fresh : ∀ {id thread}, (system.calls thread).phase.jobId = some id → id ≤ system.active.nextId
  apart : ∀ {id thread thread'}, (system.calls thread).phase.jobId = some id →
    (system.calls thread').phase.jobId = some id → thread = thread'
  /-- The scan looks at the jobs of the map, and those it has set aside have no process. -/
  scanned : ∀ {rest completed}, system.revoker = .scanning rest completed →
    (∀ item ∈ rest, system.active.jobs.get? item.1 = some item.2) ∧
      ∀ id ∈ completed, ∀ thread, system.active.jobs.get? id = some thread →
        (system.calls thread).processes = 0

theorem accounted_start : start.Accounted where
  counted := ⟨∅, fun thread => by simp [start, new, WorkerPhase.holdsReservation], rfl⟩
  covered h := by cases h
  listed h := by cases h
  spent h := by cases h
  owned h := by cases h
  fresh h := by cases h
  apart h := by cases h
  scanned h := by cases h

section

variable {system : WorkerSystem} {thread : Nat} {call : WorkerCall} {active : ActiveState}

@[simp]
theorem calls_setCall (system : WorkerSystem) (thread : Nat) (call : WorkerCall) :
    (system.setCall thread call).calls = Function.update system.calls thread call := rfl

variable {calls : Nat → WorkerCall} {launches : Nat}

theorem counts_same (h : Counts calls launches)
    (hsame : call.phase.holdsReservation = (calls thread).phase.holdsReservation) :
    Counts (Function.update calls thread call) launches := by
  obtain ⟨holders, hmem, hcard⟩ := h
  refine ⟨holders, fun other => ?_, hcard⟩
  rw [Function.update_apply]
  split
  · rename_i heq
    rw [heq, hmem, hsame]
  · exact hmem other

theorem counts_add (h : Counts calls launches) (hnew : call.phase.holdsReservation = true)
    (hold : (calls thread).phase.holdsReservation = false) :
    Counts (Function.update calls thread call) (launches + 1) := by
  obtain ⟨holders, hmem, hcard⟩ := h
  have hout : thread ∉ holders := by
    rw [hmem, hold]
    simp
  refine ⟨insert thread holders, fun other => ?_, ?_⟩
  · rw [Finset.mem_insert, Function.update_apply]
    split
    · rename_i heq
      simp [heq, hnew]
    · rename_i hne
      simp [hne, hmem]
  · rw [Finset.card_insert_of_notMem hout, hcard]

theorem counts_remove (h : Counts calls launches) (hnew : call.phase.holdsReservation = false)
    (hold : (calls thread).phase.holdsReservation = true) :
    Counts (Function.update calls thread call) (launches - 1) := by
  obtain ⟨holders, hmem, hcard⟩ := h
  refine ⟨holders.erase thread, fun other => ?_, ?_⟩
  · rw [Finset.mem_erase, Function.update_apply]
    split
    · rename_i heq
      simp [heq, hnew]
    · rename_i hne
      simp [hne, hmem]
  · rw [Finset.card_erase_of_mem ((hmem thread).mpr hold), hcard]

section

variable (h : system.Accounted)

include h

/-- A reservation that is held is counted, so that the counter never goes below zero. -/
theorem Accounted.positive (hholds : (system.calls thread).phase.holdsReservation = true) :
    0 < system.active.launchesInFlight := by
  obtain ⟨_, hmem, hcard⟩ := h.counted
  rw [hcard]
  exact Finset.card_pos.mpr ⟨thread, (hmem thread).mpr hholds⟩

/-- A call is replaced, and with it what it has in the job map. -/
theorem Accounted.replace
    (hcounted : Counts (Function.update system.calls thread call) active.launchesInFlight)
    (hcovered : 0 < call.processes → call.phase.holdsReservation = true ∨
      call.phase.jobId.isSome = true)
    (hlisted : ∀ {id}, 0 < call.processes → call.phase.jobId = some id →
      active.jobs.get? id = some thread) (hspent : call.phase.isSpent = true → call.processes = 0)
    (hothers : ∀ {id other}, other ≠ thread →
      (active.jobs.get? id = some other ↔ system.active.jobs.get? id = some other))
    (howned : ∀ {id}, active.jobs.get? id = some thread → call.phase.jobId = some id)
    (hfresh : ∀ {id}, call.phase.jobId = some id →
      id ≤ active.nextId ∧ ∀ other, other ≠ thread → (system.calls other).phase.jobId ≠ some id)
    (hnext : system.active.nextId ≤ active.nextId)
    (hscanned : ∀ {rest completed}, system.revoker = .scanning rest completed →
      (∀ item ∈ rest, active.jobs.get? item.1 = some item.2) ∧
        ∀ id ∈ completed, ∀ other, active.jobs.get? id = some other →
          (Function.update system.calls thread call other).processes = 0) :
    Accounted { system.setCall thread call with active } := by
  have hself : Function.update system.calls thread call thread = call := Function.update_self ..
  have hother : ∀ {other}, other ≠ thread →
      Function.update system.calls thread call other = system.calls other := fun hne =>
    Function.update_of_ne hne ..
  -- clause by clause: `thread` from the hypotheses, every other thread from `h`
  refine ⟨hcounted, ?_, ?_, ?_, ?_, ?_, ?_, hscanned⟩ <;> simp only [calls_setCall]
  · intro other hlive
    by_cases heq : other = thread
    · rw [heq, hself] at hlive ⊢
      exact hcovered hlive
    · rw [hother heq] at hlive ⊢
      exact h.covered hlive
  · intro other id hlive hid
    by_cases heq : other = thread
    · rw [heq, hself] at hlive hid
      rw [heq]
      exact hlisted hlive hid
    · rw [hother heq] at hlive hid
      exact (hothers heq).mpr (h.listed hlive hid)
  · intro other hphase
    by_cases heq : other = thread
    · rw [heq, hself] at hphase ⊢
      exact hspent hphase
    · rw [hother heq] at hphase ⊢
      exact h.spent hphase
  · intro id other hjob
    by_cases heq : other = thread
    · rw [heq] at hjob ⊢
      rw [hself]
      exact howned hjob
    · rw [hother heq]
      exact h.owned ((hothers heq).mp hjob)
  · intro id other hid
    by_cases heq : other = thread
    · rw [heq, hself] at hid
      exact (hfresh hid).1
    · rw [hother heq] at hid
      exact (h.fresh hid).trans hnext
  · intro id other other' hid hid'
    by_cases heq : other = thread
    -- a fresh id is apart from the ids of all other threads, on either side
    · by_cases heq' : other' = thread
      · rw [heq, heq']
      · rw [heq, hself] at hid
        rw [hother heq'] at hid'
        exact absurd hid' ((hfresh hid).2 other' heq')
    · by_cases heq' : other' = thread
      · rw [heq', hself] at hid'
        rw [hother heq] at hid
        exact absurd hid ((hfresh hid').2 other heq)
      · rw [hother heq] at hid
        rw [hother heq'] at hid'
        exact h.apart hid hid'

/-- A call changes its phase and its processes, but neither its reservation nor its job. -/
theorem Accounted.unlocked
    (hholds : call.phase.holdsReservation = (system.calls thread).phase.holdsReservation)
    (hjobId : call.phase.jobId = (system.calls thread).phase.jobId)
    (hcreated : 0 < call.processes → 0 < (system.calls thread).processes ∨
      (system.calls thread).phase.holdsReservation = true ∧
        (system.calls thread).phase.jobId = none)
    (hspent : call.phase.isSpent = true → call.processes = 0) :
    (system.setCall thread call).Accounted := by
  -- a call with a job has no reservation without one, so it had its processes before
  have hlived : ∀ {id}, 0 < call.processes → (system.calls thread).phase.jobId = some id →
      0 < (system.calls thread).processes := by
    intro id hlive hid
    rcases hcreated hlive with hlive | ⟨-, hnone⟩
    · exact hlive
    · rw [hnone] at hid
      cases hid
  refine h.replace (counts_same h.counted hholds) ?_ ?_ hspent (fun _ => Iff.rfl) ?_ ?_ le_rfl ?_
  · intro hlive
    rw [hholds, hjobId]
    exact (hcreated hlive).elim h.covered fun hreserved => .inl hreserved.1
  · intro id hlive hid
    rw [hjobId] at hid
    exact h.listed (hlived hlive hid) hid
  · intro id hjob
    rw [hjobId]
    exact h.owned hjob
  · intro id hid
    rw [hjobId] at hid
    exact ⟨h.fresh hid, fun other hne hid' => hne (h.apart hid' hid)⟩
  · intro _ _ hscan
    obtain ⟨hrest, hcompleted⟩ := h.scanned hscan
    refine ⟨hrest, fun id hid other hjob => ?_⟩
    have hdead := hcompleted id hid other hjob
    rw [Function.update_apply]
    split
    · rename_i heq
      rw [heq] at hdead hjob
      by_contra hlive
      have hbefore := hlived (Nat.pos_of_ne_zero hlive) (h.owned hjob)
      omega
    · exact hdead

/-- One action of a call. -/
theorem Accounted.act {action : WorkerAction} (hlock : ¬ (action.locks && system.isLocked) = true)
    (hstep : (system.calls thread).step thread system.active action = some (active, call)) :
    Accounted { system.setCall thread call with active } := by
  -- no scan is going on under the lock of a call
  have hscan : ∀ {rest completed} {P : Prop}, action.locks = true →
      system.revoker = .scanning rest completed → P := by
    intro rest completed P hlocks hscanning
    refine absurd ?_ hlock
    rw [hlocks, Bool.true_and, isLocked, hscanning]
  cases step_cases hstep h.spent with
  | unlocked state_eq holds jobId created spent =>
    rw [state_eq]
    exact h.unlocked holds jobId created spent
  | reserves locks allowed state_eq before call_eq =>
    subst state_eq call_eq
    refine h.replace ?_ (fun _ => .inl rfl) (fun _ hid => by cases hid) (fun hs => by cases hs)
      (fun _ => Iff.rfl) (fun hjob => ?_) (fun hid => by cases hid) le_rfl (hscan locks)
    · exact counts_add h.counted rfl (by rw [before]; rfl)
    · -- an entering call has no job
      have hid := h.owned hjob
      rw [before] at hid
      cases hid
  | registers locks allowed state_eq before call_eq =>
    subst state_eq call_eq
    -- ids are counted up, so no call holds the next one
    have hnew : ∀ other, (system.calls other).phase.jobId ≠ some (system.active.nextId + 1) := by
      intro other hid
      have := h.fresh hid
      omega
    have hinserted : ∀ id, (system.active.jobs.set (system.active.nextId + 1) thread).get? id =
        if id = system.active.nextId + 1 then some thread else system.active.jobs.get? id :=
      fun id => get?_set _ _ _ _
    refine h.replace ?_ (fun _ => .inl rfl) ?_ (fun hs => by cases hs) ?_ ?_ ?_ (Nat.le_succ _)
      (hscan locks)
    · exact counts_same h.counted (by rw [before]; rfl)
    · intro id _ hid
      cases hid
      exact (hinserted _).trans (if_pos rfl)
    · intro id other hne
      refine (iff_of_eq (congrArg (· = some other) (hinserted id))).trans ?_
      split
      · rename_i heq
        rw [heq]
        constructor
        · intro hsome
          exact absurd (Option.some.inj hsome).symm hne
        · intro hjob
          exact absurd (h.owned hjob) (hnew other)
      · rfl
    · intro id hjob
      have hjob := (hinserted id).symm.trans hjob
      split at hjob
      · rename_i heq
        rw [heq]
        rfl
      · have hid := h.owned hjob
        rw [before] at hid
        cases hid
    · intro id hid
      cases hid
      exact ⟨le_rfl, fun other _ => hnew other⟩
  | dropsReservation locks state_eq before after jobId processes kept spent =>
    subst state_eq
    refine h.replace ?_ ?_ ?_ ?_ (fun _ => Iff.rfl) ?_ ?_ le_rfl (hscan locks)
    · exact counts_remove h.counted after before
    · intro hlive
      -- a reservation is dropped by a call that is spent or has its job
      rcases kept with hspent | hsome
      · have := h.spent hspent
        omega
      · exact .inr (by rw [jobId, hsome])
    · intro id hlive hid
      rw [processes] at hlive
      rw [jobId] at hid
      exact h.listed hlive hid
    · intro hphase
      rw [spent] at hphase
      cases hphase
    · intro id hjob
      rw [jobId]
      exact h.owned hjob
    · intro id hid
      rw [jobId] at hid
      exact ⟨h.fresh hid, fun other hne hid' => hne (h.apart hid' hid)⟩
  | dropsRegistration id locks state_eq before call_eq =>
    subst state_eq call_eq
    have hid : (system.calls thread).phase.jobId = some id := by
      rw [before]
      rfl
    -- a finishing call is spent: its job has no process left
    have hdead : (system.calls thread).processes = 0 := h.spent (by rw [before]; rfl)
    have hdeleted : ∀ id', (system.active.dropRegistration id).jobs.get? id' =
        if id' = id then none else system.active.jobs.get? id' := fun id' => get?_delete _ _ _
    refine h.replace ?_ ?_ (fun _ hid => by cases hid) (fun hs => by cases hs) ?_ ?_
      (fun hid => by cases hid) le_rfl (hscan locks)
    · exact counts_same h.counted (by rw [before]; rfl)
    · intro hlive
      have : 0 < (system.calls thread).processes := hlive
      omega
    · intro id' other hne
      rw [hdeleted]
      split
      · -- the id was that of the call
        rename_i heq
        rw [heq]
        constructor
        · intro hnone
          cases hnone
        · intro hjob
          exact absurd (h.apart (h.owned hjob) hid) hne
      · rfl
    · intro id' hjob
      rw [hdeleted] at hjob
      obtain ⟨hne, hjob⟩ := ite_none_left_eq_some.mp hjob
      have hsame := (h.owned hjob).symm.trans hid
      exact absurd (Option.some.inj hsame) hne

/-- A change that touches neither the calls nor what the registry holds. -/
theorem Accounted.frame {system' : WorkerSystem} (hcalls : system'.calls = system.calls)
    (hlaunches : system'.active.launchesInFlight = system.active.launchesInFlight)
    (hnext : system'.active.nextId = system.active.nextId)
    (hjobs : system'.active.jobs = system.active.jobs)
    (hscanned : ∀ {rest completed}, system'.revoker = .scanning rest completed →
      (∀ item ∈ rest, system.active.jobs.get? item.1 = some item.2) ∧
        ∀ id ∈ completed, ∀ thread, system.active.jobs.get? id = some thread →
          (system.calls thread).processes = 0) : system'.Accounted := by
  refine ⟨?_, ?_, ?_, ?_, ?_, ?_, ?_, ?_⟩
  · rw [hcalls, hlaunches]
    exact h.counted
  · rw [hcalls]
    exact h.covered
  · rw [hcalls, hjobs]
    exact h.listed
  · rw [hcalls]
    exact h.spent
  · rw [hcalls, hjobs]
    exact h.owned
  · rw [hcalls, hnext]
    exact h.fresh
  · rw [hcalls]
    exact h.apart
  · rw [hcalls, hjobs]
    exact hscanned

/-- The end of a scan: the jobs set aside leave the map, and they have no process. -/
theorem Accounted.unlock {completed : List Nat} (hscan : system.revoker = .scanning [] completed)
    (revoker : Revoker) (hrevoker : ∀ rest completed, revoker ≠ .scanning rest completed) :
    Accounted { system with active := system.active.removeCompleted completed, revoker } := by
  obtain ⟨hlaunches, hnext, -, hjobs⟩ := system.active.removeCompleted_spec completed
  have hdead := (h.scanned hscan).2
  refine ⟨?_, h.covered, ?_, h.spent, ?_, ?_, h.apart, ?_⟩
  · show Counts _ (system.active.removeCompleted completed).launchesInFlight
    rw [hlaunches]
    exact h.counted
  · intro thread id hlive hid
    have hjob := h.listed hlive hid
    show (system.active.removeCompleted completed).jobs.get? id = some thread
    rw [hjobs, if_neg, hjob]
    intro hmem
    have hzero := hdead id hmem thread hjob
    exact absurd hzero (Nat.ne_of_gt hlive)
  · intro id thread hjob
    have hjob := (hjobs id).symm.trans hjob
    split at hjob
    · cases hjob
    · exact h.owned hjob
  · intro id thread hid
    show id ≤ (system.active.removeCompleted completed).nextId
    rw [hnext]
    exact h.fresh hid
  · intro rest _ hrest
    exact absurd hrest (hrevoker _ _)

end

end

variable {system system' : WorkerSystem} {event : WorkerEvent}

/-- **No action of any thread opens a gap.** -/
theorem accounted_step (h : system.Accounted) (hstep : system.step event = some system') :
    system'.Accounted := by
  cases event with
  | call thread action =>
    obtain ⟨hlock, hstep⟩ := ite_none_left_eq_some.mp hstep
    split at hstep
    · cases hstep
    rename_i active call hcall
    cases hstep
    exact h.act hlock hcall
  | allowLaunches disconnected =>
    simp only [step, ActiveState.allowLaunches] at hstep
    split at hstep
    · cases hstep
    cases disconnected <;> cases hstep
    · exact h.frame rfl rfl rfl rfl h.scanned
    · exact h
  | blockLaunches =>
    simp only [step] at hstep
    split at hstep <;> cases hstep <;> exact h.frame rfl rfl rfl rfl nofun
  | terminateNext =>
    simp only [step] at hstep
    split at hstep
    · cases hstep
      exact h.frame rfl rfl rfl rfl nofun
    · rename_i job jobs hrevoker
      cases hstep
      -- the processes of the job are killed; its call goes on as before
      have hkilled : (system.setCall job (system.calls job).kill).Accounted :=
        h.unlocked rfl rfl nofun fun _ => rfl
      exact hkilled.frame rfl rfl rfl rfl nofun
    · cases hstep
  | lock =>
    simp only [step] at hstep
    split at hstep
    · cases hstep
      refine h.frame rfl rfl rfl rfl ?_
      intro rest completed hscan
      cases hscan
      exact ⟨fun item hitem => get?_eq_some_iff.mpr hitem, nofun⟩
    · cases hstep
  | account succeeds =>
    simp only [step] at hstep
    split at hstep
    · rename_i job rest completed hrevoker
      obtain ⟨hrest, hcompleted⟩ := h.scanned hrevoker
      have htail : ∀ item ∈ rest, system.active.jobs.get? item.1 = some item.2 :=
        fun item hitem => hrest item (List.mem_cons_of_mem _ hitem)
      split at hstep
      · rename_i hzero
        cases hstep
        refine h.frame rfl rfl rfl rfl ?_
        intro rest' completed' hscan
        cases hscan
        refine ⟨htail, fun id' hid' thread hjob => ?_⟩
        rw [List.mem_append, List.mem_singleton] at hid'
        rcases hid' with hmem | rfl
        · exact hcompleted id' hmem thread hjob
        · have hhead := hrest (id', job) List.mem_cons_self
          rw [hhead] at hjob
          cases hjob
          exact hzero.2
      · cases hstep
        refine h.frame rfl rfl rfl rfl ?_
        intro rest' completed' hscan
        cases hscan
        exact ⟨htail, hcompleted⟩
    · cases hstep
  | unlock =>
    simp only [step] at hstep
    split at hstep
    · rename_i completed hrevoker
      cases hstep
      refine h.unlock hrevoker _ fun rest completed' => ?_
      split <;> nofun
    · cases hstep
  | checkDeadline passed =>
    simp only [step] at hstep
    split at hstep
    · cases hstep
      refine h.frame rfl rfl rfl rfl ?_
      intro rest completed hscan
      cases passed <;> cases hscan
    · cases hstep

/-! ## Nothing is left, and nothing starts -/

/-- No process lives, no launch is in flight, and the gate is closed. -/
structure Quiescent (system : WorkerSystem) : Prop where
  blocked : system.active.launchAllowed = false
  dead : ∀ thread, (system.calls thread).processes = 0
  free : ∀ thread, (system.calls thread).phase.holdsReservation = false
  none_in_flight : system.active.launchesInFlight = 0

/-- An empty registry leaves no room for a living process. -/
theorem Accounted.quiescent (h : system.Accounted) (hblocked : system.active.launchAllowed = false)
    (hzero : system.active.isZero = true) :
    system.Quiescent := by
  obtain ⟨hjobs, hlaunches⟩ := ActiveState.isZero_iff.mp hzero
  have hfree : ∀ thread, (system.calls thread).phase.holdsReservation = false := by
    intro thread
    by_contra hholds
    have := h.positive (Bool.not_eq_false _ ▸ hholds)
    omega
  refine ⟨hblocked, fun thread => ?_, hfree, hlaunches⟩
  by_contra hlive
  have hlive := Nat.pos_of_ne_zero hlive
  rcases h.covered hlive with hholds | hsome
  · rw [hfree] at hholds
    cases hholds
  · obtain ⟨_, hid⟩ := Option.isSome_iff_exists.mp hsome
    have hjob := h.listed hlive hid
    rw [hjobs] at hjob
    cases hjob

/-- A call can do nothing that matters once nothing is left. -/
theorem Quiescent.act {thread : Nat} {call : WorkerCall} {active : ActiveState}
    {action : WorkerAction} (h : system.Quiescent)
    (hstep : (system.calls thread).step thread system.active action = some (active, call)) :
    Quiescent { system.setCall thread call with active } := by
  have hupdate : call.processes = 0 → call.phase.holdsReservation = false →
      active.launchAllowed = false → active.launchesInFlight = 0 →
      Quiescent { system.setCall thread call with active } := by
    intro hdead hfree hblocked hlaunches
    refine ⟨hblocked, fun other => ?_, fun other => ?_, hlaunches⟩
    · show (Function.update system.calls thread call other).processes = 0
      rw [Function.update_apply]
      split
      · exact hdead
      · exact h.dead other
    · show (Function.update system.calls thread call other).phase.holdsReservation = false
      rw [Function.update_apply]
      split
      · exact hfree
      · exact h.free other
  cases step_cases hstep fun _ => h.dead thread with
  | unlocked state_eq holds jobId created spent =>
    subst state_eq
    refine hupdate ?_ (holds.trans (h.free thread)) h.blocked h.none_in_flight
    by_contra hlive
    -- a process needs another process or a reservation to start it
    rcases created (Nat.pos_of_ne_zero hlive) with hlive | ⟨hholds, -⟩
    · have := h.dead thread
      omega
    · rw [h.free] at hholds
      cases hholds
  | reserves locks allowed => exact absurd allowed (by simp [h.blocked])
  | registers locks allowed => exact absurd allowed (by simp [h.blocked])
  | dropsReservation locks state_eq before => exact absurd before (by simp [h.free])
  | dropsRegistration id locks state_eq before call_eq =>
    subst state_eq call_eq
    exact hupdate (h.dead thread) rfl h.blocked h.none_in_flight

/-- What holds from a revocation on, as long as launches are not allowed again. -/
structure Revoked (system : WorkerSystem) : Prop where
  accounted : system.Accounted
  blocked : system.active.launchAllowed = false
  quiescent : system.revoker = .zero → system.Quiescent

/-- The gate stays closed under every event but `allow_launches`. -/
theorem launchAllowed_step (hevent : ∀ disconnected, event ≠ .allowLaunches disconnected)
    (hspent : ∀ {thread}, (system.calls thread).phase.isSpent = true →
      (system.calls thread).processes = 0)
    (hblocked : system.active.launchAllowed = false) (hstep : system.step event = some system') :
    system'.active.launchAllowed = false := by
  cases event with
  | allowLaunches disconnected => exact absurd rfl (hevent disconnected)
  | call thread action =>
    simp only [step] at hstep
    split at hstep
    · cases hstep
    split at hstep
    · cases hstep
    rename_i active call hcall
    cases hstep
    show active.launchAllowed = false
    cases step_cases hcall hspent with
    | unlocked state_eq => rw [state_eq, hblocked]
    | reserves locks allowed => exact absurd allowed (by simp [hblocked])
    | registers locks allowed => exact absurd allowed (by simp [hblocked])
    | dropsReservation locks state_eq => rw [state_eq]; exact hblocked
    | dropsRegistration id locks state_eq => rw [state_eq]; exact hblocked
  | blockLaunches =>
    simp only [step] at hstep
    split at hstep <;> cases hstep <;> rfl
  | terminateNext =>
    simp only [step] at hstep
    split at hstep <;> cases hstep <;> exact hblocked
  | lock =>
    simp only [step] at hstep
    split at hstep <;> cases hstep
    exact hblocked
  | account succeeds =>
    simp only [step] at hstep
    split at hstep
    · split at hstep <;> cases hstep <;> exact hblocked
    · cases hstep
  | unlock =>
    simp only [step] at hstep
    split at hstep
    · rename_i completed _
      cases hstep
      exact (system.active.removeCompleted_spec completed).2.2.1.trans hblocked
    · cases hstep
  | checkDeadline passed =>
    simp only [step] at hstep
    split at hstep <;> cases hstep
    exact hblocked

/-- `wait_for_zero` returns `Ok` at the end of a scan, and stays returned. -/
theorem revoker_zero_cases (hstep : system.step event = some system')
    (hzero : system'.revoker = .zero) :
    (system'.active.isZero = true) ∨
      system.revoker = .zero ∧ ((∃ disconnected, event = .allowLaunches disconnected) ∨
        ∃ thread action active call, event = .call thread action ∧
          (system.calls thread).step thread system.active action = some (active, call) ∧
          system' = { system.setCall thread call with active }) := by
  cases event with
  | allowLaunches disconnected =>
    simp only [step] at hstep
    split at hstep
    · cases hstep
    · split at hstep <;> cases hstep <;> exact .inr ⟨hzero, .inl ⟨disconnected, rfl⟩⟩
  | call thread action =>
    simp only [step] at hstep
    split at hstep
    · cases hstep
    split at hstep
    · cases hstep
    rename_i active call hcall
    cases hstep
    exact .inr ⟨hzero, .inr ⟨thread, action, active, call, rfl, hcall, rfl⟩⟩
  | blockLaunches | terminateNext =>
    simp only [step] at hstep
    split at hstep <;> cases hstep <;> cases hzero
  | lock =>
    simp only [step] at hstep
    split at hstep <;> cases hstep
    cases hzero
  | account succeeds =>
    simp only [step] at hstep
    split at hstep
    · split at hstep <;> cases hstep <;> cases hzero
    · cases hstep
  -- zero is concluded when the lock is given back
  | unlock =>
    simp only [step] at hstep
    split at hstep
    · cases hstep
      refine .inl ?_
      by_contra hnot
      have hunlocked : (if _ = true then Revoker.zero else .unlocked) = .unlocked := if_neg hnot
      exact absurd (hzero.symm.trans hunlocked) nofun
    · cases hstep
  | checkDeadline passed =>
    simp only [step] at hstep
    split at hstep <;> cases hstep
    cases passed <;> cases hzero

theorem revoked_step (h : system.Revoked)
    (hevent : ∀ disconnected, event ≠ .allowLaunches disconnected)
    (hstep : system.step event = some system') : system'.Revoked := by
  have haccounted := accounted_step h.accounted hstep
  have hblocked := launchAllowed_step hevent h.accounted.spent h.blocked hstep
  refine ⟨haccounted, hblocked, fun hzero => ?_⟩
  rcases revoker_zero_cases hstep hzero with hempty | ⟨hbefore, ⟨disconnected, heq⟩ | hcall⟩
  · exact haccounted.quiescent hblocked hempty
  · exact absurd heq (hevent disconnected)
  · obtain ⟨_, _, _, _, -, hcall, rfl⟩ := hcall
    exact (h.quiescent hbefore).act hcall

/-- **No worker escapes the registry.**  Whatever the interleaving of the calls, the revoker and the
launches, the counter and the map account for every living process. -/
theorem accounted_run (events : List WorkerEvent) (system : WorkerSystem)
    (hrun : run step start events = some system) : system.Accounted :=
  run_invariant (fun _ _ _ h _ hstep => accounted_step h hstep) accounted_start
    (along_of_forall_mem (p := fun _ => True) start fun _ _ => trivial) hrun

/-- The action wakes a suspended process. -/
def Resumes (system : WorkerSystem) : WorkerEvent → Prop
  | .call thread (.resume previous) => previous ≤ 1 ∧ 0 < (system.calls thread).processes
  | _ => False

/-- **A revocation leaves no worker.**  In every run, once `wait_for_zero` has returned `Ok` after
`block_launches_and_terminate_all`, no process of any call is alive, no launch is in flight, and no
action resumes a worker, until `allow_launches` is called. -/
theorem revocation_leaves_no_worker (before later : List WorkerEvent) (system : WorkerSystem)
    (hrun : run step start (before ++ .blockLaunches :: later) = some system)
    (hblocked : ∀ disconnected, .allowLaunches disconnected ∉ later)
    (hzero : system.revoker = .zero) :
    (∀ thread, (system.calls thread).processes = 0) ∧
      system.active.launchesInFlight = 0 ∧
      (∀ thread, (system.calls thread).phase.holdsReservation = false) ∧
      ∀ event, ¬ system.Resumes event := by
  obtain ⟨mid, hbefore, hafter⟩ := run_append_eq_some.mp hrun
  obtain ⟨revoked, hblock, hlater⟩ := run_cons_eq_some.mp hafter
  have hmid : mid.Accounted :=
    run_invariant (fun _ _ _ h _ hstep => accounted_step h hstep) accounted_start
      (along_of_forall_mem (p := fun _ => True) start fun _ _ => trivial) hbefore
  have hrevoked : revoked.Revoked := by
    refine ⟨accounted_step hmid hblock, ?_, ?_⟩
    · simp only [step] at hblock
      split at hblock <;> cases hblock <;> rfl
    · simp only [step] at hblock
      split at hblock <;> cases hblock <;> nofun
  have hkeeps : ∀ (s : WorkerSystem) (event : WorkerEvent) (s' : WorkerSystem), s.Revoked →
      (∀ disconnected, event ≠ .allowLaunches disconnected) → s.step event = some s' →
      s'.Revoked := fun s event s' => revoked_step
  -- from the block on nothing allows launches again
  have hend : system.Revoked := by
    refine run_invariant hkeeps hrevoked (along_of_forall_mem revoked ?_) hlater
    intro event hevent disconnected heq
    exact hblocked disconnected (heq ▸ hevent)
  have hquiescent := hend.quiescent hzero
  refine ⟨hquiescent.dead, hquiescent.none_in_flight, hquiescent.free, fun event hresumes => ?_⟩
  unfold Resumes at hresumes
  split at hresumes
  · have := hquiescent.dead
    simp [this] at hresumes
  · exact hresumes

end WorkerSystem

namespace WorkerExample

open WorkerSystem

/-- A worker is launched and runs; another call has reserved its launch. -/
def launch : List WorkerEvent :=
  [.allowLaunches false, .call 0 (.reserve false false), .call 0 .spawnSuspended, .call 0 .assign,
    .call 0 (.register false false), .call 0 .dropReservation, .call 0 (.resume 1),
    .call 1 (.reserve false false), .call 1 .spawnSuspended]

/-- The revocation waits until the second call has dropped its child. -/
def revoke : List WorkerEvent :=
  [.terminateNext, .terminateNext, .lock, .account true, .unlock, .call 1 .dropChild,
    .checkDeadline false, .call 1 .dropReservation, .lock, .unlock]

def revoked : WorkerSystem := (run step start (launch ++ .blockLaunches :: revoke)).get rfl

theorem revoked_has_no_worker : revoked.revoker = .zero ∧
    ∀ thread, (revoked.calls thread).processes = 0 := by
  have hzero : revoked.revoker = .zero := by decide +kernel
  exact ⟨hzero, (revocation_leaves_no_worker launch revoke revoked (Option.some_get _).symm
    (fun disconnected => by simp [revoke]) hzero).1⟩

/-- The second call holds the only reservation while the first one's worker runs. -/
theorem launched_is_accounted : ∃ system, run step start launch = some system ∧
    system.Accounted :=
  ⟨_, (Option.some_get (by rfl)).symm, accounted_run launch _ (Option.some_get (by rfl)).symm⟩

end WorkerExample

end SubversionR

import SubversionR.Lanes.Steps
import SubversionR.Sync.DeltaContract

/-!
# Numbering — generations and epochs along a run of the daemon

Every snapshot and every delta carries the repository, the epoch and the generation it belongs to;
every session gets an epoch when it is opened.  Four handlers move the counters: a snapshot takes
its generation before it calls the bridge, a refresh and a remote check advance it after they
succeeded, and the settlement of a recovery advances it although it sends no entries.

* `Advances` — what every event does to the counters: they never fall, and a session that was not
  there before has an epoch nobody had;
* `Numbered` — what the answers of a handler carry;
* `Past` — how the numbers already given away lie below the counters of the state;
* `generations_and_epochs_are_ordered` — the numbers of a whole run.
-/

namespace SubversionR

open KeyedMaps KeyedMap JsonValues

/-! ## Numbers -/

/-- What identifies a status message. -/
structure StatusNumber where
  repositoryId : Text
  epoch : Nat
  generation : Nat

namespace DaemonResult

/-- The number of a snapshot or a delta. -/
def number? : DaemonResult → Option StatusNumber
  | .snapshot message => some ⟨message.repositoryId, message.epoch, message.generation⟩
  | .delta message => some ⟨message.repositoryId, message.epoch, message.generation⟩
  | _ => none

/-- The epoch a session was given. -/
def epoch? : DaemonResult → Option Nat
  | .opened response => some response.epoch
  | _ => none

theorem unnumbered {result : DaemonResult} (h : result.isQuiet = true) :
    result.number? = none ∧ result.epoch? = none := by
  cases result with
  | opened response => cases h
  | snapshot message => cases h
  | delta message => cases h
  | _ => exact ⟨rfl, rfl⟩

end DaemonResult

theorem DeltaBetween.number {session session' : RepositorySession} {delta : StatusDelta}
    (h : DeltaBetween session session' delta) : (DaemonResult.delta delta).number? =
      some ⟨session.repositoryId, session.epoch, session.nextGeneration⟩ := by
  show some _ = some _
  rw [h.repositoryId, h.epoch, h.generation]

/-- Every entry a delta upserts carries the generation of the delta. -/
def StatusDelta.Stamped (delta : StatusDelta) : Prop :=
  ∀ entry ∈ delta.upsert ++ delta.remoteUpsert, entry.generation = delta.generation

namespace Daemon

/-- The result of an event, if it has one. -/
def result? (platform : Platform) (daemon : Daemon) : DaemonEvent → Option DaemonResult
  | .dispatch env request => (daemon.dispatch (env.on platform) request).answer.toOption
  | .settleLaunch .. | .settleRecovery .. => none

/-- The results of a run, in the order they are returned. -/
def results (platform : Platform) : Daemon → List DaemonEvent → List DaemonResult
  | _, [] => []
  | daemon, event :: events =>
    (daemon.result? platform event).toList ++ results platform (daemon.step platform event) events

/-! ## Counters -/

/-- The counters of a later state: epochs are given away in order, and a session is either one that
was open, with the same epoch and no smaller generation, or a new one. -/
structure Advances (daemon daemon' : Daemon) : Prop where
  nextEpoch : daemon.nextEpoch ≤ daemon'.nextEpoch
  sessions : ∀ id session', daemon'.repositories.get? id = some session' →
    (∃ session, daemon.repositories.get? id = some session ∧
      session'.epoch = session.epoch ∧ session.nextGeneration ≤ session'.nextGeneration) ∨
    (daemon.nextEpoch ≤ session'.epoch ∧ session'.epoch < daemon'.nextEpoch)

/-- What the handler of a request returns: a status message carries the number its session was about
to give, which is then used up; an opened session has the next epoch. -/
structure Numbered (daemon : Daemon) (handled : Handled) : Prop where
  advances : Advances daemon handled.daemon
  status : ∀ result number, handled.answer = .ok result → result.number? = some number →
    ∃ session session', daemon.repositories.get? number.repositoryId = some session ∧
      session.epoch = number.epoch ∧ session.nextGeneration = number.generation ∧
      handled.daemon.repositories.get? number.repositoryId = some session' ∧
      session'.epoch = number.epoch ∧ session'.nextGeneration = number.generation + 1
  stamped : ∀ delta, handled.answer = .ok (.delta delta) → delta.Stamped
  epoch : ∀ result epoch, handled.answer = .ok result → result.epoch? = some epoch →
    epoch = daemon.nextEpoch ∧ handled.daemon.nextEpoch = daemon.nextEpoch + 1

section Sessions

variable {platform : Platform} {daemon : Daemon} {event : DaemonEvent}
  {session session' : RepositorySession}

/-- What an event may make of an open session. -/
def Changes (platform : Platform) (event : DaemonEvent) (session session' : RepositorySession) :
    Prop :=
  match event with
  | .dispatch env _ => ∃ answer, SessionChange (env.on platform) session session' answer
  | .settleLaunch .. => False
  | .settleRecovery launch _ => ∃ snapshot, session.settleRemoteRecovery platform
      launch.toRemoteRecoveryLaunchPlan snapshot = some session'

theorem Changes.keeps (h : Changes platform event session session') :
    session'.repositoryId = session.repositoryId ∧ session'.epoch = session.epoch ∧
      session'.boundaryRoots = session.boundaryRoots ∧
      session.nextGeneration ≤ session'.nextGeneration := by
  cases event with
  | dispatch env request =>
    obtain ⟨_, h⟩ := h
    obtain ⟨hid, hepoch, hroots⟩ := h.keeps
    refine ⟨hid, hepoch, hroots, ?_⟩
    cases h with
    | snapshot => exact (getSnapshot_session _ _ _ _).2.2 ▸ Nat.le_succ _
    | refresh _ _ _ step => exact (refresh_deltaBetween step).nextGeneration ▸ Nat.le_succ _
    | check _ _ step => exact (checkRemote_deltaBetween step).nextGeneration ▸ Nat.le_succ _
    | relocate => exact le_rfl
  | settleLaunch => exact h.elim
  | settleRecovery launch recovery =>
    obtain ⟨snapshot, h⟩ := h
    unfold RepositorySession.settleRemoteRecovery at h
    split at h
    · cases h
    · cases h
      exact ⟨rfl, rfl, rfl, Nat.le_succ _⟩

/-- Where the session at an id comes from: it was open, it is what the event made of an open one, or
it is new. -/
inductive Origin (platform : Platform) (daemon : Daemon) (event : DaemonEvent) (id : Text)
    (session' : RepositorySession) : Prop where
  | kept (isOpen : daemon.repositories.get? id = some session')
  | changed (session : RepositorySession)
      (isOpen : daemon.repositories.get? id = some session)
      (change : Changes platform event session session')
  | opened (identity : RepositoryIdentity) (roots : BoundaryRoots)
      (next : (daemon.step platform event).nextEpoch = daemon.nextEpoch + 1)
      (fresh : session' =
        .opened (SubversionR.repositoryId identity) daemon.nextEpoch identity roots)

/-- An event that replaces one open session. -/
theorem origin_of_insert {id : Text} {found : RepositorySession}
    (hget : daemon.repositories.get? session.repositoryId = some session)
    (hchange : Changes platform event session session')
    (hfound : (daemon.repositories.insert session').get? id = some found) :
    Origin platform daemon event id found := by
  rw [get?_insert] at hfound
  split at hfound
  · rename_i hsame
    cases hfound
    exact .changed session ((hchange.keeps.1.symm.trans hsame) ▸ hget) hchange
  · exact .kept hfound

/-- **The sessions after an event.** -/
theorem step_origin (platform : Platform) (daemon : Daemon) (event : DaemonEvent) :
    daemon.nextEpoch ≤ (daemon.step platform event).nextEpoch ∧
      ∀ id session',
        (daemon.step platform event).repositories.get? id = some session' →
          Origin platform daemon event id session' := by
  -- most events leave the sessions alone
  have hsame : (daemon.step platform event).toDaemonState = daemon.toDaemonState →
      daemon.nextEpoch ≤ (daemon.step platform event).nextEpoch ∧
        ∀ id session',
          (daemon.step platform event).repositories.get? id = some session' →
            Origin platform daemon event id session' := by
    intro hstate
    rw [hstate]
    exact ⟨le_rfl, fun _ _ hget => .kept hget⟩
  cases event with
  | dispatch env request =>
    cases @dispatch_move (env.on platform) request daemon with
    | quiet state => exact hsame state
    | opened identity roots state =>
      have hstate : (daemon.step platform (.dispatch env request)).toDaemonState = _ := state
      refine ⟨by rw [hstate]; exact Nat.le_succ _, fun id found hfound => ?_⟩
      rw [hstate, get?_insert] at hfound
      split at hfound
      · cases hfound
        exact .opened identity roots (by rw [hstate]) rfl
      · exact .kept hfound
    | closed closedId state =>
      have hstate : (daemon.step platform (.dispatch env request)).toDaemonState = _ := state
      refine ⟨by rw [hstate], fun id found hfound => ?_⟩
      rw [hstate, get?_erase] at hfound
      split at hfound
      · cases hfound
      · exact .kept hfound
    | changed session session' isOpen state change =>
      have hstate : (daemon.step platform (.dispatch env request)).toDaemonState = _ := state
      rw [hstate]
      exact ⟨le_rfl, fun _ _ hfound => origin_of_insert isOpen ⟨_, change⟩ hfound⟩
  | settleLaunch laneKey operationId settlement =>
    exact hsame (settleRemoteLaunch_frame daemon laneKey operationId settlement).1
  | settleRecovery launch recovery =>
    cases hsettle : daemon.settleRemoteRecovery platform launch recovery with
    | mk settled daemon' =>
      have hstep : daemon.step platform (.settleRecovery launch recovery) = daemon' :=
        congrArg Prod.snd hsettle
      rcases settleRemoteRecovery_cases hsettle with ⟨-, -, rfl⟩ | ⟨snapshot, -, -, -, -, rfl⟩ |
        ⟨snapshot, session, session', -, -, hget, hsession, -, rfl⟩ |
        ⟨failure, outcome, state, -, -, -, rfl, -⟩
      · exact hsame (by rw [hstep]; rfl)
      · exact hsame (by rw [hstep]; rfl)
      -- a recovery that ends safe is the one settlement that writes a session
      · have hid : session.repositoryId = launch.repositoryId := key_of_get? hget
        rw [hstep]
        exact ⟨le_rfl, fun _ _ hfound => origin_of_insert (hid ▸ hget) ⟨snapshot, hsession⟩ hfound⟩
      · exact hsame (by rw [hstep]; rfl)

/-- **No event turns a counter back.** -/
theorem step_advances (platform : Platform) (event : DaemonEvent) :
    Advances daemon (daemon.step platform event) := by
  obtain ⟨hnext, horigin⟩ := step_origin platform daemon event
  refine ⟨hnext, fun id session' hget => ?_⟩
  cases horigin id session' hget with
  | kept isOpen => exact .inl ⟨session', isOpen, rfl, le_rfl⟩
  | changed session isOpen change =>
    obtain ⟨-, hepoch, -, hgeneration⟩ := change.keeps
    exact .inl ⟨session, isOpen, hepoch, hgeneration⟩
  | opened identity roots next fresh =>
    rw [fresh, next]
    exact .inr ⟨le_rfl, Nat.lt_succ_self _⟩

variable {handled : Handled} {result : DaemonResult}

theorem Numbered.silent (hadvances : Advances daemon handled.daemon)
    (hquiet : QuietAnswer handled.answer) :
    Numbered daemon handled where
  advances := hadvances
  status := by
    intro result _ hresult hnumber
    rw [(DaemonResult.unnumbered (hquiet result hresult)).1] at hnumber
    cases hnumber
  stamped := by
    intro _ hresult
    cases hquiet _ hresult
  epoch := by
    intro result epoch hresult hepoch
    rw [(DaemonResult.unnumbered (hquiet result hresult)).2] at hepoch
    cases hepoch

/-- A handler that answers with a status message of an open session and advances its counter. -/
theorem Numbered.message (hadvances : Advances daemon handled.daemon)
    (hget : daemon.repositories.get? session.repositoryId = some session)
    (hid : session'.repositoryId = session.repositoryId) (hepoch : session'.epoch = session.epoch)
    (hnext : session'.nextGeneration = session.nextGeneration + 1)
    (hnumber : result.number? = some ⟨session.repositoryId, session.epoch, session.nextGeneration⟩)
    (hstamped : ∀ delta, result = .delta delta → delta.Stamped)
    (hstate : handled.daemon.toDaemonState =
      ⟨daemon.repositories.insert session', daemon.nextEpoch⟩)
    (hanswer : handled.answer = .ok result) : Numbered daemon handled where
  advances := hadvances
  status := by
    intro result' number h hnumber'
    cases hanswer.symm.trans h
    rw [hnumber] at hnumber'
    cases hnumber'
    refine ⟨session, session', hget, rfl, rfl, ?_, hepoch, hnext⟩
    rw [hstate, get?_insert, if_pos hid]
  stamped := by
    intro delta h
    cases hanswer.symm.trans h
    exact hstamped delta rfl
  epoch := by
    intro result' epoch h hepoch'
    cases hanswer.symm.trans h
    cases result with
    | opened response => cases hnumber
    | _ => cases hepoch'

/-- What a refresh upserts was reported by one of its scans. -/
theorem refresh_stamped {bridge : StatusBridge} {now : Text} {targets : List StatusRefreshTarget}
    {delta : StatusDelta}
    (h : session.refresh platform bridge now targets = .ok (delta, session')) :
    delta.Stamped := by
  have hbetween := refresh_deltaBetween h
  obtain ⟨_, hstate, hlocal, -⟩ := refresh_mergeSound h
  have hremote : session'.remoteEntries = session.remoteEntries := by
    obtain ⟨_, -, rfl, -⟩ := refresh_eq_ok h
    rfl
  intro _ hentry
  rw [hbetween.upsert, hbetween.remoteUpsert, hremote, changed_self, List.append_nil,
    mem_changed_iff, hlocal] at hentry
  obtain ⟨hafter, hbefore⟩ := hentry
  rw [hbetween.generation]
  rcases hstate.origin _ _ hafter with hold | hfresh
  · exact absurd hold hbefore
  · obtain ⟨_, -, hvisible⟩ := hfresh.visible
    exact generation_of_mem_reportedEntries (mem_visibleEntries_iff.mp hvisible).1

/-- A remote check lists no local entry, and the remote ones it keeps are stamped. -/
theorem generation_of_checkRemote {bridge : StatusBridge} {now : Text} {delta : StatusDelta}
    (h : session.checkRemote platform bridge now = .ok (delta, session')) :
    delta.upsert = [] ∧ ∀ p entry, session'.remoteEntries.get? p = some entry →
      entry.generation = session.nextGeneration := by
  unfold RepositorySession.checkRemote at h
  dsimp only at h
  split at h
  · cases h
  cases h
  refine ⟨rfl, fun p entry hget => ?_⟩
  dsimp only at hget
  unfold replaceSessionRemoteEntries at hget
  rw [filterSnapshotBoundaries_remoteEntries, get?_ofList] at hget
  have hmem := List.mem_of_mem_filter (lastWithKey_mem hget).1
  obtain ⟨_, -, rfl⟩ := List.mem_map.mp (mem_outsideBoundaries_iff.mp hmem).1
  rfl

theorem checkRemote_stamped {bridge : StatusBridge} {now : Text} {delta : StatusDelta}
    (h : session.checkRemote platform bridge now = .ok (delta, session')) : delta.Stamped := by
  have hbetween := checkRemote_deltaBetween h
  obtain ⟨hupsert, hremote⟩ := generation_of_checkRemote h
  intro _ hentry
  rw [hupsert, List.nil_append, hbetween.remoteUpsert, mem_changed_iff] at hentry
  exact (hremote _ _ hentry.1).trans hbetween.generation.symm

variable {env : DaemonEnvironment} {request : JsonRpcRequest}

theorem numbered_of_change (hadvances : Advances daemon handled.daemon)
    (hget : daemon.repositories.get? session.repositoryId = some session)
    (hstate : handled.daemon.toDaemonState =
      ⟨daemon.repositories.insert session', daemon.nextEpoch⟩)
    {answer : Except DaemonError DaemonResult} (hanswer : handled.answer = answer)
    (h : SessionChange env session session' answer) : Numbered daemon handled := by
  cases h with
  | snapshot =>
    obtain ⟨hid, hepoch, hnext⟩ := getSnapshot_session env.platform env.status env.now session
    cases hsnapshot : (session.getSnapshot env.platform env.status env.now).1 with
    | error failure =>
      -- the generation is used up although nothing is returned
      rw [hsnapshot] at hanswer
      exact .silent hadvances (hanswer ▸ quietAnswer_error _)
    | ok snapshot =>
      rw [hsnapshot] at hanswer
      obtain ⟨hsid, hsepoch, hsgeneration⟩ := getSnapshot_labels hsnapshot
      refine .message hadvances hget hid hepoch hnext ?_ ?_ hstate hanswer
      · show some _ = some _
        rw [hsid, hsepoch, hsgeneration]
      · intro delta h
        cases h
  | refresh targets delta _ step =>
    have hbetween := refresh_deltaBetween step
    refine .message hadvances hget hbetween.repositoryId_after hbetween.epoch_after
      hbetween.nextGeneration hbetween.number ?_ hstate hanswer
    intro delta' h
    cases h
    exact refresh_stamped step
  | check delta _ step =>
    have hbetween := checkRemote_deltaBetween step
    refine .message hadvances hget hbetween.repositoryId_after hbetween.epoch_after
      hbetween.nextGeneration hbetween.number ?_ hstate hanswer
    intro delta' h
    cases h
    exact checkRemote_stamped step
  | relocate identity _ quiet => exact .silent hadvances (hanswer ▸ quiet)

theorem dispatch_numbered : Numbered daemon (daemon.dispatch env request) := by
  have hadvances : Advances daemon (daemon.dispatch env request).daemon :=
    step_advances env.platform (.dispatch env request)
  cases @dispatch_move env request daemon with
  | quiet state answer => exact .silent hadvances answer
  | opened identity roots state answer =>
    refine ⟨hadvances, ?_, ?_, ?_⟩
    · intro result _ h hnumber
      cases answer.symm.trans h
      cases hnumber
    · intro _ h
      cases answer.symm.trans h
    · intro result _ h hepoch
      cases answer.symm.trans h
      cases hepoch
      exact ⟨rfl, by rw [state]⟩
  | closed id state answer => exact .silent hadvances answer
  | changed session session' isOpen state change =>
    exact numbered_of_change hadvances isOpen state rfl change

theorem result?_numbered (h : daemon.result? platform event = some result) :
    ∃ handled : Handled, Numbered daemon handled ∧ handled.answer = .ok result ∧
      handled.daemon = daemon.step platform event := by
  cases event with
  | dispatch env request =>
    refine ⟨_, dispatch_numbered, ?_, rfl⟩
    have h : (daemon.dispatch (env.on platform) request).answer.toOption = some result := h
    cases hanswer : (daemon.dispatch (env.on platform) request).answer with
    | error error =>
      rw [hanswer] at h
      cases h
    | ok answer =>
      rw [hanswer] at h
      cases h
      rfl
  | settleLaunch laneKey operationId settlement => cases h
  | settleRecovery launch recovery => cases h

end Sessions

/-! ## Numbers already given away -/

/-- A number that was given away stays below the counters: its epoch is below the next one, and its
generation is below the next one of its session, if that is still open. -/
structure Past (daemon : Daemon) (number : StatusNumber) : Prop where
  epoch : number.epoch < daemon.nextEpoch
  generation : ∀ session, daemon.repositories.get? number.repositoryId = some session →
    session.epoch = number.epoch → number.generation < session.nextGeneration

/-- Every open session has an epoch that was given away. -/
def EpochsGiven (daemon : Daemon) : Prop :=
  ∀ id session, daemon.repositories.get? id = some session →
    session.epoch < daemon.nextEpoch

section Runs

variable {platform : Platform} {daemon daemon' : Daemon}

theorem epochsGiven_new : EpochsGiven Daemon.new := by
  intro id _ h
  cases h

theorem EpochsGiven.advance (h : EpochsGiven daemon) (hadvances : Advances daemon daemon') :
    EpochsGiven daemon' := by
  intro _ _ hget
  have hnext := hadvances.nextEpoch
  rcases hadvances.sessions _ _ hget with ⟨_, hopen, _⟩ | ⟨-, hlt⟩
  · have := h _ _ hopen
    omega
  · exact hlt

theorem Past.advance {number : StatusNumber} (h : Past daemon number)
    (hadvances : Advances daemon daemon') : Past daemon' number := by
  have hnext := hadvances.nextEpoch
  have hepoch := h.epoch
  refine ⟨by omega, ?_⟩
  intro _ hget hsame
  rcases hadvances.sessions _ _ hget with ⟨session, hopen, hkept, _⟩ | ⟨_, -⟩
  · have := h.generation session hopen (hkept.symm.trans hsame)
    omega
  · -- a new session has a later epoch
    omega

variable {events : List DaemonEvent}

/-- The numbers of the results that are still to come lie above a number given away before. -/
theorem number_of_mem_results {number later : StatusNumber} {result : DaemonResult}
    (hpast : Past daemon number) (hmem : result ∈ daemon.results platform events)
    (hlater : result.number? = some later) (hid : number.repositoryId = later.repositoryId)
    (hepoch : number.epoch = later.epoch) :
    number.generation < later.generation := by
  induction events generalizing daemon with
  | nil => cases hmem
  | cons event events ih =>
    rcases List.mem_append.mp hmem with hnow | hrest
    · obtain ⟨handled, hnumbered, hanswer, -⟩ :=
        result?_numbered (Option.mem_toList.mp hnow)
      obtain ⟨session, -, hget, hsession, hgeneration, -⟩ := hnumbered.status _ _ hanswer hlater
      have := hpast.generation session (hid ▸ hget) (hsession.trans hepoch.symm)
      omega
    · exact ih (hpast.advance (step_advances platform event)) hrest

theorem epoch_of_mem_results {result : DaemonResult} {epoch : Nat}
    (hmem : result ∈ daemon.results platform events) (hepoch : result.epoch? = some epoch) :
    daemon.nextEpoch ≤ epoch := by
  induction events generalizing daemon with
  | nil => cases hmem
  | cons event events ih =>
    rcases List.mem_append.mp hmem with hnow | hrest
    · obtain ⟨handled, hnumbered, hanswer, -⟩ :=
        result?_numbered (Option.mem_toList.mp hnow)
      exact (hnumbered.epoch _ _ hanswer hepoch).1.ge
    · exact (step_advances platform event).nextEpoch.trans (ih hrest)

/-- The order of the status messages of a run, from any state whose sessions have their epochs. -/
theorem results_numbers (hgiven : EpochsGiven daemon) (events : List DaemonEvent) :
    ((daemon.results platform events).filterMap DaemonResult.number?).Pairwise fun earlier later =>
      earlier.repositoryId = later.repositoryId → earlier.epoch = later.epoch →
        earlier.generation < later.generation := by
  induction events generalizing daemon with
  | nil => exact List.Pairwise.nil
  | cons event events ih =>
    have hrest := @ih (daemon.step platform event) (hgiven.advance (step_advances platform event))
    unfold results
    rw [List.filterMap_append, List.pairwise_append]
    refine ⟨?_, hrest, ?_⟩
    · -- an event has at most one result
      cases daemon.result? platform event with
      | none => exact List.Pairwise.nil
      | some result => cases h : result.number? <;> simp [h]
    · intro number hnumber later hlater
      obtain ⟨result, hresult, hnumber⟩ := List.mem_filterMap.mp hnumber
      obtain ⟨_, hresult', hlater⟩ := List.mem_filterMap.mp hlater
      obtain ⟨handled, hnumbered, hanswer, hdaemon⟩ :=
        result?_numbered (Option.mem_toList.mp hresult)
      obtain ⟨session, session', hget, hsession, -, hget', -, hnext⟩ :=
        hnumbered.status _ _ hanswer hnumber
      rw [hdaemon] at hget'
      -- the number just given lies below the counter it was taken from
      have hpast : Past (daemon.step platform event) number := by
        refine ⟨?_, ?_⟩
        · have hbefore := hgiven _ _ hget
          have hadvances : Advances daemon (daemon.step platform event) :=
            step_advances platform event
          have hnextEpoch := hadvances.nextEpoch
          omega
        · intro _ hfound _
          rw [hget'] at hfound
          cases hfound
          omega
      intro hid hepoch
      exact number_of_mem_results hpast hresult' hlater hid hepoch

theorem results_epochs (events : List DaemonEvent) :
    ((daemon.results platform events).filterMap DaemonResult.epoch?).Pairwise (· < ·) := by
  induction events generalizing daemon with
  | nil => exact List.Pairwise.nil
  | cons event events ih =>
    unfold results
    rw [List.filterMap_append, List.pairwise_append]
    refine ⟨?_, ih, ?_⟩
    · cases daemon.result? platform event with
      | none => exact List.Pairwise.nil
      | some result => cases h : result.epoch? <;> simp [h]
    · intro epoch hepoch _ hlater
      obtain ⟨result, hresult, hepoch⟩ := List.mem_filterMap.mp hepoch
      obtain ⟨_, hresult', hlater⟩ := List.mem_filterMap.mp hlater
      obtain ⟨handled, hnumbered, hanswer, hdaemon⟩ :=
        result?_numbered (Option.mem_toList.mp hresult)
      obtain ⟨_, hnext⟩ := hnumbered.epoch _ _ hanswer hepoch
      rw [hdaemon] at hnext
      have := epoch_of_mem_results hresult' hlater
      omega

theorem results_stamped {delta : StatusDelta} (h : .delta delta ∈ daemon.results platform events) :
    delta.Stamped := by
  induction events generalizing daemon with
  | nil => cases h
  | cons event events ih =>
    rcases List.mem_append.mp h with hnow | hrest
    · obtain ⟨handled, hnumbered, hanswer, -⟩ :=
        result?_numbered (Option.mem_toList.mp hnow)
      exact hnumbered.stamped delta hanswer
    · exact ih hrest

end Runs

/-- **Generations and epochs order all status messages.**  Along every run of the daemon the
snapshots and deltas of one repository epoch are returned with strictly increasing generations, the
upserted entries of a delta carry its generation, and the epochs given to sessions strictly
increase, so that no two sessions share one. -/
theorem generations_and_epochs_are_ordered (platform : Platform) (events : List DaemonEvent) :
    ((Daemon.new.results platform events).filterMap DaemonResult.number?).Pairwise
        (fun earlier later => earlier.repositoryId = later.repositoryId →
          earlier.epoch = later.epoch → earlier.generation < later.generation) ∧
      (∀ delta, .delta delta ∈ Daemon.new.results platform events → delta.Stamped) ∧
      ((Daemon.new.results platform events).filterMap DaemonResult.epoch?).Pairwise (· < ·) :=
  ⟨results_numbers epochsGiven_new events, fun _ h => results_stamped h, results_epochs events⟩

end Daemon

end SubversionR

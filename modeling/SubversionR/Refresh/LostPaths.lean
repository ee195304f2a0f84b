import SubversionR.Refresh.Coverage
import SubversionR.Refresh.Timers

/-!
# Lost paths — what becomes of an accepted file event

The path of an accepted event goes through three containers: the dirty set, the targets of the
refresh that drained it, and back into the dirty set if that refresh fails.  The journal remembers
the accepted paths and the refreshes whose delta was applied, each with the number of events that
had been accepted when it was issued.

* `Journal.step` — the scheduler and what the journal notes of it;
* `Journal.Kept` — where the path of an event is; `Kept.moves` — an event of the scheduler loses
  none;
* `no_dirty_path_lost` — in every run the path of every accepted event is in the dirty set, in
  flight, or covered by a refresh that was issued later and applied;
* `nul_path_is_lost` — a path with a NUL character can take the place of another target.
-/

namespace SubversionR

open Runs DirtyPathSet

/-- A refresh whose delta was applied to the store, and how many events were accepted before. -/
structure AppliedRefresh where
  issuedAt : Nat
  targets : List StatusRefreshTarget
deriving DecidableEq

structure Journal where
  scheduler : RefreshScheduler
  /-- The paths of the accepted events, relative to the working copy. -/
  accepted : List Text
  /-- How many events were accepted when the current refresh was issued. -/
  issuedAt : Nat
  applied : List AppliedRefresh

namespace Journal

variable (runtime : Runtime)

def new (scheduler : RefreshScheduler) : Journal := ⟨scheduler, [], 0, []⟩

/-- The path of a file event that `DirtyPathSet.record` accepts. -/
def acceptedPath (client : StatusClient) : RefreshEvent → Option Text
  | .fileEvent event =>
    if (client.recordDirtyPath runtime event).1 then
      repositoryRelativePath runtime.toLocaleLowerCase client.scope event.path
    else none
  | _ => none

/-- The targets of the refresh whose delta this event has applied. -/
def appliedTargets (event : RefreshEvent) (after : StatusClient) :
    Option (List StatusRefreshTarget) :=
  match event, after.currentRefresh with
  | .settle, some refresh =>
    match refresh.phase with
    | .applied _ => some refresh.targets
    | _ => none
  | _, _ => none

def step (journal : Journal) (event : RefreshEvent) : Option Journal :=
  (journal.scheduler.step runtime event).map fun scheduler =>
    let before := journal.scheduler.client
    let after := scheduler.client
    { scheduler
      accepted := journal.accepted ++ (acceptedPath runtime before event).toList
      issuedAt :=
        if before.currentRefresh.isNone && after.currentRefresh.isSome then journal.accepted.length
        else journal.issuedAt
      applied := journal.applied ++
        ((appliedTargets event after).map fun targets => ⟨journal.issuedAt, targets⟩).toList }

end Journal

/-! ## Where a path is -/

namespace Journal

/-- The refresh that runs carries the path: its targets cover it, and so do those that are merged
back when it fails. -/
def Carried (fold : Text → Text) (client : StatusClient) (path : Text) : Prop :=
  ∃ refresh, client.currentRefresh = some refresh ∧ refresh.phase.isOpen = true ∧
    CoveredBy fold client.scope refresh.targets path ∧
    CleanlyCovered fold client.scope refresh.pending path

/-- Some refresh that was issued after the event with this number was applied and covers the path.
-/
def Refreshed (fold : Text → Text) (journal : Journal) (index : Nat) (path : Text) : Prop :=
  ∃ refresh ∈ journal.applied, index < refresh.issuedAt ∧
    CoveredBy fold journal.scheduler.client.scope refresh.targets path

/-- Where the path of the event with this number is. -/
inductive Kept (fold : Text → Text) (journal : Journal) (index : Nat) (path : Text) : Prop
  | held (h : journal.scheduler.client.dirtyPaths.Holds fold journal.scheduler.client.scope path)
  | carried (h : Carried fold journal.scheduler.client path) (hissued : index < journal.issuedAt)
  | refreshed (h : journal.Refreshed fold index path)

/-- Every accepted path is kept. -/
structure Accounts (fold : Text → Text) (journal : Journal) : Prop where
  sound : journal.scheduler.client.dirtyPaths.Sound fold journal.scheduler.client.scope
  kept : ∀ index path, journal.accepted[index]? = some path → journal.Kept fold index path

variable {runtime : Runtime} {journal journal' : Journal} {event : RefreshEvent}

variable {fold : Text → Text} {index : Nat} {path : Text}

/-- A path that is held is in the targets of the dirty set. -/
theorem Kept.covered (hfold : FoldsComponents fold)
    (hsound : journal.scheduler.client.dirtyPaths.Sound fold journal.scheduler.client.scope)
    (h : journal.Kept fold index path) :
    CoveredBy fold journal.scheduler.client.scope
        journal.scheduler.client.dirtyPaths.toRefreshTargets path ∨
      (∃ refresh, journal.scheduler.client.currentRefresh = some refresh ∧
        CoveredBy fold journal.scheduler.client.scope refresh.targets path) ∨
      journal.Refreshed fold index path := by
  cases h with
  | held h => exact .inl (h.covered hfold hsound).covered
  | carried h =>
    obtain ⟨refresh, hcurrent, -, hcovered, -⟩ := h
    exact .inr (.inl ⟨refresh, hcurrent, hcovered⟩)
  | refreshed h => exact .inr (.inr h)

/-! ## One event -/

/-- Only a file event is accepted. -/
theorem acceptedPath_eq_none (hevent : ∀ fileEvent, event ≠ .fileEvent fileEvent)
    (client : StatusClient) : acceptedPath runtime client event = none := by
  cases event with
  | fileEvent fileEvent => exact absurd rfl (hevent fileEvent)
  | _ => rfl

theorem acceptedPath_fileEvent {client : StatusClient} {fileEvent : DirtyFileEvent}
    (h : acceptedPath runtime client (.fileEvent fileEvent) = some path) :
    (client.dirtyPaths.record runtime.toLocaleLowerCase fileEvent).1 = true ∧
      repositoryRelativePath runtime.toLocaleLowerCase client.scope fileEvent.path = some path := by
  dsimp only [acceptedPath] at h
  split at h
  · rename_i haccepted
    refine ⟨?_, h⟩
    unfold StatusClient.recordDirtyPath at haccepted
    dsimp only at haccepted
    split at haccepted <;> exact haccepted
  · cases h

/-- What one event does to the journal. -/
structure Notes (runtime : Runtime) (journal : Journal) (event : RefreshEvent)
    (journal' : Journal) :
    Prop where
  moves : journal.scheduler.client.Moves runtime event journal'.scheduler.client
  accepted : journal'.accepted =
    journal.accepted ++ (acceptedPath runtime journal.scheduler.client event).toList
  issued : journal.scheduler.client.currentRefresh = none →
    journal'.scheduler.client.currentRefresh ≠ none → journal'.issuedAt = journal.accepted.length
  continued : ∀ refresh, journal.scheduler.client.currentRefresh = some refresh →
    journal'.issuedAt = journal.issuedAt
  applied : ∃ added, journal'.applied = journal.applied ++ added ∧
    ∀ targets, appliedTargets event journal'.scheduler.client = some targets →
      ⟨journal.issuedAt, targets⟩ ∈ added

theorem step_notes (h : journal.step runtime event = some journal') :
    Notes runtime journal event journal' := by
  obtain ⟨scheduler, hstep, rfl⟩ := Option.map_eq_some_iff.mp h
  refine ⟨RefreshScheduler.step_moves hstep, rfl, ?_, ?_, _, rfl, ?_⟩
  · intro hidle hbusy
    have hsome : scheduler.client.currentRefresh.isSome = true :=
      Option.isSome_iff_ne_none.mpr hbusy
    simp [hidle, hsome]
  · intro _ hcurrent
    simp [hcurrent]
  · intro _ htargets
    simp [htargets]

/-- A refresh that goes on carries what it carried. -/
theorem Carried.continues {client client' : StatusClient} (h : Carried fold client path)
    (hscope : client'.scope = client.scope)
    (hcurrent : Option.Rel CurrentRefresh.Continues client.currentRefresh client'.currentRefresh) :
    Carried fold client' path := by
  obtain ⟨refresh, hrefresh, hopen, hcovered, hclean⟩ := h
  rw [hrefresh] at hcurrent
  cases hrefresh' : client'.currentRefresh with
  | none =>
    rw [hrefresh'] at hcurrent
    cases hcurrent
  | some refresh' =>
    rw [hrefresh'] at hcurrent
    cases hcurrent with
    | some hcontinues =>
      have hpending : refresh'.pending = refresh.pending := by
        unfold CurrentRefresh.pending
        rw [hcontinues.kind, hcontinues.targets]
      refine ⟨refresh', hrefresh', hcontinues.isOpen.trans hopen, ?_, ?_⟩
      · rw [hscope, hcontinues.targets]
        exact hcovered
      · rw [hscope, hpending]
        exact hclean

/-- Targets that cover a path through what they carry. -/
theorem coveredBy_targets {scope : RepositoryWatchScope} {refresh : CurrentRefresh}
    (hpending : CleanlyCovered fold scope refresh.pending path)
    (htargets : refresh.kind = .ofTargets ∨
      ∃ reason, refresh.targets = [fullReconcileTarget reason]) :
    CoveredBy fold scope refresh.targets path := by
  rcases htargets with hkind | ⟨reason, htargets⟩
  · have heq : refresh.pending = refresh.targets := by
      unfold CurrentRefresh.pending
      rw [hkind]
    rw [← heq]
    exact hpending.covered
  · rw [htargets]
    exact ⟨_, List.mem_singleton_self _, coversPath_of_root rfl rfl⟩

theorem Carried.busy {client : StatusClient} (h : Carried fold client path) :
    client.currentRefresh ≠ none := by
  obtain ⟨_, hrefresh, -⟩ := h
  rw [hrefresh]
  simp

/-- What was refreshed stays so; an event has to account for the paths that were held or carried. -/
theorem Kept.moves (h : journal.Kept fold index path)
    (hnotes : Notes runtime journal event journal')
    (hscope : journal'.scheduler.client.scope = journal.scheduler.client.scope)
    (hheld : journal.scheduler.client.dirtyPaths.Holds fold journal.scheduler.client.scope path →
      journal'.Kept fold index path)
    (hcarried : Carried fold journal.scheduler.client path → index < journal.issuedAt →
      journal'.Kept fold index path) :
    journal'.Kept fold index path := by
  cases h with
  | held h => exact hheld h
  | carried h hissued => exact hcarried h hissued
  | refreshed h =>
    obtain ⟨refresh, hmem, hissued, hcovered⟩ := h
    obtain ⟨_, happlied, -⟩ := hnotes.applied
    refine .refreshed ⟨refresh, ?_, hissued, by rw [hscope]; exact hcovered⟩
    rw [happlied]
    exact List.mem_append_left _ hmem

/-- An event that does not touch the dirty set and lets the refresh go on keeps every path. -/
theorem Kept.goesOn (h : journal.Kept fold index path)
    (hnotes : Notes runtime journal event journal')
    (hscope : journal'.scheduler.client.scope = journal.scheduler.client.scope)
    (hheld : journal.scheduler.client.dirtyPaths.Holds fold journal.scheduler.client.scope path →
      journal'.scheduler.client.dirtyPaths.Holds fold journal.scheduler.client.scope path)
    (hcurrent : Option.Rel CurrentRefresh.Continues journal.scheduler.client.currentRefresh
      journal'.scheduler.client.currentRefresh) :
    journal'.Kept fold index path := by
  refine h.moves hnotes hscope (fun h => .held (by rw [hscope]; exact hheld h)) fun h hissued => ?_
  refine .carried (h.continues hscope hcurrent) ?_
  obtain ⟨refresh, hrefresh, -⟩ := h
  rw [hnotes.continued refresh hrefresh]
  exact hissued

/-- The index of an accepted path is that of an earlier event, or it is the new one. -/
theorem Notes.accepted_cases (hnotes : Notes runtime journal event journal')
    (h : journal'.accepted[index]? = some path) :
    journal.accepted[index]? = some path ∨
      acceptedPath runtime journal.scheduler.client event = some path := by
  rw [hnotes.accepted] at h
  by_cases hlt : index < journal.accepted.length
  · rw [List.getElem?_append_left hlt] at h
    exact .inl h
  · rw [List.getElem?_append_right (by omega)] at h
    right
    have hmem := List.mem_of_getElem? h
    rw [Option.mem_toList] at hmem
    exact hmem

theorem index_lt_of_accepted (h : journal.accepted[index]? = some path) :
    index < journal.accepted.length := by
  obtain ⟨hlt, -⟩ := List.getElem?_eq_some_iff.mp h
  exact hlt

/-- **One event loses no path.** -/
theorem Accounts.step (hfold : FoldsComponents runtime.toLocaleLowerCase)
    (h : journal.Accounts runtime.toLocaleLowerCase)
    (hplain : ∀ fileEvent, event = .fileEvent fileEvent → '\x00' ∉ fileEvent.path)
    (hstep : journal.step runtime event = some journal') :
    journal'.Accounts runtime.toLocaleLowerCase := by
  have hnotes := step_notes hstep
  obtain ⟨hsound, hkept⟩ := h
  -- an event that accepts no path has the same paths to account for
  have hold : (∀ fileEvent, event ≠ .fileEvent fileEvent) → ∀ index path,
      journal'.accepted[index]? = some path →
      journal.accepted[index]? = some path ∧
        journal.Kept runtime.toLocaleLowerCase index path := by
    intro hevent index path hpath
    rcases hnotes.accepted_cases hpath with hpath | hnew
    · exact ⟨hpath, hkept index path hpath⟩
    · rw [acceptedPath_eq_none hevent] at hnew
      cases hnew
  cases hnotes.moves with
  | goesOn hevent hscope hdirty hcurrent =>
    refine ⟨by rw [hdirty, hscope]; exact hsound, ?_⟩
    intro index path hpath
    exact (hold hevent index path hpath).2.goesOn hnotes hscope (by rw [hdirty]; exact id) hcurrent
  | @records fileEvent _ hscope hdirty hcurrent =>
    have hevent := hplain fileEvent rfl
    obtain ⟨hkeeps, haccepted⟩ := @record_keeps _ _ _ _ noNul_parentClosed hsound fileEvent
      fun path => repositoryRelativePath_noNul hevent
    refine ⟨by rw [hdirty, hscope]; exact hkeeps.keyed, ?_⟩
    intro index path hpath
    rcases hnotes.accepted_cases hpath with hpath | hnew
    · refine (hkept index path hpath).goesOn hnotes hscope ?_ hcurrent
      rw [hdirty]
      exact hkeeps.accounts (coversPath_accounting hfold _ path)
    · obtain ⟨htaken, hrelative⟩ := acceptedPath_fileEvent hnew
      refine .held ?_
      rw [hdirty, hscope]
      exact haccepted path hrelative (.inr htaken) (coversPath_accounting hfold _ path) rfl
  | issues hevent hidle hscope hdirty hcurrent hkind hopen =>
    refine ⟨by rw [hdirty, hscope]; exact hsound, ?_⟩
    intro index path hpath
    exact (hold hevent index path hpath).2.moves hnotes hscope
      (fun h => .held (by rw [hdirty, hscope]; exact h)) fun h => absurd hidle h.busy
  | @drains _ _ refresh hevent hidle hscope hdirty hcurrent hpending htargets hopen =>
    refine ⟨by rw [hdirty, hscope]; exact keyed_clear hsound.scope_eq, ?_⟩
    intro index path hpath
    obtain ⟨hpath, hwhere⟩ := hold hevent index path hpath
    refine hwhere.moves hnotes hscope (fun h => ?_) fun h => absurd hidle h.busy
    -- the path moves from the dirty set into the refresh
    have hclean : CleanlyCovered runtime.toLocaleLowerCase journal'.scheduler.client.scope
        refresh.pending path := by
      rw [hpending, hscope]
      exact h.covered hfold hsound
    have hcarried : Carried runtime.toLocaleLowerCase journal'.scheduler.client path :=
      ⟨refresh, hcurrent, hopen, coveredBy_targets hclean htargets, hclean⟩
    refine .carried hcarried ?_
    rw [hnotes.issued hidle hcarried.busy]
    exact index_lt_of_accepted hpath
  | drainsNothing hevent hidle hscope hdirty hnothing hcurrent =>
    refine ⟨by rw [hdirty, hscope]; exact keyed_clear hsound.scope_eq, ?_⟩
    intro index path hpath
    refine (hold hevent index path hpath).2.moves hnotes hscope (fun h => ?_) fun h =>
      absurd hidle h.busy
    obtain ⟨target, hmem, -⟩ := h.covered hfold hsound
    rw [hnothing] at hmem
    cases hmem
  | @fails _ refresh hcurrent hopen hscope hdirty hcurrent' =>
    obtain ⟨hkeeps, hmerged⟩ := mergeTargets_keeps hsound refresh.mergedBack
    refine ⟨by rw [hdirty, hscope]; exact hkeeps.keyed, ?_⟩
    intro index path hpath
    refine (hold (by simp) index path hpath).2.moves hnotes hscope (fun h => .held (by
      rw [hdirty, hscope]
      exact hkeeps.accounts (coversPath_accounting hfold _ path) h)) fun h _ => ?_
    -- the path moves back into the dirty set
    obtain ⟨carrying, hcarrying, -, -, hclean⟩ := h
    obtain rfl : refresh = carrying := Option.some.inj (hcurrent.symm.trans hcarrying)
    refine .held ?_
    rw [hdirty, hscope]
    obtain ⟨target, hmem, hplain, hcovers⟩ := hclean
    exact hmerged target (CurrentRefresh.mem_mergedBack hmem) hplain hcovers
  | @applies _ refresh delta hcurrent hopen hscope hdirty hcurrent' =>
    refine ⟨by rw [hdirty, hscope]; exact hsound, ?_⟩
    intro index path hpath
    refine (hold (by simp) index path hpath).2.moves hnotes hscope
      (fun h => .held (by rw [hdirty, hscope]; exact h)) fun h hissued => ?_
    obtain ⟨carrying, hcarrying, -, hcovered, -⟩ := h
    obtain rfl : refresh = carrying := Option.some.inj (hcurrent.symm.trans hcarrying)
    obtain ⟨_, happlied, hadded⟩ := hnotes.applied
    have htargets : appliedTargets .settle journal'.scheduler.client = some refresh.targets := by
      unfold appliedTargets
      rw [hcurrent']
    refine .refreshed ⟨⟨journal.issuedAt, refresh.targets⟩, ?_, hissued, hscope ▸ hcovered⟩
    rw [happlied]
    exact List.mem_append_right _ (hadded _ htargets)
  | @closes _ _ refresh hevent _ hcurrent hclosed hscope hdirty _ =>
    refine ⟨by rw [hdirty, hscope]; exact hsound, ?_⟩
    intro index path hpath
    refine (hold hevent index path hpath).2.moves hnotes hscope
      (fun h => .held (by rw [hdirty, hscope]; exact h)) fun h _ => ?_
    obtain ⟨carrying, hcarrying, hopen, -⟩ := h
    obtain rfl : refresh = carrying := Option.some.inj (hcurrent.symm.trans hcarrying)
    rw [hclosed] at hopen
    cases hopen

end Journal

/-! ## Every run -/

/-- **No dirty path is lost.**  The path of every accepted file event, as long as it has no NUL
character, is covered by the targets of the dirty set, by those of the refresh in flight, or by
those of a refresh that was issued later and whose delta was applied. -/
theorem no_dirty_path_lost {runtime : Runtime} (hfold : FoldsComponents runtime.toLocaleLowerCase)
    {scope : RepositoryWatchScope} {maxDirtyPaths : Option Int}
    {fullReconcileIntervalMs : Option Nat} {store : StatusSnapshotStore}
    {projection : SourceControlProjection} {transport : Transport} {events : List RefreshEvent}
    {journal : Journal}
    (hrun : run (Journal.step runtime) (.new (.register scope maxDirtyPaths fullReconcileIntervalMs
      store projection transport)) events = some journal)
    (hplain : ∀ event, RefreshEvent.fileEvent event ∈ events → '\x00' ∉ event.path)
    {index : Nat} {path : Text} (haccepted : journal.accepted[index]? = some path) :
    CoveredBy runtime.toLocaleLowerCase journal.scheduler.client.scope
        journal.scheduler.client.dirtyPaths.toRefreshTargets path ∨
      (∃ refresh, journal.scheduler.client.currentRefresh = some refresh ∧
        CoveredBy runtime.toLocaleLowerCase journal.scheduler.client.scope refresh.targets path) ∨
      ∃ refresh ∈ journal.applied, index < refresh.issuedAt ∧
        CoveredBy runtime.toLocaleLowerCase journal.scheduler.client.scope refresh.targets
          path := by
  have hinit : (Journal.new (.register scope maxDirtyPaths fullReconcileIntervalMs store projection
      transport)).Accounts runtime.toLocaleLowerCase :=
    ⟨keyed_new maxDirtyPaths, by intro index path h; cases h⟩
  have hfinal : journal.Accounts runtime.toLocaleLowerCase := by
    refine run_invariant ?_ hinit (along_of_forall_mem (p := fun event => ∀ fileEvent,
      event = .fileEvent fileEvent → '\x00' ∉ fileEvent.path) _ ?_) hrun
    · intro _ event _ hj hevent hstep
      exact hj.step hfold hevent hstep
    · rintro event hmem fileEvent rfl
      exact hplain fileEvent hmem
  exact (hfinal.kept index path haccepted).covered hfold hfinal.sound

namespace RefreshExample

def lostPath : Text := "x\x00files\x00y"

/-- The refresh of a changed file fails, then a refresh of other targets fails. -/
def losing : List RefreshEvent :=
  [.fileEvent ⟨"/wc/x\x00files\x00y", .change, 0⟩, .timer, .settle, .finish,
    .call (.refreshTargets 1 [⟨"x", .files, "y\x00empty\x00fileChanged"⟩] .absent)] ++ failing

/-- Where the path of the accepted event is at the end. -/
structure Whereabouts where
  accepted : List Text
  dirty : List StatusRefreshTarget
  idle : Bool
  applied : List AppliedRefresh
deriving DecidableEq

def whereabouts (journal : Journal) : Whereabouts where
  accepted := journal.accepted
  dirty := journal.scheduler.client.dirtyPaths.toRefreshTargets
  idle := journal.scheduler.client.currentRefresh.isNone
  applied := journal.applied

/-- **A path with NUL characters is lost**: the target that covers it shares its key with another
target, which is merged back in its place. -/
theorem nul_path_is_lost :
    (run (Journal.step runtime) (.new registered) losing).map whereabouts =
      some ⟨[lostPath], [⟨"x", .files, "y\x00empty\x00fileChanged"⟩], true, []⟩ ∧
    ¬ CoveredBy runtime.toLocaleLowerCase scope [⟨"x", .files, "y\x00empty\x00fileChanged"⟩]
      lostPath := by
  refine ⟨by decide +kernel, by decide +kernel⟩

/-- The refresh of a changed file fails, and the next one is under way. -/
def keeping : List RefreshEvent :=
  [.fileEvent ⟨"/wc/a.txt", .change, 0⟩, .timer] ++ failing ++ [.call (.flush .absent)]

def kept : Journal := (run (Journal.step runtime) (.new registered) keeping).get (by decide +kernel)

theorem failed_refresh_keeps_path :
    CoveredBy runtime.toLocaleLowerCase kept.scheduler.client.scope
        kept.scheduler.client.dirtyPaths.toRefreshTargets "a.txt" ∨
      (∃ refresh, kept.scheduler.client.currentRefresh = some refresh ∧
        CoveredBy runtime.toLocaleLowerCase kept.scheduler.client.scope refresh.targets "a.txt") ∨
      ∃ refresh ∈ kept.applied, 0 < refresh.issuedAt ∧
        CoveredBy runtime.toLocaleLowerCase kept.scheduler.client.scope refresh.targets
          "a.txt" := by
  have hrun : run (Journal.step runtime) (.new registered) keeping = some kept :=
    (Option.some_get _).symm
  have hplain : ∀ event, RefreshEvent.fileEvent event ∈ keeping → '\x00' ∉ event.path := by
    intro event hmem
    simp only [keeping, failing, List.cons_append, List.nil_append, List.mem_cons,
      RefreshEvent.fileEvent.injEq, reduceCtorEq, List.not_mem_nil, or_false] at hmem
    rw [hmem]
    decide
  exact no_dirty_path_lost foldsComponents_id hrun hplain (by decide +kernel)

end RefreshExample

end SubversionR

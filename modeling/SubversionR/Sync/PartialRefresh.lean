import SubversionR.Sync.Snapshot

/-!
# Partial refresh — scanning what changed against scanning everything

The purpose of a refresh: after the working copy went from `W₀` to `W₁`, scanning only targets that
cover the difference should leave the session with what a scan of the whole of `W₁` would show
(`WorkingCopy.project`).

* `RefreshInvariant` — what holds between two scans of a refresh: a path at which the working
  copies agree, or that a target covering both its entries has dealt with, shows the entry of `W₁`
  unless it is a hidden conflict artifact;
* `refreshInvariant_mergeScan`, `refreshInvariant_foldl` — one scan, and a whole refresh;
* `partial_refresh_refines` — the entries after the refresh: those of `project W₁`, less the
  unversioned ones the previous entries list as conflict artifacts.
-/

namespace SubversionR

open KeyedMaps KeyedMap
open scoped Classical

/-! ## Working copies -/

/-- A working copy: the status entry at each path. -/
structure WorkingCopy where
  entry : Text → Option StatusEntry
  keyed : ∀ {p : Text} {e : StatusEntry}, entry p = some e → e.path = p

/-- The entry is in the scope of the target. -/
def StatusRefreshTarget.Covers (target : StatusRefreshTarget) (e : StatusEntry) : Prop :=
  coverageMatches target.path target.depth e = true

namespace WorkingCopy

/-- Some entry lists `p` as one of its conflict artifacts. -/
def Lists (W : WorkingCopy) (p : Text) : Prop := ∃ q e, W.entry q = some e ∧ p ∈ e.conflictArtifacts

/-- Some entry in the scope of the target lists `p`. -/
def ScanLists (W : WorkingCopy) (target : StatusRefreshTarget) (p : Text) : Prop :=
  ∃ q e, W.entry q = some e ∧ target.Covers e ∧ p ∈ e.conflictArtifacts

/-- Some entry that survives the pruning of the target's scan lists `p`. -/
def PrunedScanLists (W : WorkingCopy) (target : StatusRefreshTarget) (p : Text) : Prop :=
  ∃ q e, W.entry q = some e ∧ target.Covers e ∧
    ¬(e.localStatus = "unversioned" ∧ W.ScanLists target e.path) ∧ p ∈ e.conflictArtifacts

/-- The projectable entries that are not hidden conflict artifacts. -/
noncomputable def visible (W : WorkingCopy) (hidden : StatusEntry → Prop) (p : Text) :
    Option StatusEntry :=
  (W.entry p).filter fun e =>
    decide (isProjectableStatus e = true ∧ ¬(e.localStatus = "unversioned" ∧ hidden e))

/-- What a session should show: the projectable entries, minus every unversioned entry whose path
some entry lists as a conflict artifact. -/
noncomputable def project (W : WorkingCopy) (p : Text) : Option StatusEntry :=
  W.visible (fun e => W.Lists e.path) p

/-- The bridge's answer for a target: exactly the covered entries. -/
def IsScan (W : WorkingCopy) (target : StatusRefreshTarget) (entries : List StatusEntry) : Prop :=
  ∀ e, e ∈ entries ↔ W.entry e.path = some e ∧ target.Covers e

/-- Only entries that are kept and versioned list conflict artifacts. -/
def ArtifactOwnersKept (W : WorkingCopy) : Prop :=
  ∀ p e, W.entry p = some e → e.conflictArtifacts ≠ [] →
    isProjectableStatus e = true ∧ e.localStatus ≠ "unversioned"

end WorkingCopy

open WorkingCopy

/-- Equal apart from the generation the entries were reported in. -/
def SameEntry (a b : Option StatusEntry) : Prop :=
  a.map (StatusEntry.stamp 0) = b.map (StatusEntry.stamp 0)

theorem SameEntry.refl (a : Option StatusEntry) : SameEntry a a := Eq.refl _

theorem sameEntry_none {a : Option StatusEntry} : SameEntry a none ↔ a = none := by
  simp [SameEntry]

section

variable {e : StatusEntry}

theorem sameEntry_some {a : Option StatusEntry} :
    SameEntry a (some e) ↔ ∃ g, a = some (e.stamp g) := by
  constructor
  · intro h
    cases a with
    | none => cases h
    | some e' =>
      have hstamp : e'.stamp 0 = e.stamp 0 := Option.some.inj h
      refine ⟨e'.generation, congrArg some ?_⟩
      have hself : e' = (e'.stamp 0).stamp e'.generation := rfl
      rw [hself, hstamp]
      rfl
  · intro ⟨g, hg⟩
    rw [hg]
    rfl

/-! ## One scan of the working copy -/

section Scan

variable {platform : Platform} {session : RepositorySession} {W : WorkingCopy}
  {target : StatusRefreshTarget} {entries : List StatusEntry}

theorem mem_conflictArtifactPaths_of_isScan (hscan : W.IsScan target entries) {p : Text} :
    p ∈ conflictArtifactPaths entries ↔ W.ScanLists target p := by
  rw [mem_conflictArtifactPaths_iff]
  constructor
  · intro ⟨e, he, hp⟩
    obtain ⟨hentry, hcovers⟩ := (hscan e).mp he
    exact ⟨e.path, e, hentry, hcovers, hp⟩
  · intro ⟨_, e, hentry, hcovers, hp⟩
    have hpath := W.keyed hentry
    subst hpath
    exact ⟨e, (hscan e).mpr ⟨hentry, hcovers⟩, hp⟩

section

variable (hroots : session.boundaryRoots.roots = [])

include hroots

/-- Without boundary roots, the scan reports the covered entries that are not conflict artifacts
of covered entries. -/
theorem mem_reportedEntries_of_isScan (hscan : W.IsScan target entries) {e : StatusEntry} :
    e ∈ session.reportedEntries platform entries ↔
      ∃ e₀, W.entry e₀.path = some e₀ ∧ target.Covers e₀ ∧
        ¬(e₀.localStatus = "unversioned" ∧ W.ScanLists target e₀.path) ∧
        e = e₀.stamp session.nextGeneration := by
  have hall : outsideBoundaries platform session.boundaryRoots entries = entries :=
    outsideBoundaries_of_isEmpty (List.isEmpty_iff.mpr hroots) entries
  rw [mem_reportedEntries_iff, hall]
  refine exists_congr fun e₀ => ?_
  rw [hscan, notConflictArtifact_iff, mem_conflictArtifactPaths_of_isScan hscan, not_and,
    and_assoc]

theorem mem_conflictArtifactPaths_reportedEntries (hscan : W.IsScan target entries) {p : Text} :
    p ∈ conflictArtifactPaths (session.reportedEntries platform entries) ↔
      W.PrunedScanLists target p := by
  rw [mem_conflictArtifactPaths_iff]
  constructor
  · intro ⟨_, he, hp⟩
    obtain ⟨e₀, hentry, hcovers, hnot, rfl⟩ := (mem_reportedEntries_of_isScan hroots hscan).mp he
    exact ⟨e₀.path, e₀, hentry, hcovers, hnot, hp⟩
  · intro ⟨_, e₀, hentry, hcovers, hnot, hp⟩
    have hpath := W.keyed hentry
    subst hpath
    exact ⟨_, (mem_reportedEntries_of_isScan hroots hscan).mpr ⟨e₀, hentry, hcovers, hnot, rfl⟩,
      hp⟩

/-- The entry a scan reports at a path, after the filter of the refresh. -/
theorem lastWithKey_reportedEntries (hscan : W.IsScan target entries) (artifactPaths : List Text)
    (p : Text) :
    lastWithKey StatusEntry.path ((session.reportedEntries platform entries).filter
        (notConflictArtifact artifactPaths)) p =
      ((W.entry p).filter fun e => decide (target.Covers e ∧
        ¬(e.localStatus = "unversioned" ∧ (W.ScanLists target p ∨ p ∈ artifactPaths)))).map
        (StatusEntry.stamp session.nextGeneration) := by
  have hmem : ∀ e, e ∈ (session.reportedEntries platform entries).filter
      (notConflictArtifact artifactPaths) ↔
      ∃ e₀, W.entry e₀.path = some e₀ ∧ target.Covers e₀ ∧
        ¬(e₀.localStatus = "unversioned" ∧
          (W.ScanLists target e₀.path ∨ e₀.path ∈ artifactPaths)) ∧
        e = e₀.stamp session.nextGeneration := by
    intro e
    rw [List.mem_filter, mem_reportedEntries_of_isScan hroots hscan]
    constructor
    · intro ⟨⟨e₀, hentry, hcovers, hnot, hstamp⟩, hfilter⟩
      subst hstamp
      rw [notConflictArtifact_iff] at hfilter
      refine ⟨e₀, hentry, hcovers, ?_, rfl⟩
      rintro ⟨hstatus, hlists | hmem⟩
      · exact hnot ⟨hstatus, hlists⟩
      · exact hfilter hstatus hmem
    · intro ⟨e₀, hentry, hcovers, hnot, hstamp⟩
      subst hstamp
      refine ⟨⟨e₀, hentry, hcovers, fun h => hnot ⟨h.1, .inl h.2⟩, rfl⟩, ?_⟩
      rw [notConflictArtifact_iff]
      intro hstatus hmem
      exact hnot ⟨hstatus, .inr hmem⟩
  -- paths are unique in `W`, so the last entry with the key is the only one
  cases hlast : lastWithKey StatusEntry.path ((session.reportedEntries platform entries).filter
      (notConflictArtifact artifactPaths)) p with
  | some e =>
    obtain ⟨he, hpath⟩ := lastWithKey_mem hlast
    obtain ⟨e₀, hentry, hcovers, hnot, rfl⟩ := (hmem e).mp he
    rw [StatusEntry.stamp_path] at hpath
    subst hpath
    rw [hentry, Option.filter_some, if_pos (decide_eq_true ⟨hcovers, hnot⟩), Option.map_some]
  | none =>
    rw [lastWithKey_eq_none_iff] at hlast
    symm
    rw [Option.map_eq_none_iff, Option.filter_eq_none_iff]
    intro e₀ hentry hdecide
    obtain ⟨hcovers, hnot⟩ := of_decide_eq_true hdecide
    have hpath := W.keyed hentry
    subst hpath
    exact hlast _ ((hmem _).mpr ⟨e₀, hentry, hcovers, hnot, rfl⟩) rfl

end

end Scan

/-! ## The invariant of a refresh

`done` lists the targets already merged, the latest first. -/

/-- The last scan that spoke about the entry lists its path, or no scan did and the old working
copy lists it. -/
def HiddenByLastScan (W₀ W₁ : WorkingCopy) (e : StatusEntry) : List StatusRefreshTarget → Prop
  | [] => W₀.Lists e.path
  | target :: earlier =>
    (target.Covers e ∧ W₁.ScanLists target e.path) ∨
      (¬target.Covers e ∧ HiddenByLastScan W₀ W₁ e earlier)

/-- An unversioned entry at this path is hidden after the targets `done`: the path is listed by
what the session showed before, by what some scan kept, or by the last scan that spoke about it. -/
def Hidden (W₀ W₁ : WorkingCopy) (done : List StatusRefreshTarget) (e : StatusEntry) : Prop :=
  (∃ q o, W₀.project q = some o ∧ e.path ∈ o.conflictArtifacts) ∨
    (∃ target ∈ done, W₁.PrunedScanLists target e.path) ∨ HiddenByLastScan W₀ W₁ e done

/-- A target covers whatever entry the old and the new working copy have at `p`. -/
def CoversPath (W₀ W₁ : WorkingCopy) (target : StatusRefreshTarget) (p : Text) : Prop :=
  (∀ e, W₀.entry p = some e → target.Covers e) ∧ ∀ e, W₁.entry p = some e → target.Covers e

/-- What holds after the targets `done` are merged. -/
structure RefreshInvariant (W₀ W₁ : WorkingCopy) (done : List StatusRefreshTarget)
    (state : RefreshState) : Prop where
  artifactPaths : ∀ p, p ∈ state.artifactPaths ↔
    (∃ q o, W₀.project q = some o ∧ p ∈ o.conflictArtifacts) ∨
      ∃ target ∈ done, W₁.PrunedScanLists target p
  /-- An entry that is still there is the old or the new one. -/
  origin : ∀ p e, state.nextEntries.get? p = some e →
    SameEntry (some e) (W₀.entry p) ∨ SameEntry (some e) (W₁.entry p)
  /-- A path that is dealt with shows the new working copy. -/
  settled : ∀ p, (W₀.entry p = W₁.entry p ∨ ∃ target ∈ done, CoversPath W₀ W₁ target p) →
    SameEntry (state.nextEntries.get? p) (W₁.visible (Hidden W₀ W₁ done) p)

variable {W : WorkingCopy} {hidden : StatusEntry → Prop} {p : Text}

theorem WorkingCopy.visible_of_entry_none (h : W.entry p = none) : W.visible hidden p = none := by
  unfold visible
  rw [h]
  rfl

theorem WorkingCopy.visible_of_pos (h : W.entry p = some e) (hproj : isProjectableStatus e = true)
    (hshown : ¬(e.localStatus = "unversioned" ∧ hidden e)) : W.visible hidden p = some e := by
  unfold visible
  rw [h, Option.filter_some, if_pos (decide_eq_true ⟨hproj, hshown⟩)]

theorem WorkingCopy.visible_of_neg (h : W.entry p = some e)
    (hnot : ¬(isProjectableStatus e = true ∧ ¬(e.localStatus = "unversioned" ∧ hidden e))) :
    W.visible hidden p = none := by
  unfold visible
  rw [h, Option.filter_some, if_neg (by rw [decide_eq_false hnot]; exact Bool.false_ne_true)]

theorem WorkingCopy.visible_eq_some (h : W.visible hidden p = some e) :
    W.entry p = some e ∧ isProjectableStatus e = true ∧
      ¬(e.localStatus = "unversioned" ∧ hidden e) := by
  obtain ⟨hentry, hdecide⟩ := Option.filter_eq_some_iff.mp h
  exact ⟨hentry, of_decide_eq_true hdecide⟩

/-- Visibility only depends on what is hidden among the unversioned entries. -/
theorem WorkingCopy.visible_congr {hidden' : StatusEntry → Prop}
    (h : ∀ e, W.entry p = some e → e.localStatus = "unversioned" → (hidden e ↔ hidden' e)) :
    W.visible hidden p = W.visible hidden' p := by
  cases hentry : W.entry p with
  | none => rw [visible_of_entry_none hentry, visible_of_entry_none hentry]
  | some e =>
    unfold visible
    rw [hentry, Option.filter_some, Option.filter_some]
    have hiff : (isProjectableStatus e = true ∧ ¬(e.localStatus = "unversioned" ∧ hidden e)) ↔
        (isProjectableStatus e = true ∧ ¬(e.localStatus = "unversioned" ∧ hidden' e)) := by
      refine and_congr_right fun _ => not_congr (and_congr_right fun hstatus => ?_)
      exact h e hentry hstatus
    rw [decide_eq_decide.mpr hiff]

variable {W₀ W₁ : WorkingCopy} {session : RepositorySession}

/-- **Before the first scan** the invariant holds: the session shows the old working copy, and what
its entries list is listed there. -/
theorem refreshInvariant_start
    (hsession : ∀ p, SameEntry (session.localEntries.get? p) (W₀.project p)) :
    RefreshInvariant W₀ W₁ [] session.refreshState := by
  refine ⟨?_, ?_, ?_⟩
  · intro p
    show p ∈ conflictArtifactPaths session.localEntries.values ↔ _
    rw [mem_conflictArtifactPaths_iff]
    constructor
    · intro ⟨e, he, hp⟩
      have hget := mem_values_iff.mp he
      have hsame := hsession e.path
      rw [hget] at hsame
      cases hproj : W₀.project e.path with
      | none => rw [hproj] at hsame; cases hsame
      | some o =>
        rw [hproj, sameEntry_some] at hsame
        obtain ⟨g, hg⟩ := hsame
        rw [Option.some.inj hg] at hp
        exact .inl ⟨e.path, o, hproj, hp⟩
    · rintro (⟨q, o, hproj, hp⟩ | ⟨_, hnil, -⟩)
      · have hsame := hsession q
        rw [hproj, sameEntry_some] at hsame
        obtain ⟨g, hg⟩ := hsame
        exact ⟨o.stamp g, mem_values_of_get? hg, hp⟩
      · cases hnil
  · intro p e hget
    have hsame := hsession p
    have hget' : session.localEntries.get? p = some e := hget
    rw [hget'] at hsame
    cases hproj : W₀.project p with
    | none => rw [hproj] at hsame; cases hsame
    | some o =>
      rw [hproj] at hsame
      rw [(visible_eq_some hproj).1]
      exact .inl hsame
  · rintro p (heq | ⟨_, hnil, -⟩)
    · show SameEntry (session.localEntries.get? p) _
      -- what the session's entries list, the old working copy lists
      have hvisible : W₁.visible (Hidden W₀ W₁ []) p = W₀.project p := by
        have hwc : W₁.visible (Hidden W₀ W₁ []) p = W₀.visible (Hidden W₀ W₁ []) p := by
          unfold visible
          rw [heq]
        rw [hwc]
        refine visible_congr ?_
        intro e _ _
        constructor
        · rintro (⟨q, o, hproj, hp⟩ | ⟨_, hnil, -⟩ | hlists)
          · exact ⟨q, o, (visible_eq_some hproj).1, hp⟩
          · cases hnil
          · exact hlists
        · intro hlists
          exact .inr (.inr hlists)
      rw [hvisible]
      exact hsession p
    · cases hnil

/-! ## One scan keeps the invariant -/

section Step

variable {platform : Platform} {session : RepositorySession} {W₀ W₁ : WorkingCopy}
  {done : List StatusRefreshTarget} {state : RefreshState} {target : StatusRefreshTarget}
  {result : StatusSnapshot}

/-- The artifact paths known once the scan is merged. -/
def mergedArtifactPaths (platform : Platform) (session : RepositorySession) (state : RefreshState)
    (result : StatusSnapshot) : List Text :=
  state.artifactPaths ++
    conflictArtifactPaths (session.reportedEntries platform result.localEntries)

variable {p : Text}

theorem mem_mergedArtifactPaths_iff (hroots : session.boundaryRoots.roots = [])
    (hinv : RefreshInvariant W₀ W₁ done state) (hscan : W₁.IsScan target result.localEntries) :
    p ∈ mergedArtifactPaths platform session state result ↔
      (∃ q o, W₀.project q = some o ∧ p ∈ o.conflictArtifacts) ∨
        ∃ t ∈ target :: done, W₁.PrunedScanLists t p := by
  unfold mergedArtifactPaths
  rw [List.mem_append, hinv.artifactPaths, mem_conflictArtifactPaths_reportedEntries hroots hscan]
  simp only [List.mem_cons, exists_eq_or_imp]
  rw [or_assoc]
  exact or_congr_right or_comm

variable {e : StatusEntry}

/-- A path the scan reports takes the new entry. -/
theorem get?_mergeScan_reported (hroots : session.boundaryRoots.roots = [])
    (hscan : W₁.IsScan target result.localEntries) (hentry : W₁.entry p = some e)
    (hcovers : target.Covers e)
    (hshown : ¬(e.localStatus = "unversioned" ∧ (W₁.ScanLists target p ∨
      p ∈ mergedArtifactPaths platform session state result))) :
    (state.mergeScan session.nextGeneration
        (target, session.prepareScan platform result)).nextEntries.get? p =
      if isProjectableStatus e then some (e.stamp session.nextGeneration) else none := by
  rw [get?_mergeScan, prepareScan_localEntries, lastWithKey_reportedEntries hroots hscan, hentry,
    Option.filter_some, if_pos (decide_eq_true ⟨hcovers, hshown⟩)]
  rfl

/-- A path the scan does not report keeps its entry unless the entry is a conflict artifact or the
target covers it. -/
theorem get?_mergeScan_unreported (hroots : session.boundaryRoots.roots = [])
    (hscan : W₁.IsScan target result.localEntries)
    (hunreported : ∀ e, W₁.entry p = some e → target.Covers e →
      e.localStatus = "unversioned" ∧ (W₁.ScanLists target p ∨
        p ∈ mergedArtifactPaths platform session state result)) :
    (state.mergeScan session.nextGeneration
        (target, session.prepareScan platform result)).nextEntries.get? p =
      (state.nextEntries.get? p).filter fun e =>
        notConflictArtifact (mergedArtifactPaths platform session state result) e
          && !coverageMatches target.path target.depth e := by
  have hnone : (W₁.entry p).filter (fun e => decide (target.Covers e ∧
      ¬(e.localStatus = "unversioned" ∧ (W₁.ScanLists target p ∨
        p ∈ mergedArtifactPaths platform session state result)))) = none := by
    rw [Option.filter_eq_none_iff]
    intro e hentry hdecide
    obtain ⟨hcovers, hnot⟩ := of_decide_eq_true hdecide
    exact hnot (hunreported e hentry hcovers)
  rw [get?_mergeScan, prepareScan_localEntries, lastWithKey_reportedEntries hroots hscan]
  unfold mergedArtifactPaths at hnone
  rw [hnone]
  rfl

variable {x : StatusEntry}

theorem covers_of_sameEntry (hsame : SameEntry (some x) (some e)) (hcovers : target.Covers e) :
    target.Covers x := by
  obtain ⟨_, hg⟩ := sameEntry_some.mp hsame
  rw [Option.some.inj hg]
  exact hcovers

/-- An unreported path that the target deals with is empty afterwards: whatever entry was left
there is covered. -/
theorem get?_mergeScan_swept (hroots : session.boundaryRoots.roots = [])
    (hscan : W₁.IsScan target result.localEntries)
    (hunreported : ∀ e, W₁.entry p = some e → target.Covers e →
      e.localStatus = "unversioned" ∧ (W₁.ScanLists target p ∨
        p ∈ mergedArtifactPaths platform session state result))
    (hleft : ∀ x, state.nextEntries.get? p = some x → target.Covers x) :
    (state.mergeScan session.nextGeneration
        (target, session.prepareScan platform result)).nextEntries.get? p = none := by
  rw [get?_mergeScan_unreported hroots hscan hunreported, Option.filter_eq_none_iff]
  intro x hx
  have hcovers : coverageMatches target.path target.depth x = true := hleft x hx
  rw [hcovers, Bool.not_true, Bool.and_false]
  exact Bool.false_ne_true

/-- What is left at a path that is dealt with, if the target covers its new entry. -/
theorem covers_left (hinv : RefreshInvariant W₀ W₁ done state)
    (hcovers : ∀ e, W₁.entry p = some e → target.Covers e)
    (hdealt : W₀.entry p = W₁.entry p ∨ ∃ t ∈ target :: done, CoversPath W₀ W₁ t p)
    (hx : state.nextEntries.get? p = some x) : target.Covers x := by
  -- the old entry can only be left when the target is the first to cover the path
  have hbefore : (W₀.entry p = W₁.entry p ∨ ∃ t ∈ done, CoversPath W₀ W₁ t p) →
      target.Covers x := by
    intro hsettled
    have hsame := hinv.settled p hsettled
    rw [hx] at hsame
    cases hvisible : W₁.visible (Hidden W₀ W₁ done) p with
    | none => rw [hvisible] at hsame; cases hsame
    | some e =>
      rw [hvisible] at hsame
      exact covers_of_sameEntry hsame (hcovers e (visible_eq_some hvisible).1)
  have hleft : ∀ {W : WorkingCopy}, SameEntry (some x) (W.entry p) →
      (∀ e, W.entry p = some e → target.Covers e) → target.Covers x := by
    intro W hsame hcovers
    cases hentry : W.entry p with
    | none => rw [hentry] at hsame; cases hsame
    | some e =>
      rw [hentry] at hsame
      exact covers_of_sameEntry hsame (hcovers e hentry)
  rcases hdealt with heq | ⟨t, ht, hpath⟩
  · exact hbefore (.inl heq)
  · rcases List.mem_cons.mp ht with rfl | hmem
    · exact (hinv.origin p x hx).elim (hleft · hpath.1) (hleft · hcovers)
    · exact hbefore (.inr ⟨t, hmem, hpath⟩)

theorem hidden_cons_iff (platform : Platform) (hroots : session.boundaryRoots.roots = [])
    (hinv : RefreshInvariant W₀ W₁ done state) (hscan : W₁.IsScan target result.localEntries) :
    Hidden W₀ W₁ (target :: done) e ↔
      e.path ∈ mergedArtifactPaths platform session state result ∨
        (target.Covers e ∧ W₁.ScanLists target e.path) ∨
        (¬target.Covers e ∧ HiddenByLastScan W₀ W₁ e done) := by
  rw [mem_mergedArtifactPaths_iff hroots hinv hscan, or_assoc]
  exact Iff.rfl

/-- What the target hides stays hidden under further targets that do not cover it. -/
theorem hidden_cons_of_hidden (hcovers : ¬target.Covers e) (h : Hidden W₀ W₁ done e) :
    Hidden W₀ W₁ (target :: done) e := by
  rcases h with hprev | ⟨t, ht, hlists⟩ | hlast
  · exact .inl hprev
  · exact .inr (.inl ⟨t, List.mem_cons_of_mem _ ht, hlists⟩)
  · exact .inr (.inr (.inr ⟨hcovers, hlast⟩))

section

variable (hroots : session.boundaryRoots.roots = [])
  (hinv : RefreshInvariant W₀ W₁ done state) (hscan : W₁.IsScan target result.localEntries)

include hroots hinv hscan

/-- An entry that is still there after the scan is the old or the new one. -/
theorem origin_mergeScan
    (hx : (state.mergeScan session.nextGeneration
      (target, session.prepareScan platform result)).nextEntries.get? p = some x) :
    SameEntry (some x) (W₀.entry p) ∨ SameEntry (some x) (W₁.entry p) := by
  by_cases hreported : ∃ e, W₁.entry p = some e ∧ target.Covers e ∧
      ¬(e.localStatus = "unversioned" ∧ (W₁.ScanLists target p ∨
        p ∈ mergedArtifactPaths platform session state result))
  · obtain ⟨e, hentry, hcovers, hshown⟩ := hreported
    rw [get?_mergeScan_reported hroots hscan hentry hcovers hshown] at hx
    split at hx
    · refine .inr ?_
      rw [hentry, ← Option.some.inj hx]
      rfl
    · cases hx
  · rw [get?_mergeScan_unreported hroots hscan (by
      intro e hentry hcovers
      by_contra hnot
      exact hreported ⟨e, hentry, hcovers, hnot⟩)] at hx
    exact hinv.origin p x (Option.filter_eq_some_iff.mp hx).1

/-- A path that is empty in the new working copy: an old entry is covered by the target that deals
with the path. -/
theorem settled_mergeScan_absent (hentry : W₁.entry p = none)
    (hdealt : W₀.entry p = W₁.entry p ∨ ∃ t ∈ target :: done, CoversPath W₀ W₁ t p) :
    (state.mergeScan session.nextGeneration
      (target, session.prepareScan platform result)).nextEntries.get? p = none := by
  have hvacuous : ∀ {P : StatusEntry → Prop}, ∀ e, W₁.entry p = some e → P e := by
    intro P e he
    rw [hentry] at he
    cases he
  exact get?_mergeScan_swept hroots hscan hvacuous fun x => covers_left hinv hvacuous hdealt

/-- A path whose new entry the target covers. -/
theorem settled_mergeScan_covered (hentry : W₁.entry e.path = some e) (hcovers : target.Covers e)
    (hdealt : W₀.entry e.path = W₁.entry e.path ∨ ∃ t ∈ target :: done, CoversPath W₀ W₁ t e.path) :
    SameEntry
      ((state.mergeScan session.nextGeneration
        (target, session.prepareScan platform result)).nextEntries.get? e.path)
      (W₁.visible (Hidden W₀ W₁ (target :: done)) e.path) := by
  have hhidden := hidden_cons_iff platform hroots hinv hscan (e := e)
  by_cases hhid : e.localStatus = "unversioned" ∧ (W₁.ScanLists target e.path ∨
      e.path ∈ mergedArtifactPaths platform session state result)
  · -- the entry is a conflict artifact: not reported, and what was there is swept
    rw [get?_mergeScan_swept hroots hscan (fun e' he' _ => by
        rw [hentry] at he'; cases he'; exact hhid)
      (fun x => covers_left hinv (fun e' he' => by rw [hentry] at he'; cases he'; exact hcovers)
        hdealt)]
    rw [visible_of_neg hentry]
    · exact SameEntry.refl none
    · intro ⟨_, hshown⟩
      refine hshown ⟨hhid.1, hhidden.mpr ?_⟩
      rcases hhid.2 with hlists | hmem
      · exact .inr (.inl ⟨hcovers, hlists⟩)
      · exact .inl hmem
  · rw [get?_mergeScan_reported hroots hscan hentry hcovers hhid]
    split
    · rename_i hproj
      rw [visible_of_pos hentry hproj]
      · exact sameEntry_some.mpr ⟨_, rfl⟩
      · intro ⟨hstatus, hh⟩
        rcases hhidden.mp hh with hmem | ⟨-, hlists⟩ | ⟨hnot, -⟩
        · exact hhid ⟨hstatus, .inr hmem⟩
        · exact hhid ⟨hstatus, .inl hlists⟩
        · exact hnot hcovers
    · rename_i hproj
      rw [visible_of_neg hentry fun h => hproj h.1]
      exact SameEntry.refl none

/-- A path whose new entry the target does not cover: the scan can only reveal the entry to be a
conflict artifact. -/
theorem settled_mergeScan_uncovered (hentry : W₁.entry e.path = some e) (hcovers : ¬target.Covers e)
    (hsame : SameEntry (state.nextEntries.get? e.path) (W₁.visible (Hidden W₀ W₁ done) e.path)) :
    SameEntry
      ((state.mergeScan session.nextGeneration
        (target, session.prepareScan platform result)).nextEntries.get? e.path)
      (W₁.visible (Hidden W₀ W₁ (target :: done)) e.path) := by
  have hhidden := hidden_cons_iff platform hroots hinv hscan (e := e)
  rw [get?_mergeScan_unreported hroots hscan (fun e' he' hc => by
    rw [hentry] at he'; cases he'; exact absurd hc hcovers)]
  -- an uncovered entry keeps its place unless this scan makes it an artifact
  by_cases hshown : isProjectableStatus e = true ∧
      ¬(e.localStatus = "unversioned" ∧ Hidden W₀ W₁ done e)
  · rw [visible_of_pos hentry hshown.1 hshown.2] at hsame
    obtain ⟨g, hg⟩ := sameEntry_some.mp hsame
    have hnotcov : coverageMatches target.path target.depth (e.stamp g) = false := by
      simpa [StatusRefreshTarget.Covers] using hcovers
    rw [hg, Option.filter_some, hnotcov, Bool.not_false, Bool.and_true]
    by_cases hart : e.localStatus = "unversioned" ∧
        e.path ∈ mergedArtifactPaths platform session state result
    · rw [if_neg, visible_of_neg hentry]
      · exact SameEntry.refl none
      · exact fun h => h.2 ⟨hart.1, hhidden.mpr (.inl hart.2)⟩
      · rw [notConflictArtifact_iff]
        exact fun h => h hart.1 hart.2
    · rw [if_pos, visible_of_pos hentry hshown.1]
      · exact sameEntry_some.mpr ⟨g, rfl⟩
      · intro ⟨hstatus, hh⟩
        rcases hhidden.mp hh with hmem | ⟨hc, -⟩ | ⟨-, hlast⟩
        · exact hart ⟨hstatus, hmem⟩
        · exact hcovers hc
        · exact hshown.2 ⟨hstatus, .inr (.inr hlast)⟩
      · rw [notConflictArtifact_iff]
        exact fun hstatus hmem => hart ⟨hstatus, hmem⟩
  · rw [visible_of_neg hentry hshown, sameEntry_none] at hsame
    rw [hsame, visible_of_neg hentry]
    · exact SameEntry.refl none
    · intro ⟨hproj, hnot⟩
      refine hshown ⟨hproj, fun ⟨hstatus, hh⟩ => ?_⟩
      exact hnot ⟨hstatus, hidden_cons_of_hidden hcovers hh⟩

/-- **One scan.** -/
theorem refreshInvariant_mergeScan :
    RefreshInvariant W₀ W₁ (target :: done)
      (state.mergeScan session.nextGeneration
        (target, session.prepareScan platform result)) := by
  refine ⟨?_, fun p x hx => origin_mergeScan hroots hinv hscan hx, ?_⟩
  · intro p
    rw [← mem_mergedArtifactPaths_iff hroots hinv hscan]
    show p ∈ state.artifactPaths ++ conflictArtifactPaths
      (session.prepareScan platform result).localEntries ↔ _
    rw [prepareScan_localEntries]
    exact Iff.rfl
  · intro p hdealt
    cases hentry : W₁.entry p with
    | none =>
      rw [settled_mergeScan_absent hroots hinv hscan hentry hdealt,
        visible_of_entry_none hentry]
      exact SameEntry.refl none
    | some e =>
      obtain rfl : e.path = p := W₁.keyed hentry
      by_cases hcovers : target.Covers e
      · exact settled_mergeScan_covered hroots hinv hscan hentry hcovers hdealt
      · refine settled_mergeScan_uncovered hroots hinv hscan hentry hcovers ?_
        -- the target says nothing about the path, so an earlier one dealt with it
        rcases hdealt with heq | ⟨t, ht, hpath⟩
        · exact hinv.settled e.path (.inl heq)
        · rcases List.mem_cons.mp ht with rfl | hmem
          · exact absurd (hpath.2 e hentry) hcovers
          · exact hinv.settled e.path (.inr ⟨t, hmem, hpath⟩)

end

end Step

/-! ## A whole refresh -/

/-- The scans of a refresh, when each bridge call answers with the covered entries of `W`. -/
def ScansOf (platform : Platform) (session : RepositorySession) (W : WorkingCopy)
    (targets : List StatusRefreshTarget) (scans : List (StatusRefreshTarget × StatusSnapshot)) :
    Prop :=
  List.Forall₂ (fun target scan => ∃ result : StatusSnapshot,
    W.IsScan target result.localEntries ∧ scan = (target, session.prepareScan platform result))
    targets scans

variable {targets : List StatusRefreshTarget}

theorem scansOf_of_scanTargets {platform : Platform} {bridge : StatusBridge} {call : Nat}
    {scans : List (StatusRefreshTarget × StatusSnapshot)}
    (hbridge : ∀ i target result, targets[i]? = some target →
      bridge.statusScan (call + i) session.identity target.path target.depth
        session.nextGeneration = .ok result → W.IsScan target result.localEntries)
    (hscans : session.scanTargets platform bridge call targets = .ok scans) :
    ScansOf platform session W targets scans := by
  induction targets generalizing call scans with
  | nil =>
    cases hscans
    exact .nil
  | cons target rest ih =>
    unfold RepositorySession.scanTargets at hscans
    split at hscans
    · cases hscans
    rename_i result hresult
    split at hscans
    · cases hscans
    rename_i htail
    cases hscans
    refine .cons ⟨result, hbridge 0 target result rfl hresult, rfl⟩ (ih ?_ htail)
    intro i t r hget _
    refine hbridge (i + 1) t r hget ?_
    rwa [show call + (i + 1) = call + 1 + i from by omega]

/-- **All scans**, by induction over the targets: those already merged pile up in `done`. -/
theorem refreshInvariant_foldl {platform : Platform} (hroots : session.boundaryRoots.roots = [])
    {scans : List (StatusRefreshTarget × StatusSnapshot)}
    (hscans : ScansOf platform session W₁ targets scans) {done : List StatusRefreshTarget}
    {state : RefreshState} (hinv : RefreshInvariant W₀ W₁ done state) :
    RefreshInvariant W₀ W₁ (targets.reverse ++ done)
      (scans.foldl (RefreshState.mergeScan session.nextGeneration) state) := by
  induction hscans generalizing done state with
  | nil => exact hinv
  | @cons target scan targets scans hscan _ ih =>
    obtain ⟨result, hresult, rfl⟩ := hscan
    have hstep : RefreshInvariant W₀ W₁ (target :: done) (state.mergeScan session.nextGeneration
        (target, session.prepareScan platform result)) :=
      refreshInvariant_mergeScan hroots hinv hresult
    rw [List.foldl_cons, List.reverse_cons, List.append_assoc]
    exact ih hstep

/-- When only kept, versioned entries list conflict artifacts, what a refresh hides is what the old
or the new working copy lists. -/
theorem hidden_iff_lists
    (hcovered : ∀ p, W₀.entry p ≠ W₁.entry p → ∃ t ∈ targets, CoversPath W₀ W₁ t p)
    (h₀ : W₀.ArtifactOwnersKept) (h₁ : W₁.ArtifactOwnersKept) (e : StatusEntry) :
    Hidden W₀ W₁ targets.reverse e ↔ W₀.Lists e.path ∨ W₁.Lists e.path := by
  have hlast : ∀ done, HiddenByLastScan W₀ W₁ e done → W₀.Lists e.path ∨ W₁.Lists e.path := by
    intro done
    induction done with
    | nil => exact Or.inl
    | cons target earlier ih =>
      rintro (⟨-, q, o, hentry, -, hp⟩ | ⟨-, hearlier⟩)
      · exact .inr ⟨q, o, hentry, hp⟩
      · exact ih hearlier
  -- an owner in the old working copy is one of the entries the session showed
  have hold : W₀.Lists e.path → ∃ q o, W₀.project q = some o ∧ e.path ∈ o.conflictArtifacts := by
    intro ⟨q, o, hentry, hp⟩
    obtain ⟨hproj, hversioned⟩ := h₀ q o hentry (List.ne_nil_of_mem hp)
    exact ⟨q, o, visible_of_pos hentry hproj fun h => hversioned h.1, hp⟩
  constructor
  · rintro (⟨q, o, hproj, hp⟩ | ⟨target, -, q, o, hentry, -, -, hp⟩ | hscan)
    · exact .inl ⟨q, o, (visible_eq_some hproj).1, hp⟩
    · exact .inr ⟨q, o, hentry, hp⟩
    · exact hlast _ hscan
  · rintro (hlists | ⟨q, o, hentry, hp⟩)
    · exact .inl (hold hlists)
    · -- an owner in the new working copy is unchanged or some target scans it
      by_cases hsame : W₀.entry q = W₁.entry q
      · exact .inl (hold ⟨q, o, hsame.trans hentry, hp⟩)
      · obtain ⟨target, htarget, hpath⟩ := hcovered q hsame
        obtain ⟨-, hversioned⟩ := h₁ q o hentry (List.ne_nil_of_mem hp)
        exact .inr (.inl ⟨target, List.mem_reverse.mpr htarget, q, o, hentry, hpath.2 o hentry,
          fun h => hversioned h.1, hp⟩)

/-- **A partial refresh against the whole working copy.**  Scanning targets that cover the
difference leaves the projectable entries of the new working copy, except the unversioned ones that
`Hidden` describes; when only kept, versioned entries list conflict artifacts, these are the
unversioned entries whose path the old or the new working copy lists. -/
theorem partial_refresh_refines (platform : Platform) (W₀ W₁ : WorkingCopy)
    (session session' : RepositorySession) (bridge : StatusBridge) (now : Text)
    (targets : List StatusRefreshTarget) (delta : StatusDelta)
    (hroots : session.boundaryRoots.roots = [])
    (hsession : ∀ p, SameEntry (session.localEntries.get? p) (W₀.project p))
    (hcovered : ∀ p, W₀.entry p ≠ W₁.entry p → ∃ t ∈ targets, CoversPath W₀ W₁ t p)
    (hbridge : ∀ i target result, targets[i]? = some target →
      bridge.statusScan i session.identity target.path target.depth session.nextGeneration =
        .ok result → W₁.IsScan target result.localEntries)
    (hrefresh : session.refresh platform bridge now targets = .ok (delta, session')) :
    (∀ p, SameEntry (session'.localEntries.get? p)
        (W₁.visible (Hidden W₀ W₁ targets.reverse) p)) ∧
      (W₀.ArtifactOwnersKept → W₁.ArtifactOwnersKept → ∀ p,
        SameEntry (session'.localEntries.get? p)
          (W₁.visible (fun e => W₀.Lists e.path ∨ W₁.Lists e.path) p)) := by
  obtain ⟨scans, hscans, rfl, -⟩ := refresh_eq_ok hrefresh
  -- with no boundary roots every target is scanned
  have hall : (targets.filter fun target =>
      !pathInsideBoundaryRoots platform target.path session.boundaryRoots) = targets := by
    simp [pathInsideBoundaryRoots, hroots]
  rw [hall] at hscans
  have hscansOf : ScansOf platform session W₁ targets scans :=
    scansOf_of_scanTargets (fun i target result hget hcall =>
      hbridge i target result hget (by rwa [Nat.zero_add] at hcall)) hscans
  have hfinal := refreshInvariant_foldl hroots hscansOf (refreshInvariant_start hsession)
  rw [List.append_nil] at hfinal
  have hvisible : ∀ p, SameEntry
      ((scans.foldl (RefreshState.mergeScan session.nextGeneration)
        session.refreshState).nextEntries.get? p)
      (W₁.visible (Hidden W₀ W₁ targets.reverse) p) := by
    intro p
    refine hfinal.settled p ?_
    -- a path that no target covers has not changed
    by_cases hsame : W₀.entry p = W₁.entry p
    · exact .inl hsame
    · obtain ⟨t, ht, hpath⟩ := hcovered p hsame
      exact .inr ⟨t, List.mem_reverse.mpr ht, hpath⟩
  refine ⟨hvisible, fun h₀ h₁ p => ?_⟩
  -- kept artifact owners make "hidden by a scan" independent of the targets
  have hcongr : W₁.visible (fun e => W₀.Lists e.path ∨ W₁.Lists e.path) p =
      W₁.visible (Hidden W₀ W₁ targets.reverse) p :=
    visible_congr fun e _ _ => (hidden_iff_lists hcovered h₀ h₁ e).symm
  rw [hcongr]
  exact hvisible p

/-! ## A resolved conflict -/

/-- The working copy of a map of entries. -/
def WorkingCopy.ofMap (m : EntryMap) : WorkingCopy := ⟨m.get?, key_of_get?⟩

theorem WorkingCopy.isScan_full (m : EntryMap) (reason : Text) :
    (ofMap m).IsScan ⟨".", .infinity, reason⟩ m.values := by
  intro e
  rw [mem_values_iff]
  exact ⟨fun h => ⟨h, coverageMatches_dot_infinity e⟩, fun h => h.1⟩

theorem coversPath_full (W₀ W₁ : WorkingCopy) (reason p : Text) :
    CoversPath W₀ W₁ ⟨".", .infinity, reason⟩ p :=
  ⟨fun e _ => coverageMatches_dot_infinity e, fun e _ => coverageMatches_dot_infinity e⟩

/-- A map whose entries are all kept is what its working copy shows. -/
theorem WorkingCopy.project_ofMap (m : EntryMap) (p : Text)
    (h : ∀ e ∈ m.values, isProjectableStatus e = true ∧ e.localStatus ≠ "unversioned") :
    (ofMap m).project p = m.get? p := by
  cases hget : m.get? p with
  | none => exact visible_of_entry_none hget
  | some e =>
    obtain ⟨hproj, hversioned⟩ := h e (mem_values_of_get? hget)
    exact visible_of_pos hget hproj fun hboth => hversioned hboth.1

end

namespace PartialRefreshExample

open FullScanExample

/-- What is left once the conflict of `f` is resolved: its artifact file, now an ordinary
unversioned file, and a modified file. -/
def resolvedEntries : EntryMap := ofList [.file "f.mine" "unversioned", .file "g" "modified"]

def bridge : StatusBridge := .answering resolvedEntries.values []

def reply : StatusDelta × RepositorySession :=
  (session.refresh .posix bridge "t" [⟨".", .infinity, "manual"⟩]).toOption.getD default

theorem session_shows : ∀ p, SameEntry (session.localEntries.get? p)
    ((ofMap session.localEntries).project p) := by
  intro p
  rw [project_ofMap _ p (by decide +kernel)]
  exact SameEntry.refl _

theorem bridge_scans : ∀ i target result,
    ([⟨".", .infinity, "manual"⟩] : List StatusRefreshTarget)[i]? = some target →
      bridge.statusScan i session.identity target.path target.depth session.nextGeneration =
        .ok result → (ofMap resolvedEntries).IsScan target result.localEntries := by
  intro i target result hget hcall
  cases i with
  | zero =>
    cases hget
    cases hcall
    exact isScan_full resolvedEntries "manual"
  | succ i => cases hget

/-- Every premise of the refinement holds, yet the refresh leaves out `f.mine`, which the new
working copy shows. -/
theorem partial_refresh_hides_previous_artifact :
    (∀ p, SameEntry (session.localEntries.get? p)
        ((ofMap session.localEntries).project p)) ∧
      (∀ p, CoversPath (ofMap session.localEntries)
        (ofMap resolvedEntries) ⟨".", .infinity, "manual"⟩ p) ∧
      (ofMap resolvedEntries).IsScan ⟨".", .infinity, "manual"⟩
        resolvedEntries.values ∧
      session.refresh .posix bridge "t" [⟨".", .infinity, "manual"⟩] = .ok reply ∧
      reply.2.localEntries.get? "f.mine" = none ∧
      (ofMap resolvedEntries).project "f.mine" =
        some (.file "f.mine" "unversioned") := by
  refine ⟨session_shows, fun p => coversPath_full _ _ _ p, isScan_full _ _,
    by decide +kernel, by decide +kernel, ?_⟩
  refine visible_of_pos (by decide +kernel) (by decide +kernel) ?_
  intro ⟨_, _, o, hentry, hp⟩
  have hnone : ∀ e ∈ resolvedEntries.values, e.conflictArtifacts = [] := by decide +kernel
  rw [hnone o (mem_values_of_get? hentry)] at hp
  cases hp

theorem partial_refresh_refines_resolved :
    session.refresh .posix bridge "t" [⟨".", .infinity, "manual"⟩] = .ok reply ∧
      ∀ p, SameEntry (reply.2.localEntries.get? p)
        ((ofMap resolvedEntries).visible
          (Hidden (ofMap session.localEntries) (ofMap resolvedEntries)
            [⟨".", .infinity, "manual"⟩]) p) :=
  ⟨by decide +kernel, (partial_refresh_refines .posix (ofMap session.localEntries)
    (ofMap resolvedEntries) session reply.2 bridge "t" [⟨".", .infinity, "manual"⟩]
    reply.1 rfl session_shows
    (fun p _ => ⟨_, List.mem_singleton_self _, coversPath_full _ _ _ p⟩) bridge_scans
    (by decide +kernel)).1⟩

end PartialRefreshExample

end SubversionR

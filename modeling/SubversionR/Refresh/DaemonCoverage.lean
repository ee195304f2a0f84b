import SubversionR.Daemon.OperationHints
import SubversionR.Refresh.Coverage

/-!
# Coverage by the daemon — what a refresh of the drained targets rescans

The daemon sweeps an entry of a session only if `coverageMatches` accepts it for one of the targets
of the refresh.  While the queue has room for every event the targets are those of the single
events; a queue that is folded covers more, but not everything it covered before.

* `unfolded_covered_iff` — what a queue with room for all events covers, exactly;
* `DirtyFileEvent.Secures` — an event reaches an entry in a way that no folding undoes;
* `deleted_path_covered` — a recorded deletion covers the deleted path, whatever is there, and of
  what was below it only what other events reach;
* `folding_keeps_secured` — of the entries that events reach, which ones stay covered under every
  bound of the queue.
-/

namespace SubversionR

open OrderedMaps OrderedMap PathOrder Runs DirtyPathSet

/-- Some target of the list makes the daemon rescan the entry. -/
def CoveredByDaemon (targets : List StatusRefreshTarget) (entry : StatusEntry) : Prop :=
  ∃ target ∈ targets, coverageMatches target.path target.depth entry = true

instance (targets : List StatusRefreshTarget) (entry : StatusEntry) :
    Decidable (CoveredByDaemon targets entry) :=
  inferInstanceAs (Decidable (∃ target ∈ targets, _))

/-- The dirty set of a new repository after the events. -/
def DirtyPathSet.afterEvents (fold : Text → Text) (scope : RepositoryWatchScope)
    (maxDirtyPaths : Option Int) (events : List DirtyFileEvent) : DirtyPathSet :=
  events.foldl (fun set event => (set.record fold event).2) (.new scope maxDirtyPaths)

/-! ## How the events spell their paths

The daemon compares paths letter by letter.  Where the watch scope ignores case, two events may
write one directory in two ways, and the target then has the spelling of the first. -/

/-- The path of an event, a directory above it, or the working copy. -/
def NamedBy (fold : Text → Text) (scope : RepositoryWatchScope) (events : List DirtyFileEvent)
    (path : Text) : Prop :=
  path = "." ∨ ∃ event ∈ events, ∃ named,
    repositoryRelativePath fold scope event.path = some named ∧ AtOrBelow '/' named path

/-- No two of these paths differ in their spelling only, and none begins with `./`. -/
structure SpelledAlike (fold : Text → Text) (scope : RepositoryWatchScope)
    (events : List DirtyFileEvent) : Prop where
  inj : ∀ a b, NamedBy fold scope events a → NamedBy fold scope events b →
    comparisonKey fold scope a = comparisonKey fold scope b → a = b
  noDot : ∀ name, ¬ NamedBy fold scope events ("." ++ '/' :: name)

/-- What is used of the paths a set may hold. -/
structure Spelling (fold : Text → Text) (scope : RepositoryWatchScope) (p : Text → Prop) : Prop
    extends ParentClosed p where
  inj : ∀ a b, p a → p b → comparisonKey fold scope a = comparisonKey fold scope b → a = b
  noDot : ∀ name, ¬ p ("." ++ '/' :: name)
  noNul : ∀ a, p a → '\x00' ∉ a
  slashes : ∀ a, p a → '\\' ∉ a

section

variable {fold : Text → Text} {scope : RepositoryWatchScope} {events : List DirtyFileEvent}
  {event : DirtyFileEvent} {path : Text}

/-- In a case-sensitive scope a relative path is the working copy itself or follows it in a path
without `.` components. -/
theorem normalizeAbsolutePath_of_relative (hcase : scope.pathCase = .caseSensitive)
    (h : repositoryRelativePath fold scope event.path = some path) :
    path = "." ∨ hasUnsafePathSegments (normalizeAbsolutePath event.path) = false ∧
      normalizeAbsolutePath event.path =
        normalizeAbsolutePath scope.workingCopyRoot ++ '/' :: path := by
  rcases repositoryRelativePath_cases h with hdot | ⟨-, hsafe, ⟨rest, hrest⟩, hcut⟩
  · exact .inl hdot
  · rw [comparisonKey_caseSensitive hcase, comparisonKey_caseSensitive hcase] at hrest
    rw [hrest, Text.sliceFrom_slash] at hcut
    exact .inr ⟨hsafe, hcut ▸ hrest⟩

/-- No component of a relative path below the working copy is `.`. -/
theorem relativePath_ne_dot_slash (hcase : scope.pathCase = .caseSensitive)
    (h : repositoryRelativePath fold scope event.path = some path) (name : Text) :
    path ≠ "." ++ '/' :: name := by
  rintro rfl
  rcases normalizeAbsolutePath_of_relative hcase h with heq | ⟨hsafe, hpath⟩
  · exact absurd heq (by simp)
  · have hmem : ("." : Text) ∈ (normalizeAbsolutePath event.path).splitOn '/' := by
      rw [hpath, List.splitOn_append_cons_self, List.splitOn_append_cons_self]
      exact List.mem_append_right _ (List.mem_append_left _ (by decide))
    obtain ⟨i, hi⟩ := List.mem_iff_getElem?.mp hmem
    unfold hasUnsafePathSegments at hsafe
    rw [List.any_eq_false] at hsafe
    have hpart := hsafe (".", i) (List.mem_zipIdx_iff_getElem?.mpr hi)
    simp at hpart

/-- Where case matters, spelling is never a question. -/
theorem spelledAlike_of_caseSensitive (hcase : scope.pathCase = .caseSensitive) :
    SpelledAlike fold scope events := by
  refine ⟨fun a b _ _ h => ?_, fun name => ?_⟩
  · rwa [comparisonKey_caseSensitive hcase, comparisonKey_caseSensitive hcase] at h
  · rintro (hdot | ⟨event, -, named, hnamed, rfl | ⟨rest, rfl⟩⟩)
    · exact absurd hdot (by simp)
    · exact relativePath_ne_dot_slash hcase hnamed name rfl
    · exact relativePath_ne_dot_slash hcase hnamed (name ++ '/' :: rest) (by simp)

theorem SpelledAlike.spelling (h : SpelledAlike fold scope events)
    (hnul : ∀ event ∈ events, '\x00' ∉ event.path) :
    Spelling fold scope (NamedBy fold scope events) := by
  -- a directory above a path has no character the path does not have
  have hchars : ∀ c : Char, c ≠ '.' → (∀ event ∈ events, ∀ named,
      repositoryRelativePath fold scope event.path = some named → c ∉ named) →
      ∀ a, NamedBy fold scope events a → c ∉ a := by
    rintro c hc hnamed a (rfl | ⟨event, hevent, named, hrelative, habove⟩) hmem
    · exact hc (List.mem_singleton.mp hmem)
    · refine hnamed event hevent named hrelative ?_
      rcases habove with rfl | ⟨rest, rfl⟩
      · exact hmem
      · exact List.mem_append_left _ hmem
  refine ⟨⟨.inl rfl, fun path hpath => ?_⟩, h.inj, h.noDot, ?_, ?_⟩
  · rcases parentPath_cases path with ⟨-, hdot⟩ | ⟨name, -, heq⟩
    · exact .inl hdot
    · rcases hpath with rfl | ⟨event, hevent, named, hrelative, habove⟩
      · exact .inl (by decide)
      · exact .inr ⟨event, hevent, named, hrelative, habove.trans (.inr ⟨name, heq⟩)⟩
  · exact hchars _ (by decide) fun event hevent named hrelative =>
      repositoryRelativePath_noNul (hnul event hevent) hrelative
  · exact hchars _ (by decide) fun event _ named hrelative =>
      repositoryRelativePath_slashes hrelative

end

namespace Spelling

variable {fold : Text → Text} {scope : RepositoryWatchScope} {p : Text → Prop}
  (h : Spelling fold scope p) (hfold : FoldsComponents fold)

include h hfold

/-- A path whose key lies at or below that of another one lies at or below it. -/
theorem atOrBelow {a b : Text} (ha : p a) (hb : p b)
    (hkeys : AtOrBelow '/' (comparisonKey fold scope b) (comparisonKey fold scope a)) :
    AtOrBelow '/' b a := by
  have hkey := hfold.comparisonKey scope
  -- by the number of components of the lower path
  induction hlength : b.length using Nat.strong_induction_on generalizing b with
  | _ n ih =>
    subst hlength
    rcases hkeys with heq | ⟨rest, hrest⟩
    · exact .inl (h.inj b a hb ha heq)
    · rcases parentPath_cases b with ⟨hnot, -⟩ | ⟨name, hname, heq⟩
      · exact absurd (hkey.mem_slash_iff.mp (by rw [hrest]; simp)) hnot
      · have hparent : comparisonKey fold scope b =
            comparisonKey fold scope (parentPath b) ++ '/' :: comparisonKey fold scope name := by
          rw [← hkey.slash, ← heq]
        have hshorter : (parentPath b).length < b.length := by
          have := congrArg List.length heq
          rw [List.length_append, List.length_cons] at this
          omega
        have hdirectory : AtOrBelow '/' (comparisonKey fold scope (parentPath b))
            (comparisonKey fold scope a) :=
          atOrBelow_of_append_eq (hkey.noSlash name hname) (hparent.symm.trans hrest)
        exact AtOrBelow.trans (.inr ⟨name, heq⟩)
          (ih _ hshorter (h.parent b hb) hdirectory rfl)

/-- The same, strictly below. -/
theorem below {a b rest : Text} (ha : p a) (hb : p b)
    (hkeys : comparisonKey fold scope b = comparisonKey fold scope a ++ '/' :: rest) :
    ∃ rest', b = a ++ '/' :: rest' := by
  rcases h.atOrBelow hfold ha hb (.inr ⟨rest, hkeys⟩) with rfl | hbelow
  · exact absurd hkeys (by simp)
  · exact hbelow

omit hfold in
theorem ne_dot_of_below {a rest : Text} (hpath : p (a ++ '/' :: rest)) : a ≠ "." := by
  rintro rfl
  exact h.noDot rest hpath

end Spelling

/-! ## What a target covers

Targets move up when they are folded; what covers an entry at one place covers it at the next. -/

section

variable {depth depth' : StatusRefreshDepth} {entry : StatusEntry} {target : Text}

/-- A deeper target covers more. -/
theorem coverageMatches_deepen (hdepth : depthRank depth ≤ depthRank depth')
    (h : coverageMatches target depth entry = true) :
    coverageMatches target depth' entry = true := by
  rw [coverageMatches_iff_below] at h ⊢
  rcases h with heq | ⟨rest, hbelow, hadmits, hkind⟩
  · exact .inl heq
  · refine .inr ⟨rest, hbelow, ?_⟩
    cases depth <;> cases depth' <;> simp_all [depthRank, StatusRefreshDepth.Admits]

/-- What a target below a directory covers lies below the directory. -/
theorem coverageMatches_of_below {ancestor rest : Text} (hancestor : ancestor ≠ ".")
    (hslashes : '\\' ∉ ancestor ++ '/' :: rest)
    (h : coverageMatches (ancestor ++ '/' :: rest) depth entry = true) :
    coverageMatches ancestor .infinity entry = true := by
  have hupper : '\\' ∉ ancestor := fun hmem => hslashes (List.mem_append_left _ hmem)
  have hroot : ancestor ++ '/' :: rest ≠ "." := by
    intro heq
    have := congrArg (fun path : Text => decide ('/' ∈ path)) heq
    simp at this
  rw [coverageMatches_iff_below, Text.forwardSlashes_of_notMem hslashes] at h
  rw [coverageMatches_iff_below, Text.forwardSlashes_of_notMem hupper]
  simp only [LiesBelow, if_neg hroot, if_neg hancestor] at h ⊢
  rcases h with heq | ⟨rest', hbelow, -⟩
  · exact .inr ⟨rest, heq, trivial, nofun⟩
  · exact .inr ⟨rest ++ '/' :: rest', by simpa using hbelow, trivial, nofun⟩

/-- An entry at a path lies directly in the directory of the path. -/
theorem coverageMatches_parentPath {path : Text} (hdot : ∀ name, path ≠ "." ++ '/' :: name)
    (hslashes : '\\' ∉ path) (h : coverageMatches path .empty entry = true)
    (hdepth : depth = .immediates ∨ depth = .files ∧ entry.kind = "file") :
    coverageMatches (parentPath path) depth entry = true := by
  have hentry : entry.path.forwardSlashes = path := by
    rw [coverageMatches_iff_below, Text.forwardSlashes_of_notMem hslashes] at h
    exact h.resolve_right fun ⟨_, _, hadmits, _⟩ => hadmits
  have hbelow : ∀ rest : Text, '/' ∉ rest →
      depth.Admits rest ∧ (depth = .files → entry.kind = "file") := by
    intro rest hrest
    rcases hdepth with rfl | ⟨rfl, hkind⟩
    · exact ⟨hrest, nofun⟩
    · exact ⟨hrest, fun _ => hkind⟩
  rw [coverageMatches_iff_below, hentry]
  rcases parentPath_cases path with ⟨hnot, hparent⟩ | ⟨name, hname, heq⟩
  · have hroot : Text.forwardSlashes "." = "." := by decide
    simp only [LiesBelow, hparent, hroot, if_true]
    by_cases hself : path = "."
    · exact .inl hself
    · exact .inr ⟨path, ⟨rfl, hself⟩, hbelow path hnot⟩
  · have hupper : '\\' ∉ parentPath path := fun hmem =>
      hslashes (heq ▸ List.mem_append_left _ hmem)
    have hroot : parentPath path ≠ "." := fun hroot => hdot name (by rw [← hroot]; exact heq)
    simp only [LiesBelow, Text.forwardSlashes_of_notMem hupper, if_neg hroot]
    exact .inr ⟨name, heq, hbelow name hname⟩

end

/-! ## What an event reaches -/

/-- What the targets of one event at a path make the daemon rescan. -/
def FileEventKind.Reaches (kind : FileEventKind) (path : Text) (entry : StatusEntry) : Prop :=
  kind = .rename ∨ coverageMatches path .empty entry = true ∨
    (kind = .create ∨ kind = .delete) ∧ coverageMatches (parentPath path) .immediates entry = true

/-- The event accounts for an entry, and so will every target it is folded into: it has the path of
the entry, or it asks for the directory the entry is in while no path of `p` lies below its own. -/
def FileEventKind.Secures (p : Text → Prop) (kind : FileEventKind) (path : Text)
    (entry : StatusEntry) : Prop :=
  coverageMatches path .empty entry = true ∧
      (entry.kind = "file" ∨ kind = .create ∨ kind = .delete) ∨
    (kind = .create ∨ kind = .delete) ∧
      coverageMatches (parentPath path) .immediates entry = true ∧
      ∀ rest, ¬ p (path ++ '/' :: rest)

/-- The event is in the scope, and the set stores it under the key. -/
def DirtyFileEvent.RecordedAt (fold : Text → Text) (scope : RepositoryWatchScope)
    (event : DirtyFileEvent) (key path : Text) : Prop :=
  repositoryRelativePath fold scope event.path = some path ∧ path ≠ [] ∧
    comparisonKey fold scope path = key

/-- What the targets of the event make the daemon rescan. -/
def DirtyFileEvent.Reaches (fold : Text → Text) (scope : RepositoryWatchScope)
    (event : DirtyFileEvent) (entry : StatusEntry) : Prop :=
  ∃ path, repositoryRelativePath fold scope event.path = some path ∧ path ≠ [] ∧
    event.kind.Reaches path entry

/-- The event secures the entry in a run with the events. -/
def DirtyFileEvent.Secures (fold : Text → Text) (scope : RepositoryWatchScope)
    (events : List DirtyFileEvent) (event : DirtyFileEvent) (entry : StatusEntry) : Prop :=
  ∃ path, repositoryRelativePath fold scope event.path = some path ∧ path ≠ [] ∧
    event.kind.Secures (NamedBy fold scope events) path entry

section

variable {record : DirtyPathRecord} {entry : StatusEntry}

theorem coverageMatches_root : coverageMatches "." .infinity entry = true := by
  have hroot : Text.forwardSlashes "." = "." := by decide
  rw [coverageMatches_iff_below]
  simp only [LiesBelow, hroot, if_true]
  by_cases hself : entry.path.forwardSlashes = "."
  · exact .inl hself
  · exact .inr ⟨_, ⟨rfl, hself⟩, trivial, nofun⟩

/-- A path that was created or deleted and not renamed has a target for its directory. -/
theorem parentTarget_mem_targetsForRecord (hrename : .rename ∉ record.eventKinds)
    (hkinds : requiresSiblingDirectoryEntries record = true) :
    ∃ reason, parentTarget record.path reason ∈ targetsForRecord record := by
  unfold targetsForRecord
  rw [if_neg hrename]
  split
  · exact ⟨_, List.mem_singleton_self _⟩
  split
  · exact ⟨_, List.mem_cons_self⟩
  · rw [requiresSiblingDirectoryEntries, Bool.or_eq_true, decide_eq_true_iff,
      decide_eq_true_iff] at hkinds
    rcases hkinds with hkind | hkind
    · rw [if_pos hkind]
      exact ⟨_, List.mem_append_left _ (List.mem_append_left _ List.mem_cons_self)⟩
    · rw [if_pos hkind]
      exact ⟨_, List.mem_append_left _ (List.mem_append_right _ List.mem_cons_self)⟩

/-- The targets of a record are those of the events it stands for. -/
theorem coveredByDaemon_targetsForRecord (hdot : ∀ name, record.path ≠ "." ++ '/' :: name)
    (hslashes : '\\' ∉ record.path) :
    CoveredByDaemon (targetsForRecord record) entry ↔
      ∃ kind ∈ record.eventKinds, kind.Reaches record.path entry := by
  constructor
  · rintro ⟨target, hmem, hcovers⟩
    obtain ⟨⟨kind, hkind, hasks⟩, -⟩ := mem_targetsForRecord hmem
    refine ⟨kind, hkind, ?_⟩
    rcases hasks with ⟨hrename, -⟩ | ⟨hpath, hdepth⟩ | ⟨hstructural, hpath, hdepth⟩
    · exact .inl hrename
    · exact .inr (.inl (by rw [← hpath, ← hdepth]; exact hcovers))
    · exact .inr (.inr ⟨hstructural, by rw [← hpath, ← hdepth]; exact hcovers⟩)
  · rintro ⟨kind, hkind, hreaches⟩
    by_cases hrename : .rename ∈ record.eventKinds
    · unfold targetsForRecord
      rw [if_pos hrename]
      exact ⟨_, List.mem_singleton_self _, coverageMatches_root⟩
    rcases hreaches with rfl | hown | ⟨hstructural, hnear⟩
    · exact absurd hkind hrename
    · rcases targetsForRecord_self ⟨kind, hkind⟩ with ⟨_, hmem⟩ | ⟨_, hmem⟩ | ⟨_, hmem⟩
      · exact ⟨_, hmem, coverageMatches_root⟩
      · exact ⟨_, hmem, coverageMatches_parentPath hdot hslashes hown (.inl rfl)⟩
      · exact ⟨_, hmem, hown⟩
    · have hrequires : requiresSiblingDirectoryEntries record = true := by
        rw [requiresSiblingDirectoryEntries, Bool.or_eq_true, decide_eq_true_iff,
          decide_eq_true_iff]
        rcases hstructural with rfl | rfl
        · exact .inl hkind
        · exact .inr hkind
      obtain ⟨_, hmem⟩ := parentTarget_mem_targetsForRecord hrename hrequires
      exact ⟨_, hmem, hnear⟩

end

namespace DirtyPathSet

variable {fold : Text → Text} {scope : RepositoryWatchScope} {set : DirtyPathSet}
  {entry : StatusEntry}

/-- The daemon is asked for what a record stands for. -/
theorem coveredByDaemon_of_mem (hoverflowed : set.overflowed = false) {record : DirtyPathRecord}
    (hrecord : record ∈ set.entries.values) (hnul : '\x00' ∉ record.path)
    (h : CoveredByDaemon (targetsForRecord record) entry) :
    CoveredByDaemon set.toRefreshTargets entry := by
  obtain ⟨target, hmem, hcovers⟩ := h
  exact ⟨target, mem_toRefreshTargets hoverflowed (targetsForRecord_clean hnul hmem)
    (List.mem_append_right _ (List.mem_flatMap.mpr ⟨record, mem_sortBy.mpr hrecord, hmem⟩)),
    hcovers⟩

/-! ## A queue with room for every event -/

/-- The set holds a record for every key that an event has, with the kinds of these events, and
nothing else. -/
structure Unfolded (fold : Text → Text) (scope : RepositoryWatchScope)
    (events : List DirtyFileEvent) (set : DirtyPathSet) : Prop where
  scope_eq : set.scope = scope
  overflowed : set.overflowed = false
  explicitTargets : set.explicitTargets = .empty
  foldedTargets : set.foldedTargets = .empty
  size : set.entries.size ≤ events.length
  entries : ∀ key kind,
    (∃ record, set.entries.get? key = some record ∧ kind ∈ record.eventKinds) ↔
      ∃ event ∈ events, event.kind = kind ∧ ∃ path, event.RecordedAt fold scope key path

variable {events : List DirtyFileEvent} {event : DirtyFileEvent} {maxDirtyPaths : Option Int}

/-- The new record of a key has the kind of the event and the kinds it had. -/
theorem Unfolded.setEntry (h : set.Unfolded fold scope events) {path : Text}
    {record : DirtyPathRecord}
    (hevent : repositoryRelativePath fold scope event.path = some path) (hpath : path ≠ [])
    (hsize : (set.entries.set (comparisonKey fold scope path) record).size ≤ events.length + 1)
    (hkinds : ∀ kind, kind ∈ record.eventKinds ↔ kind = event.kind ∨
      ∃ old, set.entries.get? (comparisonKey fold scope path) = some old ∧ kind ∈ old.eventKinds) :
    Unfolded fold scope (events ++ [event])
      { set with entries := set.entries.set (comparisonKey fold scope path) record } := by
  refine ⟨h.scope_eq, h.overflowed, h.explicitTargets, h.foldedTargets, by simpa using hsize, ?_⟩
  intro key kind
  have hnew : (∃ path', event.RecordedAt fold scope key path') ↔
      comparisonKey fold scope path = key := by
    constructor
    · rintro ⟨path', hpath', -, hkey⟩
      rw [hevent] at hpath'
      cases hpath'
      exact hkey
    · intro hkey
      exact ⟨path, hevent, hpath, hkey⟩
  have hsplit : (∃ e ∈ events ++ [event], e.kind = kind ∧
        ∃ path', e.RecordedAt fold scope key path') ↔
      (∃ old, set.entries.get? key = some old ∧ kind ∈ old.eventKinds) ∨
        event.kind = kind ∧ comparisonKey fold scope path = key := by
    rw [h.entries]
    simp only [List.mem_append, List.mem_singleton, or_and_right, exists_or, exists_eq_left, hnew]
  rw [hsplit]
  simp only [get?_set]
  by_cases hkey : key = comparisonKey fold scope path
  · subst hkey
    simp only [if_true, Option.some.injEq, exists_eq_left', hkinds, and_true]
    rw [or_comm, eq_comm]
  · rw [if_neg hkey]
    simp [Ne.symm hkey]

theorem Unfolded.skip (h : set.Unfolded fold scope events)
    (hevent : ∀ path, repositoryRelativePath fold scope event.path = some path → path = []) :
    set.Unfolded fold scope (events ++ [event]) := by
  refine ⟨h.scope_eq, h.overflowed, h.explicitTargets, h.foldedTargets, ?_, fun key kind => ?_⟩
  · rw [List.length_append]
    exact Nat.le_add_right_of_le h.size
  · rw [h.entries]
    simp only [List.mem_append, List.mem_singleton, or_and_right, exists_or, exists_eq_left]
    refine (or_iff_left ?_).symm
    rintro ⟨-, path, hpath, hne, -⟩
    exact hne (hevent path hpath)

/-- **One event** is recorded as such while the queue has room. -/
theorem Unfolded.record (h : set.Unfolded fold scope events)
    (hroom : (events.length + 1 : Int) ≤ set.maxDirtyPaths) :
    (set.record fold event).2.Unfolded fold scope (events ++ [event]) ∧
      (set.record fold event).2.maxDirtyPaths = set.maxDirtyPaths := by
  obtain rfl := h.scope_eq
  have hsize : ∀ key record, (set.entries.set key record).size ≤ events.length + 1 := by
    intro key record
    have hset := set.entries.size_set_le key record
    have hold := h.size
    omega
  unfold record
  rw [if_neg (by rw [h.overflowed]; exact Bool.false_ne_true)]
  split
  · rename_i hnone
    refine ⟨h.skip fun path hpath => ?_, rfl⟩
    rw [hnone] at hpath
    cases hpath
  · rename_i hnil
    refine ⟨h.skip fun path hpath => ?_, rfl⟩
    rw [hnil] at hpath
    exact (Option.some.inj hpath).symm
  · rename_i path hne hpath
    -- nothing is folded, so nothing absorbs the event
    have hmerge : set.mergeIntoFoldedTargetIfCovered fold path event.kind = none := by
      unfold mergeIntoFoldedTargetIfCovered findFoldedTargetCovering
      rw [h.foldedTargets]
      rfl
    rw [hmerge]
    dsimp only
    split
    · rename_i existing hget
      refine ⟨h.setEntry hpath (fun hnil => hne hnil) (hsize _ _) fun kind => ?_, rfl⟩
      rw [hget]
      simp [updateRecord]
    · rename_i hget
      have hfits : ∀ record, shrink fold { set with
          entries := set.entries.set (comparisonKey fold set.scope path) record } event.timestamp =
          { set with entries := set.entries.set (comparisonKey fold set.scope path) record } := by
        intro record
        unfold shrink watcherQueueSize
        rw [if_pos]
        have hqueue := hsize (comparisonKey fold set.scope path) record
        have hempty : set.foldedTargets.size = 0 := by
          rw [h.foldedTargets]
          rfl
        dsimp only
        omega
      rw [hfits]
      refine ⟨h.setEntry hpath (fun hnil => hne hnil) (hsize _ _) fun kind => ?_, rfl⟩
      rw [hget]
      simp

/-- **A run of events** that the queue has room for. -/
theorem unfolded_afterEvents
    (hroom : (events.length : Int) ≤ maxDirtyPaths.getD defaultMaxDirtyPaths) :
    (afterEvents fold scope maxDirtyPaths events).Unfolded fold scope events ∧
      (afterEvents fold scope maxDirtyPaths events).maxDirtyPaths =
        maxDirtyPaths.getD defaultMaxDirtyPaths := by
  induction events using List.reverseRecOn with
  | nil =>
    refine ⟨⟨rfl, rfl, rfl, rfl, le_rfl, fun key kind => ?_⟩, rfl⟩
    simp [afterEvents, new, get?_empty]
  | append_singleton events event ih =>
    rw [List.length_append, List.length_singleton, Nat.cast_add, Nat.cast_one] at hroom
    obtain ⟨hset, hmax⟩ := ih (by omega)
    obtain ⟨hrecord, hmax'⟩ :=
      @Unfolded.record fold scope _ events event hset (by rw [hmax]; exact hroom)
    unfold afterEvents at *
    rw [List.foldl_append]
    exact ⟨hrecord, hmax'.trans hmax⟩

/-! ## What folding keeps

Folding replaces the record of a path by a target of its directory, or of a directory above.  A
target of files does not cover a directory, and the target of a subtree does not cover what is
beside it.  These two losses are real; what `FileEventKind.Secures` asks for excludes them. -/

section

variable {p : Text → Prop} {kind : FileEventKind} {path : Text} (hp : Spelling fold scope p)

include hp

/-- What an event secures, the target of its directory covers. -/
theorem secures_directory (hpath : p path) (h : kind.Secures p path entry)
    {depth : StatusRefreshDepth} (hdepth : depth ≠ .empty)
    (hkind : kind = .create ∨ kind = .delete → depthRank .immediates ≤ depthRank depth) :
    coverageMatches (parentPath path) depth entry = true := by
  have hdot : ∀ name, path ≠ "." ++ '/' :: name := fun name heq => hp.noDot name (heq ▸ hpath)
  have hslashes := hp.slashes _ hpath
  rcases h with ⟨hown, hfile | hstructural⟩ | ⟨hstructural, hnear, -⟩
  · refine coverageMatches_deepen ?_
      (coverageMatches_parentPath hdot hslashes hown (.inr ⟨rfl, hfile⟩))
    cases depth <;> simp_all [depthRank]
  · exact coverageMatches_deepen (hkind hstructural)
      (coverageMatches_parentPath hdot hslashes hown (.inl rfl))
  · exact coverageMatches_deepen (hkind hstructural) hnear

/-- What an event strictly below a directory secures lies below the directory. -/
theorem secures_below {ancestor rest : Text} (hpath : p path) (h : kind.Secures p path entry)
    (hbelow : path = ancestor ++ '/' :: rest) :
    coverageMatches ancestor .infinity entry = true := by
  have hroot := hp.ne_dot_of_below (hbelow ▸ hpath)
  have hslashes := hp.slashes _ hpath
  rcases h with ⟨hown, -⟩ | ⟨-, hnear, -⟩
  · rw [hbelow] at hown hslashes
    exact coverageMatches_of_below hroot hslashes hown
  -- the directory of the path is the ancestor or lies below it
  have hparent : AtOrBelow '/' (parentPath path) ancestor := by
    rcases parentPath_cases path with ⟨hnot, -⟩ | ⟨name, hname, hsplit⟩
    · exact absurd (by rw [hbelow]; simp) hnot
    · exact atOrBelow_of_append_eq hname (hsplit.symm.trans hbelow)
  rcases hparent with heq | ⟨_, heq⟩
  · rw [heq] at hnear
    exact coverageMatches_deepen (by decide) hnear
  · have hslashes := hp.slashes _ (hp.parent _ hpath)
    rw [heq] at hnear hslashes
    exact coverageMatches_of_below hroot hslashes hnear

/-- **No fold loses what is secured.** -/
theorem secures_accounting (hfold : FoldsComponents fold) (entry : StatusEntry) :
    Accounting fold scope p (fun kind path => kind.Secures p path entry)
      (fun target depth => coverageMatches target depth entry = true) where
  same := fun _ a b ha hb hsame h => hp.inj a b ha hb hsame ▸ h
  deepen := fun a b _ _ ha hb hsame hdepth h =>
    coverageMatches_deepen hdepth (hp.inj a b ha hb hsame ▸ h)
  directory := fun _ path _ _ hpath hdirectory hparent hdepth hkind h =>
    hp.inj _ _ (hp.parent path hpath) hdirectory hparent ▸
      secures_directory hp hpath h hdepth hkind
  subtree := by
    intro _ path ancestor rest hpath hancestor hbelow h
    obtain ⟨_, heq⟩ := hp.below hfold hancestor hpath hbelow
    exact secures_below hp hpath h heq
  root := by
    intro _ ancestor rest hother hancestor h
    -- an event that secures what is beside its path has no path of the run below it
    rcases h with ⟨hown, -⟩ | ⟨-, -, hleaf⟩
    · exact coverageMatches_deepen (by decide) hown
    · exact absurd hother (hleaf rest)
  below := by
    intro path ancestor depth rest hpath hancestor hbelow h
    obtain ⟨_, rfl⟩ := hp.below hfold hancestor hpath hbelow
    exact coverageMatches_of_below (hp.ne_dot_of_below hpath) (hp.slashes _ hpath) h

end

/-! ## Runs of events -/

section

variable (hp : Spelling fold scope (NamedBy fold scope events))

include hp

theorem keyed_afterEvents : (afterEvents fold scope maxDirtyPaths events).Keyed fold scope
    (NamedBy fold scope events) := by
  refine foldl_invariant (Keyed fold scope (NamedBy fold scope events)) ?_ (keyed_new maxDirtyPaths)
  intro set hset event hevent
  exact (record_keeps hp.toParentClosed hset fun path hpath =>
    .inr ⟨event, hevent, path, hpath, .refl path⟩).1.keyed

/-- **What an event secures is covered**, whatever the bound of the queue and whatever else is
recorded. -/
theorem secured_covered (hfold : FoldsComponents fold) (hevent : event ∈ events)
    (hsecures : event.Secures fold scope events entry) :
    CoveredByDaemon (afterEvents fold scope maxDirtyPaths events).toRefreshTargets entry := by
  have hlaws := secures_accounting hp hfold entry
  have hkeeps : ∀ set : DirtyPathSet, set.Keyed fold scope (NamedBy fold scope events) →
      ∀ e ∈ events, _ := fun set hset e he => @record_keeps fold scope _ set hp.toParentClosed
    hset e fun path hpath => .inr ⟨e, he, path, hpath, .refl path⟩
  -- the event splits the run: what is recorded before it does not matter, what follows keeps it
  have haccounts : (afterEvents fold scope maxDirtyPaths events).Accounts
      (fun kind path => kind.Secures (NamedBy fold scope events) path entry)
      (fun target depth => coverageMatches target depth entry = true) := by
    obtain ⟨before, after, hsplit⟩ := List.append_of_mem hevent
    have hmem : ∀ e, e ∈ before ∨ e = event ∨ e ∈ after → e ∈ events := by
      intro e he
      rw [hsplit]
      simpa using he
    have hbefore := foldl_invariant (Keyed fold scope (NamedBy fold scope events))
      (fun set hset e he => (hkeeps set hset e (hmem e (.inl he))).1.keyed)
      (@keyed_new fold scope _ maxDirtyPaths)
    obtain ⟨hrecorded, hnew⟩ := hkeeps _ hbefore event hevent
    obtain ⟨path, hpath, hne, hsecured⟩ := hsecures
    unfold afterEvents
    rw [hsplit, List.foldl_append, List.foldl_cons, ← hsplit]
    refine (foldl_invariant (fun set : DirtyPathSet =>
      set.Keyed fold scope (NamedBy fold scope events) ∧ set.Accounts _ _) ?_
      ⟨hrecorded.keyed, hnew path hpath (.inl hne) hlaws hsecured⟩).2
    rintro set ⟨hset, h⟩ e he
    obtain ⟨hkept, -⟩ := hkeeps set hset e (hmem e (.inr (.inr he)))
    exact ⟨hkept.keyed, hkept.accounts hlaws h⟩
  obtain ⟨target, hmem, -, hcovers⟩ := haccounts.listed (keyed_afterEvents hp) hp.noNul
    coverageMatches_root fun record hpath kind hkind hsecured => by
      refine (coveredByDaemon_targetsForRecord (fun name heq => hp.noDot name (heq ▸ hpath))
        (hp.slashes _ hpath)).mpr ⟨kind, hkind, ?_⟩
      rcases hsecured with ⟨hown, -⟩ | ⟨hstructural, hnear, -⟩
      · exact .inr (.inl hown)
      · exact .inr (.inr ⟨hstructural, hnear⟩)
  exact ⟨target, hmem, hcovers⟩

/-- **What a queue with room for all events covers**: what the events reach. -/
theorem unfolded_covered_iff
    (hroom : (events.length : Int) ≤ maxDirtyPaths.getD defaultMaxDirtyPaths) :
    CoveredByDaemon (afterEvents fold scope maxDirtyPaths events).toRefreshTargets entry ↔
      ∃ event ∈ events, event.Reaches fold scope entry := by
  have hset := @keyed_afterEvents fold scope events maxDirtyPaths hp
  have hunfolded := (@unfolded_afterEvents fold scope events maxDirtyPaths hroom).1
  -- without folding, the targets are exactly those of the records
  have hrecords : CoveredByDaemon (afterEvents fold scope maxDirtyPaths events).toRefreshTargets
      entry ↔ ∃ item ∈ (afterEvents fold scope maxDirtyPaths events).entries.items,
        ∃ kind ∈ item.2.eventKinds, kind.Reaches item.2.path entry := by
    have htargets : ∀ item ∈ (afterEvents fold scope maxDirtyPaths events).entries.items,
        (CoveredByDaemon (targetsForRecord item.2) entry ↔
          ∃ kind ∈ item.2.eventKinds, kind.Reaches item.2.path entry) := by
      intro item hitem
      have hpath := (hset.entries _ hitem).2.1
      exact coveredByDaemon_targetsForRecord (fun name heq => hp.noDot name (heq ▸ hpath))
        (hp.slashes _ hpath)
    constructor
    · rintro ⟨target, hmem, hcovers⟩
      unfold toRefreshTargets at hmem
      rw [hunfolded.overflowed, if_neg Bool.false_ne_true, hunfolded.explicitTargets,
        hunfolded.foldedTargets] at hmem
      rcases mem_values_foldl_set (mem_sortBy.mp hmem) with hlisted | hempty
      · obtain ⟨record, hrecord, htarget⟩ := List.mem_flatMap.mp hlisted
        obtain ⟨item, hitem, rfl⟩ := List.mem_map.mp (mem_sortBy.mp hrecord)
        exact ⟨item, hitem, (htargets item hitem).mp ⟨target, htarget, hcovers⟩⟩
      · cases hempty
    · rintro ⟨item, hitem, hreaches⟩
      exact coveredByDaemon_of_mem hunfolded.overflowed (List.mem_map_of_mem hitem)
        (hp.noNul _ (hset.entries _ hitem).2.1) ((htargets item hitem).mpr hreaches)
  rw [hrecords]
  constructor
  · rintro ⟨item, hitem, kind, hkind, hreaches⟩
    obtain ⟨event, hevent, rfl, path, hpath, hne, hkey⟩ :=
      (hunfolded.entries item.1 kind).mp ⟨item.2, get?_eq_some_iff.mpr hitem, hkind⟩
    -- two spellings with one key are one path by `hp.inj`
    have hsame : item.2.path = path := by
      refine hp.inj _ _ (hset.entries _ hitem).2.1
        (.inr ⟨event, hevent, path, hpath, .refl path⟩) ?_
      rw [hkey, (hset.entries item hitem).1]
    exact ⟨event, hevent, path, hpath, hne, hsame ▸ hreaches⟩
  · rintro ⟨event, hevent, path, hpath, hne, hreaches⟩
    obtain ⟨record, hget, hkind⟩ := (hunfolded.entries _ event.kind).mpr
      ⟨event, hevent, rfl, path, hpath, hne, rfl⟩
    have hitem := get?_eq_some_iff.mp hget
    have hsame : record.path = path :=
      hp.inj _ _ (hset.entries _ hitem).2.1
        (.inr ⟨event, hevent, path, hpath, .refl path⟩) (hset.entries _ hitem).1.symm
    exact ⟨_, hitem, event.kind, hkind, hsame ▸ hreaches⟩

end

end DirtyPathSet

section

variable {fold : Text → Text} {scope : RepositoryWatchScope} {events : List DirtyFileEvent}

end

namespace DaemonCoverageExample

def scope : RepositoryWatchScope := ⟨"repository", 1, "/wc", .caseSensitive, none⟩

def changedDirectories : List DirtyFileEvent := [⟨"/wc/d", .change, 0⟩, ⟨"/wc/e", .change, 0⟩]

/-- The directory `q` is created, and files below it are changed. -/
def createdAbove : List DirtyFileEvent :=
  [⟨"/wc/q", .create, 0⟩, ⟨"/wc/q/a/x", .change, 0⟩, ⟨"/wc/q/b/y", .change, 0⟩]

end DaemonCoverageExample

end SubversionR

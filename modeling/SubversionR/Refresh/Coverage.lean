import SubversionR.Refresh.Accounting

/-!
# Coverage — the targets a dirty path is covered by

A refresh target covers its own path, with `files` and `immediates` the direct children, with
`infinity` everything below, all up to the case policy of the watch scope.  A `DirtyPathSet` *holds*
a path when one of its containers accounts for it: the record of the path, a folded target, a target
merged back, or the overflow.

* `coversPath_accounting` — the laws of accounting hold, so a path that is held stays held;
* `Holds.covered` — the targets of the set cover every path it holds.
-/

namespace SubversionR

open OrderedMaps OrderedMap PathOrder Runs

/-! ## Case folding -/

/-- Case folding works on each component of a path by itself.  `toLocaleLowerCase` does: a slash is
neither cased nor ignored in the context of other letters, and nothing else folds to one. -/
structure FoldsComponents (fold : Text → Text) : Prop where
  slash : ∀ a b, fold (a ++ '/' :: b) = fold a ++ '/' :: fold b
  noSlash : ∀ a, '/' ∉ a → '/' ∉ fold a
  dot : ∀ a, fold a = fold "." → a = "."

theorem foldsComponents_id : FoldsComponents id := ⟨fun _ _ => rfl, fun _ h => h, fun _ h => h⟩

variable {fold : Text → Text}

theorem FoldsComponents.comparisonKey (h : FoldsComponents fold) (scope : RepositoryWatchScope) :
    FoldsComponents (comparisonKey fold scope) := by
  cases hcase : scope.pathCase with
  | caseSensitive =>
    have heq : SubversionR.comparisonKey fold scope = id := by
      funext path
      simp [SubversionR.comparisonKey, hcase]
    rw [heq]
    exact foldsComponents_id
  | caseInsensitive =>
    have heq : SubversionR.comparisonKey fold scope = fold := by
      funext path
      simp [SubversionR.comparisonKey, hcase]
    rw [heq]
    exact h

section

variable {key : Text → Text} (hkey : FoldsComponents key)

include hkey

/-- A key without a slash comes from a path without one. -/
theorem FoldsComponents.mem_slash_iff {path : Text} : '/' ∈ key path ↔ '/' ∈ path := by
  constructor
  · intro h
    by_contra hnot
    exact hkey.noSlash path hnot h
  · intro h
    rcases parentPath_cases path with ⟨hnot, -⟩ | ⟨_, -, hpath⟩
    · exact absurd h hnot
    · rw [hpath, hkey.slash]
      simp

/-- Paths with one key lie in directories with one key. -/
theorem FoldsComponents.parentPath_congr {a b : Text} (h : key a = key b) :
    key (parentPath a) = key (parentPath b) := by
  rcases parentPath_cases a with ⟨ha, hpa⟩ | ⟨name, hname, ha⟩
  · rcases parentPath_cases b with ⟨hb, hpb⟩ | ⟨name', hname', hb⟩
    · rw [hpa, hpb]
    · have hslash : '/' ∈ key b := hkey.mem_slash_iff.mpr (by rw [hb]; simp)
      rw [← h] at hslash
      exact absurd (hkey.mem_slash_iff.mp hslash) ha
  · rcases parentPath_cases b with ⟨hb, hpb⟩ | ⟨name', hname', hb⟩
    · have hslash : '/' ∈ key a := hkey.mem_slash_iff.mpr (by rw [ha]; simp)
      rw [h] at hslash
      exact absurd (hkey.mem_slash_iff.mp hslash) hb
    · -- the last slash of the common key is the last slash of both paths
      rw [ha, hb, hkey.slash, hkey.slash] at h
      have hrev := congrArg List.reverse h
      simp only [List.reverse_append, List.reverse_cons, List.append_assoc,
        List.singleton_append] at hrev
      have hn : '/' ∉ (key name).reverse := by simpa using hkey.noSlash name hname
      have hn' : '/' ∉ (key name').reverse := by simpa using hkey.noSlash name' hname'
      exact List.reverse_injective (append_sep_inj hn hn' hrev).2

/-- A path in a directory has its key below that of the directory. -/
theorem FoldsComponents.below_parentPath {path : Text} (h : '/' ∈ path) :
    AtOrBelow '/' (key path) (key (parentPath path)) := by
  rcases parentPath_cases path with ⟨hnot, -⟩ | ⟨name, -, hpath⟩
  · exact absurd h hnot
  · refine .inr ⟨key name, ?_⟩
    rw [← hkey.slash, ← hpath]

/-- Nothing but `.` itself is at or below it by key: its key has no slash. -/
theorem FoldsComponents.not_below_of_dot {rest parent : Text}
    (h : key "." = parent ++ '/' :: rest) :
    False := by
  have hslash : '/' ∈ key "." := by
    rw [h]
    simp
  exact absurd (hkey.mem_slash_iff.mp hslash) (by decide)

end

/-! ## The characters of a relative path -/

theorem Text.sliceFrom_suffix (n : Nat) (t : Text) : Text.sliceFrom n t <:+ t := by
  induction t generalizing n with
  | nil => cases n <;> exact List.suffix_rfl
  | cons c rest ih =>
    cases n with
    | zero => exact List.suffix_rfl
    | succ n => exact (ih _).trans (List.suffix_cons c rest)

theorem Text.sliceFrom_append (front rest : Text) :
    Text.sliceFrom front.utf16.length (front ++ rest) = rest := by
  induction front with
  | nil => simp [Text.utf16, Text.sliceFrom]
  | cons c front ih =>
    have hunits : 0 < (Text.utf16Units c).length := by
      unfold Text.utf16Units
      split <;> simp
    have hlength : (Text.utf16 (c :: front)).length =
        (Text.utf16Units c).length + (Text.utf16 front).length := by
      simp [Text.utf16]
    obtain ⟨n, hn⟩ : ∃ n, (Text.utf16 (c :: front)).length = n + 1 :=
      Nat.exists_eq_succ_of_ne_zero (by omega)
    rw [hn, List.cons_append, Text.sliceFrom, ← hn, hlength, Nat.add_sub_cancel_left]
    exact ih

theorem Text.sliceFrom_slash (front rest : Text) :
    Text.sliceFrom (front.utf16.length + 1) (front ++ '/' :: rest) = rest := by
  have hcut := Text.sliceFrom_append (front ++ ['/']) rest
  have hunits : (Text.utf16 (front ++ ['/'])).length = front.utf16.length + 1 := by
    simp [Text.utf16, Text.utf16Units]
  rwa [hunits, List.append_assoc] at hcut

section

variable {fold : Text → Text} {scope : RepositoryWatchScope} {eventPath path : Text}

theorem comparisonKey_caseSensitive (hcase : scope.pathCase = .caseSensitive) (path : Text) :
    comparisonKey fold scope path = path := by
  simp [comparisonKey, hcase]

/-- A relative path is the working copy itself, or what the cut leaves of a path whose key is below
that of the working copy. -/
theorem repositoryRelativePath_cases (h : repositoryRelativePath fold scope eventPath = some path) :
    path = "." ∨
      hasUnsafePathSegments (normalizeAbsolutePath scope.workingCopyRoot) = false ∧
      hasUnsafePathSegments (normalizeAbsolutePath eventPath) = false ∧
      (∃ rest, comparisonKey fold scope (normalizeAbsolutePath eventPath) =
        comparisonKey fold scope (normalizeAbsolutePath scope.workingCopyRoot) ++ '/' :: rest) ∧
      Text.sliceFrom ((normalizeAbsolutePath scope.workingCopyRoot).utf16.length + 1)
        (normalizeAbsolutePath eventPath) = path := by
  unfold repositoryRelativePath at h
  dsimp only at h
  split at h
  · cases h
  rename_i hsafe
  split at h
  · cases h
  rename_i hinside
  split at h
  · cases h
  split at h
  · split at h
    · cases h
    · exact .inl (Option.some.inj h).symm
  rename_i hne
  split at h
  · cases h
  simp only [Bool.not_eq_true, Bool.or_eq_false_iff] at hsafe
  rw [Bool.not_eq_true, Bool.not_eq_false', isSameOrInside_iff] at hinside
  exact .inr ⟨hsafe.1, hsafe.2, hinside.resolve_left hne, Option.some.inj h⟩

/-- The path of an event keeps its characters, up to the direction of the slashes. -/
theorem mem_repositoryRelativePath {c : Char}
    (h : repositoryRelativePath fold scope eventPath = some path) (hc : c ∈ path) :
    c = '.' ∨ c ∈ eventPath.forwardSlashes := by
  rcases repositoryRelativePath_cases h with rfl | ⟨-, -, -, rfl⟩
  · exact .inl (List.mem_singleton.mp hc)
  · have hnormal := (Text.sliceFrom_suffix _ _).mem hc
    have hmem := (List.dropWhile_sublist _).subset (List.mem_reverse.mp hnormal)
    exact .inr (List.mem_reverse.mp hmem)

theorem repositoryRelativePath_noNul (hevent : '\x00' ∉ eventPath)
    (h : repositoryRelativePath fold scope eventPath = some path) : '\x00' ∉ path := by
  intro hnul
  rcases mem_repositoryRelativePath h hnul with heq | hmem
  · exact absurd heq (by decide)
  · obtain ⟨_, hc, heq⟩ := List.mem_map.mp hmem
    split at heq
    · exact absurd heq (by decide)
    · exact hevent (heq ▸ hc)

theorem repositoryRelativePath_slashes
    (h : repositoryRelativePath fold scope eventPath = some path) : '\\' ∉ path := by
  intro hslash
  rcases mem_repositoryRelativePath h hslash with heq | hmem
  · exact absurd heq (by decide)
  · obtain ⟨_, -, heq⟩ := List.mem_map.mp hmem
    split at heq
    · exact absurd heq (by decide)
    · contradiction

end

/-! ## What a target covers -/

/-- The target covers the path: it is the path itself, a directory of which the path is a direct
child, or a directory at or below which the path lies. -/
def StatusRefreshTarget.CoversPath (fold : Text → Text) (scope : RepositoryWatchScope)
    (target : StatusRefreshTarget) (path : Text) : Prop :=
  comparisonKey fold scope target.path = comparisonKey fold scope path ∨
    (target.depth = .files ∨ target.depth = .immediates) ∧
      comparisonKey fold scope (parentPath path) = comparisonKey fold scope target.path ∨
    target.depth = .infinity ∧ (target.path = "." ∨
      isSameOrInside (comparisonKey fold scope target.path) (comparisonKey fold scope path) = true)

instance (fold : Text → Text) (scope : RepositoryWatchScope) (target : StatusRefreshTarget)
    (path : Text) : Decidable (target.CoversPath fold scope path) :=
  inferInstanceAs (Decidable (_ ∨ _ ∧ _ ∨ _ ∧ (_ ∨ _)))

/-- Some target of the list covers the path. -/
def CoveredBy (fold : Text → Text) (scope : RepositoryWatchScope)
    (targets : List StatusRefreshTarget) (path : Text) : Prop :=
  ∃ target ∈ targets, target.CoversPath fold scope path

instance (fold : Text → Text) (scope : RepositoryWatchScope) (targets : List StatusRefreshTarget)
    (path : Text) : Decidable (CoveredBy fold scope targets path) :=
  inferInstanceAs (Decidable (∃ target ∈ targets, _))

section

variable {fold : Text → Text} {scope : RepositoryWatchScope} {target target' : StatusRefreshTarget}
  {path : Text}

/-- The whole working copy covers every path. -/
theorem coversPath_of_root (hpath : target.path = ".") (hdepth : target.depth = .infinity) :
    target.CoversPath fold scope path :=
  .inr (.inr ⟨hdepth, .inl hpath⟩)

/-- A directory covers what lies directly in it, at every depth but `empty`. -/
theorem coversPath_of_parent (hfold : FoldsComponents fold) (hdepth : target.depth ≠ .empty)
    (hparent : comparisonKey fold scope (parentPath path) = comparisonKey fold scope target.path) :
    target.CoversPath fold scope path := by
  have hkey := hfold.comparisonKey scope
  cases hd : target.depth with
  | empty => exact absurd hd hdepth
  | files => exact .inr (.inl ⟨.inl hd, hparent⟩)
  | immediates => exact .inr (.inl ⟨.inr hd, hparent⟩)
  | infinity =>
    by_cases hslash : '/' ∈ path
    · refine .inr (.inr ⟨hd, .inr (isSameOrInside_iff.mpr ?_)⟩)
      rw [← hparent]
      exact hkey.below_parentPath hslash
    · rcases parentPath_cases path with ⟨-, hdot⟩ | ⟨_, -, hpath⟩
      · rw [hdot] at hparent
        exact coversPath_of_root (hkey.dot _ hparent.symm) hd
      · exact absurd (hpath ▸ by simp) hslash

/-- A deeper target under the same key covers more. -/
theorem StatusRefreshTarget.CoversPath.deepen (hfold : FoldsComponents fold)
    (hkey : comparisonKey fold scope target'.path = comparisonKey fold scope target.path)
    (hdepth : depthRank target.depth ≤ depthRank target'.depth)
    (h : target.CoversPath fold scope path) : target'.CoversPath fold scope path := by
  rcases h with hsame | ⟨hchild, hparent⟩ | ⟨hinfinity, hbelow⟩
  · exact .inl (hkey.trans hsame)
  · refine coversPath_of_parent hfold ?_ (hparent.trans hkey.symm)
    intro hempty
    rw [hempty] at hdepth
    rcases hchild with hd | hd
    · rw [hd] at hdepth
      simp [depthRank] at hdepth
    · rw [hd] at hdepth
      simp [depthRank] at hdepth
  · have hinfinity' : target'.depth = .infinity := by
      rw [hinfinity] at hdepth
      cases hd : target'.depth with
      | infinity => rfl
      | _ => simp [hd, depthRank] at hdepth
    rcases hbelow with hdot | hinside
    · rw [hdot] at hkey
      exact coversPath_of_root ((hfold.comparisonKey scope).dot _ hkey) hinfinity'
    · exact .inr (.inr ⟨hinfinity', .inr (by rw [hkey]; exact hinside)⟩)

/-- What a target below a directory covers lies below that directory. -/
theorem StatusRefreshTarget.CoversPath.below (hfold : FoldsComponents fold) {ancestor rest : Text}
    (hbelow : comparisonKey fold scope target.path = ancestor ++ '/' :: rest)
    (h : target.CoversPath fold scope path) : AtOrBelow '/'
      (comparisonKey fold scope path) ancestor := by
  have hkey := hfold.comparisonKey scope
  have hnotDot : ∀ p, comparisonKey fold scope p = comparisonKey fold scope target.path →
      p ≠ "." := by
    rintro p hp rfl
    exact hkey.not_below_of_dot (hp.trans hbelow)
  have htarget : AtOrBelow '/' (comparisonKey fold scope target.path) ancestor :=
    .inr ⟨rest, hbelow⟩
  rcases h with hsame | ⟨-, hparent⟩ | ⟨-, hdot | hinside⟩
  · rw [← hsame]
    exact htarget
  · by_cases hslash : '/' ∈ path
    · have hchild := hkey.below_parentPath hslash
      rw [hparent] at hchild
      exact hchild.trans htarget
    · rcases parentPath_cases path with ⟨-, hp⟩ | ⟨_, -, hpath⟩
      · exact absurd hp (hnotDot _ hparent)
      · exact absurd (hpath ▸ by simp) hslash
  · exact absurd hdot (hnotDot _ rfl)
  · exact (isSameOrInside_iff.mp hinside).trans htarget

end

/-- Some clean target of the list covers the path. -/
def CleanlyCovered (fold : Text → Text) (scope : RepositoryWatchScope)
    (targets : List StatusRefreshTarget) (path : Text) : Prop :=
  ∃ target ∈ targets, target.Clean ∧ target.CoversPath fold scope path

theorem CleanlyCovered.covered {scope : RepositoryWatchScope} {targets : List StatusRefreshTarget}
    {path : Text} (h : CleanlyCovered fold scope targets path) :
    CoveredBy fold scope targets path := by
  obtain ⟨target, hmem, -, hcovers⟩ := h
  exact ⟨target, hmem, hcovers⟩

/-! ## The dirty set -/

/-- The events at a path account for it, and so does every target that covers it. -/
theorem coversPath_accounting (hfold : FoldsComponents fold) (scope : RepositoryWatchScope)
    (path : Text) : Accounting fold scope (fun path => '\x00' ∉ path)
      (fun _ dirty => comparisonKey fold scope dirty = comparisonKey fold scope path)
      (fun target depth => StatusRefreshTarget.CoversPath fold scope ⟨target, depth, []⟩ path) where
  same := fun _ _ _ _ _ hsame hpath => hsame.symm.trans hpath
  deepen := fun _ _ _ _ _ _ hsame hdepth h => h.deepen hfold hsame.symm hdepth
  directory := fun _ _ _ _ _ _ hparent hdepth _ hpath => coversPath_of_parent hfold hdepth
    (((hfold.comparisonKey scope).parentPath_congr hpath.symm).trans hparent)
  subtree := fun _ _ _ rest _ _ hbelow hpath =>
    .inr (.inr ⟨rfl, .inr (isSameOrInside_iff.mpr (.inr ⟨rest, hpath.symm.trans hbelow⟩))⟩)
  root := fun _ _ _ _ _ hpath => .inl hpath
  below := fun _ _ _ _ _ _ hbelow h =>
    .inr (.inr ⟨rfl, .inr (isSameOrInside_iff.mpr (h.below hfold hbelow))⟩)

namespace DirtyPathSet

/-- The set is keyed as it should be, and no path in it has a NUL character. -/
abbrev Sound (fold : Text → Text) (scope : RepositoryWatchScope) (set : DirtyPathSet) : Prop :=
  set.Keyed fold scope fun path => '\x00' ∉ path

/-- The set accounts for the path. -/
def Holds (fold : Text → Text) (scope : RepositoryWatchScope) (set : DirtyPathSet) (path : Text) :
    Prop :=
  set.Accounts (fun _ dirty => comparisonKey fold scope dirty = comparisonKey fold scope path)
    fun target depth => StatusRefreshTarget.CoversPath fold scope ⟨target, depth, []⟩ path

variable {fold : Text → Text} {scope : RepositoryWatchScope} {set : DirtyPathSet} {path : Text}

/-- A record has a target for the working copy, for the directory of its path (a file that came and
went is covered by its directory), or for its path. -/
theorem targetsForRecord_self {record : DirtyPathRecord} (hkinds : record.eventKinds.Nonempty) :
    (∃ reason, ⟨".", .infinity, reason⟩ ∈ targetsForRecord record) ∨
      (∃ reason, parentTarget record.path reason ∈ targetsForRecord record) ∨
      ∃ reason, ⟨record.path, .empty, reason⟩ ∈ targetsForRecord record := by
  unfold targetsForRecord
  split
  · exact .inl ⟨_, List.mem_singleton_self _⟩
  split
  · exact .inr (.inl ⟨_, List.mem_singleton_self _⟩)
  split
  · exact .inr (.inl ⟨_, List.mem_cons_self⟩)
  rename_i hrename _ _
  obtain ⟨kind, hkind⟩ := hkinds
  refine .inr (.inr ?_)
  cases kind with
  | rename => exact absurd hkind hrename
  | create =>
    refine ⟨"fileCreated", List.mem_append_left _ (List.mem_append_left _ ?_)⟩
    rw [if_pos hkind]
    exact List.mem_cons_of_mem _ (List.mem_singleton_self _)
  | delete =>
    refine ⟨"fileDeleted", List.mem_append_left _ (List.mem_append_right _ ?_)⟩
    rw [if_pos hkind]
    exact List.mem_cons_of_mem _ (List.mem_singleton_self _)
  | change =>
    refine ⟨"fileChanged", List.mem_append_right _ ?_⟩
    rw [if_pos (.inl hkind)]
    exact List.mem_singleton_self _
  | metadata =>
    refine ⟨"fileChanged", List.mem_append_right _ ?_⟩
    rw [if_pos (.inr hkind)]
    exact List.mem_singleton_self _

/-- **The targets of the set** cover every path it accounts for. -/
theorem Holds.covered (hfold : FoldsComponents fold) (hsound : set.Sound fold scope)
    (h : set.Holds fold scope path) : CleanlyCovered fold scope set.toRefreshTargets path := by
  refine Accounts.listed hsound (fun _ h => h) (coversPath_of_root rfl rfl) ?_ h
  intro record _ kind hkind hpath
  rcases targetsForRecord_self ⟨kind, hkind⟩ with ⟨_, hmem⟩ | ⟨_, hmem⟩ | ⟨_, hmem⟩
  · exact ⟨_, hmem, coversPath_of_root rfl rfl⟩
  · exact ⟨_, hmem, coversPath_of_parent hfold
      (show StatusRefreshDepth.immediates ≠ .empty by decide)
      ((hfold.comparisonKey scope).parentPath_congr hpath.symm)⟩
  · exact ⟨_, hmem, .inl hpath⟩

end DirtyPathSet

end SubversionR

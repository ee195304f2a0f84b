import SubversionR.Lib.PathOrder
import SubversionR.Sync.DirtyTargets

/-!
# Accounting — what a dirty set keeps while it folds

A record stands for the events at a dirty path.  When the queue has grown too long, the records of a
directory are folded into one target, those of a subtree into another, and at last everything into
the overflow.  Whether something is lost depends on what the events and the targets are taken to
account for; `Accounting` says what has to be true of single folds for nothing to be lost in a run.

* `DirtyPathSet.Keyed` — how the set keys what it stores;
* `DirtyPathSet.Accounts` — the record of a path, a folded target, a target that was merged back or
  the overflow accounts for it;
* `record_keeps`, `mergeTargets_keeps` — what is accounted for stays so through recording, folding
  and merging, and what a recorded event accounts for is added;
* `Accounts.listed` — the targets of the set account for everything the set does.

Targets are stored under a text that joins path, depth and reason with NUL characters.  Two targets
share that text only if one of them has a NUL character in its path or reason, so the paths of file
events are taken to have none.
-/

namespace SubversionR

open OrderedMaps OrderedMap PathOrder Runs

/-! ## Paths -/

theorem isSameOrInside_iff {parentKey key : Text} :
    isSameOrInside parentKey key = true ↔ AtOrBelow '/' key parentKey := by
  unfold isSameOrInside AtOrBelow
  rw [Bool.or_eq_true, decide_eq_true_iff, List.isPrefixOf_iff_prefix]
  constructor
  · rintro (heq | ⟨rest, hrest⟩)
    · exact .inl heq
    · exact .inr ⟨rest, by rw [← hrest]; simp⟩
  · rintro (heq | ⟨rest, rfl⟩)
    · exact .inl heq
    · exact .inr ⟨rest, by simp⟩

/-- A path without a slash lies in `.`, any other one is its parent, a slash and a name. -/
theorem parentPath_cases (path : Text) :
    ('/' ∉ path ∧ parentPath path = ".") ∨
      ∃ name, '/' ∉ name ∧ path = parentPath path ++ '/' :: name := by
  unfold parentPath
  cases h : path.reverse.dropWhile (· ≠ '/') with
  | nil =>
    refine .inl ⟨?_, rfl⟩
    intro hslash
    have hall := List.dropWhile_eq_nil_iff.mp h '/' (by simpa using hslash)
    simp at hall
  | cons c front =>
    have hc : c = '/' := by
      have hhead := List.head?_dropWhile_not (· ≠ '/') path.reverse
      rw [h] at hhead
      simpa using hhead
    refine .inr ⟨(path.reverse.takeWhile (· ≠ '/')).reverse, ?_, ?_⟩
    · intro hslash
      have hmem := List.mem_takeWhile_imp (List.mem_reverse.mp hslash)
      simp at hmem
    · have hsplit := List.takeWhile_append_dropWhile (p := (· ≠ '/')) (l := path.reverse)
      rw [h, hc] at hsplit
      have hpath := congrArg List.reverse hsplit
      simpa using hpath.symm

theorem noNul_parentClosed : ParentClosed fun path => '\x00' ∉ path where
  dot := by decide
  parent := by
    intro path hpath hmem
    rcases parentPath_cases path with ⟨-, hdot⟩ | ⟨_, -, heq⟩
    · rw [hdot] at hmem
      exact absurd hmem (by decide)
    · exact hpath (by rw [heq]; exact List.mem_append_left _ hmem)

/-- The directories above a path lie strictly above it. -/
theorem exists_of_mem_ancestorPaths {path ancestor : Text} (hmem : ancestor ∈ ancestorPaths path) :
    ∃ rest, path = ancestor ++ '/' :: rest := by
  induction hlength : path.length using Nat.strong_induction_on generalizing path with
  | _ n ih =>
    subst hlength
    rw [ancestorPaths_eq] at hmem
    split at hmem
    · cases hmem
    rename_i hdot
    rcases parentPath_cases path with ⟨-, hparent⟩ | ⟨name, -, heq⟩
    · exact absurd hparent hdot
    rcases List.mem_cons.mp hmem with rfl | hmem
    · exact ⟨name, heq⟩
    · have hshorter := (parentPath_eq_dot_or_length_lt path).resolve_left hdot
      obtain ⟨rest, hrest⟩ := ih _ hshorter hmem rfl
      refine ⟨rest ++ '/' :: name, ?_⟩
      rw [← List.cons_append, ← List.append_assoc, ← hrest]
      exact heq

/-! ## Keys of targets -/

/-- Neither the path nor the reason has the character that separates the parts of a key. -/
structure StatusRefreshTarget.Clean (target : StatusRefreshTarget) : Prop where
  path : '\x00' ∉ target.path
  reason : '\x00' ∉ target.reason

theorem count_word (depth : StatusRefreshDepth) : depth.word.count '\x00' = 0 := by
  cases depth <;> decide

/-- **A clean target shares its key with no other one.**  Its key has two separators, so those of
the other target are in the same places. -/
theorem eq_of_targetKey_eq {target other : StatusRefreshTarget} (hclean : target.Clean)
    (h : targetKey other = targetKey target) : other = target := by
  have hcount := congrArg (List.count '\x00') h
  have hpath := List.count_eq_zero_of_not_mem hclean.path
  have hreason := List.count_eq_zero_of_not_mem hclean.reason
  simp only [targetKey, List.count_append, count_word, hpath, hreason] at hcount
  have hpath' : '\x00' ∉ other.path := List.count_eq_zero.mp (by omega)
  have hword : ∀ depth : StatusRefreshDepth, '\x00' ∉ depth.word := fun depth =>
    List.count_eq_zero.mp (count_word depth)
  simp only [targetKey, List.append_assoc, List.singleton_append] at h
  obtain ⟨hp, hrest⟩ := append_sep_inj hpath' hclean.path h
  obtain ⟨hd, hr⟩ := append_sep_inj (hword _) (hword _) hrest
  have hdepth : other.depth = target.depth := by
    revert hd
    cases other.depth <;> cases target.depth <;> decide
  cases other
  simp only at hp hdepth hr
  rw [hp, hdepth, hr]

/-! ## The laws of accounting -/

/-- What events and targets account for, such that no fold loses it.  The laws are about paths of
`p`: those of the events of a run, and the directories above them. -/
structure Accounting (fold : Text → Text) (scope : RepositoryWatchScope) (p : Text → Prop)
    (byEvent : FileEventKind → Text → Prop) (byTarget : Text → StatusRefreshDepth → Prop) :
    Prop where
  /-- Events are stored under the key of their path. -/
  same : ∀ kind a b, p a → p b → comparisonKey fold scope a = comparisonKey fold scope b →
    byEvent kind a → byEvent kind b
  /-- A target gives way to a deeper one under its key. -/
  deepen : ∀ a b depth depth', p a → p b →
    comparisonKey fold scope a = comparisonKey fold scope b →
    depthRank depth ≤ depthRank depth' → byTarget a depth → byTarget b depth'
  /-- A record gives way to the target of its directory, which lists the entries of the directory
  when a path was created or deleted. -/
  directory : ∀ kind path directory depth, p path → p directory →
    comparisonKey fold scope (parentPath path) = comparisonKey fold scope directory →
    depth ≠ .empty → (kind = .create ∨ kind = .delete → depthRank .immediates ≤ depthRank depth) →
    byEvent kind path → byTarget directory depth
  /-- A record gives way to the target of a subtree it is in, -/
  subtree : ∀ kind path ancestor rest, p path → p ancestor →
    comparisonKey fold scope path = comparisonKey fold scope ancestor ++ '/' :: rest →
    byEvent kind path → byTarget ancestor .infinity
  /-- or of which it is the root; the set then holds a path strictly below. -/
  root : ∀ kind ancestor rest, p (ancestor ++ '/' :: rest) → p ancestor → byEvent kind ancestor →
    byTarget ancestor .infinity
  /-- A target gives way to the target of a subtree it is in. -/
  below : ∀ path ancestor depth rest, p path → p ancestor →
    comparisonKey fold scope path = comparisonKey fold scope ancestor ++ '/' :: rest →
    byTarget path depth → byTarget ancestor .infinity

namespace DirtyPathSet

/-- How the containers of the set are keyed: records and folded targets under the comparison key of
their path, targets that were merged back under their target key. -/
structure Keyed (fold : Text → Text) (scope : RepositoryWatchScope) (p : Text → Prop)
    (set : DirtyPathSet) : Prop where
  scope_eq : set.scope = scope
  entries : ∀ item ∈ set.entries.items, item.1 = comparisonKey fold scope item.2.path ∧
    p item.2.path ∧ item.2.eventKinds.Nonempty
  foldedTargets : ∀ item ∈ set.foldedTargets.items, item.1 = comparisonKey fold scope item.2.path ∧
    p item.2.path ∧ '\x00' ∉ item.2.reason ∧ item.2.depth ≠ .empty
  explicitTargets : ∀ item ∈ set.explicitTargets.items, item.1 = targetKey item.2

/-- The set accounts for what the events and the targets do. -/
inductive Accounts (byEvent : FileEventKind → Text → Prop)
    (byTarget : Text → StatusRefreshDepth → Prop) (set : DirtyPathSet) : Prop
  | overflowed (h : set.overflowed = true)
  | entry (item : Text × DirtyPathRecord) (h : item ∈ set.entries.items) (kind : FileEventKind)
      (hkind : kind ∈ item.2.eventKinds) (hevent : byEvent kind item.2.path)
  | folded (item : Text × StatusRefreshTarget) (h : item ∈ set.foldedTargets.items)
      (htarget : byTarget item.2.path item.2.depth)
  | explicit (item : Text × StatusRefreshTarget) (h : item ∈ set.explicitTargets.items)
      (hclean : item.2.Clean) (htarget : byTarget item.2.path item.2.depth)

/-- The set accounts for whatever an event of the kind does at the path. -/
def Takes (fold : Text → Text) (scope : RepositoryWatchScope) (p : Text → Prop)
    (kind : FileEventKind) (path : Text) (set : DirtyPathSet) : Prop :=
  ∀ {byEvent byTarget}, Accounting fold scope p byEvent byTarget → byEvent kind path →
    set.Accounts byEvent byTarget

/-- The new set is keyed and accounts for everything that the old one does. -/
structure Keeps (fold : Text → Text) (scope : RepositoryWatchScope) (p : Text → Prop)
    (set set' : DirtyPathSet) : Prop where
  keyed : set'.Keyed fold scope p
  accounts : ∀ {byEvent byTarget}, Accounting fold scope p byEvent byTarget →
    set.Accounts byEvent byTarget → set'.Accounts byEvent byTarget

/-- The same for a fold, which adds no records. -/
structure Folds (fold : Text → Text) (scope : RepositoryWatchScope) (p : Text → Prop)
    (set set' : DirtyPathSet) : Prop extends Keeps fold scope p set set' where
  entries : ∀ item ∈ set'.entries.items, item ∈ set.entries.items

variable {fold : Text → Text} {scope : RepositoryWatchScope} {p : Text → Prop}
  {set : DirtyPathSet} {path : Text} {byEvent : FileEventKind → Text → Prop}
  {byTarget : Text → StatusRefreshDepth → Prop}

theorem Keeps.refl (h : set.Keyed fold scope p) : Keeps fold scope p set set := ⟨h, fun _ h => h⟩

theorem Keeps.trans {a b c : DirtyPathSet} (h : Keeps fold scope p a b)
    (h' : Keeps fold scope p b c) : Keeps fold scope p a c :=
  ⟨h'.keyed, fun hlaws hset => h'.accounts hlaws (h.accounts hlaws hset)⟩

theorem Folds.refl (h : set.Keyed fold scope p) : Folds fold scope p set set :=
  ⟨.refl h, fun _ h => h⟩

theorem Folds.trans {a b c : DirtyPathSet} (h : Folds fold scope p a b)
    (h' : Folds fold scope p b c) : Folds fold scope p a c :=
  ⟨h.toKeeps.trans h'.toKeeps, fun item hitem => h.entries item (h'.entries item hitem)⟩

theorem keyed_new (maxDirtyPaths : Option Int) :
    (DirtyPathSet.new scope maxDirtyPaths).Keyed fold scope p :=
  ⟨rfl, by simp [DirtyPathSet.new, empty], by simp [DirtyPathSet.new, empty],
    by simp [DirtyPathSet.new, empty]⟩

theorem keyed_clear (hset : set.scope = scope) : set.clear.Keyed fold scope p :=
  ⟨hset, by simp [DirtyPathSet.clear, empty],
    by simp [DirtyPathSet.clear, empty], by simp [DirtyPathSet.clear, empty]⟩

/-! ### Folded targets -/

/-- The target `setFoldedTarget` stores: at least as deep as asked, and as what was there. -/
theorem setFoldedTarget_stores (hset : set.scope = scope) (target : Text)
    (depth : StatusRefreshDepth)
    (reason : Text) :
    ∃ depth', (set.setFoldedTarget fold target depth reason).foldedTargets =
        set.foldedTargets.set (comparisonKey fold scope target) ⟨target, depth', reason⟩ ∧
      depthRank depth ≤ depthRank depth' ∧
      (depth' = depth ∨ ∃ old, (comparisonKey fold scope target, old) ∈ set.foldedTargets.items ∧
        depth' = old.depth) ∧
      ∀ old, (comparisonKey fold scope target, old) ∈ set.foldedTargets.items →
        depthRank old.depth ≤ depthRank depth' := by
  unfold DirtyPathSet.setFoldedTarget
  rw [hset]
  refine ⟨_, rfl, ?_⟩
  cases hget : set.foldedTargets.get? (comparisonKey fold scope target) with
  | none =>
    refine ⟨le_rfl, .inl rfl, ?_⟩
    intro old hold
    rw [get?_eq_some_iff.mpr hold] at hget
    cases hget
  | some existing =>
    have hexisting : ∀ old, (comparisonKey fold scope target, old) ∈ set.foldedTargets.items →
        old = existing := by
      intro old hold
      rw [get?_eq_some_iff.mpr hold] at hget
      exact Option.some.inj hget
    dsimp only
    split
    · rename_i hdeeper
      refine ⟨by omega, .inr ⟨existing, get?_eq_some_iff.mp hget, rfl⟩, ?_⟩
      intro old hold
      rw [hexisting old hold]
    · refine ⟨le_rfl, .inl rfl, ?_⟩
      intro old hold
      rw [hexisting old hold]
      omega

theorem setFoldedTarget_folds (hset : set.Keyed fold scope p) {target reason : Text}
    {depth : StatusRefreshDepth} (hpath : p target) (hreason : '\x00' ∉ reason)
    (hdepth : depth ≠ .empty) :
    Folds fold scope p set (set.setFoldedTarget fold target depth reason) := by
  obtain ⟨depth', heq, -, hdepth', hdeeper⟩ :=
    @setFoldedTarget_stores fold _ _ hset.scope_eq target depth reason
  refine ⟨⟨⟨hset.scope_eq, hset.entries, ?_, hset.explicitTargets⟩, ?_⟩, fun _ h => h⟩
  · intro item hitem
    rw [heq] at hitem
    rcases mem_items_set.mp hitem with rfl | ⟨-, hold⟩
    · refine ⟨rfl, hpath, hreason, ?_⟩
      rcases hdepth' with rfl | ⟨_, hold, rfl⟩
      · exact hdepth
      · exact (hset.foldedTargets _ hold).2.2.2
    · exact hset.foldedTargets item hold
  intro byEvent byTarget hlaws h
  cases h with
  | overflowed h => exact .overflowed h
  | entry item h kind hkind hevent => exact .entry item h kind hkind hevent
  | explicit item h hclean htarget => exact .explicit item h hclean htarget
  | folded item h htarget =>
    by_cases hkey : item.1 = comparisonKey fold scope target
    · -- the target under the key is replaced by one at least as deep
      obtain ⟨hitem, hp, -⟩ := hset.foldedTargets item h
      refine .folded (comparisonKey fold scope target, ⟨target, depth', reason⟩) ?_
        (hlaws.deepen _ _ _ _ hp hpath (hitem ▸ hkey) (hdeeper item.2 (hkey ▸ h)) htarget)
      rw [heq]
      exact mem_items_set.mpr (.inl rfl)
    · refine .folded item ?_ htarget
      rw [heq]
      exact mem_items_set.mpr (.inr ⟨hkey, h⟩)

/-- The set after `setFoldedTarget` accounts for what the target does at the depth asked for. -/
theorem accounts_setFoldedTarget (hlaws : Accounting fold scope p byEvent byTarget)
    (hset : set.scope = scope) {target reason : Text} {depth : StatusRefreshDepth}
    (hpath : p target) (h : byTarget target depth) :
    ∃ item ∈ (set.setFoldedTarget fold target depth reason).foldedTargets.items,
      byTarget item.2.path item.2.depth := by
  obtain ⟨depth', heq, hdeep, -⟩ := @setFoldedTarget_stores fold _ _ hset target depth reason
  refine ⟨(comparisonKey fold scope target, ⟨target, depth', reason⟩), ?_,
    hlaws.deepen _ _ _ _ hpath hpath rfl hdeep h⟩
  rw [heq]
  exact mem_items_set.mpr (.inl rfl)

/-! ### Folding the records of one directory -/

/-- **Folding the records of one directory.**  The group is made of records of the set that the
folding began with. -/
theorem foldSiblingGroup_folds (hp : ParentClosed p) {start : DirtyPathSet}
    (hstart : start.Keyed fold scope p) (hset : set.Keyed fold scope p)
    (hsub : ∀ item ∈ set.entries.items, item ∈ start.entries.items)
    {records : List DirtyPathRecord} {parentKey : Text}
    (hrecords : ∀ record ∈ records, record ∈ start.entries.values ∧
      comparisonKey fold scope (parentPath record.path) = parentKey) :
    Folds fold scope p set (set.foldSiblingGroup fold records) := by
  unfold DirtyPathSet.foldSiblingGroup
  split
  · exact .refl hset
  cases records with
  | nil => exact .refl hset
  | cons first rest =>
    have hitems : ∀ record ∈ first :: rest, ∃ item ∈ start.entries.items, item.2 = record :=
      fun record hrecord => List.mem_map.mp (hrecords record hrecord).1
    have hfirst : p (parentPath first.path) := by
      obtain ⟨item, hitem, heq⟩ := hitems first List.mem_cons_self
      exact hp.parent _ (heq ▸ (hstart.entries item hitem).2.1)
    have hdepth : ∀ requires : Bool,
        (if requires then StatusRefreshDepth.immediates else .files) ≠ .empty := by decide
    have hdeleted := @mem_items_foldl_delete Text DirtyPathRecord _ _
      (fun record : DirtyPathRecord => comparisonKey fold set.scope record.path)
      (fun _ => True) _ (first :: rest) set.entries
    simp only [if_true, forall_const] at hdeleted
    have hfolded := setFoldedTarget_folds hset hfirst
      (show '\x00' ∉ ("dirtyPathFold" : Text) by decide)
      (hdepth ((first :: rest).any requiresSiblingDirectoryEntries))
    refine ⟨⟨⟨hset.scope_eq, fun item hitem => hset.entries item (hdeleted.mp hitem).1,
      hfolded.keyed.foldedTargets, hset.explicitTargets⟩, ?_⟩,
      fun item hitem => (hdeleted.mp hitem).1⟩
    intro byEvent byTarget hlaws h
    cases hfolded.accounts hlaws h with
    | overflowed h => exact .overflowed h
    | explicit item h hclean htarget => exact .explicit item h hclean htarget
    | folded item h htarget => exact .folded item h htarget
    | entry item h kind hkind hevent =>
      by_cases hkept : ∀ record ∈ first :: rest,
          item.1 ≠ comparisonKey fold set.scope record.path
      · exact .entry item (hdeleted.mpr ⟨h, hkept⟩) kind hkind hevent
      · -- the record is one of the group, and the target of the group replaces it
        simp only [not_forall, not_not] at hkept
        obtain ⟨record, hrecord, hkey⟩ := hkept
        obtain ⟨old, hold, rfl⟩ := hitems record hrecord
        have hkeys : item.1 = old.1 := by
          rw [hkey, (hstart.entries old hold).1, hset.scope_eq]
        have hget := get?_eq_some_iff.mpr (hsub item h)
        rw [hkeys, get?_eq_some_iff.mpr hold] at hget
        obtain rfl : item = old := Prod.ext hkeys (Option.some.inj hget).symm
        obtain ⟨covering, hmem, htarget⟩ := accounts_setFoldedTarget hlaws hset.scope_eq hfirst
          (hlaws.directory _ _ _ _ (hset.entries item h).2.1 hfirst
            ((hrecords _ hrecord).2.trans (hrecords first List.mem_cons_self).2.symm)
            (hdepth ((first :: rest).any requiresSiblingDirectoryEntries)) (fun hstructural => by
              rw [if_pos (List.any_eq_true.mpr ⟨_, hrecord, ?_⟩)]
              rcases hstructural with rfl | rfl <;>
                simp [requiresSiblingDirectoryEntries, hkind]) hevent)
        exact .folded covering hmem htarget

/-! ### Folding a subtree -/

variable {ancestor rest reason : Text}

theorem isDescendantOf_iff {below : Text} (hset : set.scope = scope) :
    set.isDescendantOf fold ancestor below = true ↔
      ∃ rest, comparisonKey fold scope below = comparisonKey fold scope ancestor ++
        '/' :: rest := by
  unfold isDescendantOf
  rw [hset, List.isPrefixOf_iff_prefix]
  constructor
  · rintro ⟨rest, hrest⟩
    exact ⟨rest, by rw [← hrest]; simp⟩
  · rintro ⟨rest, hrest⟩
    exact ⟨rest, by rw [hrest]; simp⟩

section

variable (hset : set.Keyed fold scope p) (hancestor : p ancestor)
  (hsubtree : (comparisonKey fold scope ancestor, ⟨ancestor, .infinity, reason⟩) ∈
    set.foldedTargets.items)

include hset hancestor hsubtree

theorem deleteEntriesInside_folds (hother : p (ancestor ++ '/' :: rest)) :
    Folds fold scope p set (set.deleteEntriesInside fold ancestor) := by
  have hdeleted := @mem_items_foldl_delete Text DirtyPathRecord _ _
    (fun record : DirtyPathRecord => comparisonKey fold set.scope record.path)
    (fun record => set.isSameOrDescendantOf fold ancestor record.path = true)
  refine ⟨⟨⟨hset.scope_eq, fun item hitem => hset.entries item (hdeleted.mp hitem).1,
    hset.foldedTargets, hset.explicitTargets⟩, ?_⟩, fun item hitem => (hdeleted.mp hitem).1⟩
  intro byEvent byTarget hlaws h
  cases h with
  | overflowed h => exact .overflowed h
  | explicit item h hclean htarget => exact .explicit item h hclean htarget
  | folded item h htarget => exact .folded item h htarget
  | entry item h kind hkind hevent =>
    by_cases hkept : ∀ record ∈ set.entries.values,
        set.isSameOrDescendantOf fold ancestor record.path = true →
        item.1 ≠ comparisonKey fold set.scope record.path
    · exact .entry item (hdeleted.mpr ⟨h, hkept⟩) kind hkind hevent
    · simp only [not_forall, not_not] at hkept
      obtain ⟨record, -, hinside, hsame⟩ := hkept
      obtain ⟨hkey, hpath, -⟩ := hset.entries item h
      unfold isSameOrDescendantOf at hinside
      rw [← hsame, hkey, hset.scope_eq, isSameOrInside_iff] at hinside
      refine .folded _ hsubtree ?_
      rcases hinside with heq | ⟨_, hbelow⟩
      · exact hlaws.root _ _ _ hother hancestor (hlaws.same _ _ _ hpath hancestor heq hevent)
      · exact hlaws.subtree _ _ _ _ hpath hancestor hbelow hevent

theorem deleteFoldedTargetsInside_folds :
    Folds fold scope p set (set.deleteFoldedTargetsInside fold ancestor) := by
  have hdeleted := @mem_items_foldl_delete Text StatusRefreshTarget _ _
    (fun target : StatusRefreshTarget => comparisonKey fold set.scope target.path)
    (fun target => comparisonKey fold set.scope target.path ≠
      comparisonKey fold set.scope ancestor ∧
      set.isDescendantOf fold ancestor target.path = true)
  refine ⟨⟨⟨hset.scope_eq, hset.entries,
    fun item hitem => hset.foldedTargets item (hdeleted.mp hitem).1,
    hset.explicitTargets⟩, ?_⟩, fun _ h => h⟩
  intro byEvent byTarget hlaws h
  cases h with
  | overflowed h => exact .overflowed h
  | explicit item h hclean htarget => exact .explicit item h hclean htarget
  | entry item h kind hkind hevent => exact .entry item h kind hkind hevent
  | folded item h htarget =>
    by_cases hkept : ∀ target ∈ set.foldedTargets.values,
        (comparisonKey fold set.scope target.path ≠ comparisonKey fold set.scope ancestor ∧
          set.isDescendantOf fold ancestor target.path = true) →
        item.1 ≠ comparisonKey fold set.scope target.path
    · exact .folded item (hdeleted.mpr ⟨h, hkept⟩) htarget
    · -- the target is below the ancestor; that of the subtree is not deleted
      simp only [not_forall, not_not] at hkept
      obtain ⟨target, -, ⟨-, hbelow⟩, hsame⟩ := hkept
      obtain ⟨_, hrest⟩ := (isDescendantOf_iff hset.scope_eq).mp hbelow
      obtain ⟨hkey, hpath, -⟩ := hset.foldedTargets item h
      rw [hkey, hset.scope_eq, hrest] at hsame
      refine .folded _ (hdeleted.mpr ⟨hsubtree, ?_⟩)
        (hlaws.below _ _ _ _ hpath hancestor hsame htarget)
      intro _ _ hother
      rw [← hset.scope_eq]
      exact hother.1.symm

end

/-- **Folding a subtree** that has a path of the run strictly below its root. -/
theorem foldSubtreeGroup_folds (hset : set.Keyed fold scope p) {group : SubtreeFoldGroup}
    (hgroup : p group.ancestor) (hother : p (group.ancestor ++ '/' :: rest)) :
    Folds fold scope p set (set.foldSubtreeGroup fold group) := by
  unfold DirtyPathSet.foldSubtreeGroup
  split
  · exact .refl hset
  have hfolded := setFoldedTarget_folds hset hgroup
    (show '\x00' ∉ ("dirtyPathSubtreeFold" : Text) by decide)
    (show StatusRefreshDepth.infinity ≠ .empty by decide)
  have hsubtree : (comparisonKey fold scope group.ancestor,
      ⟨group.ancestor, .infinity, "dirtyPathSubtreeFold"⟩) ∈ (set.setFoldedTarget fold
        group.ancestor .infinity "dirtyPathSubtreeFold").foldedTargets.items := by
    obtain ⟨depth', heq, hdeep, -⟩ := @setFoldedTarget_stores fold _ _ hset.scope_eq
      group.ancestor .infinity "dirtyPathSubtreeFold"
    have hinfinity : depth' = .infinity := by
      cases depth' with
      | infinity => rfl
      | _ => simp [depthRank] at hdeep
    rw [heq, hinfinity]
    exact mem_items_set.mpr (.inl rfl)
  have hentries := deleteEntriesInside_folds hfolded.keyed hgroup hsubtree hother
  exact (hfolded.trans hentries).trans
    (deleteFoldedTargetsInside_folds hentries.keyed hgroup hsubtree)

theorem Keyed.foldableQueuePaths (hset : set.Keyed fold scope p) {queued : Text}
    (hmem : queued ∈ set.foldableQueuePaths) : p queued := by
  rcases List.mem_append.mp hmem with hmem | hmem
  · obtain ⟨_, hrecord, rfl⟩ := List.mem_map.mp hmem
    obtain ⟨item, hitem, rfl⟩ := List.mem_map.mp (List.mem_of_mem_filter hrecord)
    exact (hset.entries item hitem).2.1
  · obtain ⟨_, htarget, rfl⟩ := List.mem_map.mp hmem
    obtain ⟨item, hitem, rfl⟩ := List.mem_map.mp htarget
    exact (hset.foldedTargets item hitem).2.1

theorem shrink_folds (hp : ParentClosed p) (hset : set.Keyed fold scope p) (timestamp : Int) :
    Folds fold scope p set (set.shrink fold timestamp) := by
  refine shrink_invariant (fun start hstart group hgroup set' hset' => ?_)
    (fun start hstart group hgroup set' hset' => ?_) (fun set' hset' => ?_) (.refl hset)
  · have hmem := mem_siblingGroups group hgroup
    rw [hstart.keyed.scope_eq] at hmem
    refine hset'.trans (foldSiblingGroup_folds hp hset hset'.keyed hset'.entries
      fun record hrecord => ⟨?_, (hmem record hrecord).2⟩)
    obtain ⟨item, hitem, rfl⟩ := List.mem_map.mp (hmem record hrecord).1
    exact List.mem_map_of_mem (hstart.entries item hitem)
  · obtain ⟨_, hpath, hancestor⟩ := mem_subtreeGroups group hgroup
    have hqueued := hstart.keyed.foldableQueuePaths hpath
    have hgroup' := hp.ancestorPaths hqueued hancestor
    obtain ⟨_, hrest⟩ := exists_of_mem_ancestorPaths hancestor
    rw [hrest] at hqueued
    exact hset'.trans (foldSubtreeGroup_folds hset'.keyed hgroup' hqueued)
  · exact hset'.trans ⟨⟨⟨hset'.keyed.scope_eq, by simp [empty],
      by simp [empty], hset'.keyed.explicitTargets⟩, fun _ _ => .overflowed rfl⟩,
      by simp [empty]⟩

/-! ### Recording an event -/

/-- An event that a folded target absorbs is accounted for. -/
theorem mergeIntoFoldedTargetIfCovered_keeps (hset : set.Keyed fold scope p) (hpath : p path)
    {kind : FileEventKind} {merged : DirtyPathSet}
    (h : set.mergeIntoFoldedTargetIfCovered fold path kind = some merged) :
    Keeps fold scope p set merged ∧ merged.Takes fold scope p kind path := by
  unfold mergeIntoFoldedTargetIfCovered at h
  split at h
  · cases h
  rename_i target hfind
  obtain ⟨hmem, hplace⟩ := findFoldedTargetCovering_cases hfind
  obtain ⟨item, hitem, rfl⟩ := List.mem_map.mp hmem
  obtain ⟨hkey, htarget, -, hdepth⟩ := hset.foldedTargets item hitem
  rw [hset.scope_eq] at hplace
  -- the target is that of the directory of the path, or that of a subtree around it
  have hcovers : ∀ {byEvent byTarget}, Accounting fold scope p byEvent byTarget →
      byEvent kind path → ∀ depth : StatusRefreshDepth, depth ≠ .empty →
      depthRank item.2.depth ≤ depthRank depth →
      (kind = .create ∨ kind = .delete → depthRank .immediates ≤ depthRank depth) →
      byTarget item.2.path depth := by
    intro byEvent byTarget hlaws hevent depth hdepth' hdeeper hstructural
    rcases hplace with hdirect | ⟨hinfinity, hbelow⟩
    · exact hlaws.directory _ _ _ _ hpath htarget
        (hset.foldedTargets _ (get?_eq_some_iff.mp hdirect)).1 hdepth' hstructural hevent
    · obtain ⟨_, hrest⟩ := (isDescendantOf_iff hset.scope_eq).mp hbelow
      rw [hinfinity] at hdeeper
      exact hlaws.deepen _ _ _ _ htarget htarget rfl hdeeper
        (hlaws.subtree _ _ _ _ hpath htarget hrest hevent)
  split at h
  · rename_i hdeepen
    cases h
    refine ⟨(setFoldedTarget_folds hset htarget (by decide) (by decide)).toKeeps,
      fun hlaws hevent => ?_⟩
    have hshallow : depthRank item.2.depth ≤ depthRank .immediates := by
      revert hdeepen
      cases item.2.depth <;> simp [depthRank]
    obtain ⟨covering, hcovering, hbyTarget⟩ := accounts_setFoldedTarget hlaws hset.scope_eq htarget
      (hcovers hlaws hevent .immediates (by decide) hshallow fun _ => le_rfl)
    exact .folded covering hcovering hbyTarget
  · rename_i hkeep
    cases h
    refine ⟨.refl hset, fun hlaws hevent => .folded item hitem
      (hcovers hlaws hevent _ hdepth le_rfl fun hstructural => ?_)⟩
    have hinfinity : item.2.depth = .infinity := by
      by_contra hinfinity
      exact hkeep ⟨hinfinity, hstructural⟩
    rw [hinfinity]
    decide

/-- A new record of a path has the kinds of the old one, and accounts for what they do. -/
theorem setEntry_keeps (hset : set.Keyed fold scope p) {record : DirtyPathRecord}
    (hkey : comparisonKey fold scope record.path = comparisonKey fold scope path)
    (hpath : p record.path) (hkinds : record.eventKinds.Nonempty)
    (hold : ∀ old, set.entries.get? (comparisonKey fold scope path) = some old →
      old.eventKinds ⊆ record.eventKinds) :
    Keeps fold scope p set
        { set with entries := set.entries.set (comparisonKey fold scope path) record } ∧
      ∀ {byEvent byTarget}, ∀ kind ∈ record.eventKinds, byEvent kind record.path →
        Accounts byEvent byTarget
          { set with entries := set.entries.set (comparisonKey fold scope path) record } := by
  have hnew : (comparisonKey fold scope path, record) ∈
      (set.entries.set (comparisonKey fold scope path) record).items :=
    mem_items_set.mpr (.inl rfl)
  refine ⟨⟨⟨hset.scope_eq, ?_, hset.foldedTargets, hset.explicitTargets⟩, ?_⟩,
    fun kind hkind hevent => .entry _ hnew kind hkind hevent⟩
  · intro item hitem
    rcases mem_items_set.mp hitem with rfl | ⟨-, hold⟩
    · exact ⟨hkey.symm, hpath, hkinds⟩
    · exact hset.entries item hold
  · intro byEvent byTarget hlaws h
    cases h with
    | overflowed h => exact .overflowed h
    | explicit item h hclean htarget => exact .explicit item h hclean htarget
    | folded item h htarget => exact .folded item h htarget
    | entry item h kind hkind hevent =>
      -- the new record takes over the kinds of the one it replaces
      by_cases hsame : item.1 = comparisonKey fold scope path
      · obtain ⟨hitem, hp, -⟩ := hset.entries item h
        refine .entry _ hnew kind (hold item.2 (get?_eq_some_iff.mpr (hsame ▸ h)) hkind)
          (hlaws.same _ _ _ hp hpath ?_ hevent)
        rw [← hitem, hsame, hkey]
      · exact .entry item (mem_items_set.mpr (.inr ⟨hsame, h⟩)) kind hkind hevent

/-- **Recording an event** loses nothing, and accounts for what an event does that is accepted. -/
theorem record_keeps (hp : ParentClosed p) (hset : set.Keyed fold scope p) {event : DirtyFileEvent}
    (hevent : ∀ path, repositoryRelativePath fold scope event.path = some path → p path) :
    Keeps fold scope p set (set.record fold event).2 ∧ ∀ path,
      repositoryRelativePath fold scope event.path = some path →
      (path ≠ [] ∨ (set.record fold event).1 = true) →
        (set.record fold event).2.Takes fold scope p event.kind path := by
  unfold DirtyPathSet.record
  split
  · rename_i hoverflowed
    exact ⟨.refl hset, fun _ _ _ _ _ _ _ => .overflowed hoverflowed⟩
  obtain rfl := hset.scope_eq
  split
  · rename_i hnone
    refine ⟨.refl hset, fun path hpath => ?_⟩
    rw [hnone] at hpath
    cases hpath
  · rename_i hnil
    refine ⟨.refl hset, fun path hpath htaken => ?_⟩
    rw [hnil] at hpath
    rcases htaken with hne | htaken
    · exact absurd (Option.some.inj hpath).symm hne
    · cases htaken
  · rename_i normalized _ hnormalized
    have hpath := hevent normalized hnormalized
    -- the path of the event is the normalized one
    have honly : ∀ set' : DirtyPathSet, Keeps fold set.scope p set set' →
        set'.Takes fold set.scope p event.kind normalized →
        Keeps fold set.scope p set set' ∧ ∀ path,
          repositoryRelativePath fold set.scope event.path = some path →
          (path ≠ [] ∨ true = true) → set'.Takes fold set.scope p event.kind path := by
      refine fun set' hkeeps hnew => ⟨hkeeps, fun path hother _ => ?_⟩
      rw [hnormalized] at hother
      exact Option.some.inj hother ▸ hnew
    split
    · rename_i merged hmerge
      obtain ⟨hkeeps, hnew⟩ := mergeIntoFoldedTargetIfCovered_keeps hset hpath hmerge
      exact honly merged hkeeps hnew
    dsimp only
    split
    · rename_i existing hget
      obtain ⟨hkey, hexisting, _⟩ := hset.entries _ (get?_eq_some_iff.mp hget)
      obtain ⟨hkeeps, hnew⟩ := @setEntry_keeps fold set.scope p set normalized hset
        (updateRecord existing event) hkey.symm hexisting (Finset.insert_nonempty _ _)
        (fun old hold => Option.some.inj (hget.symm.trans hold) ▸ Finset.subset_insert _ _)
      exact honly _ hkeeps fun hlaws h => hnew _ (Finset.mem_insert_self _ _)
        (hlaws.same _ _ _ hpath hexisting hkey h)
    · rename_i hget
      obtain ⟨hkeeps, hnew⟩ := @setEntry_keeps fold set.scope p set normalized hset
        ⟨normalized, {event.kind}, event.kind, event.kind, event.timestamp, event.timestamp, 1⟩
        rfl hpath (Finset.singleton_nonempty _) (fun old hold => by rw [hget] at hold; cases hold)
      have hshrink := (shrink_folds hp hkeeps.keyed event.timestamp).toKeeps
      exact honly _ (hkeeps.trans hshrink) fun hlaws h =>
        hshrink.accounts hlaws (hnew _ (Finset.mem_singleton_self _) h)

/-! ### Draining and merging back -/

/-- A clean target that is listed is stored, since no other target has its key. -/
theorem mem_toRefreshTargets (hoverflowed : set.overflowed = false) {target : StatusRefreshTarget}
    (hclean : target.Clean) (hmem : target ∈ set.explicitTargets.values ++
      set.foldedTargets.values ++ set.sortedRecords.flatMap targetsForRecord) :
    target ∈ set.toRefreshTargets := by
  unfold toRefreshTargets
  rw [hoverflowed, if_neg Bool.false_ne_true]
  have hstored := @mem_items_foldl_set Text StatusRefreshTarget _ targetKey _ empty
    target (fun other _ => eq_of_targetKey_eq hclean) (.inl hmem)
  exact mem_sortBy.mpr (List.mem_map_of_mem hstored)

theorem targetsForRecord_clean {record : DirtyPathRecord} (hnul : '\x00' ∉ record.path)
    {target : StatusRefreshTarget} (hmem : target ∈ targetsForRecord record) : target.Clean :=
  ⟨(targetsForRecord_within noNul_parentClosed hnul hmem).path, (mem_targetsForRecord hmem).2.2⟩

/-- **The targets of the set** account for everything it does, if those of a record do. -/
theorem Accounts.listed (hset : set.Keyed fold scope p) (hnul : ∀ path, p path → '\x00' ∉ path)
    (hroot : byTarget "." .infinity)
    (hrecord : ∀ record : DirtyPathRecord, p record.path → ∀ kind ∈ record.eventKinds,
      byEvent kind record.path →
        ∃ target ∈ targetsForRecord record, byTarget target.path target.depth)
    (h : set.Accounts byEvent byTarget) :
    ∃ target ∈ set.toRefreshTargets, target.Clean ∧ byTarget target.path target.depth := by
  -- an overflowed set asks for the whole root
  by_cases hoverflowed : set.overflowed = true
  · unfold toRefreshTargets
    rw [if_pos hoverflowed]
    exact ⟨_, List.mem_singleton_self _, ⟨by decide, by decide⟩, hroot⟩
  have hlisted : ∀ target ∈ set.explicitTargets.values ++ set.foldedTargets.values ++
      set.sortedRecords.flatMap targetsForRecord, target.Clean →
      byTarget target.path target.depth →
      ∃ target ∈ set.toRefreshTargets, target.Clean ∧ byTarget target.path target.depth :=
    fun target hmem hclean htarget =>
      ⟨target, mem_toRefreshTargets (Bool.eq_false_iff.mpr hoverflowed) hclean hmem, hclean,
        htarget⟩
  cases h with
  | overflowed h => exact absurd h hoverflowed
  | explicit item h hclean htarget =>
    have hmem : item.2 ∈ set.explicitTargets.values := List.mem_map_of_mem h
    exact hlisted item.2 (List.mem_append_left _ (List.mem_append_left _ hmem)) hclean htarget
  | folded item h htarget =>
    have hmem : item.2 ∈ set.foldedTargets.values := List.mem_map_of_mem h
    obtain ⟨-, hpath, hreason, -⟩ := hset.foldedTargets item h
    exact hlisted item.2 (List.mem_append_left _ (List.mem_append_right _ hmem))
      ⟨hnul _ hpath, hreason⟩ htarget
  | entry item h kind hkind hevent =>
    have hpath := (hset.entries item h).2.1
    obtain ⟨target, htarget, hcovers⟩ := hrecord item.2 hpath kind hkind hevent
    have hmem : item.2 ∈ set.sortedRecords := mem_sortBy.mpr (List.mem_map_of_mem h)
    exact hlisted target (List.mem_append_right _ (List.mem_flatMap.mpr ⟨item.2, hmem, htarget⟩))
      (targetsForRecord_clean (hnul _ hpath) htarget) hcovers

/-- **Merging targets back** loses nothing, and accounts for what they do. -/
theorem mergeTargets_keeps (hset : set.Keyed fold scope p) (targets : List StatusRefreshTarget) :
    Keeps fold scope p set (set.mergeTargets targets) ∧ ∀ {byEvent byTarget},
      ∀ target ∈ targets, target.Clean → byTarget target.path target.depth →
        (set.mergeTargets targets).Accounts byEvent byTarget := by
  unfold DirtyPathSet.mergeTargets
  split
  · rename_i hempty
    refine ⟨.refl hset, fun target hmem => ?_⟩
    rw [List.isEmpty_iff.mp hempty] at hmem
    cases hmem
  split
  -- a target for the whole root makes everything dirty
  · exact ⟨⟨⟨hset.scope_eq, by simp [empty], by simp [empty],
      by simp [empty]⟩, fun _ _ => .overflowed rfl⟩, fun _ _ _ _ => .overflowed rfl⟩
  -- an equal key replaces a target by itself
  · have hstored : ∀ target : StatusRefreshTarget, target.Clean →
        (target ∈ targets ∨ (targetKey target, target) ∈ set.explicitTargets.items) →
        (targetKey target, target) ∈ (targets.foldl (fun explicitTargets target =>
          explicitTargets.set (targetKey target) target) set.explicitTargets).items :=
      fun target hclean => mem_items_foldl_set fun other _ => eq_of_targetKey_eq hclean
    refine ⟨⟨⟨hset.scope_eq, hset.entries, hset.foldedTargets, ?_⟩, ?_⟩,
      fun target hmem hclean htarget =>
        .explicit _ (hstored target hclean (.inl hmem)) hclean htarget⟩
    · refine foldl_invariant (fun explicitTargets : OrderedMap Text StatusRefreshTarget =>
        ∀ item ∈ explicitTargets.items, item.1 = targetKey item.2) ?_ hset.explicitTargets
      intro explicitTargets hkeyed target _ item hitem
      rcases mem_items_set.mp hitem with rfl | ⟨-, hold⟩
      · rfl
      · exact hkeyed item hold
    · intro byEvent byTarget _ h
      cases h with
      | overflowed h => exact .overflowed h
      | entry item h kind hkind hevent => exact .entry item h kind hkind hevent
      | folded item h htarget => exact .folded item h htarget
      | explicit item h hclean htarget =>
        have hitem : (targetKey item.2, item.2) ∈ set.explicitTargets.items := by
          rw [← hset.explicitTargets item h]
          exact h
        exact .explicit _ (hstored item.2 hclean (.inr hitem)) hclean htarget

end DirtyPathSet

end SubversionR

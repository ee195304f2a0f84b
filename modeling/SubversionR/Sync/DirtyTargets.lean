import SubversionR.Lib.Run
import SubversionR.Client.DirtyPathSet
import SubversionR.Client.RefreshRpc
import SubversionR.Daemon.Requests

/-!
# Dirty targets — what the dirty set asks for is what the validators accept

The targets drained from a `DirtyPathSet` are sent to the daemon; the extension and the daemon
both validate them, and a list that is refused is merged back.  Every path of a target is the path
of a recorded event, a directory above one, or the working copy itself.  So when every recorded
path and every directory above it is a valid request path, no drained list is ever refused, through
all the folding, draining and merging back.

* `shrink_invariant` — the rule by which invariants pass through folding;
* `DirtyPathSet.Within` — all paths a set holds satisfy a predicate closed under `parentPath`;
* `Within.record`, `Within.mergeTargets`, `Within.toRefreshTargets` — the calls preserve it;
* `drained_targets_accepted` — the drained lists of every run of such events are accepted;
* `colon_path_wedges_refresh` — a recorded path with a colon is refused by both validators, and is
  in every later list.
-/

namespace SubversionR

open Runs OrderedMaps OrderedMap

/-! ## Directories above a path -/

theorem parentPath_eq_dot_or_length_lt (path : Text) :
    parentPath path = "." ∨ (parentPath path).length < path.length := by
  unfold parentPath
  cases h : path.reverse.dropWhile (· ≠ '/') with
  | nil => exact .inl rfl
  | cons c front =>
    right
    have hle : (path.reverse.dropWhile (· ≠ '/')).length ≤ path.reverse.length :=
      (List.dropWhile_sublist _).length_le
    rw [h, List.length_cons, List.length_reverse] at hle
    show front.reverse.length < path.length
    rw [List.length_reverse]
    omega

/-- Once there are more turns than characters, one more turn changes nothing. -/
theorem ancestorPathsFrom_eq {turns turns' : Nat} {current : Text} (h : current.length < turns)
    (h' : current.length < turns') :
    ancestorPathsFrom turns current = ancestorPathsFrom turns' current := by
  induction turns generalizing turns' current with
  | zero => omega
  | succ turns ih =>
    obtain ⟨turns', rfl⟩ : ∃ n, turns' = n + 1 := ⟨turns' - 1, by omega⟩
    unfold ancestorPathsFrom
    by_cases hdot : current = "."
    · rw [if_pos hdot, if_pos hdot]
    · rw [if_neg hdot, if_neg hdot]
      rcases parentPath_eq_dot_or_length_lt current with hparent | _
      · rw [hparent]
        cases turns <;> cases turns' <;> simp [ancestorPathsFrom]
      · exact congrArg (current :: ·) (ih (by omega) (by omega))

/-- The equation the loop of `ancestorPaths` computes. -/
theorem ancestorPaths_eq (path : Text) :
    ancestorPaths path =
      if parentPath path = "." then [] else parentPath path :: ancestorPaths (parentPath path) := by
  unfold ancestorPaths
  rw [ancestorPathsFrom]
  by_cases hdot : parentPath path = "."
  · rw [if_pos hdot, if_pos hdot]
  · rw [if_neg hdot, if_neg hdot]
    have hlt := (parentPath_eq_dot_or_length_lt path).resolve_left hdot
    rcases parentPath_eq_dot_or_length_lt (parentPath path) with hgrand | hgrand
    · rw [hgrand]
      cases path.length <;> simp [ancestorPathsFrom]
    · exact congrArg (parentPath path :: ·) (ancestorPathsFrom_eq (by omega) (by omega))

/-- A predicate on paths that passes from a path to the directory it is in. -/
structure ParentClosed (p : Text → Prop) : Prop where
  dot : p "."
  parent : ∀ path, p path → p (parentPath path)

theorem ParentClosed.ancestorPaths {p : Text → Prop} (hp : ParentClosed p) {path ancestor : Text}
    (h : p path) (hmem : ancestor ∈ SubversionR.ancestorPaths path) : p ancestor := by
  have hfrom : ∀ turns current, p current → ∀ a ∈ ancestorPathsFrom turns current, p a := by
    intro turns
    induction turns with
    | zero => intro current _ a ha; cases ha
    | succ turns ih =>
      intro current hcurrent a ha
      unfold ancestorPathsFrom at ha
      split at ha
      · cases ha
      rcases List.mem_cons.mp ha with rfl | ha
      · exact hcurrent
      · exact ih _ (hp.parent _ hcurrent) a ha
  exact hfrom _ _ (hp.parent _ h) ancestor hmem

/-! ## What folding works on -/

namespace DirtyPathSet

variable {fold : Text → Text} {set : DirtyPathSet}

/-- A sibling group has records of the set that lie in one directory. -/
theorem mem_siblingGroups : ∀ item ∈ (set.siblingGroups fold).items, ∀ record ∈ item.2,
    record ∈ set.entries.values ∧
      comparisonKey fold set.scope (parentPath record.path) = item.1 := by
  refine foldl_invariant (fun groups : OrderedMap Text (List DirtyPathRecord) =>
    ∀ item ∈ groups.items, ∀ record ∈ item.2, record ∈ set.entries.values ∧
      comparisonKey fold set.scope (parentPath record.path) = item.1) ?_
        (by simp [OrderedMap.empty])
  intro groups hgroups record hrecord
  split
  · exact hgroups
  intro item hitem
  rcases mem_items_set.mp hitem with rfl | ⟨-, hold⟩
  · intro r hr
    rcases List.mem_append.mp hr with hold | hnew
    · cases hget : groups.get? (comparisonKey fold set.scope (parentPath record.path)) with
      | none =>
        rw [hget] at hold
        cases hold
      | some group =>
        rw [hget] at hold
        exact hgroups _ (get?_eq_some_iff.mp hget) r hold
    · rw [List.mem_singleton.mp hnew]
      exact ⟨hrecord, rfl⟩
  · exact hgroups item hold

/-- A subtree group is about a directory above a path of the queue. -/
theorem mem_subtreeGroups : ∀ group ∈ (set.subtreeGroups fold).values,
    ∃ path ∈ set.foldableQueuePaths, group.ancestor ∈ ancestorPaths path := by
  refine foldl_invariant (fun groups : OrderedMap Text SubtreeFoldGroup => ∀ group ∈ groups.values,
    ∃ path ∈ set.foldableQueuePaths, group.ancestor ∈ ancestorPaths path) ?_ (by simp)
  intro groups hgroups path hpath
  refine foldl_invariant (fun groups : OrderedMap Text SubtreeFoldGroup => ∀ group ∈ groups.values,
    ∃ path ∈ set.foldableQueuePaths, group.ancestor ∈ ancestorPaths path) ?_ hgroups
  intro groups hgroups ancestor hancestor
  dsimp only
  cases hget : groups.get? (comparisonKey fold set.scope ancestor) with
  | some existing =>
    intro group hgroup
    rcases mem_values_set hgroup with rfl | hold
    · exact hgroups existing (mem_values_of_get? hget)
    · exact hgroups group hold
  | none =>
    intro group hgroup
    rcases mem_values_set hgroup with rfl | hold
    · exact ⟨path, hpath, hancestor⟩
    · exact hgroups group hold

/-- **The rule for folding.**  What the folds of a sibling group and of a subtree preserve, and the
overflow, recording preserves when the queue has outgrown its bound.  The groups of a loop are those
of the set it starts from. -/
theorem shrink_invariant {P : DirtyPathSet → Prop} {timestamp : Int}
    (hsibling : ∀ start, P start → ∀ item ∈ (start.siblingGroups fold).items, ∀ set', P set' →
      P (set'.foldSiblingGroup fold item.2))
    (hsubtree : ∀ start, P start → ∀ group ∈ (start.subtreeGroups fold).values, ∀ set', P set' →
      P (set'.foldSubtreeGroup fold group))
    (hoverflow : ∀ set', P set' → P { set' with
      entries := .empty, foldedTargets := .empty, overflowed := true
      overflowedAt := some timestamp })
    (h : P set) : P (set.shrink fold timestamp) := by
  have hsiblings : P (set.foldSiblingRecordsIntoTargets fold) := by
    refine foldl_invariant P (fun set' hset' records hrecords => ?_) h
    obtain ⟨item, hitem, rfl⟩ := List.mem_map.mp (List.mem_of_mem_filter (mem_sortBy.mp hrecords))
    exact hsibling set h item hitem set' hset'
  have hsubtrees : P ((set.foldSiblingRecordsIntoTargets fold).foldSubtreeRecordsIntoTargets
    fold) :=
    foldl_invariant P (fun set' hset' group hgroup => hsubtree _ hsiblings group
      (List.mem_of_mem_filter (mem_sortBy.mp hgroup)) set' hset') hsiblings
  unfold shrink
  split
  · exact h
  dsimp only
  split
  · exact hsiblings
  split
  · exact hsubtrees
  · exact hoverflow _ hsubtrees

/-- A folded target that is found for a path is that of its directory, or reaches down to it. -/
theorem findFoldedTargetCovering_cases {path : Text} {target : StatusRefreshTarget}
    (h : set.findFoldedTargetCovering fold path = some target) :
    target ∈ set.foldedTargets.values ∧
      (set.foldedTargets.get? (comparisonKey fold set.scope (parentPath path)) = some target ∨
        target.depth = .infinity ∧ set.isDescendantOf fold target.path path = true) := by
  have hinfinity : ∀ {cmp : StatusRefreshTarget → StatusRefreshTarget → Ordering},
      (sortBy cmp (set.foldedTargets.values.filter fun target =>
        decide (target.depth = .infinity) && set.isDescendantOf fold target.path path)).head? =
        some target →
      target ∈ set.foldedTargets.values ∧
        target.depth = .infinity ∧ set.isDescendantOf fold target.path path = true := by
    intro cmp hhead
    obtain ⟨hmem, htest⟩ := List.mem_filter.mp (mem_sortBy.mp (List.mem_of_head? hhead))
    rw [Bool.and_eq_true, decide_eq_true_iff] at htest
    exact ⟨hmem, htest⟩
  unfold findFoldedTargetCovering at h
  dsimp only at h
  split at h
  · rename_i hget
    split at h
    · cases h
      exact ⟨mem_values_of_get? hget, .inl hget⟩
    · exact (hinfinity h).imp_right .inr
  · exact (hinfinity h).imp_right .inr

end DirtyPathSet

/-! ## What a set holds -/

/-- A reason that both validators accept. -/
def ReasonAccepted (reason : Text) : Prop := reason.nonBlankJs = true ∧ reason.nonBlankRust = true

instance (reason : Text) : Decidable (ReasonAccepted reason) := inferInstanceAs (Decidable (_ ∧ _))

/-- The path of the target satisfies `p`, and its reason can be sent. -/
structure StatusRefreshTarget.Within (p : Text → Prop) (target : StatusRefreshTarget) : Prop where
  path : p target.path
  reason : ReasonAccepted target.reason

/-- The set watches `scope`, and everything it holds satisfies `p`. -/
structure DirtyPathSet.Within (p : Text → Prop) (scope : RepositoryWatchScope)
    (set : DirtyPathSet) : Prop where
  scope_eq : set.scope = scope
  entries : ∀ record ∈ set.entries.values, p record.path
  explicitTargets : ∀ target ∈ set.explicitTargets.values, target.Within p
  foldedTargets : ∀ target ∈ set.foldedTargets.values, target.Within p

/-- A target that an event of the kind asks for: the working copy for a renamed path, the path, or
the directory of a path that was created or deleted. -/
def FileEventKind.AsksFor (kind : FileEventKind) (path : Text) (target : StatusRefreshTarget) :
    Prop :=
  kind = .rename ∧ target.path = "." ∧ target.depth = .infinity ∨
    target.path = path ∧ target.depth = .empty ∨
    (kind = .create ∨ kind = .delete) ∧ target.path = parentPath path ∧ target.depth = .immediates

/-- Each target of a record is there for one of its events. -/
theorem mem_targetsForRecord {record : DirtyPathRecord} {target : StatusRefreshTarget}
    (hmem : target ∈ targetsForRecord record) :
    (∃ kind ∈ record.eventKinds, kind.AsksFor record.path target) ∧
      ReasonAccepted target.reason ∧ '\x00' ∉ target.reason := by
  have hself : ∀ kind ∈ record.eventKinds, ∀ reason : Text, ReasonAccepted reason →
      '\x00' ∉ reason → target = ⟨record.path, .empty, reason⟩ →
      (∃ kind ∈ record.eventKinds, kind.AsksFor record.path target) ∧
        ReasonAccepted target.reason ∧ '\x00' ∉ target.reason := by
    rintro kind hkind reason hreason hnul rfl
    exact ⟨⟨kind, hkind, .inr (.inl ⟨rfl, rfl⟩)⟩, hreason, hnul⟩
  have hparent : ∀ kind ∈ record.eventKinds, (kind = .create ∨ kind = .delete) →
      ∀ reason : Text, ReasonAccepted reason → '\x00' ∉ reason →
      target = parentTarget record.path reason →
      (∃ kind ∈ record.eventKinds, kind.AsksFor record.path target) ∧
        ReasonAccepted target.reason ∧ '\x00' ∉ target.reason := by
    rintro kind hkind hstructural reason hreason hnul rfl
    exact ⟨⟨kind, hkind, .inr (.inr ⟨hstructural, rfl, rfl⟩)⟩, hreason, hnul⟩
  unfold targetsForRecord at hmem
  split at hmem
  · rename_i hkind
    rw [List.mem_singleton.mp hmem]
    exact ⟨⟨_, hkind, .inl ⟨rfl, rfl, rfl⟩⟩, by decide, by decide⟩
  split at hmem
  · rename_i hcame
    simp only [isCreateThenDelete, Bool.and_eq_true, decide_eq_true_iff] at hcame
    exact hparent _ hcame.1.1.1 (.inl rfl) "childDeleted" (by decide) (by decide)
      (List.mem_singleton.mp hmem)
  split at hmem
  · rename_i hreplaced
    simp only [isDeleteThenCreate, Bool.and_eq_true, decide_eq_true_iff] at hreplaced
    rcases List.mem_cons.mp hmem with heq | hmem
    · exact hparent _ hreplaced.1.1.1 (.inl rfl) "childReplaced" (by decide) (by decide) heq
    · exact hself _ hreplaced.1.1.1 "fileReplaced" (by decide) (by decide)
        (List.mem_singleton.mp hmem)
  -- the targets of a creation, of a deletion and of a change, as far as they were seen
  rcases List.mem_append.mp hmem with hmem | hmem
  · rcases List.mem_append.mp hmem with hmem | hmem
    · split at hmem
      · rename_i hkind
        rcases List.mem_cons.mp hmem with heq | hmem
        · exact hparent _ hkind (.inl rfl) "childCreated" (by decide) (by decide) heq
        · exact hself _ hkind "fileCreated" (by decide) (by decide) (List.mem_singleton.mp hmem)
      · cases hmem
    · split at hmem
      · rename_i hkind
        rcases List.mem_cons.mp hmem with heq | hmem
        · exact hparent _ hkind (.inr rfl) "childDeleted" (by decide) (by decide) heq
        · exact hself _ hkind "fileDeleted" (by decide) (by decide) (List.mem_singleton.mp hmem)
      · cases hmem
  · split at hmem
    · rename_i hkind
      rcases hkind with hkind | hkind
      · exact hself _ hkind "fileChanged" (by decide) (by decide) (List.mem_singleton.mp hmem)
      · exact hself _ hkind "fileChanged" (by decide) (by decide) (List.mem_singleton.mp hmem)
    · cases hmem

/-- The targets of a record name its path, the directory of its path or the working copy. -/
theorem targetsForRecord_within {p : Text → Prop} (hp : ParentClosed p) {record : DirtyPathRecord}
    (h : p record.path) {target : StatusRefreshTarget} (hmem : target ∈ targetsForRecord record) :
    target.Within p := by
  obtain ⟨⟨kind, -, hasks⟩, hreason, -⟩ := mem_targetsForRecord hmem
  refine ⟨?_, hreason⟩
  rcases hasks with ⟨-, hpath, -⟩ | ⟨hpath, -⟩ | ⟨-, hpath, -⟩
  · exact hpath ▸ hp.dot
  · exact hpath ▸ h
  · exact hpath ▸ hp.parent _ h

namespace DirtyPathSet.Within

variable {p : Text → Prop} {scope : RepositoryWatchScope} {fold : Text → Text}
  {set : DirtyPathSet}

theorem new (maxDirtyPaths : Option Int) : (DirtyPathSet.new scope maxDirtyPaths).Within p scope :=
  ⟨rfl, by simp [DirtyPathSet.new], by simp [DirtyPathSet.new], by simp [DirtyPathSet.new]⟩

theorem setFoldedTarget (h : set.Within p scope) {path reason : Text} {depth : StatusRefreshDepth}
    (hpath : p path) (hreason : ReasonAccepted reason) :
    (set.setFoldedTarget fold path depth reason).Within p scope := by
  refine ⟨h.scope_eq, h.entries, h.explicitTargets, ?_⟩
  intro target hmem
  rcases mem_values_set hmem with rfl | hold
  · exact ⟨hpath, hreason⟩
  · exact h.foldedTargets target hold

/-! ### Folding -/

theorem foldSiblingGroup (hp : ParentClosed p) (h : set.Within p scope)
    {records : List DirtyPathRecord} (hrecords : ∀ record ∈ records, p record.path) :
    (set.foldSiblingGroup fold records).Within p scope := by
  unfold DirtyPathSet.foldSiblingGroup
  split
  · exact h
  cases records with
  | nil => exact h
  | cons first rest =>
    have hfirst := hp.parent _ (hrecords first List.mem_cons_self)
    refine ⟨h.scope_eq, ?_, h.explicitTargets, (h.setFoldedTarget hfirst (by decide)).foldedTargets⟩
    refine foldl_invariant (fun entries : OrderedMap Text DirtyPathRecord =>
      ∀ record ∈ entries.values, p record.path) ?_ h.entries
    intro entries hentries record _ r hr
    exact hentries r (mem_values_delete hr)

theorem foldSubtreeGroup (h : set.Within p scope) {group : SubtreeFoldGroup}
    (hancestor : p group.ancestor) :
    (set.foldSubtreeGroup fold group).Within p scope := by
  have hfolded : (set.setFoldedTarget fold group.ancestor .infinity
      "dirtyPathSubtreeFold").Within p scope := h.setFoldedTarget hancestor (by decide)
  unfold DirtyPathSet.foldSubtreeGroup
  split
  · exact h
  refine ⟨h.scope_eq, fun record hrecord => ?_, h.explicitTargets, fun target htarget => ?_⟩
  · obtain ⟨item, hitem, rfl⟩ := List.mem_map.mp hrecord
    exact h.entries _ (List.mem_map_of_mem (mem_items_foldl_delete.mp hitem).1)
  · obtain ⟨item, hitem, rfl⟩ := List.mem_map.mp htarget
    exact hfolded.foldedTargets _ (List.mem_map_of_mem (mem_items_foldl_delete.mp hitem).1)

theorem foldableQueuePaths (h : set.Within p scope) {path : Text}
    (hmem : path ∈ set.foldableQueuePaths) : p path := by
  rcases List.mem_append.mp hmem with hmem | hmem
  · obtain ⟨record, hrecord, rfl⟩ := List.mem_map.mp hmem
    exact h.entries record (List.mem_of_mem_filter hrecord)
  · obtain ⟨target, htarget, rfl⟩ := List.mem_map.mp hmem
    exact (h.foldedTargets target htarget).path

theorem shrink (hp : ParentClosed p) (h : set.Within p scope) (timestamp : Int) :
    (set.shrink fold timestamp).Within p scope := by
  refine shrink_invariant (fun start hstart item hitem set' hset' => ?_)
    (fun start hstart group hgroup set' hset' => ?_) (fun set' hset' => ?_) h
  · refine hset'.foldSiblingGroup hp fun record hrecord => ?_
    exact hstart.entries record (mem_siblingGroups item hitem record hrecord).1
  · obtain ⟨_, hpath, hancestor⟩ := mem_subtreeGroups group hgroup
    exact hset'.foldSubtreeGroup (hp.ancestorPaths (hstart.foldableQueuePaths hpath) hancestor)
  · exact ⟨hset'.scope_eq, by simp, hset'.explicitTargets, by simp⟩

/-! ### The calls -/

theorem mergeIntoFoldedTargetIfCovered (h : set.Within p scope) {path : Text} {kind : FileEventKind}
    {merged : DirtyPathSet}
    (hmerge : set.mergeIntoFoldedTargetIfCovered fold path kind = some merged) :
    merged.Within p scope := by
  unfold DirtyPathSet.mergeIntoFoldedTargetIfCovered at hmerge
  split at hmerge
  · cases hmerge
  rename_i target hfind
  split at hmerge
  · cases hmerge
    have htarget := h.foldedTargets target (findFoldedTargetCovering_cases hfind).1
    exact h.setFoldedTarget htarget.path (by decide)
  · cases hmerge
    exact h

/-- Recording an event keeps everything within `p` when the path of the event is. -/
theorem record (hp : ParentClosed p) (h : set.Within p scope) {event : DirtyFileEvent}
    (hevent : ∀ path, repositoryRelativePath fold scope event.path = some path →
      path ≠ [] → p path) :
    (set.record fold event).2.Within p scope := by
  unfold DirtyPathSet.record
  split
  · exact h
  split
  · exact h
  · exact h
  · rename_i normalized hne hpath
    have hnormalized : p normalized := hevent normalized (h.scope_eq ▸ hpath) (fun hnil => hne hnil)
    split
    · rename_i hmerge
      exact h.mergeIntoFoldedTargetIfCovered hmerge
    dsimp only
    split
    · rename_i existing hget
      refine ⟨h.scope_eq, ?_, h.explicitTargets, h.foldedTargets⟩
      intro r hr
      rcases mem_values_set hr with rfl | hold
      · exact h.entries existing (mem_values_of_get? hget)
      · exact h.entries r hold
    · refine shrink hp ?_ _
      refine ⟨h.scope_eq, ?_, h.explicitTargets, h.foldedTargets⟩
      intro r hr
      rcases mem_values_set hr with rfl | hold
      · exact hnormalized
      · exact h.entries r hold

theorem toRefreshTargets (hp : ParentClosed p) (h : set.Within p scope) :
    ∀ target ∈ set.toRefreshTargets, target.Within p := by
  intro target hmem
  unfold DirtyPathSet.toRefreshTargets at hmem
  split at hmem
  · rw [List.mem_singleton.mp hmem]
    exact ⟨hp.dot, by decide⟩
  · rcases mem_values_foldl_set (mem_sortBy.mp hmem) with hlisted | hempty
    · rcases List.mem_append.mp hlisted with hlisted | hrecord
      · rcases List.mem_append.mp hlisted with hexplicit | hfolded
        · exact h.explicitTargets target hexplicit
        · exact h.foldedTargets target hfolded
      · obtain ⟨record, hrecord, htarget⟩ := List.mem_flatMap.mp hrecord
        exact targetsForRecord_within hp (h.entries record (mem_sortBy.mp hrecord)) htarget
    · cases hempty

theorem clear (hscope : set.scope = scope) : set.clear.Within p scope :=
  ⟨hscope, by simp [DirtyPathSet.clear], by simp [DirtyPathSet.clear], by simp [DirtyPathSet.clear]⟩

theorem mergeTargets (h : set.Within p scope) {targets : List StatusRefreshTarget}
    (htargets : ∀ target ∈ targets, target.Within p) :
      (set.mergeTargets targets).Within p scope := by
  unfold DirtyPathSet.mergeTargets
  split
  · exact h
  split
  · exact ⟨h.scope_eq, by simp, by simp, by simp⟩
  refine ⟨h.scope_eq, h.entries, ?_, h.foldedTargets⟩
  intro target hmem
  rcases mem_values_foldl_set hmem with hadded | hold
  · exact htargets target hadded
  · exact h.explicitTargets target hold

end DirtyPathSet.Within

/-! ## Runs -/

/-- The dirty set of a repository, with the lists drained from it so far. -/
structure DirtyPipeline where
  set : DirtyPathSet
  drained : List (List StatusRefreshTarget)
deriving DecidableEq

/-- The calls the scheduler makes; `merge` takes the drained list with that number back in. -/
inductive DirtyCall where
  | record (event : DirtyFileEvent)
  | drain
  | merge (index : Nat)

namespace DirtyPipeline

def new (scope : RepositoryWatchScope) (maxDirtyPaths : Option Int) : DirtyPipeline where
  set := DirtyPathSet.new scope maxDirtyPaths
  drained := []

def step (fold : Text → Text) (state : DirtyPipeline) :
    DirtyCall → Option DirtyPipeline
  | .record event => some { state with set := (state.set.record fold event).2 }
  | .drain =>
    let (targets, set) := state.set.drainToRefreshTargets
    some { set, drained := state.drained ++ [targets] }
  | .merge index => do
    let targets ← state.drained[index]?
    some { state with set := state.set.mergeTargets targets }

end DirtyPipeline

/-- Both validators accept the path in a request. -/
def PathAccepted (path : Text) : Prop :=
  isMessagePath path = true ∧ validRepositoryRelativePath path = true

instance (path : Text) : Decidable (PathAccepted path) := inferInstanceAs (Decidable (_ ∧ _))

/-- Both validators accept the path and every directory above it. -/
def TreeAccepted (path : Text) : Prop :=
  PathAccepted path ∧ ∀ ancestor ∈ ancestorPaths path, PathAccepted ancestor

instance (path : Text) : Decidable (TreeAccepted path) := inferInstanceAs (Decidable (_ ∧ _))

theorem treeAccepted_parentClosed : ParentClosed TreeAccepted where
  dot := by decide
  parent := by
    intro _ ⟨_, hancestors⟩
    rw [ancestorPaths_eq] at hancestors
    split at hancestors
    · rename_i hdot
      rw [hdot]
      decide
    · exact ⟨hancestors _ List.mem_cons_self,
        fun a ha => hancestors a (List.mem_cons_of_mem _ ha)⟩

/-- If the watch scope takes the event in, both validators accept its relative path and every
directory above that. -/
def EventAccepted (fold : Text → Text) (scope : RepositoryWatchScope)
    (event : DirtyFileEvent) : Prop :=
  ∀ path ∈ repositoryRelativePath fold scope event.path, path ≠ [] → TreeAccepted path

instance (fold : Text → Text) (scope : RepositoryWatchScope)
    (event : DirtyFileEvent) : Decidable (EventAccepted fold scope event) :=
  inferInstanceAs (Decidable (∀ path ∈ repositoryRelativePath fold scope
    event.path, _))

/-- The condition on a call: a recorded event is acceptable. -/
def CallAccepted (fold : Text → Text) (scope : RepositoryWatchScope) :
    DirtyCall → Prop
  | .record event => EventAccepted fold scope event
  | .drain => True
  | .merge _ => True

instance (fold : Text → Text) (scope : RepositoryWatchScope) :
    DecidablePred (CallAccepted fold scope)
  | .record event => inferInstanceAs (Decidable (EventAccepted fold scope event))
  | .drain => isTrue trivial
  | .merge _ => isTrue trivial

/-- Everything the set holds and everything drained from it is acceptable. -/
structure DirtyPipeline.Accepted (scope : RepositoryWatchScope) (state : DirtyPipeline) :
    Prop where
  set : state.set.Within TreeAccepted scope
  drained : ∀ targets ∈ state.drained, ∀ target ∈ targets, target.Within TreeAccepted

theorem DirtyPipeline.Accepted.step {fold : Text → Text}
    {scope : RepositoryWatchScope} {state state' : DirtyPipeline} {call : DirtyCall}
    (h : state.Accepted scope) (hcall : CallAccepted fold scope call)
    (hstep : state.step fold call = some state') : state'.Accepted scope := by
  cases call with
  | record event =>
    cases hstep
    exact ⟨h.set.record treeAccepted_parentClosed hcall, h.drained⟩
  | drain =>
    cases hstep
    refine ⟨.clear h.set.scope_eq, ?_⟩
    intro targets hmem
    rcases List.mem_append.mp hmem with hold | hnew
    · exact h.drained targets hold
    · rw [List.mem_singleton.mp hnew]
      exact h.set.toRefreshTargets treeAccepted_parentClosed
  | merge index =>
    obtain ⟨targets, hget, hstate⟩ := Option.bind_eq_some_iff.mp hstep
    cases hstate
    exact ⟨h.set.mergeTargets (h.drained targets (List.mem_of_getElem? hget)), h.drained⟩

/-- **No refused list.**  When every recorded event has an acceptable path, every list ever drained,
however it was folded and merged back before, passes the validation of the extension and of the
daemon. -/
theorem drained_targets_accepted {fold : Text → Text} {scope : RepositoryWatchScope}
    {maxDirtyPaths : Option Int} {calls : List DirtyCall} {final : DirtyPipeline}
    (hrun : run (DirtyPipeline.step fold) (.new scope maxDirtyPaths) calls =
      some final)
    (hcalls : ∀ call ∈ calls, CallAccepted fold scope call)
    {targets : List StatusRefreshTarget} (hdrained : targets ∈ final.drained)
    (hnonempty : targets ≠ []) {repositoryId : Text} {epoch : Nat}
    (hrepository : repositoryId.nonBlankJs = true) (hepoch : epoch < 2 ^ 53) :
    validateRefreshRequest (StatusRefreshRequest.toJson ⟨repositoryId, epoch, targets⟩) =
        .ok ⟨repositoryId, epoch, targets⟩ ∧
      statusRefreshTargets (StatusRefreshRequest.toJson ⟨repositoryId, epoch, targets⟩) =
        .ok targets := by
  have hinit : (DirtyPipeline.new scope maxDirtyPaths).Accepted scope :=
    ⟨.new maxDirtyPaths, by simp [DirtyPipeline.new]⟩
  have hfinal : final.Accepted scope :=
    run_invariant (fun _ _ _ h hcall hstep => h.step hcall hstep) hinit
      (along_of_forall_mem _ hcalls) hrun
  have htargets := hfinal.drained targets hdrained
  refine ⟨validateRefreshRequest_accepts.ok_iff.mpr ⟨hrepository, hepoch, hnonempty, ?_⟩,
    statusRefreshTargets_accepts.ok_iff.mpr ⟨hnonempty, ?_⟩⟩
  · intro target hmem
    exact ⟨(htargets target hmem).path.1.1, (htargets target hmem).reason.1⟩
  · intro target hmem
    exact ⟨(htargets target hmem).path.1.2, (htargets target hmem).reason.2⟩

namespace DirtyTargetsExample

def scope : RepositoryWatchScope := ⟨"repository", 1, "/wc", .caseSensitive, none⟩

def changed (path : Text) : DirtyCall := .record ⟨path, .change, 0⟩

/-- The answers of the two validators to a list of targets. -/
structure Answers where
  extension : Except RpcError StatusRefreshRequest
  daemon : Except Text (List StatusRefreshTarget)
deriving DecidableEq

def answers (targets : List StatusRefreshTarget) : Answers where
  extension := validateRefreshRequest (StatusRefreshRequest.toJson ⟨"repository", 1, targets⟩)
  daemon := statusRefreshTargets (StatusRefreshRequest.toJson ⟨"repository", 1, targets⟩)

def refused : Answers where
  extension := .error (invalidRefreshRequest "targets.0.path")
  daemon := .error "targets.path"

/-- A file whose name has a colon is taken in; the list with it is refused by both validators,
merged back, and refused again together with the next change. -/
theorem colon_path_wedges_refresh :
    ((DirtyPathSet.new scope none).record id ⟨"/wc/a:b", .change, 0⟩).1 = true ∧
    (run (DirtyPipeline.step id) (.new scope none)
        [changed "/wc/a:b", .drain, .merge 0, changed "/wc/c", .drain]).map
      (fun state => state.drained.map fun targets => (targets.length, answers targets)) =
      some [(1, refused), (2, refused)] := by
  decide +kernel

def pipeline : DirtyPipeline :=
  (run (DirtyPipeline.step id) (.new scope none)
    [changed "/wc/src/a.txt", .drain, .merge 0, .drain]).getD (.new scope none)

theorem drained_targets_accepted_merged_back :
    answers [⟨"src/a.txt", .empty, "fileChanged"⟩] =
      ⟨.ok ⟨"repository", 1, [⟨"src/a.txt", .empty, "fileChanged"⟩]⟩,
        .ok [⟨"src/a.txt", .empty, "fileChanged"⟩]⟩ := by
  have hrun : run (DirtyPipeline.step id) (.new scope none)
      [changed "/wc/src/a.txt", .drain, .merge 0, .drain] = some pipeline := by decide +kernel
  have hmem : [⟨"src/a.txt", .empty, "fileChanged"⟩] ∈ pipeline.drained := by decide +kernel
  have hid : Text.nonBlankJs "repository" = true := by decide
  have h := drained_targets_accepted hrun (by decide) hmem (by decide) hid
    (show 1 < 2 ^ 53 by decide)
  unfold answers
  rw [h.1, h.2]

end DirtyTargetsExample

end SubversionR

import SubversionR.Projection.Shows

/-!
# Rebuild — deltas show what a snapshot of the same entries shows

What the Source Control view shows of a repository depends on the entries alone: a snapshot and then
any number of deltas show what a snapshot of the patched entries shows (`incremental_eq_rebuild`).
One choice is not settled by the entries.  An artifact that several entries own shows the first of
them, and two paths that the locale compares as equal stand in the order in which they were stored
(`ProjectionExample`).

* `Shows.sameResources` — the entries decide what is shown;
* `SameProjection` — groups and commit targets compared as sets, and the count.
-/

namespace SubversionR

open OrderedMaps OrderedMap KeyedMaps
open RepositoryState (entriesByPath)

namespace ResourceIndex

variable {runtime : TextRuntime} {id : Text}

/-! ## The same entries show the same -/

/-- No two entries that share an artifact have paths that the locale compares as equal. -/
def OwnersDiffer (runtime : TextRuntime) (m : EntryMap) : Prop :=
  ∀ left ∈ m.values, ∀ right ∈ m.values,
    (∃ artifactPath ∈ left.conflictArtifacts, artifactPath ∈ right.conflictArtifacts) →
    runtime.localeCompareEnUs left.path right.path = .eq → left.path = right.path

/-- Two lists of the same keys sort alike when no two of them compare as equal. -/
theorem sortBy_eq_of_perm {cmp : Text → Text → Ordering} [Std.TransCmp cmp] {keys keys' : List Text}
    (hperm : keys.Perm keys') (heq : ∀ a ∈ keys, ∀ b ∈ keys, cmp a b = .eq → a = b) :
    sortBy cmp keys = sortBy cmp keys' := by
  have hle : ∀ o : Ordering, o ≠ .gt ↔ o.isLE = true := by decide
  have htotal : Std.Total fun a b => cmp a b ≠ .gt := by
    refine ⟨fun a b => ?_⟩
    by_cases hgt : cmp a b = .gt
    · right
      rw [Std.OrientedCmp.gt_iff_lt.mp hgt]
      decide
    · exact .inl hgt
  have htrans : IsTrans Text fun a b => cmp a b ≠ .gt := by
    refine ⟨fun a b c hab hbc => ?_⟩
    rw [hle] at hab hbc ⊢
    exact Std.TransCmp.isLE_trans hab hbc
  have hsorted : ∀ keys, (sortBy cmp keys).Pairwise fun a b => cmp a b ≠ .gt :=
    fun keys => List.pairwise_insertionSort _ keys
  refine List.Perm.eq_of_pairwise (fun a b ha hb hab hba => ?_) (hsorted keys) (hsorted keys') ?_
  · rw [hle] at hab hba
    exact heq a (mem_sortBy.mp ha) b (hperm.mem_iff.mpr (mem_sortBy.mp hb))
      (Std.OrientedCmp.isLE_antisymm hab hba)
  · exact ((List.perm_insertionSort _ _).trans hperm).trans (List.perm_insertionSort _ _).symm

theorem Shows.shownAt_eq [Std.TransCmp runtime.localeCompareEnUs] {m r : EntryMap}
    {index index' : ResourceIndex} (h : Shows runtime id m r index)
    (h' : Shows runtime id m r index') (hdiffer : OwnersDiffer runtime m) (path : Text) :
    shownAt runtime id index' path = shownAt runtime id index path := by
  have hperm : (index'.owners path).Perm (index.owners path) := by
    refine (List.perm_ext_iff_of_nodup (h'.holds.nodup path)
      (h.holds.nodup path)).mpr fun owner => ?_
    rw [h.holds.mem_owners, h'.holds.mem_owners]
  have howner : index'.ownerPath runtime path = index.ownerPath runtime path := by
    rw [ownerPath_eq, ownerPath_eq, sortBy_eq_of_perm hperm]
    intro _ hleft _ hright hcompare
    obtain ⟨leftEntry, hleftGet, hleftArtifact⟩ := (h'.holds.mem_owners _ _).mp hleft
    obtain ⟨rightEntry, hrightGet, hrightArtifact⟩ := (h'.holds.mem_owners _ _).mp hright
    have hleftPath := KeyedMap.key_of_get? hleftGet
    have hrightPath := KeyedMap.key_of_get? hrightGet
    rw [← hleftPath, ← hrightPath] at hcompare ⊢
    exact hdiffer leftEntry (KeyedMap.mem_values_of_get? hleftGet) rightEntry
      (KeyedMap.mem_values_of_get? hrightGet) ⟨path, hleftArtifact, hrightArtifact⟩ hcompare
  have hentries : ∀ path, index'.localEntriesByPath.get? path =
    index.localEntriesByPath.get? path :=
    fun path => (h'.holds.entries path).trans (h.holds.entries path).symm
  unfold shownAt ownerEntry
  rw [howner, hentries]
  cases hpath : index.ownerPath runtime path with
  | none => rfl
  | some owner => simp only [Option.bind_some, hentries]

/-- Two indexes with the same resources under the same keys. -/
structure SameResources (index index' : ResourceIndex) : Prop where
  localResources : ∀ path, index'.localResourcesByPath.get? path =
    index.localResourcesByPath.get? path
  groups : ∀ groupId key, inGroup index'.groups groupId key = inGroup index.groups groupId key

/-- **The entries decide what is shown.** -/
theorem Shows.sameResources [Std.TransCmp runtime.localeCompareEnUs] {m r : EntryMap}
    {index index' : ResourceIndex} (h : Shows runtime id m r index)
    (h' : Shows runtime id m r index') (hdiffer : OwnersDiffer runtime m) :
    SameResources index index' := by
  have hlocal : ∀ path,
      index'.localResourcesByPath.get? path = index.localResourcesByPath.get? path := by
    intro path
    rw [h.shown, h'.shown]
    exact h.shownAt_eq h' hdiffer path
  refine ⟨hlocal, fun groupId key => Option.ext fun resource => ?_⟩
  rw [h.consistent.grouped, h'.consistent.grouped]
  cases resource.source with
  | ofLocal =>
    show _ ∧ _ ∧ index'.localResourcesByPath.get? _ = _ ↔
      _ ∧ _ ∧ index.localResourcesByPath.get? _ = _
    rw [hlocal]
  | ofRemote =>
    show _ ∧ _ ∧ index'.remoteResourcesByPath.get? _ = _ ↔
      _ ∧ _ ∧ index.remoteResourcesByPath.get? _ = _
    rw [h.remote, h'.remote]

end ResourceIndex

/-! ## What the view is given, as sets -/

/-- A group, with its resources as a set. -/
def ScmProjectedResourceGroup.contents (group : ScmProjectedResourceGroup) :
    ScmResourceGroupId × Text × Option Text × Finset ScmProjectedResource :=
  (group.id, group.labelKey, group.changelist, group.resources.toFinset)

/-- What the targets of a commit of everything are, as a set; `none` when the list is refused. -/
def commitAllContents (targets : Except CommitAllTargetInvalid ScmCommitAllTargets) :
    Option (Bool × Finset ScmCommitAllTarget) :=
  targets.toOption.map fun targets => (targets.hasConflicts, targets.targets.toFinset)

/-- Two states of the view that show the same groups, count and commit targets. -/
structure SameProjection (runtime : TextRuntime) (policy : SourceControlCountPolicy)
    (state state' : ResourceState) : Prop where
  groups : ((state'.index.projectionGroups runtime).map
    ScmProjectedResourceGroup.contents).toFinset =
    ((state.index.projectionGroups runtime).map ScmProjectedResourceGroup.contents).toFinset
  count : state'.index.projectionCount policy = state.index.projectionCount policy
  commitAll : commitAllContents
      (state'.index.commitAllTargets runtime policy state'.lifecycle.repositoryId) =
    commitAllContents (state.index.commitAllTargets runtime policy state.lifecycle.repositoryId)

namespace ResourceIndex

variable {runtime : TextRuntime} {policy : SourceControlCountPolicy}

variable {index index' : ResourceIndex}

theorem SameResources.group_perm (h : SameResources index index') (groupId : ScmResourceGroupId) :
    (index'.groupResources groupId).Perm (index.groupResources groupId) :=
  (perm_items_of_get? (h.groups groupId)).map _

theorem toFinset_sortedResources (resources : List ScmProjectedResource) :
    (sortedResources runtime resources).toFinset = resources.toFinset :=
  List.toFinset_eq_of_perm _ _ (List.perm_insertionSort _ _)

theorem SameResources.contents_fixedProjectionGroup (h : SameResources index index')
    (groupId : ScmResourceGroupId) :
    (index'.fixedProjectionGroup runtime groupId).contents =
      (index.fixedProjectionGroup runtime groupId).contents := by
  have hresources : (sortedResources runtime (index'.groupResources groupId)).toFinset =
      (sortedResources runtime (index.groupResources groupId)).toFinset := by
    rw [toFinset_sortedResources, toFinset_sortedResources]
    exact List.toFinset_eq_of_perm _ _ (h.group_perm groupId)
  unfold ScmProjectedResourceGroup.contents fixedProjectionGroup
  rw [hresources]

/-- The groups of changelists are those whose ids hold a resource. -/
theorem mem_changelistProjectionGroups
    {contents : ScmResourceGroupId × Text × Option Text × Finset ScmProjectedResource} :
    contents ∈ (index.changelistProjectionGroups runtime).map ScmProjectedResourceGroup.contents ↔
      ∃ groupId : ScmResourceGroupId, groupId.isChangelist = true ∧
        index.groupResources groupId ≠ [] ∧
        contents = (groupId, ("scm.group.changelist" : Text),
          some (changelistNameFromResourceGroupId runtime groupId),
          (index.groupResources groupId).toFinset) := by
  unfold changelistProjectionGroups
  rw [List.map_map, List.mem_map]
  constructor
  · rintro ⟨item, hitem, rfl⟩
    have hitem' := mem_sortBy.mp hitem
    rw [List.mem_filter, Bool.and_eq_true, decide_eq_true_eq] at hitem'
    obtain ⟨hmem, hchangelist, _⟩ := hitem'
    have hget : index.groupResources item.1 = item.2.values := by
      unfold groupResources
      rw [get?_eq_some_iff.mpr hmem]
      rfl
    refine ⟨item.1, hchangelist, ?_, ?_⟩
    · rw [hget]
      intro hnil
      have hlength : item.2.size = 0 := by
        rw [size, ← List.length_map Prod.snd]
        exact congrArg List.length hnil
      omega
    · rw [hget]
      show (_, _, _, (sortedResources runtime item.2.values).toFinset) = _
      rw [toFinset_sortedResources]
  · rintro ⟨groupId, hchangelist, hsome, rfl⟩
    cases hget : index.groups.get? groupId with
    -- a group that is not in the index has no resources
    | none =>
      refine absurd ?_ hsome
      unfold groupResources
      rw [hget]
      rfl
    | some group =>
      have hvalues : index.groupResources groupId = group.values := by
        unfold groupResources
        rw [hget]
        rfl
      rw [hvalues] at hsome ⊢
      refine ⟨(groupId, group), ?_, ?_⟩
      · refine mem_sortBy.mpr (List.mem_filter.mpr ⟨get?_eq_some_iff.mp hget, ?_⟩)
        rw [Bool.and_eq_true, decide_eq_true_eq]
        refine ⟨hchangelist, ?_⟩
        show 0 < group.items.length
        rw [← List.length_map Prod.snd]
        exact List.length_pos_of_ne_nil hsome
      · show (_, _, _, (sortedResources runtime group.values).toFinset) = _
        rw [toFinset_sortedResources]

theorem SameResources.contents_projectionGroups (h : SameResources index index') :
    ((index'.projectionGroups runtime).map ScmProjectedResourceGroup.contents).toFinset =
      ((index.projectionGroups runtime).map ScmProjectedResourceGroup.contents).toFinset := by
  have hchangelists : ((index'.changelistProjectionGroups runtime).map
      ScmProjectedResourceGroup.contents).toFinset =
      ((index.changelistProjectionGroups runtime).map
        ScmProjectedResourceGroup.contents).toFinset := by
    ext contents
    rw [List.mem_toFinset, List.mem_toFinset, mem_changelistProjectionGroups,
      mem_changelistProjectionGroups]
    refine exists_congr fun groupId => and_congr_right fun _ => ?_
    have hperm := h.group_perm groupId
    rw [List.toFinset_eq_of_perm _ _ hperm, ne_eq, ne_eq, ← List.length_eq_zero_iff,
      ← List.length_eq_zero_iff, hperm.length_eq]
  unfold projectionGroups
  simp only [List.map_append, List.toFinset_append, hchangelists, List.map_cons, List.map_nil,
    h.contents_fixedProjectionGroup]

theorem SameResources.projectionCount_eq (h : SameResources index index') :
    index'.projectionCount policy = index.projectionCount policy :=
  ((perm_items_of_get? h.localResources).map Prod.snd).countP_eq _

/-! ### Commit targets -/

/-- The target of a resource whose path may be committed. -/
def commitAllTarget (resource : ScmProjectedResource) : ScmCommitAllTarget where
  path := resource.path
  changelist := resource.entry.changelist
  status := commitAllTargetStatus resource.entry
  directory := parentPath resource.path

theorem toOption_mapM_commitAllTargetFromResource (id : Text)
    (resources : List ScmProjectedResource) :
    (resources.mapM (commitAllTargetFromResource id)).toOption =
      if ∀ resource ∈ resources, isRepositoryRelativeCommitPath resource.path = true then
        some (resources.map commitAllTarget)
      else none := by
  induction resources with
  | nil => rfl
  | cons resource rest ih =>
    rw [List.mapM_cons]
    by_cases hpath : isRepositoryRelativeCommitPath resource.path = true
    · have hfirst : commitAllTargetFromResource id resource =
          .ok (commitAllTarget resource) := by
        unfold commitAllTargetFromResource
        rw [hpath]
        rfl
      rw [hfirst]
      simp only [List.forall_mem_cons, hpath, true_and]
      cases htail : rest.mapM (commitAllTargetFromResource id) with
      | error error =>
        rw [htail] at ih
        split at ih
        · cases ih
        rename_i hrest
        rw [if_neg hrest]
        rfl
      | ok targets =>
        rw [htail] at ih
        split at ih
        · rename_i hrest
          rw [if_pos hrest, List.map_cons, ← Option.some.inj ih]
          rfl
        · cases ih
    · have hfirst : commitAllTargetFromResource id resource =
          .error ⟨id, resource.path⟩ := by
        unfold commitAllTargetFromResource
        rw [if_pos (Bool.eq_false_iff.mpr hpath)]
      rw [hfirst, if_neg fun hall => hpath (hall resource List.mem_cons_self)]
      rfl

/-- The local changes, which `commitAllTargets` lists by key. -/
def localChanges (index : ResourceIndex) : List ScmProjectedResource :=
  index.localResourcesByPath.values.filter fun resource => isLocalChangeGroup resource.groupId

/-- The keys of local resources differ, so listing by key loses none. -/
theorem Consistent.mem_values_byKey (h : Consistent index) {resource : ScmProjectedResource} :
    resource ∈ (index.localChanges.foldl (fun (byKey : OrderedMap Text ScmProjectedResource)
      resource =>
      byKey.set resource.key resource) .empty).values ↔ resource ∈ index.localChanges := by
  have hget : ∀ {other}, other ∈ index.localChanges →
      (index.localResourcesByPath.get? other.path = some other ∧
        other.key = EntrySource.ofLocal.word ++ [':'] ++ other.path) := by
    intro other hmem
    obtain ⟨path, hother⟩ := mem_values_iff.mp (List.mem_filter.mp hmem).1
    obtain ⟨-, hpath, hkey⟩ := h.keyed .ofLocal path other hother
    rw [hpath]
    exact ⟨hother, hkey⟩
  constructor
  · intro hmem
    rcases mem_values_foldl_set hmem with hlisted | hempty
    · exact hlisted
    · cases hempty
  · intro hmem
    have huniq : ∀ other ∈ index.localChanges, other.key = resource.key → other = resource := by
      intro other hother hkey
      rw [(hget hother).2, (hget hmem).2] at hkey
      have hsome := (hget hother).1
      rw [(resourceKey_inj hkey).2, (hget hmem).1] at hsome
      exact (Option.some.inj hsome).symm
    exact List.mem_map_of_mem (mem_items_foldl_set huniq (.inl hmem))

/-- The commit targets, from the set of local changes. -/
theorem Consistent.commitAllContents_eq (h : Consistent index) (id : Text) :
    commitAllContents (index.commitAllTargets runtime policy id) =
      if ∀ resource ∈ index.localChanges, isCommitAllCandidate policy resource = true →
          isRepositoryRelativeCommitPath resource.path = true then
        some (decide ((index.groupResources .conflicts).length > 0),
          ((index.localChanges.filter (isCommitAllCandidate policy)).map commitAllTarget).toFinset)
      else none := by
  -- sorting and the map by key only reorder the changes, so membership is enough
  generalize hchanges : sortedResources runtime (index.localChanges.foldl
    (fun (byKey : OrderedMap Text ScmProjectedResource) resource =>
      byKey.set resource.key resource) .empty).values = changes
  have hmem : ∀ resource, resource ∈ changes ↔ resource ∈ index.localChanges := by
    intro resource
    rw [← hchanges]
    exact mem_sortBy.trans h.mem_values_byKey
  have hlisted : index.commitAllTargets runtime policy id =
      ((changes.filter (isCommitAllCandidate policy)).mapM
        (commitAllTargetFromResource id)).map fun targets =>
        { hasConflicts := decide ((index.groupResources .conflicts).length > 0), targets } := by
    rw [← hchanges]
    unfold commitAllTargets localChanges
    dsimp only
    cases List.mapM (commitAllTargetFromResource id) _ <;> rfl
  have hoption : ∀ {α β : Type} (x : Except CommitAllTargetInvalid α) (f : α → β),
      (x.map f).toOption = x.toOption.map f := by
    intro α β x f
    cases x <;> rfl
  have hvalid : (∀ resource ∈ changes.filter (isCommitAllCandidate policy),
      isRepositoryRelativeCommitPath resource.path = true) ↔
      ∀ resource ∈ index.localChanges, isCommitAllCandidate policy resource = true →
        isRepositoryRelativeCommitPath resource.path = true := by
    simp only [List.mem_filter, hmem, and_imp]
  have htargets : ((changes.filter (isCommitAllCandidate policy)).map commitAllTarget).toFinset =
      ((index.localChanges.filter (isCommitAllCandidate policy)).map commitAllTarget).toFinset := by
    ext target
    simp only [List.mem_toFinset, List.mem_map, List.mem_filter, hmem]
  unfold commitAllContents
  rw [hlisted, hoption, toOption_mapM_commitAllTargetFromResource]
  by_cases hall : ∀ resource ∈ index.localChanges, isCommitAllCandidate policy resource = true →
      isRepositoryRelativeCommitPath resource.path = true
  · rw [if_pos hall, if_pos (hvalid.mpr hall), ← htargets]
    rfl
  · rw [if_neg hall, if_neg fun hfiltered => hall (hvalid.mp hfiltered)]
    rfl

theorem SameResources.commitAllContents_eq (h : SameResources index index')
    (hconsistent : Consistent index) (hconsistent' : Consistent index') (id : Text) :
    commitAllContents (index'.commitAllTargets runtime policy id) =
      commitAllContents (index.commitAllTargets runtime policy id) := by
  have hperm : (index'.localChanges).Perm index.localChanges :=
    ((perm_items_of_get? h.localResources).map Prod.snd).filter _
  rw [hconsistent.commitAllContents_eq, hconsistent'.commitAllContents_eq,
    (h.group_perm .conflicts).length_eq,
    List.toFinset_eq_of_perm _ _ ((hperm.filter (isCommitAllCandidate policy)).map commitAllTarget)]
  simp only [hperm.mem_iff]

end ResourceIndex

/-! ## Snapshots followed by deltas -/

/-- The entries after the upserts and removes of some deltas. -/
def patchedEntries (entries : EntryMap) (deltas : List StatusDelta) : EntryMap :=
  deltas.foldl (fun entries delta => entries.patch delta.remove delta.upsert) entries

def patchedRemoteEntries (entries : EntryMap) (deltas : List StatusDelta) : EntryMap :=
  deltas.foldl (fun entries delta => entries.patch delta.remoteRemove delta.remoteUpsert) entries

namespace ResourceState

/-- The deltas, one after the other; each must be accepted. -/
def applyDeltas (runtime : TextRuntime) (state : ResourceState) (deltas : List StatusDelta) :
    Except SourceControlResourceStoreError ResourceState :=
  deltas.foldlM (fun state delta => state.applyDelta runtime delta) state

variable {runtime : TextRuntime}

variable {state state' : ResourceState}

theorem shows_applySnapshot {snapshot : StatusSnapshot}
    (hremote : (snapshot.remoteEntries.map StatusEntry.path).Nodup)
    (h : state.applySnapshot runtime snapshot = .ok state') :
    state'.lifecycle.repositoryId = state.lifecycle.repositoryId ∧
      state'.index.Shows runtime state.lifecycle.repositoryId (entriesByPath snapshot.localEntries)
        (entriesByPath snapshot.remoteEntries) := by
  unfold applySnapshot at h
  cases hlifecycle : state.lifecycle.applySnapshot snapshot.header with
  | error error =>
    rw [hlifecycle] at h
    cases h
  | ok lifecycle =>
    rw [hlifecycle] at h
    obtain rfl := Except.ok.inj h
    obtain ⟨-, -, rfl⟩ := RepositoryProjectionState.applySnapshot_eq_ok_iff.mp hlifecycle
    exact ⟨rfl, ResourceIndex.shows_ofSnapshot _ hremote⟩

theorem shows_applyDelta {delta : StatusDelta} {m r : EntryMap}
    (hshows : state.index.Shows runtime state.lifecycle.repositoryId m r)
    (h : state.applyDelta runtime delta = .ok state') :
    state'.lifecycle.repositoryId = state.lifecycle.repositoryId ∧
      state'.index.Shows runtime state.lifecycle.repositoryId (m.patch delta.remove delta.upsert)
        (r.patch delta.remoteRemove delta.remoteUpsert) := by
  unfold applyDelta at h
  cases hlifecycle : state.lifecycle.applyDelta delta with
  | error error =>
    rw [hlifecycle] at h
    cases h
  | ok lifecycle =>
    rw [hlifecycle] at h
    obtain rfl := Except.ok.inj h
    obtain ⟨-, _, -, -, rfl⟩ := RepositoryProjectionState.applyDelta_eq_ok_iff.mp hlifecycle
    exact ⟨rfl, hshows.applyDelta delta⟩

/-- Deltas patch what is shown, one after the other. -/
theorem shows_applyDeltas {deltas : List StatusDelta} {m r : EntryMap}
    (hshows : state.index.Shows runtime state.lifecycle.repositoryId m r)
    (h : state.applyDeltas runtime deltas = .ok state') :
    state'.lifecycle.repositoryId = state.lifecycle.repositoryId ∧
      state'.index.Shows runtime state.lifecycle.repositoryId (patchedEntries m deltas)
        (patchedRemoteEntries r deltas) := by
  induction deltas generalizing state m r with
  | nil =>
    obtain rfl := Except.ok.inj h
    exact ⟨rfl, hshows⟩
  | cons delta rest ih =>
    unfold applyDeltas at h
    rw [List.foldlM_cons, Fallible.bind_eq_ok_iff] at h
    obtain ⟨_, hstep, hrest⟩ := h
    obtain ⟨hid, hnext⟩ := shows_applyDelta hshows hstep
    obtain ⟨hid', hlast⟩ := ih (hid ▸ hnext) hrest
    exact ⟨hid'.trans hid, hid ▸ hlast⟩

/-- **Deltas show what a snapshot of the patched entries shows.** A snapshot is taken, then any
number of deltas.  Listing the entries that result, in any order, and taking them as one snapshot of
the same repository shows the same groups, count and commit targets, if the locale tells apart the
entries that share an artifact. -/
theorem incremental_eq_rebuild (runtime : TextRuntime) [Std.TransCmp runtime.localeCompareEnUs]
    (policy : SourceControlCountPolicy) {registered shown state : ResourceState}
    {snapshot : StatusSnapshot} {deltas : List StatusDelta}
    (hunique : (snapshot.remoteEntries.map StatusEntry.path).Nodup)
    (hsnapshot : registered.applySnapshot runtime snapshot = .ok shown)
    (hdeltas : shown.applyDeltas runtime deltas = .ok state)
    {rebuilt : StatusSnapshot} {registered' state' : ResourceState}
    (hlocal : entriesByPath rebuilt.localEntries =
      patchedEntries (entriesByPath snapshot.localEntries) deltas)
    (hremote : entriesByPath rebuilt.remoteEntries =
      patchedRemoteEntries (entriesByPath snapshot.remoteEntries) deltas)
    (hunique' : (rebuilt.remoteEntries.map StatusEntry.path).Nodup)
    (hsame : registered'.lifecycle.repositoryId = registered.lifecycle.repositoryId)
    (hrebuilt : registered'.applySnapshot runtime rebuilt = .ok state')
    (hdiffer : ResourceIndex.OwnersDiffer runtime (entriesByPath rebuilt.localEntries)) :
    SameProjection runtime policy state state' := by
  obtain ⟨hid, hshown⟩ := shows_applySnapshot hunique hsnapshot
  obtain ⟨hid', hstate⟩ := shows_applyDeltas (hid ▸ hshown) hdeltas
  obtain ⟨hidRebuilt, hstate'⟩ := shows_applySnapshot hunique' hrebuilt
  rw [hid, ← hlocal, ← hremote] at hstate
  rw [hsame] at hstate'
  have hresources := hstate.sameResources hstate' hdiffer
  refine ⟨hresources.contents_projectionGroups, hresources.projectionCount_eq, ?_⟩
  rw [hidRebuilt, hsame, hid', hid]
  exact hresources.commitAllContents_eq hstate.consistent hstate'.consistent _

end ResourceState

namespace ProjectionExample

/-- A locale compares texts by their canonical decomposition. -/
def decompose (text : Text) : Text := text.flatMap fun c => if c = 'é' then ['e', '\u0301'] else [c]

def runtime : TextRuntime where
  localeCompare left right := compare (decompose left) (decompose right)
  localeCompareEnUs left right := compare (decompose left) (decompose right)
  encodeURIComponent := id
  decodeURIComponent := id

instance : Std.TransCmp runtime.localeCompareEnUs where
  eq_swap {a b} := @Std.OrientedCmp.eq_swap Text compare _ (decompose a) (decompose b)
  isLE_trans {a b c} :=
    @Std.TransCmp.isLE_trans Text compare _ (decompose a) (decompose b) (decompose c)

def policy : SourceControlCountPolicy := ⟨true, []⟩

def registered : ResourceState := .registered "r" 1 "/wc"

/-- A conflicted file with one artifact. -/
def conflicted (path : Text) (revision : Int) (generation : Nat) : StatusEntry :=
  { StatusEntry.file path "conflicted" with
    revision, generation, conflict := some "text", conflictArtifacts := ["x.mine"] }

def snapshotOf (generation : Nat) (entries : List StatusEntry) : StatusSnapshot :=
  { (default : StatusSnapshot) with
    repositoryId := "r", epoch := 1, generation, completeness := "complete"
    localEntries := entries }

def deltaOf (generation : Nat) (upsert : List StatusEntry) : StatusDelta :=
  { (default : StatusDelta) with
    repositoryId := "r", epoch := 1, generation, completeness := "complete", upsert }

section

variable (first second : Text)

/-- Two files that own the artifact, then a delta that reports the first again. -/
def snapshot : StatusSnapshot := snapshotOf 1 [conflicted first 1 1, conflicted second 2 1]

def delta : StatusDelta := deltaOf 2 [conflicted first 1 2]

def rebuilt : StatusSnapshot := snapshotOf 2 [conflicted first 1 2, conflicted second 2 1]

def shown : ResourceState where
  lifecycle := registered.lifecycle.applySnapshotToState (snapshot first second).header
  index := .ofSnapshot runtime "r" (snapshot first second).localEntries []

def updated : ResourceState where
  lifecycle := { (shown first second).lifecycle with
    contents := some ⟨2, ⟨"complete", "complete", .delta⟩⟩ }
  index := (shown first second).index.applyDelta runtime "r" (delta first)

def rebuiltState : ResourceState where
  lifecycle := registered.lifecycle.applySnapshotToState (rebuilt first second).header
  index := .ofSnapshot runtime "r" (rebuilt first second).localEntries []

end

/-- **Equal names in two normal forms.** Both files own the artifact.  The delta reports the
composed name again, which moves it behind the other one; the rebuilt view still shows it first. -/
theorem tied_owners_differ_from_rebuild :
    registered.applySnapshot runtime (snapshot "é.c" "e\u0301.c") = .ok (shown "é.c" "e\u0301.c") ∧
      (shown "é.c" "e\u0301.c").applyDeltas runtime [delta "é.c"] =
        .ok (updated "é.c" "e\u0301.c") ∧
      entriesByPath (rebuilt "é.c" "e\u0301.c").localEntries =
        patchedEntries (entriesByPath (snapshot "é.c" "e\u0301.c").localEntries) [delta "é.c"] ∧
      registered.applySnapshot runtime (rebuilt "é.c" "e\u0301.c") =
        .ok (rebuiltState "é.c" "e\u0301.c") ∧
      ¬ SameProjection runtime policy (updated "é.c" "e\u0301.c")
        (rebuiltState "é.c" "e\u0301.c") := by
  refine ⟨rfl, rfl, by decide +kernel, rfl, fun hsame => ?_⟩
  have hgroups := hsame.groups
  revert hgroups
  decide +kernel

/-- Files that the locale tells apart: the rebuilt view shows the same. -/
theorem distinct_owners_eq_rebuild :
    SameProjection runtime policy (updated "a.c" "b.c") (rebuiltState "a.c" "b.c") := by
  have hsnapshot : registered.applySnapshot runtime (snapshot "a.c" "b.c") =
    .ok (shown "a.c" "b.c") :=
    rfl
  have hdeltas : (shown "a.c" "b.c").applyDeltas runtime [delta "a.c"] =
    .ok (updated "a.c" "b.c") :=
    rfl
  have hrebuilt : registered.applySnapshot runtime (rebuilt "a.c" "b.c") =
      .ok (rebuiltState "a.c" "b.c") := rfl
  have hunique : ((snapshot "a.c" "b.c").remoteEntries.map StatusEntry.path).Nodup := List.nodup_nil
  have hunique' : ((rebuilt "a.c" "b.c").remoteEntries.map StatusEntry.path).Nodup := List.nodup_nil
  refine ResourceState.incremental_eq_rebuild runtime policy hunique hsnapshot hdeltas
    (by decide +kernel) (by decide +kernel) hunique' rfl hrebuilt ?_
  unfold ResourceIndex.OwnersDiffer
  decide +kernel

end ProjectionExample

end SubversionR

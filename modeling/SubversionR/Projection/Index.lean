import SubversionR.Client.Resources

/-!
# Index — the maps of the Source Control view agree

A `ResourceIndex` keeps the entries, the owners of conflict artifacts, the resources by path and the
resources by group.  Three kinds of agreement between them, each kept by every operation:

* `Owned m index` — the two artifact maps are those of the entries of `m`;
* `Consistent index` — the groups hold exactly the resources of the two path maps;
* `SameAt index index' path` — nothing that decides what `path` shows is different.

`shownAt` says what `projectLocalPath` stores for a path, from the entries and the owners alone.
-/

namespace SubversionR

open OrderedMaps OrderedMap KeyedMaps

namespace ResourceIndex

/-! ## Artifact owners -/

/-- The owners of an artifact; a set that is missing has no members. -/
def owners (index : ResourceIndex) (artifact : Text) : List Text :=
  (index.conflictArtifactOwnersByPath.get? artifact).getD []

/-- The artifact maps list the artifacts of the entries of `m`, and no others. -/
structure Owned (m : EntryMap) (index : ResourceIndex) : Prop where
  paths : ∀ owner, index.conflictArtifactPathsByOwner.get? owner =
    (m.get? owner).bind fun entry =>
      if entry.conflictArtifacts = [] then none else some (keySet entry.conflictArtifacts)
  nodup : ∀ artifact, (index.owners artifact).Nodup
  mem_owners : ∀ artifact owner, owner ∈ index.owners artifact ↔
    ∃ entry, m.get? owner = some entry ∧ artifact ∈ entry.conflictArtifacts

variable {m : EntryMap} {index : ResourceIndex}

/-- The artifacts of an owner are those it is an owner of. -/
theorem Owned.mem_paths (h : Owned m index) {artifact owner : Text} :
    owner ∈ index.owners artifact ↔
      artifact ∈ (index.conflictArtifactPathsByOwner.get? owner).getD [] := by
  rw [h.mem_owners, h.paths]
  cases hget : m.get? owner with
  | none => simp
  | some entry =>
    by_cases hnil : entry.conflictArtifacts = []
    · simp [hnil]
    · simp [hnil]

theorem owned_empty (hpaths : index.conflictArtifactPathsByOwner = .empty)
    (howners : index.conflictArtifactOwnersByPath = .empty) : Owned .empty index where
  paths owner := by
    rw [hpaths, KeyedMap.get?_empty]
    rfl
  nodup artifact := by
    unfold owners
    rw [howners]
    exact List.nodup_nil
  mem_owners artifact owner := by
    unfold owners
    rw [howners, KeyedMap.get?_empty]
    simp [get?_empty]

theorem getD_get?_removeOwner (owners : OrderedMap Text (List Text))
    (owner path artifact : Text) :
    ((removeOwner owners owner path).get? artifact).getD [] =
      if artifact = path then ((owners.get? path).getD []).filter (· ≠ owner)
      else (owners.get? artifact).getD [] := by
  by_cases heq : artifact = path
  · subst heq
    rw [if_pos rfl]
    unfold removeOwner
    cases hget : owners.get? artifact with
    | none => simp [hget]
    | some existing =>
      dsimp only
      split
      · rename_i hnil
        rw [get?_delete, if_pos rfl]
        exact hnil.symm
      · rw [get?_set, if_pos rfl]
        rfl
  · rw [if_neg heq]
    unfold removeOwner
    cases hget : owners.get? path with
    | none => rfl
    | some existing =>
      dsimp only
      split
      · rw [get?_delete, if_neg heq]
      · rw [get?_set, if_neg heq]

/-- Removing an owner from the sets of several artifacts. -/
theorem getD_get?_removeOwners (artifacts : List Text) (owner artifact : Text)
    (owners : OrderedMap Text (List Text)) :
    ((artifacts.foldl (fun owners path => removeOwner owners owner path) owners).get?
        artifact).getD [] =
      if artifact ∈ artifacts then ((owners.get? artifact).getD []).filter (· ≠ owner)
      else (owners.get? artifact).getD [] := by
  induction artifacts generalizing owners with
  | nil => simp
  | cons path rest ih =>
    rw [List.foldl_cons, ih, getD_get?_removeOwner]
    by_cases heq : artifact = path
    · subst heq
      -- removing an owner twice is removing it once
      simp [List.filter_filter]
    · simp only [heq, if_false, List.mem_cons, false_or]

theorem getD_get?_addOwners (artifacts : List Text) (owner artifact : Text)
    (owners : OrderedMap Text (List Text)) :
    ((artifacts.foldl (fun owners path => addOwner owners owner path) owners).get?
        artifact).getD [] =
      if artifact ∈ artifacts then addKey ((owners.get? artifact).getD []) owner
      else (owners.get? artifact).getD [] := by
  induction artifacts generalizing owners with
  | nil => simp
  | cons path rest ih =>
    have hadd : ((addOwner owners owner path).get? artifact).getD [] =
        if artifact = path then addKey ((owners.get? path).getD []) owner
        else (owners.get? artifact).getD [] := by
      unfold addOwner
      rw [get?_set]
      split <;> rfl
    rw [List.foldl_cons, ih, hadd]
    by_cases heq : artifact = path
    · subst heq
      have hmem : owner ∈ addKey ((owners.get? artifact).getD []) owner :=
        mem_addKey.mpr (.inr rfl)
      have htwice : addKey (addKey ((owners.get? artifact).getD []) owner) owner =
          addKey ((owners.get? artifact).getD []) owner := by
        rw [addKey, if_pos hmem]
      simp [htwice]
    · simp only [heq, if_false, List.mem_cons, false_or]

/-- The owners after an entry was added. -/
theorem owners_addConflictArtifactOwner (index : ResourceIndex) (entry : StatusEntry)
    (artifact : Text) :
    (index.addConflictArtifactOwner entry).owners artifact =
      if artifact ∈ entry.conflictArtifacts then
        addKey (index.owners artifact) entry.path
      else index.owners artifact := by
  unfold addConflictArtifactOwner
  split
  · rename_i hnil
    simp [hnil]
  · show (get? (List.foldl _ _ _) artifact).getD [] = _
    rw [getD_get?_addOwners]
    simp only [mem_keySet]
    rfl

/-- The owners after an entry was removed. -/
theorem owners_removeLocalEntry (h : Owned m index) (affected : List Text)
    (path artifact : Text) :
    (index.removeLocalEntry affected path).1.owners artifact =
      (index.owners artifact).filter (· ≠ path) := by
  -- a path that is not among the owners need not be removed
  have hnot : path ∉ index.owners artifact →
      (index.owners artifact).filter (· ≠ path) = index.owners artifact := by
    intro hpath
    refine List.filter_eq_self.mpr fun owner howner => ?_
    rw [decide_eq_true_eq]
    rintro rfl
    exact hpath howner
  unfold removeLocalEntry
  cases hpaths : index.conflictArtifactPathsByOwner.get? path with
  | none =>
    refine (hnot ?_).symm
    rw [h.mem_paths, hpaths]
    simp
  | some artifacts =>
    show (get? (List.foldl _ _ _) artifact).getD [] = _
    rw [getD_get?_removeOwners]
    split
    · rfl
    rename_i hmem
    refine (hnot ?_).symm
    rw [h.mem_paths, hpaths]
    exact hmem

variable {entry : StatusEntry}

theorem Owned.addConflictArtifactOwner (h : Owned m index) (hnew : m.get? entry.path = none) :
    Owned (m.insert entry) (index.addConflictArtifactOwner entry) where
  paths owner := by
    rw [KeyedMap.get?_insert]
    unfold ResourceIndex.addConflictArtifactOwner
    split
    · rename_i hnil
      rw [h.paths]
      split
      · rename_i heq
        rw [← heq, hnew, Option.bind_some, if_pos hnil]
        rfl
      · rfl
    · rename_i hsome
      show (index.conflictArtifactPathsByOwner.set entry.path _).get? owner = _
      rw [get?_set]
      by_cases heq : entry.path = owner
      · rw [if_pos heq.symm, if_pos heq, Option.bind_some, if_neg hsome]
      · rw [if_neg (Ne.symm heq), if_neg heq, h.paths]
  nodup artifact := by
    rw [owners_addConflictArtifactOwner]
    split
    · exact nodup_addKey (h.nodup artifact) entry.path
    · exact h.nodup artifact
  mem_owners artifact owner := by
    have hold : owner ∈ index.owners artifact → owner ≠ entry.path := by
      rintro hmem rfl
      obtain ⟨_, hget, -⟩ := (h.mem_owners _ _).mp hmem
      rw [hnew] at hget
      cases hget
    rw [owners_addConflictArtifactOwner, KeyedMap.get?_insert]
    by_cases heq : entry.path = owner
    · rw [if_pos heq]
      split
      · rename_i hmem
        exact iff_of_true (mem_addKey.mpr (.inr heq.symm)) ⟨entry, rfl, hmem⟩
      · rename_i hmem
        refine iff_of_false (fun howner => hold howner heq.symm) ?_
        rintro ⟨_, hsome, hartifact⟩
        obtain rfl := Option.some.inj hsome
        exact hmem hartifact
    · rw [if_neg heq, ← h.mem_owners]
      split
      · rw [mem_addKey]
        exact or_iff_left (Ne.symm heq)
      · rfl

theorem Owned.removeLocalEntry (h : Owned m index) (affected : List Text) (path : Text) :
    Owned (m.erase path) (index.removeLocalEntry affected path).1 where
  paths owner := by
    rw [KeyedMap.get?_erase]
    unfold ResourceIndex.removeLocalEntry
    cases hpaths : index.conflictArtifactPathsByOwner.get? path with
    | none =>
      dsimp only
      split
      · rename_i heq
        rw [← heq, hpaths]
        rfl
      · exact h.paths owner
    | some artifacts =>
      show (index.conflictArtifactPathsByOwner.delete path).get? owner = _
      rw [get?_delete]
      by_cases heq : path = owner
      · rw [if_pos heq.symm, if_pos heq]
        rfl
      · rw [if_neg (Ne.symm heq), if_neg heq, h.paths]
  nodup artifact := by
    rw [owners_removeLocalEntry h]
    exact (h.nodup artifact).filter _
  mem_owners artifact owner := by
    rw [owners_removeLocalEntry h, List.mem_filter, decide_eq_true_eq, h.mem_owners,
      KeyedMap.get?_erase]
    by_cases heq : path = owner
    · simp [heq]
    · simp [heq, Ne.symm heq]

/-! ## Entries of the index -/

/-- The index holds the entries of `m` and their artifacts. -/
structure Holds (m : EntryMap) (index : ResourceIndex) : Prop extends Owned m index where
  entries : ∀ path, index.localEntriesByPath.get? path = m.get? path

theorem localEntriesByPath_addConflictArtifactOwner (index : ResourceIndex) (entry : StatusEntry) :
    (index.addConflictArtifactOwner entry).localEntriesByPath = index.localEntriesByPath := by
  unfold addConflictArtifactOwner
  split <;> rfl

theorem localEntriesByPath_removeLocalEntry (index : ResourceIndex) (affected : List Text)
    (path : Text) :
    (index.removeLocalEntry affected path).1.localEntriesByPath =
      index.localEntriesByPath.delete path := by
  unfold removeLocalEntry
  split <;> rfl

theorem Holds.removeLocalEntry (h : Holds m index) (affected : List Text) (path : Text) :
    Holds (m.erase path) (index.removeLocalEntry affected path).1 where
  toOwned := h.toOwned.removeLocalEntry affected path
  entries other := by
    rw [localEntriesByPath_removeLocalEntry, get?_delete, KeyedMap.get?_erase, h.entries]
    simp only [eq_comm]

/-- A delta removes the entry before it stores the new one. -/
theorem Holds.upsertLocalEntry (h : Holds m index) (affected : List Text) (entry : StatusEntry) :
    Holds (m.insert entry) (upsertLocalEntry (index, affected) entry).1 := by
  have hremoved := h.removeLocalEntry affected entry.path
  have hnew : (m.erase entry.path).get? entry.path = none := by
    rw [KeyedMap.get?_erase, if_pos rfl]
  have hstored : Owned (m.erase entry.path)
      { (index.removeLocalEntry affected entry.path).1 with
        localEntriesByPath := ((index.removeLocalEntry affected
          entry.path).1).localEntriesByPath.set
          entry.path entry } := ⟨hremoved.paths, hremoved.nodup, hremoved.mem_owners⟩
  rw [← KeyedMap.erase_insert]
  refine ⟨hstored.addConflictArtifactOwner hnew, fun path => ?_⟩
  unfold ResourceIndex.upsertLocalEntry
  rw [localEntriesByPath_addConflictArtifactOwner, KeyedMap.get?_insert, get?_set,
    hremoved.entries]
  simp only [eq_comm]

/-! ## What decides what a path shows -/

/-- The path has the same owners, with the same entries, and the same entry of its own. -/
structure SameAt (index index' : ResourceIndex) (path : Text) : Prop where
  owners : index'.owners path = index.owners path
  entry : index'.localEntriesByPath.get? path = index.localEntriesByPath.get? path
  ownerEntries : ∀ owner ∈ index.owners path,
    index'.localEntriesByPath.get? owner = index.localEntriesByPath.get? owner

theorem SameAt.refl (index : ResourceIndex) (path : Text) : SameAt index index path :=
  ⟨rfl, rfl, fun _ _ => rfl⟩

variable {index' : ResourceIndex} {path : Text}

theorem SameAt.trans {index'' : ResourceIndex} (h : SameAt index index' path)
    (h' : SameAt index' index'' path) : SameAt index index'' path where
  owners := h'.owners.trans h.owners
  entry := h'.entry.trans h.entry
  ownerEntries owner howner :=
    (h'.ownerEntries owner (h.owners ▸ howner)).trans (h.ownerEntries owner howner)

variable {affected : List Text} {other : Text}

/-- The paths that a removal asks to project again. -/
theorem mem_affected_removeLocalEntry :
    other ∈ (index.removeLocalEntry affected path).2 ↔
      other ∈ affected ∨ other = path ∨
        other ∈ (index.conflictArtifactPathsByOwner.get? path).getD [] := by
  unfold removeLocalEntry
  cases index.conflictArtifactPathsByOwner.get? path with
  | none => simp [mem_addKey]
  | some artifacts => simp [mem_foldl_addKey, mem_addKey, or_assoc]

/-- A removal leaves every path alone that it does not ask to project again. -/
theorem Holds.sameAt_removeLocalEntry (h : Holds m index)
    (hnot : other ∉ (index.removeLocalEntry affected path).2) :
    SameAt index (index.removeLocalEntry affected path).1 other := by
  rw [mem_affected_removeLocalEntry, not_or, not_or] at hnot
  obtain ⟨-, hne, _⟩ := hnot
  have howner : path ∉ index.owners other := by rwa [h.mem_paths]
  refine ⟨?_, ?_, fun owner hmem => ?_⟩
  · rw [owners_removeLocalEntry h.toOwned]
    refine List.filter_eq_self.mpr fun owner hmem => ?_
    rw [decide_eq_true_eq]
    exact fun heq => howner (heq ▸ hmem)
  · rw [localEntriesByPath_removeLocalEntry, get?_delete, if_neg hne]
  · have hother : owner ≠ path := fun heq => howner (heq ▸ hmem)
    rw [localEntriesByPath_removeLocalEntry, get?_delete, if_neg hother]

theorem mem_affected_upsertLocalEntry :
    other ∈ (upsertLocalEntry (index, affected) entry).2 ↔
      other ∈ (index.removeLocalEntry affected entry.path).2 ∨ other ∈ entry.conflictArtifacts := by
  unfold upsertLocalEntry
  rw [mem_foldl_addKey, mem_addKey, mem_affected_removeLocalEntry]
  tauto

theorem Holds.sameAt_upsertLocalEntry (h : Holds m index)
    (hnot : other ∉ (ResourceIndex.upsertLocalEntry (index, affected) entry).2) :
    SameAt index (ResourceIndex.upsertLocalEntry (index, affected) entry).1 other := by
  rw [mem_affected_upsertLocalEntry, not_or] at hnot
  obtain ⟨hremoved, hartifact⟩ := hnot
  have hne : other ≠ entry.path := by
    rw [mem_affected_removeLocalEntry, not_or, not_or] at hremoved
    exact hremoved.2.1
  have hholds := h.removeLocalEntry affected entry.path
  refine (h.sameAt_removeLocalEntry hremoved).trans ⟨?_, ?_, fun owner howner => ?_⟩
  · show ResourceIndex.owners (addConflictArtifactOwner _ entry) other = _
    rw [owners_addConflictArtifactOwner, if_neg hartifact]
    rfl
  · show (addConflictArtifactOwner _ entry).localEntriesByPath.get? other = _
    rw [localEntriesByPath_addConflictArtifactOwner, get?_set, if_neg hne]
    rfl
  · show (addConflictArtifactOwner _ entry).localEntriesByPath.get? owner = _
    -- the entry is gone when its new version is stored, so it owns nothing
    have hother : owner ≠ entry.path := by
      rintro rfl
      obtain ⟨_, hget, -⟩ := (hholds.mem_owners _ _).mp howner
      rw [KeyedMap.get?_erase, if_pos rfl] at hget
      cases hget
    rw [localEntriesByPath_addConflictArtifactOwner, get?_set, if_neg hother]
    rfl

/-! ## The local entries of a delta -/

/-- What the first half of a delta does to the index it started from. -/
structure Updates (index : ResourceIndex) (m : EntryMap) (work : ResourceIndex × List Text) :
    Prop where
  holds : Holds m work.1
  nodup : work.2.Nodup
  same : ∀ path, path ∉ work.2 → SameAt index work.1 path
  localResources : work.1.localResourcesByPath = index.localResourcesByPath
  remoteResources : work.1.remoteResourcesByPath = index.remoteResourcesByPath
  groups : work.1.groups = index.groups

theorem nodup_affected_removeLocalEntry (h : affected.Nodup) (index : ResourceIndex) (path : Text) :
    (index.removeLocalEntry affected path).2.Nodup := by
  unfold removeLocalEntry
  split
  · exact nodup_addKey h path
  · exact nodup_foldl_addKey (nodup_addKey h path)

theorem Updates.removeLocalEntry {work : ResourceIndex × List Text} (h : Updates index m work)
    (path : Text) :
    Updates index (m.erase path) (work.1.removeLocalEntry work.2 path) where
  holds := h.holds.removeLocalEntry work.2 path
  nodup := nodup_affected_removeLocalEntry h.nodup work.1 path
  same other hnot := by
    refine (h.same other fun hmem => hnot ?_).trans (h.holds.sameAt_removeLocalEntry hnot)
    exact mem_affected_removeLocalEntry.mpr (.inl hmem)
  localResources := by
    rw [← h.localResources]
    unfold ResourceIndex.removeLocalEntry
    split <;> rfl
  remoteResources := by
    rw [← h.remoteResources]
    unfold ResourceIndex.removeLocalEntry
    split <;> rfl
  groups := by
    rw [← h.groups]
    unfold ResourceIndex.removeLocalEntry
    split <;> rfl

/-- The operations on entries leave what is shown alone. -/
theorem shown_addConflictArtifactOwner (index : ResourceIndex) (entry : StatusEntry) :
    (index.addConflictArtifactOwner entry).localResourcesByPath = index.localResourcesByPath ∧
      (index.addConflictArtifactOwner entry).remoteResourcesByPath = index.remoteResourcesByPath ∧
      (index.addConflictArtifactOwner entry).groups = index.groups := by
  unfold addConflictArtifactOwner
  split
  · exact ⟨rfl, rfl, rfl⟩
  · exact ⟨rfl, rfl, rfl⟩

theorem Updates.upsertLocalEntry {work : ResourceIndex × List Text} (h : Updates index m work)
    (entry : StatusEntry) :
    Updates index (m.insert entry) (upsertLocalEntry work entry) where
  holds := h.holds.upsertLocalEntry work.2 entry
  nodup := nodup_foldl_addKey (nodup_addKey
    (nodup_affected_removeLocalEntry h.nodup work.1 entry.path) entry.path)
  same other hnot := by
    refine (h.same other fun hmem => hnot ?_).trans (h.holds.sameAt_upsertLocalEntry hnot)
    exact mem_affected_upsertLocalEntry.mpr
      (.inl (mem_affected_removeLocalEntry.mpr (.inl hmem)))
  localResources :=
    (shown_addConflictArtifactOwner _ entry).1.trans (h.removeLocalEntry entry.path).localResources
  remoteResources :=
    (shown_addConflictArtifactOwner _ entry).2.1.trans
      (h.removeLocalEntry entry.path).remoteResources
  groups := (shown_addConflictArtifactOwner _ entry).2.2.trans
    (h.removeLocalEntry entry.path).groups

/-- **The entries of a delta.** The index holds the patched entries, and only the paths to project
again may show something else. -/
theorem Holds.applyLocalEntries (h : Holds m index) (remove : List Text)
    (upsert : List StatusEntry) :
    Updates index (m.patch remove upsert) (index.applyLocalEntries remove upsert) := by
  have hremove : ∀ {m : EntryMap} {work : ResourceIndex × List Text}, Updates index m work →
      Updates index (m.eraseAll remove)
        (remove.foldl (fun work path => work.1.removeLocalEntry work.2 path) work) := by
    induction remove with
    | nil => exact id
    | cons path rest ih => exact fun hwork => ih (hwork.removeLocalEntry path)
  have hupsert : ∀ {m : EntryMap} {work : ResourceIndex × List Text}, Updates index m work →
      Updates index (m.insertAll upsert) (upsert.foldl ResourceIndex.upsertLocalEntry work) := by
    induction upsert with
    | nil => exact id
    | cons entry rest ih => exact fun hwork => ih (hwork.upsertLocalEntry entry)
  refine hupsert (hremove ⟨h, List.nodup_nil, fun path _ => .refl index path, rfl, rfl, rfl⟩)

/-! ## Resources and their groups -/

/-- The resource a group holds under a key. -/
def inGroup (groups : OrderedMap ScmResourceGroupId (OrderedMap Text ScmProjectedResource))
    (groupId : ScmResourceGroupId) (key : Text) : Option ScmProjectedResource :=
  ((groups.get? groupId).getD .empty).get? key

theorem inGroup_upsertGroupResource
    (groups : OrderedMap ScmResourceGroupId (OrderedMap Text ScmProjectedResource))
    (resource : ScmProjectedResource) (groupId : ScmResourceGroupId) (key : Text) :
    inGroup (upsertGroupResource groups resource) groupId key =
      if groupId = resource.groupId ∧ key = resource.key then some resource
      else inGroup groups groupId key := by
  unfold inGroup upsertGroupResource
  rw [get?_set]
  by_cases hgroup : groupId = resource.groupId
  · rw [if_pos hgroup, Option.getD_some, get?_set]
    simp [hgroup]
  · simp [hgroup]

theorem inGroup_removeGroupResource
    (groups : OrderedMap ScmResourceGroupId (OrderedMap Text ScmProjectedResource))
    (resource : ScmProjectedResource) (groupId : ScmResourceGroupId) (key : Text) :
    inGroup (removeGroupResource groups resource) groupId key =
      if groupId = resource.groupId ∧ key = resource.key then none
      else inGroup groups groupId key := by
  unfold inGroup removeGroupResource
  by_cases hgroup : groupId = resource.groupId
  · subst hgroup
    cases hget : groups.get? resource.groupId with
    | none => simp [hget, get?_empty]
    | some group =>
      rw [get?_set, if_pos rfl, Option.getD_some, get?_delete]
      simp
  · cases groups.get? resource.groupId with
    | none => simp [hgroup]
    | some group => simp [hgroup, get?_set]

/-- The resources shown for local or for remote entries. -/
def resources (index : ResourceIndex) : EntrySource → OrderedMap Text ScmProjectedResource
  | .ofLocal => index.localResourcesByPath
  | .ofRemote => index.remoteResourcesByPath

/-- Each resource stands under its own path, and the groups hold exactly these resources. -/
structure Consistent (index : ResourceIndex) : Prop where
  keyed : ∀ source path resource, (index.resources source).get? path = some resource →
    resource.source = source ∧ resource.path = path ∧ resource.key = source.word ++ [':'] ++ path
  grouped : ∀ groupId key resource, inGroup index.groups groupId key = some resource ↔
    resource.groupId = groupId ∧ resource.key = key ∧
      (index.resources resource.source).get? resource.path = some resource

theorem resourceKey_inj {source source' : EntrySource} {path' : Text}
    (h : source.word ++ [':'] ++ path = source'.word ++ [':'] ++ path') :
    source = source' ∧ path = path' := by
  cases source <;> cases source' <;> simp_all [EntrySource.word]

section

variable (h : Consistent index)

include h

theorem Consistent.congr (hlocal : index'.localResourcesByPath = index.localResourcesByPath)
    (hremote : index'.remoteResourcesByPath = index.remoteResourcesByPath)
    (hgroups : index'.groups = index.groups) : Consistent index' := by
  have hresources : index'.resources = index.resources := by
    funext source
    cases source with
    | ofLocal => exact hlocal
    | ofRemote => exact hremote
  refine ⟨?_, ?_⟩
  · rw [hresources]
    exact h.keyed
  · rw [hresources, hgroups]
    exact h.grouped

/-- Showing a resource where none of its source was shown. -/
theorem Consistent.shows (resource : ScmProjectedResource)
    (hkey : resource.key = resource.source.word ++ [':'] ++ resource.path)
    (hnone : (index.resources resource.source).get? resource.path = none)
    (hresources : ∀ source path, (index'.resources source).get? path =
      if source = resource.source ∧ path = resource.path then some resource
      else (index.resources source).get? path)
    (hgroups : index'.groups = upsertGroupResource index.groups resource) : Consistent index' where
  keyed source path other hget := by
    rw [hresources] at hget
    split at hget
    · rename_i hat
      obtain rfl := Option.some.inj hget
      rw [hat.1, hat.2]
      exact ⟨rfl, rfl, hkey⟩
    · exact h.keyed source path other hget
  grouped groupId key other := by
    rw [hgroups, inGroup_upsertGroupResource, hresources]
    by_cases hsame : other.source = resource.source ∧ other.path = resource.path
    · -- nothing was shown there, so the one resource of this key is the new one
      split
      · rename_i hat
        constructor
        · intro hsome
          obtain rfl := Option.some.inj hsome
          exact ⟨hat.1.symm, hat.2.symm, rfl⟩
        · exact fun hshown => hshown.2.2
      · rename_i hnot
        rw [h.grouped, hsame.1, hsame.2, hnone]
        refine iff_of_false (by simp) ?_
        rintro ⟨hgroup, hkey', hsome⟩
        obtain rfl := Option.some.inj hsome
        exact hnot ⟨hgroup.symm, hkey'.symm⟩
    · rw [if_neg hsame]
      split
      · rename_i hat
        refine iff_of_false ?_ ?_
        · intro hsome
          obtain rfl := Option.some.inj hsome
          exact hsame ⟨rfl, rfl⟩
        · rintro ⟨-, hkey', hget⟩
          obtain ⟨-, -, hother⟩ := h.keyed _ _ _ hget
          rw [hkey', hat.2, hkey] at hother
          obtain ⟨hsource, hpath⟩ := resourceKey_inj hother
          exact hsame ⟨hsource.symm, hpath.symm⟩
      · exact h.grouped groupId key other

/-- Removing a resource that is shown. -/
theorem Consistent.hides (resource : ScmProjectedResource)
    (hshown : (index.resources resource.source).get? resource.path = some resource)
    (hresources : ∀ source path, (index'.resources source).get? path =
      if source = resource.source ∧ path = resource.path then none
      else (index.resources source).get? path)
    (hgroups : index'.groups = removeGroupResource index.groups resource) : Consistent index' where
  keyed source path other hget := by
    rw [hresources] at hget
    split at hget
    · cases hget
    · exact h.keyed source path other hget
  grouped groupId key other := by
    rw [hgroups, inGroup_removeGroupResource, hresources]
    by_cases hsame : other.source = resource.source ∧ other.path = resource.path
    · rw [if_pos hsame]
      refine iff_of_false ?_ (by simp)
      split
      · simp
      rename_i hnot
      rw [h.grouped, hsame.1, hsame.2, hshown]
      rintro ⟨hgroup, hkey, hsome⟩
      obtain rfl := Option.some.inj hsome
      exact hnot ⟨hgroup.symm, hkey.symm⟩
    · rw [if_neg hsame]
      split
      · rename_i hat
        refine iff_of_false (by simp) ?_
        rintro ⟨-, hkey, hget⟩
        obtain ⟨-, -, hother⟩ := h.keyed _ _ _ hget
        obtain ⟨-, -, hresource⟩ := h.keyed _ _ _ hshown
        rw [hkey, hat.2, hresource] at hother
        obtain ⟨hsource, hpath⟩ := resourceKey_inj hother
        exact hsame ⟨hsource.symm, hpath.symm⟩
      · exact h.grouped groupId key other

theorem Consistent.removeProjectedLocalPath (path : Text) :
    Consistent (index.removeProjectedLocalPath path) := by
  unfold ResourceIndex.removeProjectedLocalPath
  cases hget : index.localResourcesByPath.get? path with
  | none => exact h
  | some existing =>
    obtain ⟨hsource, hpath, -⟩ := h.keyed .ofLocal path existing hget
    refine h.hides existing ?_ ?_ rfl
    · rw [hsource, hpath]
      exact hget
    · intro source _
      cases source with
      | ofLocal =>
        rw [hsource, hpath]
        simp [resources, get?_delete]
      | ofRemote =>
        rw [hsource]
        simp [resources]

theorem Consistent.removeRemotePath (path : Text) : Consistent (index.removeRemotePath path) := by
  unfold ResourceIndex.removeRemotePath
  cases hget : index.remoteResourcesByPath.get? path with
  | none => exact h
  | some existing =>
    obtain ⟨hsource, hpath, -⟩ := h.keyed .ofRemote path existing hget
    refine h.hides existing ?_ ?_ rfl
    · rw [hsource, hpath]
      exact hget
    · intro source _
      cases source with
      | ofLocal =>
        rw [hsource]
        simp [resources]
      | ofRemote =>
        rw [hsource, hpath]
        simp [resources, get?_delete]

theorem Consistent.upsertProjectedLocalEntry (repositoryId : Text)
    (classification : ScmResourceClassification)
    (hnone : index.localResourcesByPath.get? entry.path = none) :
    Consistent (upsertProjectedLocalEntry repositoryId index entry classification) := by
  refine h.shows (projectedResource repositoryId .ofLocal entry classification) rfl hnone ?_ rfl
  intro source path
  cases source with
  | ofLocal => simp [resources, ResourceIndex.upsertProjectedLocalEntry, get?_set,
      projectedResource]
  | ofRemote => simp [resources, ResourceIndex.upsertProjectedLocalEntry, projectedResource]

theorem Consistent.upsertRemoteEntry (repositoryId : Text)
    (hnone : index.remoteResourcesByPath.get? entry.path = none) :
    Consistent (upsertRemoteEntry repositoryId index entry) := by
  unfold ResourceIndex.upsertRemoteEntry
  cases classifyRemoteStatusEntry entry with
  | none => exact h
  | some classification =>
    refine h.shows (projectedResource repositoryId .ofRemote entry classification) rfl hnone ?_ rfl
    intro source path
    cases source with
    | ofLocal => simp [resources, projectedResource]
    | ofRemote => simp [resources, get?_set, projectedResource]

end

end ResourceIndex

end SubversionR

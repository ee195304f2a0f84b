import SubversionR.Projection.Index

/-!
# Shows — which entries the Source Control view shows

The local resources of a `ResourceIndex` follow from its entries and the owners of its artifacts,
the remote ones from the remote entries.

* `shownAt` — what `projectLocalPath` stores for a path;
* `Shows m r index` — the index shows the local entries of `m` and the remote entries of `r`;
* `Shows.applyDelta` — a delta patches what is shown, whatever was shown before;
* `shows_ofSnapshot` — a snapshot shows its entries.
-/

namespace SubversionR

open OrderedMaps OrderedMap KeyedMaps
open RepositoryState (entriesByPath)

namespace ResourceIndex

variable (runtime : TextRuntime) (id : Text)

/-! ## What a path shows -/

/-- The resource that `projectLocalPath` stores. -/
def shownAt (index : ResourceIndex) (path : Text) : Option ScmProjectedResource :=
  match index.ownerEntry runtime path with
  | some owner =>
    some (projectedResource id .ofLocal (artifactEntry owner path) artifactClassification)
  | none =>
    (index.localEntriesByPath.get? path).bind fun entry =>
      (classifyLocalStatusEntry runtime entry).map (projectedResource id .ofLocal entry)

theorem ownerPath_eq (index : ResourceIndex) (path : Text) :
    index.ownerPath runtime path =
      ((sortBy runtime.localeCompareEnUs (index.owners path)).head?).filter
        fun owner => !owner.isEmpty := by
  unfold ownerPath owners
  cases index.conflictArtifactOwnersByPath.get? path with
  | none => rfl
  | some owners => rfl

variable {index : ResourceIndex} {path : Text}

theorem mem_owners_of_ownerPath {owner : Text} (h : index.ownerPath runtime path = some owner) :
    owner ∈ index.owners path := by
  rw [ownerPath_eq] at h
  have hhead := List.mem_of_mem_head? (Option.filter_eq_some_iff.mp h).1
  exact mem_sortBy.mp hhead

variable {runtime id}

variable {index' : ResourceIndex}

/-- What is the same about a path decides what it shows. -/
theorem SameAt.shownAt_eq (h : SameAt index index' path) :
    shownAt runtime id index' path = shownAt runtime id index path := by
  have howner : index'.ownerPath runtime path = index.ownerPath runtime path := by
    rw [ownerPath_eq, ownerPath_eq, h.owners]
  have hentry : index'.ownerEntry runtime path = index.ownerEntry runtime path := by
    unfold ownerEntry
    rw [howner]
    cases hpath : index.ownerPath runtime path with
    | none => rfl
    | some owner => exact h.ownerEntries owner (mem_owners_of_ownerPath runtime hpath)
  unfold shownAt
  rw [hentry, h.entry]

/-! ## Projecting paths -/

/-- The index with other resources. -/
structure SameEntries (index index' : ResourceIndex) : Prop where
  entries : index'.localEntriesByPath = index.localEntriesByPath
  paths : index'.conflictArtifactPathsByOwner = index.conflictArtifactPathsByOwner
  owners : index'.conflictArtifactOwnersByPath = index.conflictArtifactOwnersByPath

variable {m : EntryMap}

theorem SameEntries.holds (h : SameEntries index index') (hholds : Holds m index) :
    Holds m index' where
  paths owner := by rw [h.paths, hholds.paths]
  nodup path := by
    unfold ResourceIndex.owners
    rw [h.owners]
    exact hholds.nodup path
  mem_owners path owner := by
    rw [← hholds.mem_owners]
    unfold ResourceIndex.owners
    rw [h.owners]
  entries path := by rw [h.entries, hholds.entries]

theorem SameEntries.shownAt_eq (h : SameEntries index index') (path : Text) :
    shownAt runtime id index' path = shownAt runtime id index path := by
  refine SameAt.shownAt_eq ⟨?_, by rw [h.entries], fun _ _ => by rw [h.entries]⟩
  unfold ResourceIndex.owners
  rw [h.owners]

theorem SameEntries.trans {index'' : ResourceIndex} (h : SameEntries index index')
    (h' : SameEntries index' index'') : SameEntries index index'' :=
  ⟨h'.entries.trans h.entries, h'.paths.trans h.paths, h'.owners.trans h.owners⟩

/-- What projecting one path does, and what it does not touch. -/
structure Projects (index index' : ResourceIndex) (shown : Text → Option ScmProjectedResource) :
    Prop where
  same : SameEntries index index'
  consistent : Consistent index'
  shown : ∀ path, index'.localResourcesByPath.get? path = shown path
  remote : index'.remoteResourcesByPath = index.remoteResourcesByPath

theorem projects_projectLocalPath (hholds : Holds m index) (hconsistent : Consistent index)
    (hnone : index.localResourcesByPath.get? path = none) :
    Projects index (projectLocalPath runtime id index path) fun other =>
      if other = path then shownAt runtime id index path
      else index.localResourcesByPath.get? other := by
  have hunchanged : shownAt runtime id index path = none →
      Projects index index fun other => if other = path then shownAt runtime id index path
        else index.localResourcesByPath.get? other := by
    intro hshown
    refine ⟨⟨rfl, rfl, rfl⟩, hconsistent, fun other => ?_, rfl⟩
    rw [hshown]
    split
    · rename_i heq
      rw [heq, hnone]
    · rfl
  -- storing a resource for an entry of this path
  have hstored : ∀ (entry : StatusEntry) classification, entry.path = path →
      shownAt runtime id index path =
        some (projectedResource id .ofLocal entry classification) →
      Projects index (upsertProjectedLocalEntry id index entry classification)
        fun other => if other = path then shownAt runtime id index path
          else index.localResourcesByPath.get? other := by
    intro entry classification hpath hshown
    refine ⟨⟨rfl, rfl, rfl⟩, ?_, fun other => ?_, rfl⟩
    · refine hconsistent.upsertProjectedLocalEntry id classification ?_
      rw [hpath]
      exact hnone
    · show (index.localResourcesByPath.set entry.path _).get? other = _
      rw [get?_set, hpath, hshown]
  unfold projectLocalPath
  cases howner : index.ownerEntry runtime path with
  | some owner =>
    refine hstored (artifactEntry owner path) artifactClassification rfl ?_
    unfold shownAt
    rw [howner]
  | none =>
    have hshownAt : shownAt runtime id index path =
        (index.localEntriesByPath.get? path).bind fun entry =>
          (classifyLocalStatusEntry runtime entry).map
            (projectedResource id .ofLocal entry) := by
      unfold shownAt
      rw [howner]
    cases hentry : index.localEntriesByPath.get? path with
    | none =>
      refine hunchanged ?_
      rw [hshownAt, hentry]
      rfl
    | some entry =>
      have hpath : entry.path = path := by
        rw [hholds.entries] at hentry
        exact KeyedMap.key_of_get? hentry
      rw [hentry, Option.bind_some] at hshownAt
      dsimp only
      cases hclass : classifyLocalStatusEntry runtime entry with
      | none =>
        refine hunchanged ?_
        rw [hshownAt, hclass]
        rfl
      | some classification =>
        refine hstored entry classification hpath ?_
        rw [hshownAt, hclass]
        rfl

/-- Projecting several paths, each once, where nothing was shown. -/
theorem projects_foldl_projectLocalPath {paths : List Text} (hnodup : paths.Nodup)
    (hholds : Holds m index) (hconsistent : Consistent index)
    (hnone : ∀ path ∈ paths, index.localResourcesByPath.get? path = none) :
    Projects index (paths.foldl (projectLocalPath runtime id) index) fun other =>
      if other ∈ paths then shownAt runtime id index other
      else index.localResourcesByPath.get? other := by
  induction paths generalizing index with
  | nil => exact ⟨⟨rfl, rfl, rfl⟩, hconsistent, by simp, rfl⟩
  | cons path rest ih =>
    obtain ⟨hnot, hrest⟩ := List.nodup_cons.mp hnodup
    have hstep : Projects index (projectLocalPath runtime id index path) _ :=
      projects_projectLocalPath hholds hconsistent (hnone path List.mem_cons_self)
    have hnone' : ∀ other ∈ rest,
        (projectLocalPath runtime id index path).localResourcesByPath.get? other =
          none := by
      intro other hmem
      have hne : other ≠ path := fun heq => hnot (heq ▸ hmem)
      rw [hstep.shown, if_neg hne]
      exact hnone other (List.mem_cons_of_mem _ hmem)
    have htail := ih hrest (hstep.same.holds hholds) hstep.consistent hnone'
    refine ⟨hstep.same.trans htail.same, htail.consistent, fun other => ?_,
      htail.remote.trans hstep.remote⟩
    rw [List.foldl_cons, htail.shown, hstep.same.shownAt_eq, hstep.shown]
    by_cases heq : other = path
    · simp [heq, hnot]
    · simp [heq]

theorem projects_removeProjectedLocalPath (hconsistent : Consistent index) (path : Text) :
    Projects index (index.removeProjectedLocalPath path) fun other =>
      if other = path then none else index.localResourcesByPath.get? other := by
  have hnext := hconsistent.removeProjectedLocalPath path
  unfold removeProjectedLocalPath at hnext ⊢
  cases hget : index.localResourcesByPath.get? path with
  | none =>
    refine ⟨⟨rfl, rfl, rfl⟩, hconsistent, fun other => ?_, rfl⟩
    by_cases heq : other = path
    · rw [if_pos heq, heq]
      exact hget
    · rw [if_neg heq]
  | some existing =>
    rw [hget] at hnext
    exact ⟨⟨rfl, rfl, rfl⟩, hnext, fun other => get?_delete _ _ _, rfl⟩

theorem projects_foldl_removeProjectedLocalPath (paths : List Text)
    (hconsistent : Consistent index) :
    Projects index (paths.foldl removeProjectedLocalPath index) fun other =>
      if other ∈ paths then none else index.localResourcesByPath.get? other := by
  induction paths generalizing index with
  | nil => exact ⟨⟨rfl, rfl, rfl⟩, hconsistent, by simp, rfl⟩
  | cons path rest ih =>
    have hstep := projects_removeProjectedLocalPath hconsistent path
    have htail := ih hstep.consistent
    refine ⟨hstep.same.trans htail.same, htail.consistent, fun other => ?_,
      htail.remote.trans hstep.remote⟩
    rw [List.foldl_cons, htail.shown, hstep.shown]
    by_cases heq : other = path
    · simp [heq]
    · simp [heq]

/-! ## Remote entries -/

/-- What a remote entry shows. -/
def remoteShown (id : Text) (entry : StatusEntry) : Option ScmProjectedResource :=
  (classifyRemoteStatusEntry entry).map (projectedResource id .ofRemote entry)

/-- The index shows the remote entries of `r`; the local side is that of `index`. -/
structure ShowsRemote (id : Text) (index : ResourceIndex) (r : EntryMap)
    (index' : ResourceIndex) : Prop where
  same : SameEntries index index'
  localResources : index'.localResourcesByPath = index.localResourcesByPath
  consistent : Consistent index'
  remote : ∀ path, index'.remoteResourcesByPath.get? path =
    (r.get? path).bind (remoteShown id)

variable {r : EntryMap}

section

variable (h : ShowsRemote id index r index')

include h

theorem ShowsRemote.removeRemotePath (path : Text) :
    ShowsRemote id index (r.erase path) (index'.removeRemotePath path) := by
  have hnext := h.consistent.removeRemotePath path
  unfold ResourceIndex.removeRemotePath at hnext ⊢
  cases hget : index'.remoteResourcesByPath.get? path with
  | none =>
    refine ⟨h.same, h.localResources, h.consistent, fun other => ?_⟩
    rw [KeyedMap.get?_erase]
    by_cases heq : path = other
    · rw [if_pos heq, ← heq]
      exact hget
    · rw [if_neg heq]
      exact h.remote other
  | some existing =>
    rw [hget] at hnext
    refine ⟨⟨h.same.entries, h.same.paths, h.same.owners⟩, h.localResources, hnext, fun other => ?_⟩
    show (index'.remoteResourcesByPath.delete path).get? other = _
    rw [get?_delete, KeyedMap.get?_erase]
    by_cases heq : other = path
    · simp [heq]
    · rw [if_neg heq, if_neg (Ne.symm heq)]
      exact h.remote other

theorem ShowsRemote.upsertRemoteEntry {entry : StatusEntry} (hnew : r.get? entry.path = none) :
    ShowsRemote id index (r.insert entry)
      (upsertRemoteEntry id index' entry) := by
  have hnone : index'.remoteResourcesByPath.get? entry.path = none := by
    rw [h.remote, hnew]
    rfl
  have hnext := h.consistent.upsertRemoteEntry id hnone
  unfold ResourceIndex.upsertRemoteEntry at hnext ⊢
  cases hclass : classifyRemoteStatusEntry entry with
  | none =>
    refine ⟨h.same, h.localResources, h.consistent, fun other => ?_⟩
    rw [KeyedMap.get?_insert]
    by_cases heq : entry.path = other
    · rw [if_pos heq, ← heq, Option.bind_some, remoteShown, hclass]
      exact hnone
    · rw [if_neg heq]
      exact h.remote other
  | some classification =>
    rw [hclass] at hnext
    refine ⟨⟨h.same.entries, h.same.paths, h.same.owners⟩, h.localResources, hnext, fun other => ?_⟩
    show (index'.remoteResourcesByPath.set entry.path _).get? other = _
    rw [get?_set, KeyedMap.get?_insert]
    by_cases heq : other = entry.path
    · rw [if_pos heq, if_pos heq.symm, Option.bind_some, remoteShown, hclass]
      rfl
    · rw [if_neg heq, if_neg (Ne.symm heq)]
      exact h.remote other

/-- The remote entries of a delta. -/
theorem ShowsRemote.applyRemoteEntries (remove : List Text) (upsert : List StatusEntry) :
    ShowsRemote id index (r.patch remove upsert)
      (upsert.foldl (fun index entry =>
        ResourceIndex.upsertRemoteEntry id (index.removeRemotePath entry.path) entry)
        (remove.foldl ResourceIndex.removeRemotePath index')) := by
  have hremove : ∀ {r index'}, ShowsRemote id index r index' →
      ShowsRemote id index (r.eraseAll remove)
        (remove.foldl ResourceIndex.removeRemotePath index') := by
    induction remove with
    | nil => exact fun h => h
    | cons path rest ih => exact fun hshows => ih (hshows.removeRemotePath path)
  have hupsert : ∀ {r index'}, ShowsRemote id index r index' →
      ShowsRemote id index (r.insertAll upsert)
        (upsert.foldl (fun index entry =>
          ResourceIndex.upsertRemoteEntry id (index.removeRemotePath entry.path) entry)
          index') := by
    induction upsert with
    | nil => exact fun h => h
    | cons entry rest ih =>
      intro r index' hshows
      refine ih ?_
      have hnew : (r.erase entry.path).get? entry.path = none := by
        rw [KeyedMap.get?_erase, if_pos rfl]
      rw [← KeyedMap.erase_insert]
      exact (hshows.removeRemotePath entry.path).upsertRemoteEntry hnew
  exact hupsert (hremove h)

end

/-! ## The whole index -/

variable (runtime id)

/-- The index shows the local entries of `m` and the remote entries of `r`. -/
structure Shows (m r : EntryMap) (index : ResourceIndex) : Prop where
  holds : Holds m index
  consistent : Consistent index
  shown : ∀ path, index.localResourcesByPath.get? path = shownAt runtime id index path
  remote : ∀ path, index.remoteResourcesByPath.get? path =
    (r.get? path).bind (remoteShown id)

variable {runtime id}

/-- **A delta patches what is shown.** -/
theorem Shows.applyDelta (h : Shows runtime id m r index) (delta : StatusDelta) :
    Shows runtime id (m.patch delta.remove delta.upsert)
      (r.patch delta.remoteRemove delta.remoteUpsert)
      (index.applyDelta runtime id delta) := by
  have hupdates := h.holds.applyLocalEntries delta.remove delta.upsert
  unfold ResourceIndex.applyDelta
  rcases hwork : index.applyLocalEntries delta.remove delta.upsert with ⟨updated, affected⟩
  rw [hwork] at hupdates
  -- the affected paths are cleared, then projected from the new entries
  have hcleared : Projects updated (affected.foldl removeProjectedLocalPath updated) _ :=
    projects_foldl_removeProjectedLocalPath affected (h.consistent.congr hupdates.localResources
      hupdates.remoteResources hupdates.groups)
  have hprojected : Projects _ (affected.foldl (projectLocalPath runtime id)
      (affected.foldl removeProjectedLocalPath updated)) _ :=
    projects_foldl_projectLocalPath hupdates.nodup (hcleared.same.holds hupdates.holds)
      hcleared.consistent fun path hmem => by rw [hcleared.shown, if_pos hmem]
  have hsame := hcleared.same.trans hprojected.same
  have hunchanged : ShowsRemote id _ r (affected.foldl
      (projectLocalPath runtime id)
        (affected.foldl removeProjectedLocalPath updated)) :=
    ⟨⟨rfl, rfl, rfl⟩, rfl, hprojected.consistent, fun path => by
      rw [hprojected.remote, hcleared.remote, hupdates.remoteResources, h.remote]⟩
  have hremote := hunchanged.applyRemoteEntries delta.remoteRemove delta.remoteUpsert
  refine ⟨(hsame.trans hremote.same).holds hupdates.holds, hremote.consistent, fun path => ?_,
    hremote.remote⟩
  rw [(hsame.trans hremote.same).shownAt_eq]
  show get? (ResourceIndex.localResourcesByPath _) path = _
  rw [hremote.localResources, hprojected.shown]
  by_cases hmem : path ∈ affected
  · rw [if_pos hmem, hcleared.same.shownAt_eq]
  · -- a path that is not affected shows what it showed before
    rw [if_neg hmem, hcleared.shown, if_neg hmem, hupdates.localResources, h.shown,
      (hupdates.same path hmem).shownAt_eq]

/-- The entries of a snapshot by path. -/
theorem get?_foldl_set_entries (entries : List StatusEntry) (path : Text) :
    ((entries.foldl (fun (m : OrderedMap Text StatusEntry) entry => m.set entry.path entry)
      .empty).get? path) = (entriesByPath entries).get? path := by
  have hfold : ∀ (m : OrderedMap Text StatusEntry) (m' : EntryMap),
      (∀ path, m.get? path = m'.get? path) →
      ∀ path, (entries.foldl (fun m entry => m.set entry.path entry) m).get? path =
        (m'.insertAll entries).get? path := by
    induction entries with
    | nil => exact fun _ _ h => h
    | cons entry rest ih =>
      intro m m' h
      refine ih (m.set entry.path entry) (m'.insert entry) fun other => ?_
      rw [get?_set, KeyedMap.get?_insert, h]
      simp only [eq_comm]
  exact hfold .empty .empty (fun _ => (KeyedMap.get?_empty _).symm) path

/-- Recording the artifacts of entries with different paths. -/
theorem Owned.foldl_addConflictArtifactOwner (h : Owned m index) {entries : List StatusEntry}
    (hnodup : (entries.map StatusEntry.path).Nodup)
    (hnew : ∀ entry ∈ entries, m.get? entry.path = none) :
    Owned (m.insertAll entries) (entries.foldl ResourceIndex.addConflictArtifactOwner index) := by
  induction entries generalizing m index with
  | nil => exact h
  | cons entry rest ih =>
    obtain ⟨hnot, hrest⟩ := List.nodup_cons.mp hnodup
    refine ih (h.addConflictArtifactOwner (hnew entry List.mem_cons_self)) hrest ?_
    intro other hother
    have hne : entry.path ≠ other.path := fun heq => hnot (heq ▸ List.mem_map_of_mem hother)
    rw [KeyedMap.get?_insert, if_neg hne]
    exact hnew other (List.mem_cons_of_mem _ hother)

theorem foldl_addConflictArtifactOwner_eq (entries : List StatusEntry) (index : ResourceIndex) :
    (entries.foldl addConflictArtifactOwner index).localEntriesByPath = index.localEntriesByPath ∧
      (entries.foldl addConflictArtifactOwner index).localResourcesByPath =
        index.localResourcesByPath ∧
      (entries.foldl addConflictArtifactOwner index).remoteResourcesByPath =
        index.remoteResourcesByPath ∧
      (entries.foldl addConflictArtifactOwner index).groups = index.groups := by
  induction entries generalizing index with
  | nil => exact ⟨rfl, rfl, rfl, rfl⟩
  | cons entry rest ih =>
    obtain ⟨hentries, hlocal, hremote, hgroups⟩ := ih (index.addConflictArtifactOwner entry)
    obtain ⟨hlocal', hremote', hgroups'⟩ := shown_addConflictArtifactOwner index entry
    exact ⟨hentries.trans (localEntriesByPath_addConflictArtifactOwner index entry),
      hlocal.trans hlocal', hremote.trans hremote', hgroups.trans hgroups'⟩

/-- The stored entries, listed, are the entries again. -/
theorem ofList_values {entries : OrderedMap Text StatusEntry}
    (h : ∀ path, entries.get? path = m.get? path) :
    (entries.values.map StatusEntry.path).Nodup ∧ KeyedMap.ofList entries.values = m := by
  have hkeys : entries.values.map StatusEntry.path = entries.keys := by
    unfold values keys
    rw [List.map_map]
    refine List.map_congr_left fun item hitem => ?_
    have hget : m.get? item.1 = some item.2 := by
      rw [← h]
      exact get?_eq_some_iff.mpr hitem
    show item.2.path = item.1
    exact KeyedMap.key_of_get? hget
  have hnodup : (entries.values.map StatusEntry.path).Nodup := hkeys ▸ entries.nodup
  refine ⟨hnodup, KeyedMap.ext fun path => Option.ext fun entry => ?_⟩
  rw [KeyedMap.get?_ofList_eq_some hnodup, mem_values_iff]
  constructor
  · rintro ⟨⟨_, hget⟩, rfl⟩
    rw [h] at hget
    rw [KeyedMap.key_of_get? hget]
    exact hget
  · intro hget
    exact ⟨⟨path, (h path).trans hget⟩, KeyedMap.key_of_get? hget⟩

/-- Nothing is shown of no entries. -/
theorem consistent_empty : Consistent ResourceIndex.empty := by
  have hgroups : ∀ groupId key, inGroup emptyGroupMaps groupId key = none := by
    intro groupId key
    unfold inGroup emptyGroupMaps ScmResourceGroupId.fixed
    simp only [List.foldl_cons, List.foldl_nil, get?_set]
    split_ifs <;> rfl
  refine ⟨fun source path resource hget => ?_, fun groupId key resource => ?_⟩
  · cases source <;> cases hget
  · refine iff_of_false ?_ ?_
    · show inGroup emptyGroupMaps groupId key ≠ some resource
      rw [hgroups]
      simp
    · rintro ⟨-, -, hget⟩
      cases hsource : resource.source <;> rw [hsource] at hget <;> cases hget

/-- The remote entries of a snapshot. -/
theorem ShowsRemote.foldl_upsertRemoteEntry {entries : List StatusEntry}
    (hnodup : (entries.map StatusEntry.path).Nodup) (h : ShowsRemote id index r index')
    (hnew : ∀ entry ∈ entries, r.get? entry.path = none) :
    ShowsRemote id index (r.insertAll entries)
      (entries.foldl (ResourceIndex.upsertRemoteEntry id) index') := by
  induction entries generalizing r index' with
  | nil => exact h
  | cons entry rest ih =>
    obtain ⟨hnot, hrest⟩ := List.nodup_cons.mp hnodup
    refine ih hrest (h.upsertRemoteEntry (hnew entry List.mem_cons_self)) ?_
    intro other hother
    have hne : entry.path ≠ other.path := fun heq => hnot (heq ▸ List.mem_map_of_mem hother)
    rw [KeyedMap.get?_insert, if_neg hne]
    exact hnew other (List.mem_cons_of_mem _ hother)

/-- **A snapshot shows its entries.** -/
theorem shows_ofSnapshot (localEntries : List StatusEntry) {remoteEntries : List StatusEntry}
    (hremote : (remoteEntries.map StatusEntry.path).Nodup) :
    Shows runtime id (entriesByPath localEntries) (entriesByPath remoteEntries)
      (ofSnapshot runtime id localEntries remoteEntries) := by
  unfold ofSnapshot
  generalize hentries : localEntries.foldl
    (fun (m : OrderedMap Text StatusEntry) entry => m.set entry.path entry) .empty = entries
  have hget : ∀ path, entries.get? path = (entriesByPath localEntries).get? path := by
    intro path
    rw [← hentries]
    exact get?_foldl_set_entries localEntries path
  obtain ⟨hnodup, hlist⟩ := ofList_values hget
  dsimp only
  generalize howned : entries.values.foldl addConflictArtifactOwner
    { ResourceIndex.empty with localEntriesByPath := entries } = owned
  obtain ⟨hsame, hlocal, hremoteEq, hgroups⟩ :=
    foldl_addConflictArtifactOwner_eq entries.values
      { ResourceIndex.empty with localEntriesByPath := entries }
  rw [howned] at hsame hlocal hremoteEq hgroups
  have hholds : Holds (entriesByPath localEntries) owned := by
    refine ⟨?_, fun path => by rw [hsame]; exact hget path⟩
    have hstart : Owned .empty { ResourceIndex.empty with localEntriesByPath := entries } :=
      owned_empty rfl rfl
    rw [← howned, ← hlist]
    exact hstart.foldl_addConflictArtifactOwner hnodup fun _ _ => KeyedMap.get?_empty _
  have hconsistent : Consistent owned := consistent_empty.congr hlocal hremoteEq hgroups
  have hnone : ∀ path, owned.localResourcesByPath.get? path = none := by
    intro path
    rw [hlocal]
    rfl
  generalize hpaths : keySet (owned.localEntriesByPath.keys ++
    owned.conflictArtifactOwnersByPath.keys) = localPaths
  have hprojected : Projects owned (localPaths.foldl (projectLocalPath runtime id)
    owned) _ :=
    projects_foldl_projectLocalPath (hpaths ▸ nodup_keySet _) hholds hconsistent
      fun path _ => hnone path
  have hnoRemote : ShowsRemote id _ .empty
      (localPaths.foldl (projectLocalPath runtime id) owned) :=
    ⟨⟨rfl, rfl, rfl⟩, rfl, hprojected.consistent, fun path => by
      rw [hprojected.remote, hremoteEq, KeyedMap.get?_empty]
      rfl⟩
  have hshows := hnoRemote.foldl_upsertRemoteEntry hremote fun _ _ => KeyedMap.get?_empty _
  have hsameAll := hprojected.same.trans hshows.same
  refine ⟨hsameAll.holds hholds, hshows.consistent, fun path => ?_, hshows.remote⟩
  rw [hshows.localResources, hprojected.shown, hsameAll.shownAt_eq]
  split
  · rfl
  rename_i hnot
  -- a path without entry and owners shows nothing
  rw [← hpaths, mem_keySet, List.mem_append, not_or] at hnot
  have hentry : owned.localEntriesByPath.get? path = none := get?_eq_none_iff.mpr hnot.1
  have howners : owned.conflictArtifactOwnersByPath.get? path = none :=
    get?_eq_none_iff.mpr hnot.2
  rw [hnone]
  unfold shownAt ownerEntry ownerPath
  rw [howners, hentry]
  rfl

end ResourceIndex

end SubversionR

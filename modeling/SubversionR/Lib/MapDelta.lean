import SubversionR.Lib.KeyedMap

/-!
# Deltas between keyed maps

One side holds a map, changes it from `before` to `after` and publishes the difference: the
values of `after` that `before` does not hold (`changed`) and the keys of `before` that `after`
does not hold (`removed`).  The other side patches its own copy: it forgets the removed keys and
stores the changed values (`patch`).

* `get?_patch_diff` — the lookup after a patch: the patch rewrites exactly the keys at which
  `before` and `after` differ;
* `patch_diff_self` — a copy that equals `before` becomes `after`;
* `patch_diff_eq_iff` — an arbitrary copy becomes `after` exactly when it agrees with `after`
  wherever `before` does;
* `Covered` — what a copy that missed differences can still rely on (`Covered.patch_eq`).
-/

namespace KeyedMaps

namespace KeyedMap

variable {κ β : Type} [Ord κ] [Std.TransOrd κ] [Std.LawfulEqOrd κ] [DecidableEq β] {key : β → κ}

/-- The values of `after` that `before` does not hold. -/
def changed (before after : KeyedMap key) : List β :=
  after.values.filter fun b => decide (before.get? (key b) ≠ some b)

/-- The keys of `before` that `after` does not hold. -/
def removed (before after : KeyedMap key) : List κ := before.keys.filter fun k => !after.contains k

/-- Forget some keys, then store some values. -/
def patch (m : KeyedMap key) (remove : List κ) (upsert : List β) : KeyedMap key :=
  (m.eraseAll remove).insertAll upsert

/-! ## What a difference lists -/

variable {before after : KeyedMap key}

theorem mem_changed_iff {b : β} :
    b ∈ changed before after ↔
      after.get? (key b) = some b ∧ before.get? (key b) ≠ some b := by
  simp [changed, mem_values_iff]

omit [DecidableEq β] in
theorem mem_removed_iff {k : κ} :
    k ∈ removed before after ↔ before.contains k = true ∧ after.get? k = none := by
  simp [removed, mem_keys_iff, contains_eq_false_iff]

theorem nodup_changed_map_key (before after : KeyedMap key) :
    ((changed before after).map key).Nodup :=
  (nodup_values_map_key after).sublist (List.Sublist.map _ List.filter_sublist)

omit [DecidableEq β] in
theorem nodup_removed (before after : KeyedMap key) : (removed before after).Nodup :=
  (nodup_keys before).filter _

/-- A key is never both changed and removed. -/
theorem key_notMem_removed {b : β} (h : b ∈ changed before after) :
    key b ∉ removed before after := by
  rw [mem_changed_iff] at h
  rw [mem_removed_iff, h.1]
  simp

theorem mem_changed_map_key_iff {k : κ} :
    k ∈ (changed before after).map key ↔
      ∃ b, after.get? k = some b ∧ before.get? k ≠ some b := by
  rw [List.mem_map]
  constructor
  · rintro ⟨b, hb, rfl⟩
    exact ⟨b, mem_changed_iff.mp hb⟩
  · rintro ⟨b, hafter, hbefore⟩
    have hkey := key_of_get? hafter
    subst hkey
    exact ⟨b, mem_changed_iff.mpr ⟨hafter, hbefore⟩, rfl⟩

/-! ## What a difference does to a copy -/

variable [DecidableEq κ]

/-- **What a published difference does to any copy**: it rewrites exactly the keys at which the
two maps differ. -/
theorem get?_patch_diff (c before after : KeyedMap key) (k : κ) :
    (c.patch (removed before after) (changed before after)).get? k =
      if before.get? k = after.get? k then c.get? k else after.get? k := by
  unfold patch
  by_cases hmem : k ∈ (changed before after).map key
  · -- a changed key is stored last, so its new value is found
    obtain ⟨b, hb, hkey⟩ := List.mem_map.mp hmem
    subst hkey
    rw [get?_insertAll_of_mem (nodup_changed_map_key before after) hb]
    obtain ⟨hafter, hbefore⟩ := mem_changed_iff.mp hb
    rw [hafter, if_neg hbefore]
  · rw [get?_insertAll_of_notMem hmem, get?_eraseAll]
    rw [mem_changed_map_key_iff] at hmem
    cases hafter : after.get? k with
    | some b =>
      have hbefore : before.get? k = some b := by
        by_contra hne
        exact hmem ⟨b, hafter, hne⟩
      have hnot : k ∉ removed before after := by
        rw [mem_removed_iff, hafter]
        simp
      rw [if_neg hnot, hbefore, if_pos rfl]
    | none =>
      cases hbefore : before.get? k with
      | none =>
        have hnot : k ∉ removed before after := by
          rw [mem_removed_iff, contains, hbefore]
          simp
        rw [if_neg hnot, if_pos rfl]
      | some b =>
        have hmem' : k ∈ removed before after := by
          rw [mem_removed_iff, contains, hbefore]
          exact ⟨rfl, hafter⟩
        rw [if_pos hmem', if_neg (by simp)]

/-- A copy that held `before` holds `after` once patched. -/
theorem patch_diff_self (before after : KeyedMap key) :
    before.patch (removed before after) (changed before after) = after := by
  ext1 k
  rw [get?_patch_diff]
  split
  · assumption
  · rfl

/-- **When a difference repairs a drifted copy**: the copy must already agree with `after`
wherever `before` does, since the difference says nothing about those keys. -/
theorem patch_diff_eq_iff (c before after : KeyedMap key) :
    c.patch (removed before after) (changed before after) = after ↔
      ∀ k, before.get? k = after.get? k → c.get? k = after.get? k := by
  constructor
  · intro heq k hk
    have hget := get?_patch_diff c before after k
    rw [heq, if_pos hk] at hget
    exact hget.symm
  · intro h
    ext1 k
    rw [get?_patch_diff]
    split
    · exact h k ‹_›
    · rfl

/-! ## Copies that missed a difference

A copy that missed differences is not `before`, but it may still be *covered* by it: it holds no key
that `before` does not.  A difference in which every value is changed then repairs it. -/

omit [DecidableEq β] in
/-- Every key of the copy is a key of the map. -/
def Covered (c m : KeyedMap key) : Prop := ∀ k, c.contains k = true → m.contains k = true

omit [DecidableEq β] [DecidableEq κ] in
theorem Covered.refl (m : KeyedMap key) : Covered m m := fun _ h => h

variable {c : KeyedMap key}

theorem Covered.patch (h : Covered c before) (after : KeyedMap key) :
    Covered (c.patch (removed before after) (changed before after)) after := by
  intro k hk
  rw [contains, get?_patch_diff] at hk
  split at hk
  · rename_i heq
    have hbefore := h k hk
    rw [contains] at hbefore ⊢
    rwa [← heq]
  · exact hk

omit [DecidableEq β] [DecidableEq κ] in
/-- A copy may miss a difference that removes none of its keys. -/
theorem Covered.skip (h : Covered c before)
    (hremoved : ∀ k ∈ removed before after, c.contains k = false) : Covered c after := by
  intro k hk
  by_contra hafter
  have hnone : after.get? k = none := contains_eq_false_iff.mp (Bool.not_eq_true _ ▸ hafter)
  have hfalse := hremoved k (mem_removed_iff.mpr ⟨h k hk, hnone⟩)
  rw [hk] at hfalse
  cases hfalse

/-- **A difference in which every value is new repairs a covered copy.** -/
theorem Covered.patch_eq (h : Covered c before)
    (hnew : ∀ k b, after.get? k = some b → before.get? k ≠ some b) :
    c.patch (removed before after) (changed before after) = after := by
  rw [patch_diff_eq_iff]
  intro k heq
  cases hafter : after.get? k with
  | some b => exact absurd (heq.trans hafter) (hnew k b hafter)
  | none =>
    have hbefore : before.contains k = false := contains_eq_false_iff.mpr (heq.trans hafter)
    cases hc : c.get? k with
    | none => rfl
    | some b =>
      have hcontains := h k (contains_iff_exists.mpr ⟨b, hc⟩)
      rw [hbefore] at hcontains
      cases hcontains

end KeyedMap

end KeyedMaps

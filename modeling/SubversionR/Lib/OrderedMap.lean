import Mathlib

/-!
# Maps in insertion order

The `Map` of ECMAScript: a finite map that enumerates its items in the order in which their keys
were first inserted.  Storing a value under a key that is present keeps its place.  That no key
occurs twice is a field of the structure.
-/

namespace OrderedMaps

/-- A finite map, enumerated in insertion order. -/
structure OrderedMap (κ α : Type) where
  items : List (κ × α)
  nodup : (items.map Prod.fst).Nodup
deriving DecidableEq

namespace OrderedMap

variable {κ α : Type}

def empty : OrderedMap κ α := ⟨[], by simp⟩

instance : Inhabited (OrderedMap κ α) := ⟨empty⟩

/-- The stored values, in insertion order. -/
def values (m : OrderedMap κ α) : List α := m.items.map Prod.snd

def keys (m : OrderedMap κ α) : List κ := m.items.map Prod.fst

def size (m : OrderedMap κ α) : Nat := m.items.length

@[simp]
theorem values_empty : (empty : OrderedMap κ α).values = [] := rfl

variable [DecidableEq κ]

def get? (m : OrderedMap κ α) (k : κ) : Option α :=
  (m.items.find? fun item => decide (item.1 = k)).map Prod.snd

/-- Overwrite the value under `k` where it stands. -/
def overwrite (items : List (κ × α)) (k : κ) (a : α) : List (κ × α) :=
  items.map fun item => if item.1 = k then (k, a) else item

theorem map_fst_overwrite (items : List (κ × α)) (k : κ) (a : α) :
    (overwrite items k a).map Prod.fst = items.map Prod.fst := by
  unfold overwrite
  rw [List.map_map]
  refine List.map_congr_left ?_
  intro item _
  by_cases h : item.1 = k
  · simp [h]
  · simp [h]

def set (m : OrderedMap κ α) (k : κ) (a : α) : OrderedMap κ α where
  items := if k ∈ m.keys then overwrite m.items k a else m.items ++ [(k, a)]
  nodup := by
    by_cases h : k ∈ m.keys
    · rw [if_pos h, map_fst_overwrite]
      exact m.nodup
    · rw [if_neg h, List.map_append]
      refine m.nodup.append (by simp) ?_
      intro k' hk' hk
      have heq : k' = k := by simpa using hk
      exact h (heq ▸ hk')

def delete (m : OrderedMap κ α) (k : κ) : OrderedMap κ α where
  items := m.items.filter fun item => decide (item.1 ≠ k)
  nodup := m.nodup.sublist (List.filter_sublist.map _)

/-! ## What the operations store -/

variable {m : OrderedMap κ α} {k : κ} {a : α}

theorem get?_eq_some_iff : m.get? k = some a ↔ (k, a) ∈ m.items := by
  unfold get?
  rw [Option.map_eq_some_iff]
  constructor
  · rintro ⟨item, hfind, rfl⟩
    have hkey : item.1 = k := by simpa using List.find?_some hfind
    subst hkey
    exact List.mem_of_find?_eq_some hfind
  · intro hmem
    cases hfind : m.items.find? fun item => decide (item.1 = k) with
    | none => simpa using List.find?_eq_none.mp hfind (k, a) hmem
    | some item =>
      -- no key occurs twice, so the item that is found is the one given
      have hkey : item.1 = k := by simpa using List.find?_some hfind
      have heq : item = (k, a) :=
        List.inj_on_of_nodup_map m.nodup (List.mem_of_find?_eq_some hfind) hmem hkey
      exact ⟨item, rfl, by rw [heq]⟩

theorem get?_eq_none_iff : m.get? k = none ↔ k ∉ m.keys := by
  unfold get? keys
  rw [Option.map_eq_none_iff, List.find?_eq_none, List.mem_map]
  simp only [decide_eq_true_eq, not_exists, not_and]

/-- An item after `set` is the new one, or an old one under another key. -/
theorem mem_items_set {item : κ × α} :
    item ∈ (m.set k a).items ↔ item = (k, a) ∨ item.1 ≠ k ∧ item ∈ m.items := by
  unfold set
  by_cases hk : k ∈ m.keys
  · simp only [hk, if_true, overwrite, List.mem_map]
    constructor
    · rintro ⟨old, hold, rfl⟩
      by_cases hkey : old.1 = k
      · simp [hkey]
      · simp [hkey, hold]
    · rintro (rfl | ⟨hne, hmem⟩)
      · obtain ⟨old, hold, rfl⟩ := List.mem_map.mp hk
        exact ⟨old, hold, by simp⟩
      · exact ⟨item, hmem, by simp [hne]⟩
  · simp only [hk, if_false, List.mem_append, List.mem_singleton]
    constructor
    · rintro (hmem | hnew)
      · exact .inr ⟨fun hkey => hk (hkey ▸ List.mem_map_of_mem hmem), hmem⟩
      · exact .inl hnew
    · rintro (hnew | ⟨-, hmem⟩)
      · exact .inr hnew
      · exact .inl hmem

theorem mem_items_delete {item : κ × α} :
    item ∈ (m.delete k).items ↔ item.1 ≠ k ∧ item ∈ m.items := by
  unfold delete
  rw [List.mem_filter, decide_eq_true_eq, and_comm]

theorem get?_empty (k : κ) : (empty : OrderedMap κ α).get? k = none := rfl

theorem get?_set (m : OrderedMap κ α) (k : κ) (a : α) (k' : κ) :
    (m.set k a).get? k' = if k' = k then some a else m.get? k' := by
  split
  · rename_i heq
    rw [heq]
    exact get?_eq_some_iff.mpr (mem_items_set.mpr (.inl rfl))
  · rename_i hne
    refine Option.ext fun b => ?_
    rw [get?_eq_some_iff, get?_eq_some_iff, mem_items_set]
    simp [hne]

theorem get?_delete (m : OrderedMap κ α) (k k' : κ) :
    (m.delete k).get? k' = if k' = k then none else m.get? k' := by
  refine Option.ext fun b => ?_
  rw [get?_eq_some_iff, mem_items_delete]
  split
  · rename_i heq
    simp [heq]
  · rename_i hne
    rw [get?_eq_some_iff]
    simp [hne]

/-- Maps with the same lookups have the same items, in some order. -/
theorem perm_items_of_get? {m' : OrderedMap κ α} (h : ∀ k, m.get? k = m'.get? k) :
    m.items.Perm m'.items := by
  refine (List.perm_ext_iff_of_nodup m.nodup.of_map m'.nodup.of_map).mpr ?_
  rintro ⟨k, _⟩
  rw [← get?_eq_some_iff, ← get?_eq_some_iff, h k]

theorem mem_values_iff : a ∈ m.values ↔ ∃ k, m.get? k = some a := by
  unfold values
  rw [List.mem_map]
  constructor
  · rintro ⟨item, hitem, rfl⟩
    exact ⟨item.1, get?_eq_some_iff.mpr hitem⟩
  · rintro ⟨k, hget⟩
    exact ⟨(k, a), get?_eq_some_iff.mp hget, rfl⟩

/-- A new key goes to the end. -/
theorem values_set_of_notMem (h : k ∉ m.keys) (a : α) : (m.set k a).values = m.values ++ [a] := by
  unfold values set
  simp only [h, if_false, List.map_append, List.map_cons, List.map_nil]

theorem size_set_le (m : OrderedMap κ α) (k : κ) (a : α) : (m.set k a).size ≤ m.size + 1 := by
  unfold size set overwrite
  dsimp only
  split
  · rw [List.length_map]
    exact Nat.le_succ _
  · rw [List.length_append, List.length_singleton]

theorem values_delete_sublist (m : OrderedMap κ α) (k : κ) :
    ((m.delete k).values).Sublist m.values :=
  List.filter_sublist.map _

theorem mem_values_of_get? (h : m.get? k = some a) : a ∈ m.values := by
  obtain ⟨_, hfind, rfl⟩ := Option.map_eq_some_iff.mp h
  exact List.mem_map_of_mem (List.mem_of_find?_eq_some hfind)

/-- A value stored after `set` is the new one or was stored before. -/
theorem mem_values_set {b : α} (h : b ∈ (m.set k a).values) : b = a ∨ b ∈ m.values := by
  obtain ⟨_, hitem, rfl⟩ := List.mem_map.mp h
  unfold set at hitem
  by_cases hk : k ∈ m.keys
  · simp only [hk, if_true, overwrite] at hitem
    obtain ⟨old, hold, rfl⟩ := List.mem_map.mp hitem
    by_cases hkey : old.1 = k
    · left
      simp [hkey]
    · right
      simp only [hkey, if_false]
      exact List.mem_map_of_mem hold
  · simp only [hk, if_false] at hitem
    rcases List.mem_append.mp hitem with hold | hnew
    · right
      exact List.mem_map_of_mem hold
    · left
      rw [List.mem_singleton.mp hnew]

theorem mem_values_delete {b : α} (h : b ∈ (m.delete k).values) : b ∈ m.values := by
  obtain ⟨_, hitem, rfl⟩ := List.mem_map.mp h
  exact List.mem_map_of_mem (List.mem_of_mem_filter hitem)

/-- What a map holds after storing a list of values, each under a key of its own. -/
theorem mem_values_foldl_set {key : α → κ} {added : List α}
    (h : a ∈ (added.foldl (fun m b => m.set (key b) b) m).values) : a ∈ added ∨ a ∈ m.values := by
  induction added generalizing m with
  | nil => exact .inr h
  | cons b rest ih =>
    rcases ih h with hrest | hset
    · exact .inl (List.mem_cons_of_mem _ hrest)
    · rcases mem_values_set hset with rfl | hold
      · exact .inl List.mem_cons_self
      · exact .inr hold

/-- A value that shares its key with no other added one survives the insertions. -/
theorem mem_items_foldl_set {key : α → κ} {added : List α} {m : OrderedMap κ α} {a : α}
    (huniq : ∀ b ∈ added, key b = key a → b = a) (h : a ∈ added ∨ (key a, a) ∈ m.items) :
    (key a, a) ∈ (added.foldl (fun m b => m.set (key b) b) m).items := by
  induction added generalizing m with
  | nil => exact h.resolve_left (by simp)
  | cons b rest ih =>
    refine ih (fun c hc => huniq c (List.mem_cons_of_mem _ hc)) ?_
    by_cases hkey : key b = key a
    · right
      rw [huniq b List.mem_cons_self hkey]
      exact mem_items_set.mpr (.inl rfl)
    · rcases h with hmem | hold
      · rcases List.mem_cons.mp hmem with rfl | hrest
        · exact absurd rfl hkey
        · exact .inl hrest
      · exact .inr (mem_items_set.mpr (.inr ⟨fun heq => hkey heq.symm, hold⟩))

/-- What is left after the keys of some values were deleted. -/
theorem mem_items_foldl_delete {β : Type} {key : β → κ} {p : β → Prop} [DecidablePred p]
    {deleted : List β} {m : OrderedMap κ α} {item : κ × α} :
    item ∈ (deleted.foldl (fun m b => if p b then m.delete (key b) else m) m).items ↔
      item ∈ m.items ∧ ∀ b ∈ deleted, p b → item.1 ≠ key b := by
  induction deleted generalizing m with
  | nil => simp
  | cons b rest ih =>
    rw [List.foldl_cons, ih]
    by_cases hp : p b
    · simp only [hp, if_true, mem_items_delete, List.forall_mem_cons, forall_const]
      tauto
    · simp only [hp, if_false, List.forall_mem_cons, false_implies, true_and]

end OrderedMap

/-! ## Sets in insertion order -/

section

variable {κ : Type} [DecidableEq κ]

/-- `set.add(k)`. -/
def addKey (keys : List κ) (k : κ) : List κ := if k ∈ keys then keys else keys ++ [k]

/-- `new Set(keys)`. -/
def keySet (keys : List κ) : List κ := keys.foldl addKey []

variable {keys : List κ} {k : κ}

theorem mem_addKey {k' : κ} : k' ∈ addKey keys k ↔ k' ∈ keys ∨ k' = k := by
  unfold addKey
  split
  · rename_i hmem
    exact ⟨.inl, fun h => h.elim id fun heq => heq ▸ hmem⟩
  · simp

theorem mem_foldl_addKey {added : List κ} : k ∈ added.foldl addKey keys ↔ k ∈ keys ∨ k ∈ added := by
  induction added generalizing keys with
  | nil => simp
  | cons a rest ih =>
    rw [List.foldl_cons, ih, mem_addKey, List.mem_cons, or_assoc]

theorem nodup_addKey (h : keys.Nodup) (k : κ) : (addKey keys k).Nodup := by
  unfold addKey
  split
  · exact h
  · rename_i hnot
    exact h.append (by simp) (by simpa using hnot)

theorem nodup_foldl_addKey {added : List κ} (h : keys.Nodup) : (added.foldl addKey keys).Nodup := by
  induction added generalizing keys with
  | nil => exact h
  | cons a rest ih => exact ih (nodup_addKey h a)

@[simp]
theorem mem_keySet : k ∈ keySet keys ↔ k ∈ keys := by
  unfold keySet
  rw [mem_foldl_addKey]
  simp

theorem nodup_keySet (keys : List κ) : (keySet keys).Nodup := nodup_foldl_addKey List.nodup_nil

end

end OrderedMaps

import Mathlib

/-!
# Maps of self-keyed values

A *keyed map* is an ordered finite map in which every value is stored under its own key
(`key b`).  The invariant is a field of the structure, so that a map holding a value under a
foreign key cannot be built, and a map is then the same thing as the set of its values.

The lookup `get?` is the only observer the rest of the development reasons with:

* `KeyedMap.ext` — two maps with the same lookups are equal;
* `get?_insert`, `get?_erase`, `get?_filter` — the lookup after each operation;
* `mem_values_iff`, `mem_keys_iff` — what the two enumerations contain;
* `get?_insertAll`, `get?_eraseAll`, `get?_ofList` — the lookup after a whole list of updates.
-/

namespace KeyedMaps

/-- An ordered finite map whose values are stored under their own key. -/
structure KeyedMap {κ β : Type} [Ord κ] [Std.TransOrd κ] [Std.LawfulEqOrd κ] (key : β → κ) where
  toMap : Std.ExtTreeMap κ β compare
  keyed : ∀ {k : κ} {b : β}, toMap[k]? = some b → key b = k

namespace KeyedMap

variable {κ β : Type} [Ord κ] [Std.TransOrd κ] [Std.LawfulEqOrd κ] {key : β → κ}

/-- The value stored under `k`. -/
def get? (m : KeyedMap key) (k : κ) : Option β := m.toMap[k]?

/-- Whether some value is stored under `k`. -/
def contains (m : KeyedMap key) (k : κ) : Bool := (m.get? k).isSome

/-- The stored values, in key order. -/
def values (m : KeyedMap key) : List β := m.toMap.toList.map Prod.snd

/-- The occupied keys, in order. -/
def keys (m : KeyedMap key) : List κ := m.toMap.toList.map Prod.fst

variable {m : KeyedMap key} {k : κ} {b : β}

theorem key_of_get? (h : m.get? k = some b) : key b = k := m.keyed h

@[ext]
theorem ext {m' : KeyedMap key} (h : ∀ k, m.get? k = m'.get? k) : m = m' := by
  cases m with | mk map _ =>
  cases m' with | mk map' _ =>
  have hmap : map = map' := Std.ExtTreeMap.ext_getElem? (fun {k} => h k)
  subst hmap
  rfl

instance [DecidableEq β] : DecidableEq (KeyedMap key) := fun m m' =>
  decidable_of_iff (m.toMap = m'.toMap)
    ⟨fun h => ext fun k => by unfold get?; rw [h], fun h => by rw [h]⟩

/-! ## Operations -/

/-- The map without values. -/
def empty : KeyedMap key := ⟨∅, by simp⟩

instance : Inhabited (KeyedMap key) := ⟨empty⟩

/-- Store a value under its key, replacing the value that was there. -/
def insert (m : KeyedMap key) (b : β) : KeyedMap key where
  toMap := m.toMap.insert (key b) b
  keyed := by
    intro k b' h
    rw [Std.ExtTreeMap.getElem?_insert] at h
    split at h
    · cases h; exact Std.LawfulEqOrd.eq_of_compare ‹_›
    · exact m.keyed h

/-- Forget the value under `k`. -/
def erase (m : KeyedMap key) (k : κ) : KeyedMap key where
  toMap := m.toMap.erase k
  keyed := by
    intro k' b h
    rw [Std.ExtTreeMap.getElem?_erase] at h
    split at h
    · cases h
    · exact m.keyed h

/-- Keep the values that satisfy `p`. -/
def filter (m : KeyedMap key) (p : β → Bool) : KeyedMap key where
  toMap := m.toMap.filter fun _ b => p b
  keyed := by
    intro k b h
    rw [Std.ExtTreeMap.getElem?_filter'] at h
    obtain ⟨hb, -⟩ := Option.filter_eq_some_iff.mp h
    exact m.keyed hb

/-- Store the values of a list one after the other: the last one under a key wins. -/
def insertAll (m : KeyedMap key) (bs : List β) : KeyedMap key := bs.foldl insert m

/-- Forget the values under the keys of a list. -/
def eraseAll (m : KeyedMap key) (ks : List κ) : KeyedMap key := ks.foldl erase m

/-- The map of the values of a list. -/
def ofList (bs : List β) : KeyedMap key := empty.insertAll bs

/-! ## Lookups -/

@[simp]
theorem get?_empty (k : κ) : (empty : KeyedMap key).get? k = none := by
  simp [empty, get?]

theorem get?_filter (m : KeyedMap key) (p : β → Bool) (k : κ) :
    (m.filter p).get? k = (m.get? k).filter p := by
  simp [filter, get?]

theorem mem_values_iff : b ∈ m.values ↔ m.get? (key b) = some b := by
  unfold values
  rw [List.mem_map]
  constructor
  · rintro ⟨⟨k, b'⟩, hmem, rfl⟩
    have hget : m.toMap[k]? = some b' := Std.ExtTreeMap.mem_toList_iff_getElem?_eq_some.mp hmem
    simpa [m.keyed hget, get?] using hget
  · intro h
    exact ⟨(key b, b), Std.ExtTreeMap.mem_toList_iff_getElem?_eq_some.mpr h, rfl⟩

theorem mem_values_of_get? (h : m.get? k = some b) : b ∈ m.values := by
  rw [mem_values_iff, key_of_get? h]
  exact h

theorem mem_keys_iff : k ∈ m.keys ↔ m.contains k = true := by
  unfold keys contains
  rw [List.mem_map, Option.isSome_iff_exists]
  constructor
  · rintro ⟨⟨_, b⟩, hmem, rfl⟩
    exact ⟨b, Std.ExtTreeMap.mem_toList_iff_getElem?_eq_some.mp hmem⟩
  · rintro ⟨b, h⟩
    exact ⟨(k, b), Std.ExtTreeMap.mem_toList_iff_getElem?_eq_some.mpr h, rfl⟩

theorem contains_iff_exists : m.contains k = true ↔ ∃ b, m.get? k = some b :=
  Option.isSome_iff_exists

theorem contains_eq_false_iff : m.contains k = false ↔ m.get? k = none := by
  simp [contains]

/-- The values of a map carry pairwise different keys. -/
theorem map_key_values (m : KeyedMap key) : m.values.map key = m.keys := by
  unfold values keys
  rw [List.map_map]
  refine List.map_congr_left ?_
  rintro ⟨_, _⟩ hmem
  exact m.keyed (Std.ExtTreeMap.mem_toList_iff_getElem?_eq_some.mp hmem)

theorem nodup_keys (m : KeyedMap key) : m.keys.Nodup := by
  have hdistinct := Std.ExtTreeMap.distinct_keys_toList (t := m.toMap)
  unfold keys
  rw [List.Nodup, List.pairwise_map]
  exact hdistinct.imp fun hne heq => hne (by rw [heq]; exact Std.ReflCmp.compare_self)

theorem nodup_values_map_key (m : KeyedMap key) : (m.values.map key).Nodup := by
  rw [map_key_values]
  exact nodup_keys m

/-- A map whose keys all come from a list is no longer than the list. -/
theorem length_values_le {ks : List κ} (h : ∀ k ∈ m.keys, k ∈ ks) :
    m.values.length ≤ ks.length := by
  rw [← List.length_map key, map_key_values]
  exact ((nodup_keys m).subperm h).length_le

/-! ## Updates -/

variable [DecidableEq κ]

theorem get?_insert (m : KeyedMap key) (b : β) (k : κ) :
    (m.insert b).get? k = if key b = k then some b else m.get? k := by
  simp [insert, get?, Std.ExtTreeMap.getElem?_insert]

theorem get?_erase (m : KeyedMap key) (k k' : κ) :
    (m.erase k).get? k' = if k = k' then none else m.get? k' := by
  simp [erase, get?, Std.ExtTreeMap.getElem?_erase]

/-- Forgetting the value that is replaced changes nothing. -/
theorem erase_insert (m : KeyedMap key) (b : β) : (m.erase (key b)).insert b = m.insert b := by
  ext1 k
  rw [get?_insert, get?_insert, get?_erase]
  split <;> rfl

/-- A field of the stored values, after storing one. -/
theorem map_get?_insert {γ : Type} (m : KeyedMap key) (b : β) (f : β → γ) (k : κ) :
    ((m.insert b).get? k).map f = if key b = k then some (f b) else (m.get? k).map f := by
  rw [get?_insert]
  split <;> rfl

/-- Storing a value over one that agrees with it in the field. -/
theorem map_get?_insert_of_get? {γ : Type} {m : KeyedMap key} {a b : β} {f : β → γ} {k : κ}
    (h : m.get? k = some a) (hkey : key b = key a) (hf : f b = f a) (k' : κ) :
    ((m.insert b).get? k').map f = (m.get? k').map f := by
  rw [map_get?_insert]
  split
  · rename_i hk
    rw [← hk, hkey, key_of_get? h, h, hf]
    rfl
  · rfl

theorem map_get?_erase {γ : Type} (m : KeyedMap key) (k : κ) (f : β → γ) (k' : κ) :
    ((m.erase k).get? k').map f = if k = k' then none else (m.get? k').map f := by
  rw [get?_erase]
  split <;> rfl

theorem get?_eraseAll (m : KeyedMap key) (ks : List κ) (k : κ) :
    (m.eraseAll ks).get? k = if k ∈ ks then none else m.get? k := by
  induction ks generalizing m with
  | nil => simp [eraseAll]
  | cons k' ks ih =>
    have hstep : m.eraseAll (k' :: ks) = (m.erase k').eraseAll ks := rfl
    rw [hstep, ih, get?_erase]
    by_cases hk : k ∈ ks
    · simp [hk]
    · simp [hk, eq_comm]

/-- The last value of a list with key `k`. -/
def lastWithKey (key : β → κ) (bs : List β) (k : κ) : Option β :=
  bs.reverse.find? fun b => decide (key b = k)

omit [Ord κ] [Std.TransOrd κ] [Std.LawfulEqOrd κ] in
theorem lastWithKey_cons (b : β) (bs : List β) (k : κ) :
    lastWithKey key (b :: bs) k =
      (lastWithKey key bs k).or (if key b = k then some b else none) := by
  unfold lastWithKey
  by_cases hk : key b = k <;> simp [hk]

variable {bs : List β}

omit [Ord κ] [Std.TransOrd κ] [Std.LawfulEqOrd κ] in
theorem lastWithKey_mem (h : lastWithKey key bs k = some b) : b ∈ bs ∧ key b = k :=
  ⟨List.mem_reverse.mp (List.mem_of_find?_eq_some h), by simpa using List.find?_some h⟩

omit [Ord κ] [Std.TransOrd κ] [Std.LawfulEqOrd κ] in
theorem lastWithKey_eq_none_iff : lastWithKey key bs k = none ↔ ∀ b ∈ bs, key b ≠ k := by
  simp [lastWithKey]

omit [Ord κ] [Std.TransOrd κ] [Std.LawfulEqOrd κ] in
/-- In a list that holds at most one value with each key, that value is the last one. -/
theorem lastWithKey_eq_some_of_unique (hb : b ∈ bs) (hunique : ∀ b' ∈ bs, key b' = key b → b' = b) :
    lastWithKey key bs (key b) = some b := by
  cases hlast : lastWithKey key bs (key b) with
  | none => exact absurd rfl (lastWithKey_eq_none_iff.mp hlast b hb)
  | some b' =>
    obtain ⟨hmem, hkey⟩ := lastWithKey_mem hlast
    rw [hunique b' hmem hkey]

omit [Ord κ] [Std.TransOrd κ] [Std.LawfulEqOrd κ] in
theorem lastWithKey_filter {p : β → Bool}
    (hunique : ∀ b ∈ bs, ∀ b' ∈ bs, key b = k → key b' = k → b' = b) :
    lastWithKey key (bs.filter p) k = (lastWithKey key bs k).filter p := by
  cases hlast : lastWithKey key bs k with
  | none =>
    refine lastWithKey_eq_none_iff.mpr fun b hb => ?_
    exact lastWithKey_eq_none_iff.mp hlast b (List.mem_of_mem_filter hb)
  | some b =>
    obtain ⟨hmem, hkey⟩ := lastWithKey_mem hlast
    cases hp : p b with
    | true =>
      subst hkey
      rw [Option.filter_some, if_pos hp]
      refine lastWithKey_eq_some_of_unique (List.mem_filter.mpr ⟨hmem, hp⟩) ?_
      intro b' hb' hkey'
      exact hunique b hmem b' (List.mem_of_mem_filter hb') rfl hkey'
    | false =>
      rw [Option.filter_some, if_neg (by simp [hp])]
      refine lastWithKey_eq_none_iff.mpr fun b' hb' hkey' => ?_
      obtain ⟨hmem', hp'⟩ := List.mem_filter.mp hb'
      rw [hunique b hmem b' hmem' hkey hkey', hp] at hp'
      cases hp'

omit [Ord κ] [Std.TransOrd κ] [Std.LawfulEqOrd κ] [DecidableEq κ] in
/-- Pairwise different keys single out each value. -/
theorem eq_of_key_eq (hnodup : (bs.map key).Nodup) {b' : β} (hb : b ∈ bs) (hb' : b' ∈ bs)
    (hkey : key b' = key b) : b' = b :=
  List.inj_on_of_nodup_map hnodup hb' hb hkey

/-- After storing a list, a lookup finds the last value of the list with that key. -/
theorem get?_insertAll (m : KeyedMap key) (bs : List β) (k : κ) :
    (m.insertAll bs).get? k = (lastWithKey key bs k).or (m.get? k) := by
  induction bs generalizing m with
  | nil => simp [insertAll, lastWithKey]
  | cons b bs ih =>
    have hstep : m.insertAll (b :: bs) = (m.insert b).insertAll bs := rfl
    rw [hstep, ih, get?_insert, lastWithKey_cons, Option.or_assoc]
    by_cases hk : key b = k <;> simp [hk]

theorem get?_ofList (bs : List β) (k : κ) :
    (ofList bs : KeyedMap key).get? k = lastWithKey key bs k := by
  unfold ofList
  rw [get?_insertAll, get?_empty, Option.or_none]

theorem get?_insertAll_of_notMem (h : k ∉ bs.map key) : (m.insertAll bs).get? k = m.get? k := by
  have hnone : lastWithKey key bs k = none := by
    rw [lastWithKey_eq_none_iff]
    intro b hb hkey
    exact h (List.mem_map.mpr ⟨b, hb, hkey⟩)
  rw [get?_insertAll, hnone, Option.none_or]

/-- When the keys of the list are pairwise different, each of its values is found. -/
theorem get?_insertAll_of_mem (hnodup : (bs.map key).Nodup) (h : b ∈ bs) :
    (m.insertAll bs).get? (key b) = some b := by
  have hlast := lastWithKey_eq_some_of_unique h fun b' hb' => eq_of_key_eq hnodup h hb'
  rw [get?_insertAll, hlast, Option.some_or]

theorem get?_ofList_eq_some (hnodup : (bs.map key).Nodup) :
    (ofList bs : KeyedMap key).get? k = some b ↔ b ∈ bs ∧ key b = k := by
  rw [get?_ofList]
  constructor
  · exact lastWithKey_mem
  · rintro ⟨hmem, rfl⟩
    exact lastWithKey_eq_some_of_unique hmem fun b' hb' => eq_of_key_eq hnodup hmem hb'

end KeyedMap

end KeyedMaps

import Mathlib

/-!
# Path keys as a forest

A path key is a list of characters in which `sep` separates the components.  One key lies *at or
below* another when it is that key or continues it with a separator.  This orders the keys as a
forest: two keys above a third one are comparable, so whatever overlaps a key overlaps every key
above it.

* `AtOrBelow.total` — the keys above one key form a chain;
* `overlaps_of_atOrBelow` — overlapping is inherited by the keys above;
* `forall_overlaps_iff` — nothing but a key above another one overlaps all that the other overlaps.
-/

namespace PathOrder

variable {α : Type} {sep : α} {a b c : List α}

/-- `b` is `a` or a descendant of it. -/
def AtOrBelow (sep : α) (b a : List α) : Prop := b = a ∨ ∃ rest, b = a ++ sep :: rest

/-- One of the two keys lies at or below the other. -/
def Overlaps (sep : α) (a b : List α) : Prop := AtOrBelow sep a b ∨ AtOrBelow sep b a

theorem AtOrBelow.refl (a : List α) : AtOrBelow sep a a := .inl rfl

theorem AtOrBelow.trans (h : AtOrBelow sep c b) (h' : AtOrBelow sep b a) : AtOrBelow sep c a := by
  rcases h with rfl | ⟨rest, rfl⟩
  · exact h'
  · rcases h' with rfl | ⟨rest', rfl⟩
    · exact .inr ⟨rest, rfl⟩
    · exact .inr ⟨rest' ++ sep :: rest, by simp⟩

/-- **Keys above one key are comparable.** -/
theorem AtOrBelow.total (ha : AtOrBelow sep c a) (hb : AtOrBelow sep c b) : Overlaps sep a b := by
  rcases ha with rfl | ⟨rest, rfl⟩
  · exact .inl hb
  · rcases hb with hb | ⟨_, hb⟩
    · exact .inr (.inr ⟨rest, hb.symm⟩)
    · -- both keys are cut off at a separator of the same list
      rcases List.append_eq_append_iff.mp hb with ⟨mid, rfl, hmid⟩ | ⟨mid, rfl, hmid⟩
      · cases mid with
        | nil => exact .inl (.inl (by simp))
        | cons x mid =>
          rw [List.cons_append, List.cons.injEq] at hmid
          exact .inr (.inr ⟨mid, by rw [← hmid.1]⟩)
      · cases mid with
        | nil => exact .inl (.inl (by simp))
        | cons x mid =>
          rw [List.cons_append, List.cons.injEq] at hmid
          exact .inl (.inr ⟨mid, by rw [← hmid.1]⟩)

/-- A path that is cut before its last separator stays at or below every path strictly above it. -/
theorem atOrBelow_of_append_eq {front name rest : List α} (hname : sep ∉ name)
    (h : front ++ sep :: name = a ++ sep :: rest) : AtOrBelow sep front a := by
  rcases AtOrBelow.total (.inr ⟨name, rfl⟩) (.inr ⟨rest, h⟩) with hbelow | hsame | ⟨mid, hmid⟩
  · exact hbelow
  · exact .inl hsame.symm
  · -- the name would have a separator
    rw [hmid, List.append_assoc] at h
    have hsplit : name = mid ++ sep :: rest := by
      simpa using List.append_cancel_left h
    exact absurd (by rw [hsplit]; simp) hname

theorem Overlaps.symm (h : Overlaps sep a b) : Overlaps sep b a := Or.symm h

/-- **What overlaps a key overlaps every key above it.** -/
theorem overlaps_of_atOrBelow (h : AtOrBelow sep b a) (hc : Overlaps sep b c) :
    Overlaps sep a c := by
  rcases hc with hbelow | habove
  · exact AtOrBelow.total h hbelow
  · exact .inr (habove.trans h)

/-- **Some key of a list overlaps whatever overlaps `b` exactly if one of them is above `b`.** -/
theorem forall_overlaps_iff {keys : List (List α)} {x : α} (hx : x ≠ sep) :
    (∀ c, Overlaps sep b c → ∃ a ∈ keys, Overlaps sep a c) ↔ ∃ a ∈ keys, AtOrBelow sep b a := by
  constructor
  · intro h
    -- a child of `b` with a name so long that no key lies at or below it
    set name := List.replicate (keys.map List.length).sum x with hname
    obtain ⟨a, ha, hoverlap⟩ := h (b ++ sep :: name) (.inr (.inr ⟨name, rfl⟩))
    have hlength : a.length < (b ++ sep :: name).length := by
      have := List.single_le_sum (fun _ _ => Nat.zero_le _) a.length (List.mem_map_of_mem ha)
      simp [hname]
      omega
    refine ⟨a, ha, ?_⟩
    rcases hoverlap with (rfl | ⟨_, rfl⟩) | (heq | ⟨rest, heq⟩)
    · exact absurd hlength (lt_irrefl _)
    · simp at hlength
    · exact absurd hlength (by rw [heq]; exact lt_irrefl _)
    · rcases List.append_eq_append_iff.mp heq with ⟨mid, rfl, hmid⟩ | ⟨mid, rfl, hmid⟩
      · cases mid with
        | nil => exact .inl (by simp)
        | cons y mid =>
          -- the name has no separator in it
          rw [List.cons_append, List.cons.injEq] at hmid
          have hmem : sep ∈ name := hmid.2 ▸ List.mem_append_right _ List.mem_cons_self
          exact absurd (List.eq_of_mem_replicate hmem).symm hx
      · cases mid with
        | nil => exact .inl (by simp)
        | cons y mid =>
          rw [List.cons_append, List.cons.injEq] at hmid
          exact .inr ⟨mid, by rw [hmid.1]⟩
  · rintro ⟨a, ha, habove⟩ c hc
    exact ⟨a, ha, overlaps_of_atOrBelow habove hc⟩

/-- The first separator cuts a key in one way. -/
theorem append_sep_inj {rest rest' : List α} (ha : sep ∉ a) (hb : sep ∉ b)
    (h : a ++ sep :: rest = b ++ sep :: rest') : a = b ∧ rest = rest' := by
  induction a generalizing b with
  | nil =>
    cases b with
    | nil => exact ⟨rfl, (List.cons.inj h).2⟩
    | cons y b => exact absurd ((List.cons.inj h).1 ▸ List.mem_cons_self) hb
  | cons x a ih =>
    cases b with
    | nil => exact absurd ((List.cons.inj h).1 ▸ List.mem_cons_self) ha
    | cons y b =>
      obtain ⟨hx, hrest⟩ := List.cons.inj h
      have hih := ih (fun hmem => ha (List.mem_cons_of_mem _ hmem))
        (fun hmem => hb (List.mem_cons_of_mem _ hmem)) hrest
      exact ⟨by rw [hx, hih.1], hih.2⟩

end PathOrder

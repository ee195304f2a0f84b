import SubversionR.Refresh.Coverage

/-!
# RelativePaths — does a relative path lead back to the event?

`repositoryRelativePath` compares case-folded keys and then cuts the event path at the length of the
root as it is spelled.  `joinsBack_iff` says when the cut is right: the part of the event path that
folds to the root must be as long as the root.
-/

namespace SubversionR

open PathOrder

section

variable {key : Text → Text} (hkey : FoldsComponents key)

include hkey

/-- A slash of the key is a slash of the path. -/
theorem FoldsComponents.exists_split {path a b : Text} (h : key path = a ++ '/' :: b) :
    ∃ p q, path = p ++ '/' :: q ∧ key p = a ∧ key q = b := by
  -- along the components from the last one
  induction hlength : path.length using Nat.strong_induction_on generalizing path b with
  | _ n ih =>
    rcases parentPath_cases path with ⟨hnot, -⟩ | ⟨name, hname, hpath⟩
    · exact absurd (hkey.mem_slash_iff.mp (h ▸ by simp : '/' ∈ key path)) hnot
    · have hslash := hkey.noSlash name hname
      rw [hpath, hkey.slash] at h
      rcases List.append_eq_append_iff.mp h with ⟨as, ha, hb⟩ | ⟨as, ha, hb⟩
      · cases as with
        | nil => exact ⟨_, name, hpath, by simpa using ha.symm, (List.cons.inj hb).2⟩
        | cons c as => exact absurd ((List.cons.inj hb).2 ▸ by simp : '/' ∈ key name) hslash
      · cases as with
        | nil => exact ⟨_, name, hpath, by simpa using ha, (List.cons.inj hb).2.symm⟩
        | cons c as =>
          obtain ⟨rfl, rfl⟩ := List.cons.inj hb
          have hlt : (parentPath path).length < n := by
            rw [← hlength, congrArg List.length hpath]
            simp
          obtain ⟨p, q, hparent, hp, rfl⟩ := ih _ hlt ha rfl
          refine ⟨p, q ++ '/' :: name, ?_, hp, hkey.slash q name⟩
          rw [hpath, hparent, List.append_assoc, List.cons_append]

end

/-- A safe path does not end in a slash and has two in a row at its beginning only. -/
theorem safe_after_slash {p rest : Text} (h : hasUnsafePathSegments (p ++ '/' :: rest) = false) :
    rest ≠ [] ∧ (p ≠ [] → rest.head? ≠ some '/') := by
  -- an empty component after `p` stands at the number of components of `p`
  have hempty (hhead : (rest.splitOn '/').head? = some []) :
      p = [] ∧ 1 < (rest.splitOn '/').length := by
    unfold hasUnsafePathSegments at h
    rw [List.splitOn_append_cons_self] at h
    have hmem : (([] : Text), (p.splitOn '/').length) ∈
        (p.splitOn '/' ++ rest.splitOn '/').zipIdx := by
      rw [List.mem_zipIdx_iff_getElem?, List.getElem?_append_right le_rfl, Nat.sub_self,
        ← List.head?_eq_getElem?, hhead]
    have hallowed := List.any_eq_false.mp h _ hmem
    have hp : ['/'].intercalate (p.splitOn '/') = p := List.intercalate_splitOn '/'
    cases hsplit : p.splitOn '/' with
    | nil => exact absurd hsplit (List.splitOn_ne_nil _ _)
    | cons first others =>
      rw [hsplit] at hallowed hp
      simp [isAllowedAbsolutePrefix] at hallowed
      obtain ⟨⟨rfl, rfl⟩, hlength⟩ := hallowed
      exact ⟨hp.symm, by simpa using hlength⟩
  constructor
  · rintro rfl
    exact absurd (hempty rfl).2 (by decide)
  · intro hp hslash
    obtain ⟨r, rfl⟩ : ∃ r, rest = '/' :: r := List.head?_eq_some_iff.mp hslash
    exact hp (hempty (by rw [← List.nil_append ('/' :: r), List.splitOn_append_cons_self]; rfl)).1

/-! ## The cut -/

/-- What is left begins right after a character that the cut has reached and not passed. -/
theorem Text.sliceFrom_bounds {n : Nat} {front rest : Text} {c : Char} (hrest : rest ≠ [])
    (h : Text.sliceFrom n (front ++ c :: rest) = rest) :
    front.utf16.length < n ∧ n ≤ front.utf16.length + (Text.utf16Units c).length := by
  induction front generalizing n with
  | nil =>
    cases n with
    | zero => exact absurd (congrArg List.length h) (by simp [Text.sliceFrom])
    | succ n =>
      by_contra hlt
      obtain ⟨m, hm⟩ : ∃ m, n + 1 - (Text.utf16Units c).length = m + 1 :=
        Nat.exists_eq_succ_of_ne_zero (by simp [Text.utf16] at hlt; omega)
      obtain ⟨d, rest, rfl⟩ := List.exists_cons_of_ne_nil hrest
      have hlength := (Text.sliceFrom_suffix (m + 1 - (Text.utf16Units d).length) rest).length_le
      rw [List.nil_append, Text.sliceFrom, hm, Text.sliceFrom] at h
      rw [h] at hlength
      simp at hlength
  | cons x front ih =>
    have hlength : (Text.utf16 (x :: front)).length =
        (Text.utf16Units x).length + (Text.utf16 front).length := by
      simp [Text.utf16]
    cases n with
    | zero => exact absurd (congrArg List.length h) (by simp [Text.sliceFrom]; omega)
    | succ n =>
      have hcut := ih (n := n + 1 - (Text.utf16Units x).length) h
      omega

section

variable (fold : Text → Text) (scope : RepositoryWatchScope) (eventPath rel : Text)

/-- The relative path joined to the root has the key of the event path, and no leading slash. -/
def JoinsBack : Prop :=
  comparisonKey fold scope (normalizeAbsolutePath scope.workingCopyRoot ++ '/' :: rel) =
      comparisonKey fold scope (normalizeAbsolutePath eventPath) ∧
    rel.head? ≠ some '/'

/-- The part of the event path that folds to the root is as long as the root. -/
def RootLengthKept : Prop :=
  ∃ p q, normalizeAbsolutePath eventPath = p ++ '/' :: q ∧
    comparisonKey fold scope p =
      comparisonKey fold scope (normalizeAbsolutePath scope.workingCopyRoot) ∧
    p.utf16.length = (normalizeAbsolutePath scope.workingCopyRoot).utf16.length

end

/-- **A relative path leads back to its event exactly when the root keeps its length.**  The last
hypothesis on the folding is that no letter folds to nothing. -/
theorem joinsBack_iff {fold : Text → Text} {scope : RepositoryWatchScope} {eventPath rel : Text}
    (hfold : FoldsComponents fold)
    (hsuffix : ∀ a b, fold (a ++ b) = fold b → a = [])
    (h : repositoryRelativePath fold scope eventPath = some rel) (hrel : rel ≠ ".") :
    JoinsBack fold scope eventPath rel ↔ RootLengthKept fold scope eventPath := by
  obtain ⟨hroot, hsafe, ⟨rest, hrest⟩, hcut⟩ := (repositoryRelativePath_cases h).resolve_left hrel
  have hkey := hfold.comparisonKey scope
  have hsuffix (a b : Text)
      (heq : comparisonKey fold scope (a ++ b) = comparisonKey fold scope b) : a = [] := by
    cases hcase : scope.pathCase with
    | caseSensitive => simpa [comparisonKey, hcase] using heq
    | caseInsensitive => exact hsuffix a b (by simpa [comparisonKey, hcase] using heq)
  unfold JoinsBack RootLengthKept
  generalize normalizeAbsolutePath scope.workingCopyRoot = root at *
  generalize normalizeAbsolutePath eventPath = candidate at *
  constructor
  · rintro ⟨hjoin, -⟩
    obtain ⟨p, q, rfl, hp, hq⟩ := hkey.exists_split hrest
    rw [hkey.slash, hkey.slash, hp] at hjoin
    have hrelq : comparisonKey fold scope rel = comparisonKey fold scope q :=
      (List.cons.inj (List.append_cancel_left hjoin)).2
    -- both are ends of the event path, so one is an end of the other
    have heq : rel = q := by
      have hrelEnd := hcut ▸ Text.sliceFrom_suffix (root.utf16.length + 1) (p ++ '/' :: q)
      have hqEnd : q <:+ p ++ '/' :: q := ⟨p ++ ['/'], by simp⟩
      rcases List.suffix_or_suffix_of_suffix hrelEnd hqEnd with ⟨d, rfl⟩ | ⟨d, rfl⟩
      · rw [hsuffix d rel hrelq.symm, List.nil_append]
      · rw [hsuffix d q hrelq, List.nil_append]
    have hbounds := Text.sliceFrom_bounds (safe_after_slash hsafe).1 (hcut.trans heq)
    have hunit : (Text.utf16Units '/').length = 1 := rfl
    exact ⟨p, q, rfl, hp, by omega⟩
  · rintro ⟨p, q, rfl, hp, hlength⟩
    have heq : rel = q := by rw [← hcut, ← hlength, Text.sliceFrom_slash]
    rw [heq, hkey.slash, hkey.slash, hp]
    refine ⟨rfl, (safe_after_slash hsafe).2 ?_⟩
    -- a root without characters is not a safe path
    rintro rfl
    obtain rfl : root = [] := hsuffix root [] (by rw [List.append_nil, hp])
    exact absurd hroot (by decide)

end SubversionR

namespace SubversionR.RelativePathExample

/-- The folding of Latin letters, and of the dotted capital I to two characters. -/
def lower (t : Text) : Text :=
  t.flatMap fun c => if c = '\u0130' then ['i', '\u0307'] else [c.toLower]

def scope (pathCase : PathCasePolicy) (workingCopyRoot : Text) : RepositoryWatchScope :=
  ⟨"r", 1, workingCopyRoot, pathCase, none⟩

/-- Nothing else is folded to a slash or a dot. -/
theorem mem_of_mem_lower {t : Text} {d : Char} (hd : d.isAlpha = false) (hmark : d ≠ '\u0307')
    (h : d ∈ lower t) : d ∈ t := by
  obtain ⟨c, hc, hmem⟩ := List.mem_flatMap.mp h
  split at hmem
  · rcases List.mem_pair.mp hmem with rfl | rfl
    · cases hd
    · exact absurd rfl hmark
  · obtain rfl := List.mem_singleton.mp hmem
    rw [Char.isAlpha_toLower_eq_isAlpha, Char.isAlpha, Bool.or_eq_false_iff] at hd
    rwa [Char.toLower_eq_of_not_isUpper (by simp [hd.1])]

theorem length_le_length_lower (t : Text) : t.length ≤ (lower t).length := by
  induction t with
  | nil => exact le_rfl
  | cons c t ih =>
    have hlength : (lower (c :: t)).length =
        (if c = '\u0130' then ['i', '\u0307'] else [c.toLower]).length + (lower t).length := by
      simp [lower]
    split at hlength <;> simp at hlength ⊢ <;> omega

theorem foldsComponents_lower : FoldsComponents lower where
  slash a b := by simp [lower]
  noSlash a h := mt (mem_of_mem_lower (by decide) (by decide)) h
  dot a h := by
    have hlength := length_le_length_lower a
    rw [h] at hlength
    have hmem : '.' ∈ a := mem_of_mem_lower (by decide) (by decide) (h ▸ by decide)
    obtain ⟨c, rfl⟩ := List.length_eq_one_iff.mp (hlength.antisymm (List.length_pos_of_mem hmem))
    rw [← List.mem_singleton.mp hmem]
    rfl

/-- `/wc/src/A` lies below the root `/WC`, where case does not matter. -/
theorem joins_back_in_other_case :
    JoinsBack lower (scope .caseInsensitive "/WC") "/wc/src/A" "src/A" := by
  refine (joinsBack_iff foldsComponents_lower (fun a b h => ?_) (by decide) (by decide)).mpr
    ⟨"/wc", "src/A", by decide, by decide, by decide⟩
  rw [show lower (a ++ b) = lower a ++ lower b from List.flatMap_append] at h
  have hlength := congrArg List.length h
  have hle := length_le_length_lower a
  rw [List.length_append] at hlength
  exact List.length_eq_zero_iff.mp (by omega)

/-- The event of `abc` is recorded for `bc`. -/
theorem attributed_to_another_file :
    repositoryRelativePath lower (scope .caseInsensitive "/wc/i\u0307") "/wc/\u0130/abc" =
        some "bc" ∧
      ¬ JoinsBack lower (scope .caseInsensitive "/wc/i\u0307") "/wc/\u0130/abc" "bc" := by
  refine ⟨by decide, fun h => absurd h.1 (by decide)⟩

end SubversionR.RelativePathExample

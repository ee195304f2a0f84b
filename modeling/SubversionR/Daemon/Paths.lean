import SubversionR.Protocol

/-!
# Daemon paths — repository-relative paths and boundary roots

The path checks of the daemon's `state.rs`: which paths a request may name, and which paths lie
inside a *boundary root* (a nested working copy whose entries belong to another session).

* `BoundaryRoots` carries the check `repository_boundary_roots` makes when a session opens, so a
  session without it cannot be built;
* `pathInsideBoundaryRoots_dot` — the working copy root itself is never inside a boundary root.
-/

namespace SubversionR

open Text

/-- The build target, which decides whether path keys fold case. -/
inductive Platform where
  | posix
  | windows
deriving DecidableEq

/-- `valid_repository_relative_path`. -/
def validRepositoryRelativePath (path : Text) : Bool :=
  if path = "." then true
  else if !path.nonBlankRust then false
  else
    let normalized := path.forwardSlashes
    if normalized.head? = some '/' ∨ ':' ∈ normalized ∨ '\x00' ∈ normalized then false
    else (normalized.splitOn '/').all fun part =>
      !part.isEmpty && decide (part ≠ ".") && decide (part ≠ "..")

/-- `absolute_path_key`, and the last step of `status_path_key`. -/
def foldCase (platform : Platform) (path : Text) : Text :=
  match platform with
  | .posix => path
  | .windows => path.toAsciiLowercase

/-- `status_path_key`. -/
def statusPathKey (platform : Platform) (path : Text) : Text :=
  foldCase platform (trimMatches (· = '/') path.forwardSlashes)

/-- `is_descendant_path_key`. -/
def isDescendantPathKey (childKey parentKey : Text) : Bool :=
  match stripPrefix parentKey childKey with
  | some suffix => suffix.head? = some '/'
  | none => false

/-! ## Boundary roots -/

/-- The relative roots of the nested working copies of a session, each accepted by
`repository_boundary_roots`. -/
structure BoundaryRoots where
  roots : List Text
  valid : ∀ root ∈ roots, validRepositoryRelativePath root = true ∧ root ≠ "."
deriving DecidableEq

namespace BoundaryRoots

/-- No nested working copy. -/
def none : BoundaryRoots := ⟨[], by simp⟩

instance : Inhabited BoundaryRoots := ⟨none⟩

/-- One more root in front. -/
def cons (root : Text) (hroot : validRepositoryRelativePath root = true ∧ root ≠ ".")
    (rest : BoundaryRoots) : BoundaryRoots where
  roots := root :: rest.roots
  valid := by
    intro r hr
    rcases List.mem_cons.mp hr with rfl | hr
    · exact hroot
    · exact rest.valid r hr

end BoundaryRoots

/-- `path_inside_boundary_roots`. -/
def pathInsideBoundaryRoots (platform : Platform) (path : Text) (boundaryRoots : BoundaryRoots) :
    Bool :=
  let pathKey := statusPathKey platform path
  boundaryRoots.roots.any fun boundaryRoot =>
    let boundaryKey := statusPathKey platform boundaryRoot
    decide (pathKey = boundaryKey) || isDescendantPathKey pathKey boundaryKey

/-- `normalize_absolute_path_text`. -/
def normalizeAbsolutePathText (path : Text) : Text := trimEndMatches (· = '/') path.forwardSlashes

/-- `boundary_root_relative_path`. -/
def boundaryRootRelativePath (platform : Platform) (workingCopyRoot boundaryRoot : Text) :
    Option Text :=
  let workingCopyRoot := normalizeAbsolutePathText workingCopyRoot
  let boundaryRoot := normalizeAbsolutePathText boundaryRoot
  if isDescendantPathKey (foldCase platform boundaryRoot) (foldCase platform workingCopyRoot) then
    some (trimMatches (· = '/') (boundaryRoot.drop (workingCopyRoot.length + 1)))
  else none

/-- The loop of `repository_boundary_roots`: `index` numbers the roots and `seen` holds the keys
of the roots already kept. -/
def repositoryBoundaryRootsFrom (platform : Platform) (identity : RepositoryIdentity) :
    Nat → List Text → List Text → Except Text BoundaryRoots
  | _, _, [] => .ok .none
  | index, seen, boundaryRoot :: rest =>
    let field : Text := "boundaryRoots." ++ toString index
    match boundaryRootRelativePath platform identity.workingCopyRoot boundaryRoot with
    | none => .error field
    | some relativePath =>
      if hroot : validRepositoryRelativePath relativePath = true ∧ relativePath ≠ "." then
        let key := statusPathKey platform relativePath
        if key ∈ seen then
          repositoryBoundaryRootsFrom platform identity (index + 1) seen rest
        else do
          let roots ← repositoryBoundaryRootsFrom platform identity (index + 1) (key :: seen) rest
          .ok (roots.cons relativePath hroot)
      else .error field

/-- `repository_boundary_roots`. -/
def repositoryBoundaryRoots (platform : Platform) (identity : RepositoryIdentity)
    (boundaryRoots : List Text) : Except Text BoundaryRoots :=
  repositoryBoundaryRootsFrom platform identity 0 [] boundaryRoots

/-! ## Accepted paths -/

/-- What `valid_repository_relative_path` establishes about a path other than the root. -/
theorem validRepositoryRelativePath_iff {path : Text} (hdot : path ≠ ".") :
    validRepositoryRelativePath path = true ↔
      path.nonBlankRust = true ∧ ':' ∉ path.forwardSlashes ∧ '\x00' ∉ path.forwardSlashes ∧
        ∀ part ∈ path.forwardSlashes.splitOn '/', part ≠ [] ∧ part ≠ "." ∧ part ≠ ".." := by
  unfold validRepositoryRelativePath
  rw [if_neg hdot]
  constructor
  · intro h
    split at h
    · cases h
    rename_i hblank
    dsimp only at h
    split at h
    · cases h
    rename_i hchars
    push Not at hchars
    refine ⟨by simpa using hblank, hchars.2.1, hchars.2.2, ?_⟩
    intro part hpart
    have hall := List.all_eq_true.mp h part hpart
    simpa [and_assoc] using hall
  · rintro ⟨hblank, hcolon, hnul, hparts⟩
    have hhead := head?_ne_slash fun part hpart => (hparts part hpart).1
    rw [if_neg (by simp [hblank])]
    rw [if_neg (by simp [hhead, hcolon, hnul])]
    refine List.all_eq_true.mpr ?_
    intro part hpart
    simpa [and_assoc] using hparts part hpart

/-- An accepted path has no slash to trim, so its key only folds case. -/
theorem statusPathKey_of_valid (platform : Platform) {path : Text}
    (hvalid : validRepositoryRelativePath path = true) (hdot : path ≠ ".") :
    statusPathKey platform path = foldCase platform path.forwardSlashes := by
  obtain ⟨-, -, -, hparts⟩ := (validRepositoryRelativePath_iff hdot).mp hvalid
  unfold statusPathKey
  rw [trimMatches_slash_eq_self fun part hpart => (hparts part hpart).1]

/-! ## The working copy root -/

theorem toLower_eq_dot {c : Char} (h : c.toLower = '.') : c = '.' := by
  unfold Char.toLower at h
  split at h
  · rename_i hrange
    -- an upper-case letter is mapped to a lower-case one, never to the dot
    have hval : c.val + 32 = 46 := by simpa using congrArg Char.val h
    obtain ⟨hlow, hhigh⟩ := hrange
    rw [← UInt32.toNat_inj] at hval
    rw [ge_iff_le, UInt32.le_iff_toNat_le] at hlow
    rw [UInt32.le_iff_toNat_le] at hhigh
    simp at hval hlow hhigh
    omega
  · exact h

theorem foldCase_eq_dot {platform : Platform} {path : Text} (h : foldCase platform path = ".") :
    path = "." := by
  cases platform with
  | posix => exact h
  | windows =>
    have hmap : path.map Char.toLower = ['.'] := h
    obtain ⟨_, rfl, hc⟩ := List.map_eq_singleton_iff.mp hmap
    rw [toLower_eq_dot hc]
    rfl

/-- **The working copy root is in no nested working copy**, whatever boundary roots the session
was opened with. -/
theorem pathInsideBoundaryRoots_dot (platform : Platform) (boundaryRoots : BoundaryRoots) :
    pathInsideBoundaryRoots platform "." boundaryRoots = false := by
  have hkey : statusPathKey platform "." = "." := by cases platform <;> decide
  unfold pathInsideBoundaryRoots
  rw [hkey, List.any_eq_false]
  intro root hroot
  obtain ⟨hvalid, hdot⟩ := boundaryRoots.valid root hroot
  obtain ⟨-, -, -, hparts⟩ := (validRepositoryRelativePath_iff hdot).mp hvalid
  rw [statusPathKey_of_valid platform hvalid hdot]
  set rootKey := foldCase platform root.forwardSlashes with hrootKey
  have hne : (['.'] : Text) ≠ rootKey := by
    intro heq
    have hroot' : root.forwardSlashes = "." := foldCase_eq_dot heq.symm
    refine (hparts "." ?_).2.1 rfl
    rw [hroot']
    decide
  have hnonempty : rootKey ≠ [] := by
    intro hnil
    have hlen : root.forwardSlashes = [] := by
      cases platform with
      | posix => exact hnil
      | windows => exact List.map_eq_nil_iff.mp hnil
    refine (hparts [] ?_).1 rfl
    rw [hlen]
    simp
  have hdesc : isDescendantPathKey ['.'] rootKey = false := by
    unfold isDescendantPathKey
    split
    · rename_i hsuffix
      rw [stripPrefix_eq_some_iff] at hsuffix
      cases hk : rootKey with
      | nil => exact absurd hk hnonempty
      | cons c rest =>
        rw [hk, List.cons_append, List.cons.injEq] at hsuffix
        obtain ⟨-, hnil⟩ := hsuffix
        simp [(List.append_eq_nil_iff.mp hnil.symm).2]
    · rfl
  show ¬(decide (['.'] = rootKey) || isDescendantPathKey ['.'] rootKey) = true
  simp [hne, hdesc]

end SubversionR

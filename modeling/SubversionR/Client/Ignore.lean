import SubversionR.Client.DirtyPathSet

/-!
# Ignore — adding a selection to `svn:ignore`

`addToIgnore` of `repositoryCommandController.ts` writes the base name of each selected path as a
line of the property of its directory.  Subversion reads each line as an `fnmatch` pattern.

* **`ignored_addToIgnore`** — afterwards a directory ignores what it ignored before and what a
  selected name matches when it is read as a pattern.
* **`ignoresSelection_iff`** — when the selection and nothing else is added; a selection of plain
  names always is (`patternsFit_plain`).
* **`ignored_removeSvnIgnorePatterns`** — what is ignored after a removal.
-/

namespace SubversionR.Ignore

/-! ## The command -/

structure IgnoreTargetGroup where
  parentPath : Text
  patterns : List Text

structure IgnorePropertyUpdate where
  value : Text
  addedPatterns : List Text

def ignoreParentPath (path : Text) : Text := parentPath path

def ignorePatternForPath (path : Text) : Text := (path.reverse.takeWhile (· ≠ '/')).reverse

/-- One group for each directory, in the order of its first path. -/
def groupedIgnoreTargets (paths : List Text) : List IgnoreTargetGroup :=
  (paths.map ignoreParentPath).eraseDups.map fun parent =>
    ⟨parent, ((paths.filter (ignoreParentPath · = parent)).map ignorePatternForPath).eraseDups⟩

def addPattern (added : List Text × List Text) (pattern : Text) : List Text × List Text :=
  if pattern ∈ added.1 then added else (added.1 ++ [pattern], added.2 ++ [pattern])

def appendSvnIgnorePatterns (existingValue : Option Text) (patterns : List Text) :
    Option IgnorePropertyUpdate :=
  let lines := if existingValue.getD [] = [] then [] else (existingValue.getD []).splitOn '\n'
  let added := patterns.foldl addPattern (lines, [])
  if added.2.length > 0 then some ⟨['\n'].intercalate added.1, added.2⟩ else none

def updatedValue (existingValue : Option Text) (patterns : List Text) : Option Text :=
  match appendSvnIgnorePatterns existingValue patterns with
  | none => existingValue
  | some update => some update.value

/-- The `svn:ignore` properties of the directories after the command. -/
def addToIgnore (properties : Text → Option Text) (paths : List Text) : Text → Option Text :=
  (groupedIgnoreTargets paths).foldl (fun properties group =>
    Function.update properties group.parentPath
      (updatedValue (properties group.parentPath) group.patterns)) properties

/-! ## What a property ignores -/

/-- The lines of a property; an empty one is no pattern. -/
def patternLines (value : Text) : List Text :=
  (value.splitOnP fun c => c = '\n' || c = '\r').filter (· ≠ [])

/-- A character that is no part of the language of patterns and ends no line. -/
def plainChar (c : Char) : Bool := c ∉ ['*', '?', '[', ']', '!', '^', '-', '\\', '\n', '\r']

/-- The matcher of the APR library, called without flags.  It is not part of this code: of what it
does only three laws are assumed, and the results that need none hold for any matcher. -/
structure Fnmatch where
  accepts (pattern name : Text) : Bool
  /-- A pattern of plain characters matches itself only. -/
  accepts_plain : ∀ pattern name, pattern.all plainChar = true →
    (accepts pattern name = true ↔ name = pattern)
  /-- A final star matches whatever follows. -/
  accepts_star : ∀ start name, start.all plainChar = true →
    (accepts (start ++ ['*']) name = true ↔ start <+: name)
  /-- Brackets around one character match that character. -/
  accepts_bracket : ∀ c name, plainChar c = true →
    (accepts ['[', c, ']'] name = true ↔ name = [c])

section

variable (fnmatch : Fnmatch)

/-- A line of the text matches the name. -/
def Reads (text name : Text) : Prop :=
  ∃ line ∈ patternLines text, fnmatch.accepts line name = true

def Ignored (value : Option Text) (name : Text) : Prop := Reads fnmatch (value.getD []) name

end

variable {fnmatch : Fnmatch}

/-! ## The lines that are written -/

theorem reads_intercalate {lines : List Text} {name : Text} :
    Reads fnmatch (['\n'].intercalate lines) name ↔ ∃ line ∈ lines, Reads fnmatch line name := by
  have hlines : patternLines (['\n'].intercalate lines) = lines.flatMap patternLines := by
    induction lines with
    | nil => rfl
    | cons line rest ih =>
      cases rest with
      | nil => simp [List.intercalate]
      | cons next rest =>
        rw [List.flatMap_cons, ← ih, patternLines, List.intercalate, List.intersperse_cons_cons,
          List.flatten_cons, List.flatten_cons, List.singleton_append, List.splitOnP_append_cons,
          List.filter_append]
        · rfl
        · rfl
  simp only [Reads, hlines, List.mem_flatMap]
  tauto

/-- The loop adds the patterns that are not among the lines. -/
theorem foldl_addPattern (patterns lines added : List Text) :
    ∃ extra, patterns.foldl addPattern (lines, added) = (lines ++ extra, added ++ extra) ∧
      ∀ p, p ∈ lines ++ extra ↔ p ∈ lines ∨ p ∈ patterns := by
  induction patterns generalizing lines added with
  | nil => exact ⟨[], by simp, by simp⟩
  | cons pattern rest ih =>
    rw [List.foldl_cons, addPattern]
    split
    · obtain ⟨extra, hfold, hextra⟩ := ih lines added
      refine ⟨extra, hfold, fun p => ?_⟩
      by_cases hp : p = pattern <;> simp_all
    · obtain ⟨extra, hfold, hextra⟩ := ih (lines ++ [pattern]) (added ++ [pattern])
      refine ⟨pattern :: extra, by simpa using hfold, fun p => ?_⟩
      simpa [or_assoc] using hextra p

theorem ignored_updatedValue {value : Option Text} {patterns : List Text} {name : Text} :
    Ignored fnmatch (updatedValue value patterns) name ↔
      Ignored fnmatch value name ∨ ∃ pattern ∈ patterns, Reads fnmatch pattern name := by
  unfold updatedValue appendSvnIgnorePatterns
  dsimp only
  generalize hlines : (if value.getD [] = [] then [] else (value.getD []).splitOn '\n') = lines
  have hvalue : ['\n'].intercalate lines = value.getD [] := by
    rw [← hlines]
    split
    · exact (by assumption : value.getD [] = []).symm
    · exact List.intercalate_splitOn '\n'
  obtain ⟨extra, hfold, hextra⟩ := foldl_addPattern patterns lines []
  rw [hfold]
  have hall : Reads fnmatch (['\n'].intercalate (lines ++ extra)) name ↔
      Ignored fnmatch value name ∨ ∃ pattern ∈ patterns, Reads fnmatch pattern name := by
    rw [Ignored, ← hvalue, reads_intercalate, reads_intercalate]
    simp only [hextra, or_and_right, exists_or]
  cases extra with
  | nil => simpa [Ignored, hvalue] using hall
  | cons p extra => simpa [Ignored] using hall

theorem groupedIgnoreTargets_siblings {paths : List Text} {directory : Text} (hne : paths ≠ [])
    (hsiblings : ∀ path ∈ paths, ignoreParentPath path = directory) :
    groupedIgnoreTargets paths = [⟨directory, (paths.map ignorePatternForPath).eraseDups⟩] := by
  have hparents : (paths.map ignoreParentPath).eraseDups = [directory] := by
    obtain ⟨path, rest, rfl⟩ := List.exists_cons_of_ne_nil hne
    rw [List.map_cons, hsiblings path List.mem_cons_self, List.eraseDups_cons,
      List.filter_eq_nil_iff.mpr]
    · rfl
    · intro parent hparent
      obtain ⟨other, hother, rfl⟩ := List.mem_map.mp hparent
      simp [hsiblings other (List.mem_cons_of_mem _ hother)]
  rw [groupedIgnoreTargets, hparents, List.map_singleton,
    List.filter_eq_self.mpr fun path hpath => decide_eq_true (hsiblings path hpath)]

section

variable {properties : Text → Option Text} {paths : List Text} {directory : Text}

theorem ignored_addToIgnore (hne : paths ≠ [])
    (hsiblings : ∀ path ∈ paths, ignoreParentPath path = directory) {name : Text} :
    Ignored fnmatch (addToIgnore properties paths directory) name ↔
      Ignored fnmatch (properties directory) name ∨
        ∃ pattern ∈ paths.map ignorePatternForPath, Reads fnmatch pattern name := by
  rw [addToIgnore, groupedIgnoreTargets_siblings hne hsiblings, List.foldl_cons, List.foldl_nil,
    Function.update_self, ignored_updatedValue]
  simp only [List.mem_eraseDups]

/-- The names are ignored, another one is not unless it was, and what was ignored still is. -/
def IgnoresSelection (fnmatch : Fnmatch) (before after : Option Text) (names : List Text)
    (other : Text) : Prop :=
  (∀ name ∈ names, Ignored fnmatch after name) ∧
    (¬ Ignored fnmatch before other → other ∉ names → ¬ Ignored fnmatch after other) ∧
    ∀ name, Ignored fnmatch before name → Ignored fnmatch after name

/-- Each name is matched by a line of the property or by a name read as a pattern, and no name read
as a pattern matches another one that was not ignored. -/
def PatternsFit (fnmatch : Fnmatch) (before : Option Text) (names : List Text) (other : Text) :
    Prop :=
  (∀ name ∈ names, Ignored fnmatch before name ∨ ∃ pattern ∈ names, Reads fnmatch pattern name) ∧
    (¬ Ignored fnmatch before other → other ∉ names →
      ∀ pattern ∈ names, ¬ Reads fnmatch pattern other)

/-- **The command ignores the selection and nothing else exactly when the selected names fit as
patterns.** -/
theorem ignoresSelection_iff (fnmatch : Fnmatch) (hne : paths ≠ [])
    (hsiblings : ∀ path ∈ paths, ignoreParentPath path = directory) (other : Text) :
    IgnoresSelection fnmatch (properties directory) (addToIgnore properties paths directory)
        (paths.map ignorePatternForPath) other ↔
      PatternsFit fnmatch (properties directory) (paths.map ignorePatternForPath) other := by
  unfold IgnoresSelection PatternsFit
  simp only [ignored_addToIgnore hne hsiblings]
  refine and_congr_right fun _ => ⟨fun h hbefore hnot pattern hpattern hreads => ?_, fun h => ?_⟩
  · exact h.1 hbefore hnot (.inr ⟨pattern, hpattern, hreads⟩)
  · refine ⟨fun hbefore hnot => ?_, fun name => .inl⟩
    rintro (hignored | ⟨pattern, hpattern, hreads⟩)
    · exact hbefore hignored
    · exact h hbefore hnot pattern hpattern hreads

end

/-! ## Names without special characters -/

theorem reads_plain {pattern name : Text} (hne : pattern ≠ [])
    (h : pattern.all plainChar = true) : Reads fnmatch pattern name ↔ name = pattern := by
  have hlines : patternLines pattern = [pattern] := by
    rw [patternLines, List.splitOnP_eq_singleton fun c hc => ?_]
    · simp [hne]
    · -- no plain character ends a line
      have hplain := List.all_eq_true.mp h c hc
      simp_all [plainChar]
  simp [Reads, hlines, fnmatch.accepts_plain pattern name h]

/-- A selection of plain names fits. -/
theorem patternsFit_plain {before : Option Text} {names : List Text} {other : Text}
    (h : ∀ name ∈ names, name ≠ [] ∧ name.all plainChar = true) :
    PatternsFit fnmatch before names other := by
  refine ⟨fun name hname => .inr ⟨name, hname, (reads_plain (h name hname).1 (h name hname).2).mpr
    rfl⟩, fun _ hother pattern hpattern hreads => hother ?_⟩
  rwa [(reads_plain (h pattern hpattern).1 (h pattern hpattern).2).mp hreads]

/-! ## Removing a selection -/

structure IgnorePropertyRemoval where
  value : Option Text
  removedPatterns : List Text

def removeSvnIgnorePatterns (existingValue : Option Text) (patterns : List Text) :
    Option IgnorePropertyRemoval :=
  if existingValue.getD [] = [] then none
  else
    let lines := (existingValue.getD []).splitOn '\n'
    let removedPatterns := (lines.filter (· ∈ patterns)).eraseDups
    let remaining := lines.filter (· ∉ patterns)
    if removedPatterns.length > 0 then
      some ⟨if remaining.any (·.length > 0) then some (['\n'].intercalate remaining) else none,
        removedPatterns⟩
    else none

theorem not_reads_nil {name : Text} : ¬ Reads fnmatch [] name := by simp [Reads, patternLines]

/-- **A removal leaves the other lines in force.**  Afterwards a property ignores what a line that
is not one of the patterns matches. -/
theorem ignored_removeSvnIgnorePatterns (fnmatch : Fnmatch) (existingValue : Option Text)
    (patterns : List Text) (name : Text) :
    Ignored fnmatch ((removeSvnIgnorePatterns existingValue patterns).elim existingValue (·.value))
        name ↔
      ∃ line ∈ (existingValue.getD []).splitOn '\n', line ∉ patterns ∧ Reads fnmatch line name := by
  unfold removeSvnIgnorePatterns
  generalize hvalue : existingValue.getD [] = value
  have hlines := @reads_intercalate fnmatch (value.splitOn '\n') name
  rw [List.intercalate_splitOn] at hlines
  by_cases hempty : value = []
  · simp [Ignored, hvalue, hempty, not_reads_nil]
  rw [if_neg hempty]
  dsimp only
  by_cases hkept : ∀ line ∈ value.splitOn '\n', line ∉ patterns
  · -- nothing is removed
    rw [List.filter_eq_nil_iff.mpr (by simpa using hkept)]
    rw [List.eraseDups_nil, List.length_nil, if_neg (Nat.lt_irrefl 0), Option.elim_none, Ignored,
      hvalue, hlines]
    grind
  · push Not at hkept
    obtain ⟨line, hline, hmem⟩ := hkept
    rw [if_pos (List.length_pos_of_mem (a := line) (by simp [hline, hmem]))]
    rw [Option.elim_some, Ignored]
    split
    · simp [reads_intercalate, and_assoc]
    · -- the lines that remain are empty
      rename_i hblank
      refine iff_of_false not_reads_nil ?_
      rintro ⟨line, hline, hnot, hreads⟩
      cases line with
      | nil => exact not_reads_nil hreads
      | cons c line =>
        exact hblank (List.any_eq_true.mpr ⟨c :: line, by simp [hline, hnot], by simp⟩)

end SubversionR.Ignore

namespace SubversionR.IgnoreExample

open Ignore

/-- A matcher that reads the patterns of the three laws and no others. -/
def matcher : Fnmatch where
  accepts pattern name :=
    if pattern.all plainChar then name = pattern
    else if pattern.getLast? = some '*' ∧ pattern.dropLast.all plainChar then
      pattern.dropLast.isPrefixOf name
    else match pattern with
      | ['[', c, ']'] => name = [c]
      | _ => false
  accepts_plain pattern name h := by simp [h]
  accepts_star start name h := by
    have hstar : ¬ (start ++ ['*']).all plainChar = true := by simp [plainChar]
    simp [hstar, h]
  accepts_bracket c name h := by
    have hbracket : ¬ ['[', c, ']'].all plainChar = true := by simp [plainChar]
    simp [hbracket]

/-- Selecting `a.txt` ignores it and not `b.txt`. -/
theorem plain_selection_ignored :
    IgnoresSelection matcher (some "*.o") (addToIgnore (fun _ => some "*.o") ["src/a.txt"] "src")
      ["a.txt"] "b.txt" :=
  (@ignoresSelection_iff (fun _ => some "*.o") ["src/a.txt"] "src" matcher (by decide) (by decide)
    "b.txt").mpr (patternsFit_plain (by decide))

/-- Selecting `a*` also ignores `ab`, and selecting `[b]` does not ignore it, whatever else the
matcher does. -/
theorem names_are_patterns :
    (¬ ∃ fnmatch : Fnmatch, IgnoresSelection fnmatch none (addToIgnore (fun _ => none) ["a*"] ".")
      ["a*"] "ab") ∧
    ¬ ∃ fnmatch : Fnmatch, IgnoresSelection fnmatch none (addToIgnore (fun _ => none) ["[b]"] ".")
      ["[b]"] "c" := by
  constructor
  · rintro ⟨fnmatch, h⟩
    refine h.2.1 not_reads_nil (by decide) ⟨"a*", by decide, ?_⟩
    exact (fnmatch.accepts_star "a" "ab" (by decide)).mpr (by decide)
  · rintro ⟨fnmatch, h⟩
    obtain ⟨line, hline, hmatch⟩ := h.1 "[b]" (by decide)
    cases (List.mem_singleton.mp hline : line = "[b]")
    exact absurd ((fnmatch.accepts_bracket 'b' "[b]" (by decide)).mp hmatch) (by decide)

end SubversionR.IgnoreExample

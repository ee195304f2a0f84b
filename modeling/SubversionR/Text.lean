import Mathlib

/-!
# Text — the string operations both sides use

Strings are lists of characters.  The daemon (Rust) and the extension (TypeScript) share most
string operations, but not the notion of white space: `str::trim` drops the characters with the
Unicode `White_Space` property, `String.prototype.trim` the ECMAScript white space and line
terminators.  Each therefore has its own predicate here.
-/

namespace SubversionR

/-- A string, as the list of its characters. -/
abbrev Text : Type := List Char

instance : Coe String Text := ⟨String.toList⟩

instance : LawfulBEq Text := inferInstance

namespace Text

/-- `char::is_whitespace`: the Unicode `White_Space` property. -/
def rustWhitespace (c : Char) : Bool :=
  let n := c.toNat
  (9 ≤ n && n ≤ 13) || n == 32 || n == 0x85 || n == 0xA0 || n == 0x1680
    || (0x2000 ≤ n && n ≤ 0x200A) || n == 0x2028 || n == 0x2029 || n == 0x202F
    || n == 0x205F || n == 0x3000

/-- The characters `String.prototype.trim` drops. -/
def jsWhitespace (c : Char) : Bool :=
  let n := c.toNat
  (9 ≤ n && n ≤ 13) || n == 32 || n == 0xA0 || n == 0x1680
    || (0x2000 ≤ n && n ≤ 0x200A) || n == 0x2028 || n == 0x2029 || n == 0x202F
    || n == 0x205F || n == 0x3000 || n == 0xFEFF

/-- Drop the characters that satisfy `p` from the end of a text. -/
def trimEndMatches (p : Char → Bool) (t : Text) : Text := (t.reverse.dropWhile p).reverse

/-- Drop the characters that satisfy `p` from both ends of a text. -/
def trimMatches (p : Char → Bool) (t : Text) : Text := trimEndMatches p (t.dropWhile p)

/-- `!text.trim().is_empty()` in the daemon. -/
def nonBlankRust (t : Text) : Bool := !(trimMatches rustWhitespace t).isEmpty

/-- `text.trim().length > 0` in the extension. -/
def nonBlankJs (t : Text) : Bool := !(trimMatches jsWhitespace t).isEmpty

/-- `text.replace('\\', "/")`. -/
def forwardSlashes (t : Text) : Text := t.map fun c => if c = '\\' then '/' else c

/-- `text.to_ascii_lowercase()`. -/
def toAsciiLowercase (t : Text) : Text := t.map Char.toLower

/-- The bytes of a text in UTF-8. -/
def utf8 (t : Text) : List UInt8 := t.flatMap String.utf8EncodeChar

/-- The UTF-16 code units of a character. -/
def utf16Units (c : Char) : List Nat :=
  if c.toNat < 0x10000 then [c.toNat]
  else [0xD800 + (c.toNat - 0x10000) / 0x400, 0xDC00 + (c.toNat - 0x10000) % 0x400]

def utf16 (t : Text) : List Nat := t.flatMap utf16Units

/-- `text.strip_prefix(lead)`. -/
def stripPrefix (lead t : Text) : Option Text :=
  if lead.isPrefixOf t then some (t.drop lead.length) else none

/-! ## Blank texts -/

variable {p : Char → Bool} {t : Text}

theorem trimEndMatches_eq_nil_iff : trimEndMatches p t = [] ↔ ∀ c ∈ t, p c = true := by
  simp [trimEndMatches, List.dropWhile_eq_nil_iff]

theorem trimEndMatches_concat (p : Char → Bool) (t : Text) (c : Char) :
    trimEndMatches p (t ++ [c]) = if p c then trimEndMatches p t else t ++ [c] := by
  unfold trimEndMatches
  rw [List.reverse_append, List.reverse_singleton, List.singleton_append, List.dropWhile_cons]
  split
  · rfl
  · simp

theorem trimMatches_eq_nil_iff : trimMatches p t = [] ↔ ∀ c ∈ t, p c = true := by
  unfold trimMatches
  rw [trimEndMatches_eq_nil_iff]
  constructor
  · intro h
    -- what the first pass leaves starts with a character outside `p`, so it left nothing
    have hnil : t.dropWhile p = [] := by
      cases hd : t.dropWhile p with
      | nil => rfl
      | cons c rest =>
        have hc : p c = true := h c (by rw [hd]; exact List.mem_cons_self)
        have hnot := List.head_dropWhile_not p (l := t) (by rw [hd]; simp)
        simp only [hd, List.head_cons] at hnot
        rw [hc] at hnot
        cases hnot
    exact List.dropWhile_eq_nil_iff.mp hnil
  · intro h c hc
    exact h c ((List.dropWhile_sublist p).subset hc)

theorem nonBlankRust_iff : nonBlankRust t = true ↔ ∃ c ∈ t, rustWhitespace c = false := by
  have h := trimMatches_eq_nil_iff (p := rustWhitespace) (t := t)
  simp only [nonBlankRust, Bool.not_eq_true', List.isEmpty_eq_false_iff, ne_eq, h]
  simp

/-- A text with no `p` character at either end is left alone. -/
theorem trimMatches_eq_self (hhead : ∀ c ∈ t.head?, p c = false)
    (hlast : ∀ c ∈ t.getLast?, p c = false) :
    trimMatches p t = t := by
  have hstart : t.dropWhile p = t := by
    cases t with
    | nil => rfl
    | cons c rest =>
      have hc : p c = false := hhead c (by simp)
      rw [List.dropWhile_cons_of_neg (by simp [hc])]
  unfold trimMatches trimEndMatches
  rw [hstart]
  cases hr : t.reverse with
  | nil => simpa using hr.symm
  | cons c rest =>
    have hc : p c = false := by
      refine hlast c ?_
      have : t.getLast? = t.reverse.head? := by simp
      rw [this, hr]
      rfl
    rw [List.dropWhile_cons_of_neg (by simp [hc]), ← hr, List.reverse_reverse]

/-! ## Slashes and prefixes -/

@[simp]
theorem forwardSlashes_nil : forwardSlashes [] = [] := rfl

theorem forwardSlashes_of_notMem (h : '\\' ∉ t) : forwardSlashes t = t := by
  refine (List.map_congr_left ?_).trans (List.map_id t)
  intro c hc
  have hne : c ≠ '\\' := fun heq => h (heq ▸ hc)
  simp [hne]

theorem stripPrefix_eq_some_iff {lead rest : Text} :
    stripPrefix lead t = some rest ↔ t = lead ++ rest := by
  unfold stripPrefix
  split
  · rename_i h
    obtain ⟨s, rfl⟩ := List.isPrefixOf_iff_prefix.mp h
    simp
  · rename_i h
    simp only [reduceCtorEq, false_iff]
    intro heq
    exact h (List.isPrefixOf_iff_prefix.mpr ⟨rest, heq.symm⟩)

/-! ## Path components -/

section

variable (h : ∀ part ∈ t.splitOn '/', part ≠ [])

include h

/-- A text whose components are all non-empty does not start with a slash. -/
theorem head?_ne_slash : t.head? ≠ some '/' := by
  intro hhead
  obtain ⟨rest, rfl⟩ := List.head?_eq_some_iff.mp hhead
  have hnil : ([] : Text) ∈ ([] ++ '/' :: rest).splitOn '/' := by
    rw [List.splitOn_append_cons_self]
    simp
  exact h [] hnil rfl

/-- A text whose components are all non-empty does not end in a slash. -/
theorem getLast?_ne_slash : t.getLast? ≠ some '/' := by
  intro hlast
  obtain ⟨front, rfl⟩ := List.getLast?_eq_some_iff.mp hlast
  have hnil : ([] : Text) ∈ (front ++ ['/']).splitOn '/' := by
    rw [List.splitOn_append_cons_self]
    simp
  exact h [] hnil rfl

/-- Trimming slashes leaves a text alone whose components are all non-empty. -/
theorem trimMatches_slash_eq_self : trimMatches (· = '/') t = t := by
  refine trimMatches_eq_self ?_ ?_
  · intro c hc
    have hne := head?_ne_slash h
    rw [Option.mem_def.mp hc] at hne
    simpa using hne
  · intro c hc
    have hne := getLast?_ne_slash h
    rw [Option.mem_def.mp hc] at hne
    simpa using hne

end

end Text

end SubversionR

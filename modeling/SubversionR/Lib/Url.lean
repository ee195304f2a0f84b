import SubversionR.Lib.IpText

/-!
# The URL parser of the URL Standard

`parseUrl` is `new URL(input)` with no base: it strips and drops the characters the standard
ignores, reads the scheme, the authority with its credentials, host and port, and keeps query and
fragment as they stand.  A host is written the way the standard serializes it.

What rests on Unicode tables is a parameter: `Unicode` has the functions and what holds of them on
ASCII texts, where the tables play no part.

* `parseHost_bracket` — only an IPv6 address is written in brackets, in its compressed form;
* `parseUrl_of_plain` — a URL whose scheme is in lower case and whose authority is made of plain
  characters is split where it looks split.
-/

namespace UrlStandard

open IpText

/-! ## Hosts -/

def lower (t : List Char) : List Char := t.map Char.toLower

/-- A text of ASCII characters. -/
def isAscii (t : List Char) : Bool := t.all fun c => c.toNat < 128

/-- A label in the form of encoded Unicode. -/
def isPunycode (label : List Char) : Bool := "xn--".toList.isPrefixOf (lower label)

/-- What a runtime brings along: percent-decoding followed by lossy UTF-8 decoding, and "domain to
ASCII".  The second lower-cases an ASCII domain; it may refuse one with encoded labels. -/
structure Unicode where
  percentDecode : List Char → List Char
  toAscii : List Char → Option (List Char)
  percentDecode_of_notMem : ∀ {t}, '%' ∉ t → percentDecode t = t
  toAscii_of_plain : ∀ {domain}, isAscii domain = true →
    (domain.splitOn '.').all (fun label => !isPunycode label) = true →
    toAscii domain = some (lower domain)
  eq_lower_of_toAscii : ∀ {domain result}, isAscii domain = true →
    toAscii domain = some result → result = lower domain

/-- The forbidden host code points. -/
def forbiddenHost (c : Char) : Bool :=
  c.toNat == 0 || c.toNat == 9 || c.toNat == 10 || c.toNat == 13 || c == ' ' || c == '#' || c == '/'
    || c == ':' || c == '<' || c == '>' || c == '?' || c == '@' || c == '[' || c == '\\' || c == ']'
    || c == '^' || c == '|'

/-- The forbidden domain code points. -/
def forbiddenDomain (c : Char) : Bool :=
  forbiddenHost c || c.toNat < 32 || c == '%' || c.toNat == 127

/-- UTF-8 percent-encoding with the C0 control set. -/
def encodeControls (t : List Char) : List Char :=
  t.flatMap fun c =>
    if c.toNat < 32 || 126 < c.toNat then
      (String.utf8EncodeChar c).flatMap fun byte =>
        ['%', (Nat.digitChar (byte.toNat / 16)).toUpper, (Nat.digitChar (byte.toNat % 16)).toUpper]
    else [c]

/-- The host parser, followed by the host serializer. -/
def parseHost (unicode : Unicode) (special : Bool) (input : List Char) : Option (List Char) :=
  if input.head? = some '[' then
    if input.getLast? = some ']' then
      (whatwgIpv6 input.tail.dropLast).map fun pieces => '[' :: compressIpv6 pieces ++ [']']
    else none
  else if special then
    match unicode.toAscii (unicode.percentDecode input) with
    | none => none
    | some domain =>
      if domain = [] ∨ domain.any forbiddenDomain then none
      else if endsInANumber domain then
        (whatwgIpv4 domain).map fun address => dotted (octetsOf address)
      else some domain
  else if input.any forbiddenHost then none
  else some (encodeControls input)

/-! ## URLs -/

/-- The parts of a URL a reader may ask for; an absent host, query or fragment is empty. -/
structure Url where
  scheme : List Char
  username : List Char
  password : List Char
  hostname : List Char
  port : Option Nat
  query : List Char
  fragment : List Char

/-- The special schemes with their ports; `file` has none. -/
def specialPorts : List (List Char × Option Nat) :=
  [("ftp".toList, some 21), ("file".toList, none), ("http".toList, some 80),
    ("https".toList, some 443), ("ws".toList, some 80), ("wss".toList, some 443)]

def isSpecial (scheme : List Char) : Bool := specialPorts.any fun entry => entry.1 == scheme

def defaultPort (scheme : List Char) : Option Nat := (specialPorts.lookup scheme).join

/-- A C0 control or a space. -/
def isStripped (c : Char) : Bool := c.toNat ≤ 32

/-- A tab or a line end. -/
def isDropped (c : Char) : Bool := c.toNat == 9 || c.toNat == 10 || c.toNat == 13

/-- The input without what is stripped at its ends and dropped inside. -/
def clean (input : List Char) : List Char :=
  (((input.dropWhile isStripped).reverse.dropWhile isStripped).reverse).filter (! isDropped ·)

def isSchemeChar (c : Char) : Bool := c.isAlphanum || c == '+' || c == '-' || c == '.'

/-- Scheme start and scheme state. -/
def readScheme (t : List Char) : Option (List Char × List Char) :=
  match t.dropWhile isSchemeChar with
  | ':' :: rest => if t.head?.any Char.isAlpha then some (lower (t.takeWhile isSchemeChar), rest)
    else none
  | _ => none

def isSlash (c : Char) : Bool := c == '/' || c == '\\'

/-- Where an authority ends. -/
def endsAuthority (special : Bool) (c : Char) : Bool :=
  c == '/' || c == '?' || c == '#' || (special && c == '\\')

/-- The text before and behind the last occurrence of a character. -/
def splitLast (mark : Char) : List Char → Option (List Char × List Char)
  | [] => none
  | c :: rest =>
    match splitLast mark rest with
    | some (front, behind) => some (c :: front, behind)
    | none => if c = mark then some ([], rest) else none

/-- Host state: the host ends at the first colon outside brackets. -/
def splitHost : Bool → List Char → List Char × Option (List Char)
  | _, [] => ([], none)
  | inside, c :: rest =>
    if c = ':' ∧ inside = false then ([], some rest)
    else
      let split := splitHost (if c = '[' then true else if c = ']' then false else inside) rest
      (c :: split.1, split.2)

/-- Port state; the default port of the scheme counts as none. -/
def parsePort (scheme : List Char) : Option (List Char) → Option (Option Nat)
  | none => some none
  | some digits =>
    if ¬ digits.all Char.isDigit then none
    else if digits = [] then some none
    else
      let port := decimalValue digits
      if 65535 < port then none
      else if defaultPort scheme = some port then some none
      else some (some port)

/-- Path, query and fragment state: what follows the first `?` before a `#`, and the first `#`. -/
def splitTail (t : List Char) : List Char × List Char :=
  let front := t.takeWhile (· != '#')
  ((front.dropWhile (· != '?')).tail, (t.dropWhile (· != '#')).tail)

/-- A URL with the given scheme and host; `tail` is what follows the authority. -/
def Url.ofParts (scheme username password hostname : List Char) (port : Option Nat)
    (tail : List Char) : Url :=
  ⟨scheme, username, password, hostname, port, (splitTail tail).1, (splitTail tail).2⟩

/-- Host and port state. -/
def parseHostPort (unicode : Unicode) (scheme username password hostPort tail : List Char) :
    Option Url :=
  let host := (splitHost false hostPort).1
  let port := (splitHost false hostPort).2
  if host = [] ∧ (isSpecial scheme ∨ port.isSome) then none
  else
    (parseHost unicode (isSpecial scheme) host).bind fun hostname =>
      (parsePort scheme port).map fun port =>
        Url.ofParts scheme username password hostname port tail

/-- Authority state.  The credentials stand before the last `@`. -/
def parseAuthority (unicode : Unicode) (scheme t : List Char) : Option Url :=
  let authority := t.takeWhile (! endsAuthority (isSpecial scheme) ·)
  let tail := t.dropWhile (! endsAuthority (isSpecial scheme) ·)
  match splitLast '@' authority with
  | none => parseHostPort unicode scheme [] [] authority tail
  | some (credentials, hostPort) =>
    if hostPort = [] then none
    else
      parseHostPort unicode scheme (credentials.takeWhile (· != ':'))
        (credentials.dropWhile (· != ':')).tail hostPort tail

/-- A drive letter in the place of a host. -/
def isDriveLetter : List Char → Bool
  | [letter, mark] => letter.isAlpha && (mark == ':' || mark == '|')
  | _ => false

/-- File, file slash and file host state. -/
def parseFile (unicode : Unicode) (t : List Char) : Option Url :=
  let file (hostname tail : List Char) : Url := Url.ofParts "file".toList [] [] hostname none tail
  if t.head?.any isSlash ∧ t.tail.head?.any isSlash then
    let host := (t.drop 2).takeWhile (! endsAuthority true ·)
    let tail := (t.drop 2).dropWhile (! endsAuthority true ·)
    if host = [] ∨ isDriveLetter host then some (file [] tail)
    else
      (parseHost unicode true host).map fun hostname =>
        file (if hostname = "localhost".toList then [] else hostname) tail
  else some (file [] t)

/-- `new URL(input)`. -/
def parseUrl (unicode : Unicode) (input : List Char) : Option Url :=
  match readScheme (clean input) with
  | none => none
  | some (scheme, rest) =>
    if scheme = "file".toList then parseFile unicode rest
    else if isSpecial scheme then parseAuthority unicode scheme (rest.dropWhile isSlash)
    else
      match rest with
      | '/' :: '/' :: rest => parseAuthority unicode scheme rest
      | _ => some (Url.ofParts scheme [] [] [] none rest)

/-! ## Where a bracketed host comes from -/

variable {input : List Char} {c : Char}

theorem head?_encodeControls (h : c ≠ '%') (hhead : (encodeControls input).head? = some c) :
    input.head? = some c := by
  cases input with
  | nil => cases hhead
  | cons d rest =>
    unfold encodeControls at hhead
    rw [List.flatMap_cons] at hhead
    split at hhead
    · -- an encoded character starts with a percent sign
      cases hbytes : String.utf8EncodeChar d with
      | nil => exact absurd hbytes String.utf8EncodeChar_ne_nil
      | cons byte bytes =>
        rw [hbytes] at hhead
        have heq : '%' = c := by simpa using hhead
        exact absurd heq.symm h
    · simpa using hhead

variable {unicode : Unicode}

/-- Only IPv6 addresses are written in brackets. -/
theorem parseHost_bracket {special : Bool} {hostname : List Char}
    (h : parseHost unicode special input = some hostname) (hhead : hostname.head? = some '[') :
    ∃ pieces, IsIpv6 pieces ∧ hostname = '[' :: compressIpv6 pieces ++ [']'] := by
  unfold parseHost at h
  split at h
  · split at h
    · obtain ⟨pieces, hpieces, rfl⟩ := Option.map_eq_some_iff.mp h
      rw [whatwgIpv6_eq_parseIpv6] at hpieces
      exact ⟨pieces, (parseIpv6_spec hpieces).1, rfl⟩
    · cases h
  · rename_i hbracket
    split at h
    · split at h
      · cases h
      rename_i domain _
      split at h
      · cases h
      rename_i hgood
      split at h
      · obtain ⟨address, -, rfl⟩ := Option.map_eq_some_iff.mp h
        have hmem : '[' ∈ dotted (octetsOf address) := List.mem_of_mem_head? hhead
        rcases mem_dotted hmem with hdigit | heq
        · exact absurd hdigit (by decide)
        · exact absurd heq (by decide)
      · obtain rfl := Option.some.inj h
        have hany : domain.any forbiddenDomain = true :=
          List.any_eq_true.mpr ⟨'[', List.mem_of_mem_head? hhead, by decide⟩
        exact absurd (Or.inr hany) hgood
    · split at h
      · cases h
      · obtain rfl := Option.some.inj h
        exact absurd (head?_encodeControls (by decide) hhead) hbracket

variable {scheme : List Char} {url : Url}

theorem parseHostPort_hostname {username password hostPort tail : List Char}
    (h : parseHostPort unicode scheme username password hostPort tail = some url) :
    ∃ special host, parseHost unicode special host = some url.hostname := by
  unfold parseHostPort at h
  dsimp only at h
  split at h
  · cases h
  obtain ⟨hostname, hhost, h⟩ := Option.bind_eq_some_iff.mp h
  obtain ⟨_, -, rfl⟩ := Option.map_eq_some_iff.mp h
  exact ⟨_, _, hhost⟩

theorem parseAuthority_hostname {t : List Char} (h : parseAuthority unicode scheme t = some url) :
    ∃ special host, parseHost unicode special host = some url.hostname := by
  unfold parseAuthority at h
  dsimp only at h
  split at h
  · exact parseHostPort_hostname h
  split at h
  · cases h
  · exact parseHostPort_hostname h

/-- The host of a URL is empty or was parsed as one. -/
theorem parseUrl_hostname (h : parseUrl unicode input = some url) (hne : url.hostname ≠ []) :
    ∃ special host, parseHost unicode special host = some url.hostname := by
  unfold parseUrl at h
  split at h
  · cases h
  split at h
  · unfold parseFile at h
    dsimp only at h
    split at h
    · split at h
      · obtain rfl := Option.some.inj h
        exact absurd rfl hne
      · obtain ⟨hostname, hhost, rfl⟩ := Option.map_eq_some_iff.mp h
        split at hne
        · exact absurd rfl hne
        rename_i hlocal
        rw [if_neg hlocal]
        exact ⟨_, _, hhost⟩
    · obtain rfl := Option.some.inj h
      exact absurd rfl hne
  · split at h
    · exact parseAuthority_hostname h
    split at h
    · exact parseAuthority_hostname h
    · obtain rfl := Option.some.inj h
      exact absurd rfl hne

/-! ## Plain URLs -/

/-- A character the parser neither drops nor reads as anything but itself: printable ASCII except
`%`, `@` and the backslash. -/
def isPlain (c : Char) : Bool := 32 < c.toNat && c.toNat < 127 && c != '%' && c != '@' && c != '\\'

theorem isPlain_iff :
    isPlain c = true ↔ 32 < c.toNat ∧ c.toNat < 127 ∧ c ≠ '%' ∧ c ≠ '@' ∧ c ≠ '\\' := by
  simp [isPlain, and_assoc]

/-- Where every reader sees the end of an authority. -/
def isDelimiter (c : Char) : Bool := c == '/' || c == '?' || c == '#'

variable {front : List Char}

/-- Stripping the end of a text stops at a character that is kept. -/
theorem strip_end (hc : isStripped c = false) (t : List Char) :
    (((front ++ [c]) ++ t).reverse.dropWhile isStripped).reverse
      = (front ++ [c]) ++ (t.reverse.dropWhile isStripped).reverse := by
  have hkeep : (front ++ [c]).reverse.dropWhile isStripped = (front ++ [c]).reverse := by
    rw [List.reverse_append, List.reverse_singleton, List.singleton_append,
      List.dropWhile_cons_of_neg (by simp [hc])]
  rw [List.reverse_append, List.dropWhile_append]
  split
  · rename_i hempty
    rw [hkeep, List.isEmpty_iff.mp hempty]
    simp
  · simp

/-- A text that starts with a kept character and in which nothing is dropped keeps its front. -/
theorem clean_append (hhead : ∀ d ∈ (front ++ [c]).head?, isStripped d = false)
    (hc : isStripped c = false) (hdrop : ∀ d ∈ front ++ [c], isDropped d = false) (t : List Char) :
    clean ((front ++ [c]) ++ t)
      = (front ++ [c]) ++ ((t.reverse.dropWhile isStripped).reverse.filter (! isDropped ·)) := by
  have hstart : ((front ++ [c]) ++ t).dropWhile isStripped = (front ++ [c]) ++ t := by
    cases hfront : front ++ [c] with
    | nil => simp at hfront
    | cons d rest =>
      have hd : isStripped d = false := hhead d (by rw [hfront]; rfl)
      rw [List.cons_append, List.dropWhile_cons_of_neg (by simp [hd])]
  unfold clean
  rw [hstart, strip_end hc, List.filter_append]
  congr 1
  refine List.filter_eq_self.mpr fun d hd => ?_
  simp [hdrop d hd]

/-- A scheme written the way the parser keeps it. -/
structure PlainScheme (scheme : List Char) : Prop where
  head : scheme.head?.any Char.isAlpha = true
  chars : ∀ c ∈ scheme, isSchemeChar c = true
  lower : lower scheme = scheme
  not_file : scheme ≠ "file".toList

theorem lt_toNat_of_isSchemeChar (h : isSchemeChar c = true) : 32 < c.toNat := by
  simp only [isSchemeChar, Char.isAlphanum, Char.isAlpha, Char.isUpper, Char.isLower, Char.isDigit,
    Bool.or_eq_true, Bool.and_eq_true, decide_eq_true_eq, beq_iff_eq, UInt32.le_iff_toNat_le,
    ge_iff_le] at h
  change (((((65 ≤ c.toNat ∧ c.toNat ≤ 90) ∨ (97 ≤ c.toNat ∧ c.toNat ≤ 122)) ∨
    (48 ≤ c.toNat ∧ c.toNat ≤ 57)) ∨ c = '+') ∨ c = '-') ∨ c = '.' at h
  rcases h with ((h | rfl) | rfl) | rfl
  · omega
  all_goals decide

theorem not_isStripped (h : 32 < c.toNat) : isStripped c = false ∧ isDropped c = false := by
  simp only [isStripped, isDropped, decide_eq_false_iff_not, Bool.or_eq_false_iff,
    beq_eq_false_iff_ne]
  omega

/-- A text whose first characters are all printable keeps them. -/
theorem clean_printable (hne : front ≠ []) (h : ∀ c ∈ front, 32 < c.toNat) (t : List Char) :
    clean (front ++ t)
      = front ++ ((t.reverse.dropWhile isStripped).reverse.filter (! isDropped ·)) := by
  obtain ⟨init, c, rfl⟩ : ∃ init c, front = init ++ [c] :=
    ⟨front.dropLast, front.getLast hne, (List.dropLast_append_getLast hne).symm⟩
  refine clean_append ?_ (not_isStripped (h c (by simp))).1
    (fun d hd => (not_isStripped (h d hd)).2) t
  intro d hd
  exact (not_isStripped (h d (List.mem_of_mem_head? hd))).1

theorem readScheme_append (h : PlainScheme scheme) (rest : List Char) :
    readScheme (scheme ++ ':' :: rest) = some (scheme, rest) := by
  obtain ⟨htake, hdrop⟩ := takeWhile_append_of_stops h.chars
    (StopsAt.cons (p := isSchemeChar) (by decide : isSchemeChar ':' = false) rest)
  have hhead : (scheme ++ ':' :: rest).head? = scheme.head? := by
    have hne : scheme ≠ [] := fun hnil => by simpa [hnil] using h.head
    exact List.head?_append_of_ne_nil _ hne
  unfold readScheme
  rw [hdrop, htake, hhead, h.lower]
  simp [h.head]

theorem splitLast_eq_none {mark : Char} {t : List Char} (h : mark ∉ t) :
    splitLast mark t = none := by
  induction t with
  | nil => rfl
  | cons c t ih =>
    have hc : c ≠ mark := fun heq => h (heq ▸ List.mem_cons_self)
    rw [splitLast, ih fun hmem => h (List.mem_cons_of_mem _ hmem)]
    simp [hc]

theorem parseAuthority_append {authority tail : List Char}
    (hplain : ∀ c ∈ authority, isPlain c = true ∧ isDelimiter c = false)
    (htail : ∀ c ∈ tail.head?, isDelimiter c = true) :
    parseAuthority unicode scheme (authority ++ tail)
      = parseHostPort unicode scheme [] [] authority tail := by
  have hkeep : ∀ c ∈ authority, (! endsAuthority (isSpecial scheme) c) = true := by
    intro c hc
    obtain ⟨hplain, hdelimiter⟩ := hplain c hc
    have hslash : c ≠ '\\' := (isPlain_iff.mp hplain).2.2.2.2
    simp only [isDelimiter] at hdelimiter
    simp [endsAuthority, hdelimiter, hslash]
  have hstop : StopsAt (! endsAuthority (isSpecial scheme) ·) tail := by
    intro c hc
    have hdelimiter := htail c hc
    simp only [isDelimiter] at hdelimiter
    simp [endsAuthority, hdelimiter]
  obtain ⟨htake, hdrop⟩ := takeWhile_append_of_stops hkeep hstop
  have hat : '@' ∉ authority := fun hmem => (isPlain_iff.mp (hplain _ hmem).1).2.2.2.1 rfl
  unfold parseAuthority
  dsimp only
  rw [htake, hdrop, splitLast_eq_none hat]

/-- A URL with a plain scheme and a plain authority is split where it looks split; what follows the
authority may lose characters. -/
theorem parseUrl_of_plain {rest : List Char} (hscheme : PlainScheme scheme)
    (hne : rest.takeWhile (! isDelimiter ·) ≠ [])
    (hplain : ∀ c ∈ rest.takeWhile (! isDelimiter ·), isPlain c = true) :
    ∃ tail, parseUrl unicode (scheme ++ "://".toList ++ rest)
      = parseHostPort unicode scheme [] [] (rest.takeWhile (! isDelimiter ·)) tail := by
  have hauthority : ∀ c ∈ rest.takeWhile (! isDelimiter ·), isDelimiter c = false := by
    intro c hc
    simpa using List.mem_takeWhile_imp hc
  have hsplit : rest.takeWhile (! isDelimiter ·) ++ rest.dropWhile (! isDelimiter ·) = rest :=
    List.takeWhile_append_dropWhile
  have hbehind : StopsAt (! isDelimiter ·) (rest.dropWhile (! isDelimiter ·)) :=
    stopsAt_dropWhile _ _
  generalize rest.takeWhile (! isDelimiter ·) = authority at *
  generalize rest.dropWhile (! isDelimiter ·) = behind at *
  subst hsplit
  -- cleaning leaves the authority alone, and the delimiter behind it
  have hclean : ∃ tail, (∀ c ∈ tail.head?, isDelimiter c = true) ∧
      clean (scheme ++ "://".toList ++ (authority ++ behind))
        = scheme ++ ':' :: '/' :: '/' :: (authority ++ tail) := by
    have hprintable : ∀ c ∈ scheme ++ "://".toList ++ authority, 32 < c.toNat := by
      intro c hc
      rcases List.mem_append.mp hc with hc | hc
      · rcases List.mem_append.mp hc with hc | hc
        · exact lt_toNat_of_isSchemeChar (hscheme.chars c hc)
        · have hmark : c = ':' ∨ c = '/' ∨ c = '/' := by simpa using hc
          rcases hmark with rfl | rfl | rfl <;> decide
      · exact (isPlain_iff.mp (hplain c hc)).1
    cases behind with
    | nil =>
      refine ⟨[], by simp, ?_⟩
      have hkeep := clean_printable (List.append_ne_nil_of_right_ne_nil _ hne) hprintable []
      simpa using hkeep
    | cons d behind =>
      have hd : isDelimiter d = true := by simpa using hbehind d rfl
      have hdelimiter : 32 < d.toNat := by
        simp only [isDelimiter, Bool.or_eq_true, beq_iff_eq] at hd
        rcases hd with (rfl | rfl) | rfl <;> decide
      have hfront : ∀ c ∈ scheme ++ "://".toList ++ authority ++ [d], 32 < c.toNat := by
        intro c hc
        rcases List.mem_append.mp hc with hc | hc
        · exact hprintable c hc
        · rw [List.mem_singleton.mp hc]
          exact hdelimiter
      have hkeep := clean_printable (by simp) hfront behind
      refine ⟨d :: ((behind.reverse.dropWhile isStripped).reverse.filter (! isDropped ·)), ?_, ?_⟩
      · simpa using hd
      · simpa using hkeep
  obtain ⟨tail, htail, hclean⟩ := hclean
  refine ⟨tail, ?_⟩
  have hread := readScheme_append hscheme ('/' :: '/' :: (authority ++ tail))
  unfold parseUrl
  rw [hclean, hread]
  simp only [hscheme.not_file, if_false]
  split
  · -- a special scheme: the slashes in front of the authority are skipped
    have hslash : ('/' :: '/' :: (authority ++ tail)).dropWhile isSlash = authority ++ tail := by
      cases authority with
      | nil => exact absurd rfl hne
      | cons c authority =>
        have hc : isSlash c = false := by
          have hdelimiter := hauthority c (by simp)
          have hback := (isPlain_iff.mp (hplain c (by simp))).2.2.2.2
          simp only [isDelimiter, Bool.or_eq_false_iff] at hdelimiter
          simp [isSlash, hdelimiter.1.1, hback]
        rw [List.dropWhile_cons_of_pos (by decide), List.dropWhile_cons_of_pos (by decide),
          List.cons_append, List.dropWhile_cons_of_neg (by simp [hc])]
    rw [hslash]
    exact parseAuthority_append (fun c hc => ⟨hplain c hc, hauthority c hc⟩) htail
  · exact parseAuthority_append (fun c hc => ⟨hplain c hc, hauthority c hc⟩) htail

end UrlStandard

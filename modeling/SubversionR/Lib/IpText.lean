import Mathlib

/-!
# The text forms of IP addresses

Two readers and two writers of IP addresses are in wide use and are modelled here: those of the
Rust standard library (`core::net`) and those of the URL Standard, which every JavaScript runtime
has.  An IPv4 address is the list of its four octets, an IPv6 address the list of its eight
16-bit pieces.

* `readOctet_eq_some_iff` — a decimal octet is read exactly from its shortest form;
* `parseIpv4_eq_some_iff` — a dotted address is read exactly from its canonical form;
* `whatwgIpv6_eq_parseIpv6` — both IPv6 readers accept the same texts and agree on the address;
* `parseIpv6_compressIpv6` — the compressed form is read back;
* `displayIpv6_eq_compressIpv6_iff` — the writers differ on the IPv4-mapped addresses only.
-/

namespace IpText

/-! ## Digits -/

/-- The value of a hexadecimal digit. -/
def hexDigit (c : Char) : Option Nat :=
  if c.isDigit then some (c.toNat - 48)
  else if 97 ≤ c.toNat ∧ c.toNat ≤ 102 then some (c.toNat - 87)
  else if 65 ≤ c.toNat ∧ c.toNat ≤ 70 then some (c.toNat - 55)
  else none

def isHexDigit (c : Char) : Bool := (hexDigit c).isSome

def hexValue (digits : List Char) : Nat := digits.foldl (fun n c => 16 * n + (hexDigit c).getD 0) 0

/-- The shortest lower-case hexadecimal form. -/
def hex (n : Nat) : List Char := Nat.toDigits 16 n

variable {d : Nat}

theorem hexDigit_digitChar (h : d < 16) : hexDigit d.digitChar = some d := by
  have hall : ∀ e ∈ List.range 16, hexDigit e.digitChar = some e := by decide
  exact hall d (List.mem_range.mpr h)

theorem isHexDigit_digitChar (h : d < 16) : isHexDigit d.digitChar = true := by
  simp [isHexDigit, hexDigit_digitChar h]

variable {n : Nat} {c : Char}

theorem mem_hex (h : c ∈ hex n) : ∃ d < 16, c = d.digitChar := by
  unfold hex at h
  induction n using Nat.strongRecOn with
  | ind n ih =>
    rw [Nat.toDigits_eq_if (by omega)] at h
    split at h
    · rename_i hlt
      exact ⟨n, hlt, List.mem_singleton.mp h⟩
    · rcases List.mem_append.mp h with hfront | hlast
      · exact ih (n / 16) (by omega) hfront
      · exact ⟨n % 16, Nat.mod_lt _ (by omega), List.mem_singleton.mp hlast⟩

theorem isHexDigit_of_mem_hex (h : c ∈ hex n) : isHexDigit c = true := by
  obtain ⟨_, hd, rfl⟩ := mem_hex h
  exact isHexDigit_digitChar hd

theorem hexValue_hex (n : Nat) : hexValue (hex n) = n := by
  unfold hex
  induction n using Nat.strongRecOn with
  | ind n ih =>
    rw [Nat.toDigits_eq_if (by omega)]
    split
    · rename_i hlt
      simp [hexValue, hexDigit_digitChar hlt]
    · have hfront := ih (n / 16) (by omega)
      unfold hexValue at hfront ⊢
      rw [List.foldl_append, hfront]
      have hlast := hexDigit_digitChar (Nat.mod_lt n (by omega : 0 < 16))
      simp only [List.foldl_cons, List.foldl_nil, hlast, Option.getD_some]
      omega

theorem hex_ne_nil (n : Nat) : hex n ≠ [] := Nat.toDigits_ne_nil

theorem length_hex_le (h : n < 65536) : (hex n).length ≤ 4 :=
  (Nat.length_toDigits_le_iff (by omega) (by omega)).mpr h

theorem not_isHexDigit_colon : isHexDigit ':' = false := by decide

theorem not_isHexDigit_dot : isHexDigit '.' = false := by decide

/-! ## Decimal octets -/

/-- The shortest decimal form. -/
def decimal (n : Nat) : List Char := Nat.toDigits 10 n

def decimalValue (digits : List Char) : Nat := Nat.ofDigitChars 10 digits 0

/-- Read one octet: at most three digits, no leading zero, at most 255. -/
def readOctet (t : List Char) : Option (Nat × List Char) :=
  let digits := t.takeWhile Char.isDigit
  if digits = [] ∨ 3 < digits.length ∨ (1 < digits.length ∧ digits.head? = some '0')
      ∨ 255 < decimalValue digits then none
  else some (decimalValue digits, t.dropWhile Char.isDigit)

theorem decimal_ne_nil (n : Nat) : decimal n ≠ [] := Nat.toDigits_ne_nil

theorem isDigit_of_mem_decimal (h : c ∈ decimal n) : c.isDigit = true :=
  Nat.isDigit_of_mem_toDigits (by omega) (by omega) h

theorem decimalValue_decimal (n : Nat) : decimalValue (decimal n) = n :=
  Nat.ofDigitChars_ten_toDigits

theorem digitChar_of_isDigit (h : c.isDigit = true) :
    (c.toNat - 48).digitChar = c ∧ c.toNat - 48 < 10 := by
  have hbounds := Char.isDigit_iff_toNat.mp h
  have hall : ∀ d ∈ List.range 10, d.digitChar = Char.ofNat (d + 48) := by decide
  have hlt : c.toNat - 48 < 10 := by
    simp only [Char.reduceToNat] at hbounds
    omega
  refine ⟨?_, hlt⟩
  rw [hall _ (List.mem_range.mpr hlt)]
  have hsum : c.toNat - 48 + 48 = c.toNat := by
    simp only [Char.reduceToNat] at hbounds
    omega
  rw [hsum, Char.ofNat_toNat]

theorem decimalValue_concat (digits : List Char) (c : Char) :
    decimalValue (digits ++ [c]) = 10 * decimalValue digits + (c.toNat - 48) := by
  simp [decimalValue, Nat.ofDigitChars_append, Nat.ofDigitChars_cons]

theorem decimalValue_pos (hc : c.isDigit = true) (hne : c ≠ '0') (rest : List Char) :
    0 < decimalValue (c :: rest) := by
  induction rest using List.reverseRecOn with
  | nil =>
    obtain ⟨hchar, -⟩ := digitChar_of_isDigit hc
    have hvalue : decimalValue [c] = c.toNat - 48 := by
      simp [decimalValue, Nat.ofDigitChars_cons]
    rw [hvalue]
    refine Nat.pos_of_ne_zero fun hzero => hne ?_
    rw [hzero] at hchar
    exact hchar.symm
  | append_singleton rest d ih =>
    rw [← List.cons_append, decimalValue_concat]
    omega

/-- Digits without a leading zero are the shortest form of their value. -/
theorem decimal_decimalValue {digits : List Char} (hne : digits ≠ [])
    (hdigits : ∀ c ∈ digits, c.isDigit = true)
    (hlead : ¬ (1 < digits.length ∧ digits.head? = some '0')) :
    decimal (decimalValue digits) = digits := by
  induction digits using List.reverseRecOn with
  | nil => exact absurd rfl hne
  | append_singleton front c ih =>
    have hc := digitChar_of_isDigit (hdigits c (by simp))
    rw [decimalValue_concat]
    unfold decimal at ih ⊢
    cases front with
    | nil =>
      have hvalue : 10 * decimalValue [] + (c.toNat - 48) = c.toNat - 48 := by
        simp [decimalValue]
      rw [hvalue, Nat.toDigits_of_lt_base hc.2, hc.1]
      rfl
    | cons d rest =>
      -- the value of the front is positive, so the last digit is split off
      have hd : d ≠ '0' := by
        intro hzero
        refine hlead ⟨by simp, by simp [hzero]⟩
      have hpos := decimalValue_pos (hdigits d (by simp)) hd rest
      have hfront := ih (by simp) (fun x hx => hdigits x (List.mem_append_left _ hx))
        (by simp [hd])
      rw [Nat.toDigits_eq_if (by omega), if_neg (by omega)]
      have hdiv : (10 * decimalValue (d :: rest) + (c.toNat - 48)) / 10
          = decimalValue (d :: rest) := by omega
      have hmod : (10 * decimalValue (d :: rest) + (c.toNat - 48)) % 10 = c.toNat - 48 := by omega
      rw [hdiv, hmod, hfront, hc.1]

theorem head?_decimal (hpos : 0 < n) : (decimal n).head? ≠ some '0' := by
  unfold decimal
  induction n using Nat.strongRecOn with
  | ind n ih =>
    rw [Nat.toDigits_eq_if (by omega)]
    split
    · rename_i hlt
      have hall : ∀ d ∈ List.range 10, 0 < d → d.digitChar ≠ '0' := by decide
      simpa using hall n (List.mem_range.mpr hlt) hpos
    · rw [List.head?_append_of_ne_nil _ Nat.toDigits_ne_nil]
      exact ih (n / 10) (by omega) (by omega)

/-- `decimal` writes no leading zero. -/
theorem decimal_no_lead (n : Nat) : ¬ (1 < (decimal n).length ∧ (decimal n).head? = some '0') := by
  rintro ⟨hlength, hhead⟩
  cases n with
  | zero => exact absurd hlength (by decide)
  | succ n => exact head?_decimal n.succ_pos hhead

/-- The text begins with a character of another kind, or is empty. -/
def StopsAt (p : Char → Bool) (t : List Char) : Prop := ∀ c ∈ t.head?, p c = false

theorem StopsAt.nil (p : Char → Bool) : StopsAt p [] := by
  intro _ hc
  cases hc

theorem StopsAt.cons {p : Char → Bool} {c : Char} (h : p c = false) (rest : List Char) :
    StopsAt p (c :: rest) := by
  intro d hd
  obtain rfl : c = d := by simpa using hd
  exact h

variable {rest : List Char}

theorem takeWhile_append_of_stops {p : Char → Bool} {front : List Char}
    (hfront : ∀ c ∈ front, p c = true) (hrest : StopsAt p rest) :
    (front ++ rest).takeWhile p = front ∧ (front ++ rest).dropWhile p = rest := by
  have hnone : rest.takeWhile p = [] ∧ rest.dropWhile p = rest := by
    cases rest with
    | nil => exact ⟨rfl, rfl⟩
    | cons c rest =>
      have hc : p c = false := hrest c rfl
      exact ⟨List.takeWhile_cons_of_neg (by simp [hc]), List.dropWhile_cons_of_neg (by simp [hc])⟩
  rw [List.takeWhile_append_of_pos hfront, List.dropWhile_append_of_pos hfront, hnone.1, hnone.2]
  exact ⟨List.append_nil _, rfl⟩

theorem stopsAt_dropWhile (p : Char → Bool) (t : List Char) : StopsAt p (t.dropWhile p) := by
  intro _ hc
  obtain ⟨_, heq⟩ := List.head?_eq_some_iff.mp hc
  have hnot := List.head_dropWhile_not p (l := t) (by rw [heq]; simp)
  simpa [heq] using hnot

variable {t : List Char}

/-- An octet is read exactly from its shortest form. -/
theorem readOctet_eq_some_iff {octet : Nat} :
    readOctet t = some (octet, rest) ↔
      octet ≤ 255 ∧ t = decimal octet ++ rest ∧ StopsAt Char.isDigit rest := by
  unfold readOctet
  dsimp only
  constructor
  · intro h
    split at h
    · cases h
    rename_i hgood
    simp only [not_or, not_lt] at hgood
    obtain ⟨hne, -, hlead, hle⟩ := hgood
    obtain ⟨rfl, rfl⟩ := Prod.mk.inj (Option.some.inj h)
    refine ⟨hle, ?_, stopsAt_dropWhile _ _⟩
    rw [decimal_decimalValue hne (fun c hc => List.mem_takeWhile_imp hc) hlead]
    exact List.takeWhile_append_dropWhile.symm
  · rintro ⟨hle, rfl, hstop⟩
    obtain ⟨htake, hdrop⟩ := takeWhile_append_of_stops
      (fun c hc => isDigit_of_mem_decimal (n := octet) hc) hstop
    rw [htake, hdrop, decimalValue_decimal]
    have hlength : (decimal octet).length ≤ 3 :=
      (Nat.length_toDigits_le_iff (by omega) (by omega)).mpr (by omega)
    rw [if_neg]
    simp only [not_or, not_lt]
    exact ⟨decimal_ne_nil octet, hlength, decimal_no_lead octet, hle⟩

/-! ## Dotted IPv4 addresses -/

/-- Octets, each after the first preceded by a dot. -/
def readDotted : Nat → List Char → Option (List Nat × List Char)
  | 0, t => (readOctet t).map fun (octet, rest) => ([octet], rest)
  | more + 1, t =>
    match readOctet t with
    | some (octet, '.' :: rest) =>
      (readDotted more rest).map fun (octets, rest) => (octet :: octets, rest)
    | _ => none

/-- An address in the middle of a text, as `read_ipv4_addr` and the IPv6 reader of the URL Standard
take it. -/
def readIpv4 (t : List Char) : Option (List Nat × List Char) := readDotted 3 t

/-- `Ipv4Addr::from_str`. -/
def parseIpv4 (t : List Char) : Option (List Nat) :=
  match readIpv4 t with
  | some (octets, []) => some octets
  | _ => none

/-- The dotted form. -/
def dotted (octets : List Nat) : List Char := ['.'].intercalate (octets.map decimal)

/-- Four octets. -/
def IsIpv4 (octets : List Nat) : Prop := octets.length = 4 ∧ ∀ octet ∈ octets, octet ≤ 255

theorem dotted_cons {octet : Nat} {octets : List Nat} (h : octets ≠ []) :
    dotted (octet :: octets) = decimal octet ++ '.' :: dotted octets := by
  cases octets with
  | nil => exact absurd rfl h
  | cons next rest => simp [dotted, List.intercalate]

theorem readDotted_eq_some_iff {more : Nat} {octets : List Nat} :
    readDotted more t = some (octets, rest) ↔
      octets.length = more + 1 ∧ (∀ octet ∈ octets, octet ≤ 255) ∧ t = dotted octets ++ rest
        ∧ StopsAt Char.isDigit rest := by
  -- one dot for each further octet
  induction more generalizing t octets with
  | zero =>
    simp only [readDotted, Option.map_eq_some_iff, Prod.exists, Prod.mk.injEq]
    constructor
    · rintro ⟨octet, rest', hread, rfl, rfl⟩
      obtain ⟨hle, heq, hstop⟩ := readOctet_eq_some_iff.mp hread
      exact ⟨rfl, by simpa using hle, by simpa [dotted, List.intercalate] using heq, hstop⟩
    · rintro ⟨hlength, hle, heq, hstop⟩
      obtain ⟨octet, rfl⟩ := List.length_eq_one_iff.mp hlength
      refine ⟨octet, rest, readOctet_eq_some_iff.mpr ⟨hle octet (by simp), ?_, hstop⟩, rfl, rfl⟩
      simpa [dotted, List.intercalate] using heq
  | succ more ih =>
    unfold readDotted
    constructor
    · intro h
      split at h
      · rename_i octet rest' hread
        obtain ⟨⟨octets', _⟩, hmore, heq⟩ := Option.map_eq_some_iff.mp h
        obtain ⟨rfl, rfl⟩ := Prod.mk.inj heq
        obtain ⟨hlength, hle, rfl, hstop⟩ := ih.mp hmore
        obtain ⟨hoctet, rfl, -⟩ := readOctet_eq_some_iff.mp hread
        have hne : octets' ≠ [] := fun hnil => by simp [hnil] at hlength
        refine ⟨by simp [hlength], ?_, ?_, hstop⟩
        · simpa using ⟨hoctet, hle⟩
        · rw [dotted_cons hne, List.append_assoc, List.cons_append]
      · cases h
    · rintro ⟨hlength, hle, rfl, hstop⟩
      cases octets with
      | nil => simp at hlength
      | cons octet octets =>
        have hne : octets ≠ [] := fun hnil => by simp [hnil] at hlength
        have hread : readOctet (dotted (octet :: octets) ++ rest)
            = some (octet, '.' :: (dotted octets ++ rest)) := by
          rw [readOctet_eq_some_iff, dotted_cons hne]
          exact ⟨hle octet (by simp), by simp, StopsAt.cons (by decide) _⟩
        have hmore : readDotted more (dotted octets ++ rest) = some (octets, rest) :=
          ih.mpr ⟨by simpa using hlength, fun o ho => hle o (List.mem_cons_of_mem _ ho), rfl, hstop⟩
        rw [hread]
        simp [hmore]

theorem readIpv4_eq_some_iff {octets : List Nat} :
    readIpv4 t = some (octets, rest) ↔
      IsIpv4 octets ∧ t = dotted octets ++ rest ∧ StopsAt Char.isDigit rest := by
  unfold readIpv4 IsIpv4
  rw [readDotted_eq_some_iff, and_assoc]

/-- A whole text is a dotted address exactly if it is the address's canonical form. -/
theorem parseIpv4_eq_some_iff {octets : List Nat} :
    parseIpv4 t = some octets ↔ IsIpv4 octets ∧ t = dotted octets := by
  unfold parseIpv4
  constructor
  · intro h
    split at h
    · rename_i hread
      obtain rfl := Option.some.inj h
      obtain ⟨hip, heq, -⟩ := readIpv4_eq_some_iff.mp hread
      exact ⟨hip, by simpa using heq⟩
    · cases h
  · rintro ⟨hip, rfl⟩
    have hread : readIpv4 (dotted octets) = some (octets, []) :=
      readIpv4_eq_some_iff.mpr ⟨hip, by simp, StopsAt.nil _⟩
    rw [hread]

/-! ## Reading IPv6 addresses

`parseIpv6` is the reader of `core::net`, `whatwgIpv6` the one of the URL Standard. -/

/-- One piece: one to four hexadecimal digits. -/
def readPiece (t : List Char) : Option (Nat × List Char) :=
  let digits := t.takeWhile isHexDigit
  if digits = [] ∨ 4 < digits.length then none
  else some (hexValue digits, t.dropWhile isHexDigit)

/-- The two pieces an embedded IPv4 address fills. -/
def halves : List Nat → List Nat
  | [a, b, c, d] => [256 * a + b, 256 * c + d]
  | _ => []

/-- What `read_groups` leaves: the pieces, whether the last two came from an IPv4 address, and the
text behind them. -/
structure Groups where
  pieces : List Nat
  embedded : Bool
  rest : List Char

/-- A piece in front of those that were read. -/
@[simp]
abbrev Groups.cons (piece : Nat) (g : Groups) : Groups := ⟨piece :: g.pieces, g.embedded, g.rest⟩

/-- `read_separator(':', index, ..)`: every piece but the first is preceded by a colon. -/
def readSeparator (first : Bool) (t : List Char) : Option (List Char) :=
  if first then some t
  else match t with
    | ':' :: rest => some rest
    | _ => none

/-- `read_groups`: up to `limit` pieces, the last two possibly as an IPv4 address. -/
def readGroups : Bool → Nat → List Char → Groups
  | _, 0, t => ⟨[], false, t⟩
  | first, limit + 1, t =>
    match readSeparator first t with
    | none => ⟨[], false, t⟩
    | some start =>
      match if limit = 0 then none else readIpv4 start with
      | some (octets, rest) => ⟨halves octets, true, rest⟩
      | none =>
        match readPiece start with
        | none => ⟨[], false, t⟩
        | some (piece, rest) => (readGroups false limit rest).cons piece

/-- The pieces around a double colon, with the zeros it stands for. -/
def expand (head tail : List Nat) : List Nat :=
  head ++ List.replicate (8 - head.length - tail.length) 0 ++ tail

/-- What stands behind a double colon. -/
def doubleColon : List Char → Option (List Char)
  | ':' :: ':' :: behind => some behind
  | _ => none

/-- `Ipv6Addr::from_str`. -/
def parseIpv6 (t : List Char) : Option (List Nat) :=
  let head := readGroups true 8 t
  if head.pieces.length = 8 then if head.rest = [] then some head.pieces else none
  else if head.embedded then none
  else match doubleColon head.rest with
    | none => none
    | some behind =>
      let tail := readGroups true (7 - head.pieces.length) behind
      if tail.rest = [] then some (expand head.pieces tail.pieces) else none

/-- The loop of the IPv6 reader of the URL Standard.  `room` is eight minus its piece index,
`compress` the number of pieces read before the double colon. -/
def scanPieces : Nat → Option Nat → List Nat → List Char → Option (List Nat × Option Nat)
  | _, compress, pieces, [] => some (pieces, compress)
  | 0, _, _, _ :: _ => none
  | room + 1, compress, pieces, c :: t =>
    if c = ':' then
      if compress.isSome then none else scanPieces room (some pieces.length) pieces t
    else
      -- at most four digits are consumed; the character behind them decides
      let digits := ((c :: t).takeWhile isHexDigit).take 4
      match (c :: t).drop digits.length with
      | '.' :: _ =>
        if digits = [] ∨ room = 0 then none
        else (parseIpv4 (c :: t)).map fun octets => (pieces ++ halves octets, compress)
      | [] => scanPieces room compress (pieces ++ [hexValue digits]) []
      | ':' :: rest =>
        if rest = [] then none else scanPieces room compress (pieces ++ [hexValue digits]) rest
      | _ :: _ => none

/-- The address of the pieces read; a double colon stood behind as many as the second component
says. -/
def assemble : Option (List Nat × Option Nat) → Option (List Nat)
  | none => none
  | some (pieces, some compress) => some (expand (pieces.take compress) (pieces.drop compress))
  | some (pieces, none) => if pieces.length = 8 then some pieces else none

/-- The IPv6 reader of the URL Standard. -/
def whatwgIpv6 (t : List Char) : Option (List Nat) :=
  assemble <|
    if t.head? = some ':' then (doubleColon t).bind (scanPieces 7 (some 0) [])
    else scanPieces 8 none [] t

/-! ## Both readers agree

Both go from piece to piece; they differ in which side of a piece the colon belongs to and in when
they look for an IPv4 address.  `readPiece` decides every case of either step. -/

theorem readPiece_of_readIpv4 {octets : List Nat} (h : readIpv4 t = some (octets, rest)) :
    ∃ piece behind, readPiece t = some (piece, '.' :: behind) := by
  obtain ⟨⟨hlength, hle⟩, rfl, -⟩ := readIpv4_eq_some_iff.mp h
  match octets, hlength with
  | a :: b :: more, _ =>
    have hdigit : ∀ c ∈ decimal a, isHexDigit c = true := by
      intro c hc
      simp [isHexDigit, hexDigit, isDigit_of_mem_decimal hc]
    have hshape : dotted (a :: b :: more) ++ rest
        = decimal a ++ '.' :: (dotted (b :: more) ++ rest) := by
      rw [dotted_cons (by simp), List.append_assoc, List.cons_append]
    obtain ⟨htake, hdrop⟩ := takeWhile_append_of_stops hdigit
      (StopsAt.cons not_isHexDigit_dot (dotted (b :: more) ++ rest))
    have hlen : (decimal a).length ≤ 3 :=
      (Nat.length_toDigits_le_iff (by omega) (by omega)).mpr
        (Nat.lt_of_le_of_lt (hle a (by simp)) (by omega))
    refine ⟨hexValue (decimal a), dotted (b :: more) ++ rest, ?_⟩
    unfold readPiece
    rw [hshape, htake, hdrop, if_neg]
    simp only [not_or, not_lt]
    exact ⟨decimal_ne_nil a, by omega⟩

theorem readPiece_colon (t : List Char) : readPiece (':' :: t) = none := by
  unfold readPiece
  rw [List.takeWhile_cons_of_neg (by simp [not_isHexDigit_colon])]
  simp

theorem readIpv4_eq_none_of_readPiece
    (h : ∀ piece behind, readPiece t ≠ some (piece, '.' :: behind)) : readIpv4 t = none := by
  cases hread : readIpv4 t with
  | none => rfl
  | some found =>
    obtain ⟨_, _⟩ := found
    obtain ⟨piece, behind, hpiece⟩ := readPiece_of_readIpv4 hread
    exact absurd hpiece (h piece behind)

/-- What the loop of the URL Standard does behind the digits of one piece. -/
def scanBehind (room : Nat) (compress : Option Nat) (pieces : List Nat) (start : List Char) :
    Option (Nat × List Char) → Option (List Nat × Option Nat)
  | none => none
  | some (piece, []) => some (pieces ++ [piece], compress)
  | some (piece, ':' :: rest) =>
    if rest = [] then none else scanPieces room compress (pieces ++ [piece]) rest
  | some (_, '.' :: _) =>
    if room = 0 then none
    else (parseIpv4 start).map fun octets => (pieces ++ halves octets, compress)
  | some (_, _ :: _) => none

variable {pieces : List Nat}

/-- One step of the loop, by the piece at the front. -/
theorem scanPieces_succ {room : Nat} {compress : Option Nat} (hc : c ≠ ':') :
    scanPieces (room + 1) compress pieces (c :: t)
      = scanBehind room compress pieces (c :: t) (readPiece (c :: t)) := by
  rw [scanPieces, if_neg hc]
  have hsplit : (c :: t).takeWhile isHexDigit ++ (c :: t).dropWhile isHexDigit = c :: t :=
    List.takeWhile_append_dropWhile
  by_cases hlong : 4 < ((c :: t).takeWhile isHexDigit).length
  · -- a fifth digit stands behind the four
    have hpiece : readPiece (c :: t) = none := by simp [readPiece, hlong]
    have hmem : ∀ d ∈ (c :: t).takeWhile isHexDigit, isHexDigit d = true :=
      fun d hd => List.mem_takeWhile_imp hd
    generalize (c :: t).takeWhile isHexDigit = digits at *
    have hfour : (digits.take 4).length = 4 := by simp; omega
    cases hdrop : digits.drop 4 with
    | nil => simp at hdrop; omega
    | cons d more =>
      have hd : isHexDigit d = true := hmem d (List.mem_of_mem_drop (hdrop ▸ List.mem_cons_self))
      have hbehind : (c :: t).drop (digits.take 4).length
          = d :: (more ++ (c :: t).dropWhile isHexDigit) := by
        rw [hfour]
        conv_lhs => rw [← hsplit]
        rw [List.drop_append_of_le_length (by omega), hdrop, List.cons_append]
      have hdot : d ≠ '.' := fun heq => by rw [heq, not_isHexDigit_dot] at hd; cases hd
      have hcolon : d ≠ ':' := fun heq => by rw [heq, not_isHexDigit_colon] at hd; cases hd
      dsimp only
      rw [hbehind, hpiece]
      simp [scanBehind]
  · have hall : ((c :: t).takeWhile isHexDigit).take 4 = (c :: t).takeWhile isHexDigit :=
      List.take_of_length_le (by omega)
    have hbehind : (c :: t).drop ((c :: t).takeWhile isHexDigit).length
        = (c :: t).dropWhile isHexDigit := by
      have hcut := congrArg (List.drop ((c :: t).takeWhile isHexDigit).length) hsplit
      rw [List.drop_left] at hcut
      exact hcut.symm
    dsimp only
    rw [hall, hbehind]
    by_cases hnone : (c :: t).takeWhile isHexDigit = []
    · have hpiece : readPiece (c :: t) = none := by simp [readPiece, hnone]
      have hkeep : (c :: t).dropWhile isHexDigit = c :: t := by
        rw [hnone] at hsplit
        exact hsplit
      rw [hpiece, hkeep, hnone]
      by_cases hdot : c = '.'
      · simp [hdot, scanBehind]
      · simp [scanBehind]
    · have hpiece : readPiece (c :: t)
          = some (hexValue ((c :: t).takeWhile isHexDigit), (c :: t).dropWhile isHexDigit) := by
        simp [readPiece, hnone, hlong]
      rw [hpiece]
      cases hrest : (c :: t).dropWhile isHexDigit with
      | nil => simp [scanBehind, scanPieces]
      | cons d rest =>
        by_cases hdot : d = '.'
        · simp [hdot, hnone, scanBehind]
        · by_cases hcolon : d = ':'
          · simp [hcolon, scanBehind]
          · simp [scanBehind]

variable {limit : Nat}

/-- What `read_groups` makes of a first piece. -/
theorem readGroups_true_succ :
    readGroups true (limit + 1) t =
      match if limit = 0 then none else readIpv4 t with
      | some (octets, rest) => ⟨halves octets, true, rest⟩
      | none =>
        match readPiece t with
        | none => ⟨[], false, t⟩
        | some (piece, rest) => (readGroups false limit rest).cons piece := rfl

theorem halves_of_isIpv4 {octets : List Nat} (h : IsIpv4 octets) :
    ∃ a b c d, octets = [a, b, c, d] ∧ halves octets = [256 * a + b, 256 * c + d] := by
  obtain ⟨hlength, -⟩ := h
  match octets, hlength with
  | [a, b, c, d], _ => exact ⟨a, b, c, d, rfl, rfl⟩

/-- What one step of `read_groups` can do: nothing, take an IPv4 address, or take a piece. -/
theorem readGroups_cases (first : Bool) (limit : Nat) (t : List Char) :
    readGroups first (limit + 1) t = ⟨[], false, t⟩
    ∨ (∃ start octets rest, readSeparator first t = some start ∧ limit ≠ 0
        ∧ readIpv4 start = some (octets, rest)
        ∧ readGroups first (limit + 1) t = ⟨halves octets, true, rest⟩)
    ∨ ∃ start piece rest, readSeparator first t = some start
        ∧ readPiece start = some (piece, rest)
        ∧ readGroups first (limit + 1) t = (readGroups false limit rest).cons piece := by
  rw [readGroups]
  split
  · exact .inl rfl
  rename_i start hsep
  split
  · rename_i octets rest hip
    split at hip
    · cases hip
    · rename_i hlimit
      exact .inr (.inl ⟨start, octets, rest, hsep, hlimit, hip, rfl⟩)
  · split
    · exact .inl rfl
    · rename_i piece rest hpiece
      exact .inr (.inr ⟨start, piece, rest, hsep, hpiece, rfl⟩)

variable {piece : Nat}

theorem readGroups_of_readPiece (hpiece : readPiece t = some (piece, rest))
    (hdot : rest.head? ≠ some '.') :
    readGroups true (limit + 1) t = (readGroups false limit rest).cons piece := by
  have hip : readIpv4 t = none := by
    refine readIpv4_eq_none_of_readPiece fun piece' behind heq => hdot ?_
    rw [hpiece] at heq
    rw [(Prod.mk.inj (Option.some.inj heq)).2]
    rfl
  rw [readGroups_true_succ, hip, hpiece]
  simp

theorem readGroups_of_readPiece_none (h : readPiece t = none) :
    readGroups true limit t = ⟨[], false, t⟩ := by
  cases limit with
  | zero => rfl
  | succ limit =>
    have hip : readIpv4 t = none :=
      readIpv4_eq_none_of_readPiece fun piece behind heq => by rw [h] at heq; cases heq
    rw [readGroups_true_succ, hip, h]
    simp

theorem readGroups_false_of_ne_colon (h : t.head? ≠ some ':') :
    readGroups false limit t = ⟨[], false, t⟩ := by
  cases limit with
  | zero => rfl
  | succ limit =>
    have hsep : readSeparator false t = none := by
      cases t with
      | nil => rfl
      | cons c rest =>
        have hc : c ≠ ':' := by simpa using h
        simp only [readSeparator, Bool.false_eq_true, if_false]
        split
        · rename_i heq
          exact absurd (List.cons.inj heq).1 hc
        · rfl
    unfold readGroups
    rw [hsep]

/-- A colon in front of pieces is consumed with them, and left alone if none follow. -/
theorem readGroups_false_colon (limit : Nat) (t : List Char) :
    readGroups false limit (':' :: t) =
      if (readGroups true limit t).pieces = [] then ⟨[], false, ':' :: t⟩
      else readGroups true limit t := by
  cases limit with
  | zero => rfl
  | succ limit =>
    have hsep : readGroups false (limit + 1) (':' :: t) =
        match if limit = 0 then none else readIpv4 t with
        | some (octets, rest) => ⟨halves octets, true, rest⟩
        | none =>
          match readPiece t with
          | none => ⟨[], false, ':' :: t⟩
          | some (piece, rest) => (readGroups false limit rest).cons piece := rfl
    rw [hsep, readGroups_true_succ]
    cases hip : (if limit = 0 then none else readIpv4 t) with
    | some found =>
      obtain ⟨octets, rest⟩ := found
      have hread : readIpv4 t = some (octets, rest) := by
        split at hip
        · cases hip
        · exact hip
      obtain ⟨_, _, _, _, -, hhalves⟩ := halves_of_isIpv4 (readIpv4_eq_some_iff.mp hread).1
      simp [hhalves]
    | none =>
      cases hpiece : readPiece t with
      | none => simp
      | some found => simp

/-- Reading no piece consumes nothing. -/
theorem readGroups_eq_of_pieces_nil (h : (readGroups true limit t).pieces = []) :
    readGroups true limit t = ⟨[], false, t⟩ := by
  cases limit with
  | zero => rfl
  | succ limit =>
    rcases readGroups_cases true limit t with hnone | ⟨_, _, _, -, -, hip, heq⟩
      | ⟨_, _, _, -, -, heq⟩
    · exact hnone
    · obtain ⟨_, _, _, _, -, hhalves⟩ := halves_of_isIpv4 (readIpv4_eq_some_iff.mp hip).1
      simp [heq, hhalves] at h
    · simp [heq] at h

/-- The pieces, if nothing stands behind them. -/
def Groups.whole (g : Groups) : Option (List Nat) := if g.rest = [] then some g.pieces else none

theorem whole_readGroups_colon (ht : t ≠ []) :
    (readGroups false limit (':' :: t)).whole = (readGroups true limit t).whole := by
  rw [readGroups_false_colon]
  split
  · rename_i hnil
    rw [readGroups_eq_of_pieces_nil hnil]
    simp [Groups.whole, ht]
  · rfl

/-- The pieces of a whole text that start with a given one. -/
theorem whole_cons (piece : Nat) (g : Groups) :
    (g.cons piece).whole = g.whole.map (piece :: ·) := by
  unfold Groups.whole Groups.cons
  split <;> rfl

/-- What both readers make of the first piece of a text, if there is room for `room` more: the loop
of the URL Standard, and `read_groups`. -/
inductive FirstPiece (room : Nat) (compress : Option Nat) (before : List Nat) :
    Option (List Nat × Option Nat) → Groups → Prop
  | stuck (pieces : List Nat) {c : Char} (hc : c ≠ ':') (rest : List Char) :
      FirstPiece room compress before none ⟨pieces, false, c :: rest⟩
  | address {octets : List Nat} (hip : IsIpv4 octets) (hroom : room ≠ 0) :
      FirstPiece room compress before (some (before ++ halves octets, compress))
        ⟨halves octets, true, []⟩
  | behindAddress (octets : List Nat) (c : Char) (rest : List Char) :
      FirstPiece room compress before none ⟨halves octets, true, c :: rest⟩
  | last (piece : Nat) :
      FirstPiece room compress before (some (before ++ [piece], compress)) ⟨[piece], false, []⟩
  | colon (piece : Nat) : FirstPiece room compress before none ⟨[piece], false, [':']⟩
  | more (piece : Nat) {rest : List Char} (hrest : rest ≠ []) {g : Groups}
      (hg : readGroups false room (':' :: rest) = g) :
      FirstPiece room compress before (scanPieces room compress (before ++ [piece]) rest)
        (g.cons piece)

theorem firstPiece {room : Nat} {compress : Option Nat} {before : List Nat} {c : Char}
    {t : List Char} (hc : c ≠ ':') :
    FirstPiece room compress before (scanPieces (room + 1) compress before (c :: t))
      (readGroups true (room + 1) (c :: t)) := by
  rw [scanPieces_succ hc]
  cases hpiece : readPiece (c :: t) with
  | none =>
    rw [readGroups_of_readPiece_none hpiece]
    exact .stuck [] hc t
  | some found =>
    obtain ⟨piece, rest⟩ := found
    -- a dot starts an IPv4 tail, if there is room for one
    by_cases hdot : rest.head? = some '.'
    · obtain ⟨behind, rfl⟩ := List.head?_eq_some_iff.mp hdot
      rw [readGroups_true_succ, hpiece]
      simp only [scanBehind, readGroups_false_of_ne_colon (t := '.' :: behind) (by simp)]
      by_cases hroom : room = 0
      · simp only [hroom, if_true]
        exact .stuck [piece] (by decide) behind
      · simp only [hroom, if_false]
        unfold parseIpv4
        cases hip : readIpv4 (c :: t) with
        | none => exact .stuck [piece] (by decide) behind
        | some found =>
          obtain ⟨octets, remaining⟩ := found
          cases remaining with
          | nil => exact .address (readIpv4_eq_some_iff.mp hip).1 hroom
          | cons d remaining => exact .behindAddress octets d remaining
    · rw [readGroups_of_readPiece hpiece hdot]
      cases rest with
      | nil =>
        rw [readGroups_false_of_ne_colon (by simp)]
        exact .last piece
      | cons d rest =>
        by_cases hcolon : d = ':'
        · subst hcolon
          by_cases hrest : rest = []
          · subst hrest
            rw [readGroups_false_colon, readGroups_of_readPiece_none (by decide)]
            exact .colon piece
          · simp only [scanBehind, hrest, if_false]
            exact .more piece hrest rfl
        · have hd : d ≠ '.' := by simpa using hdot
          rw [readGroups_false_of_ne_colon (by simpa using hcolon)]
          simp only [scanBehind]
          exact .stuck [piece] hcolon rest

/-- Behind the double colon both readers read the same pieces. -/
theorem scanPieces_some (limit k : Nat) (pieces : List Nat) (t : List Char) :
    scanPieces limit (some k) pieces t
      = (readGroups true limit t).whole.map fun more => (pieces ++ more, some k) := by
  induction limit generalizing pieces t with
  | zero => cases t <;> simp [scanPieces, readGroups, Groups.whole]
  | succ limit ih =>
    cases t with
    | nil =>
      rw [readGroups_of_readPiece_none (by decide)]
      simp [scanPieces, Groups.whole]
    | cons c t =>
      by_cases hc : c = ':'
      · rw [hc, readGroups_of_readPiece_none (readPiece_colon t)]
        simp [scanPieces, Groups.whole]
      · have hfirst := @firstPiece limit (some k) pieces c t hc
        generalize scanPieces (limit + 1) (some k) pieces (c :: t) = scanned at hfirst ⊢
        generalize readGroups true (limit + 1) (c :: t) = groups at hfirst ⊢
        cases hfirst with
        | more piece hrest hg =>
          rw [whole_cons, ← hg, whole_readGroups_colon hrest]
          simp [ih, Option.map_map, Function.comp_def]
        | _ => simp [Groups.whole]

/-- What `Ipv6Addr::from_str` makes of its first pieces, of which `room` fit, when `before` were
read already.  The second component says where the double colon stood. -/
def Groups.finish (room : Nat) (before : List Nat) (g : Groups) :
    Option (List Nat × Option Nat) :=
  if g.pieces.length = room then if g.rest = [] then some (before ++ g.pieces, none) else none
  else if g.embedded then none
  else (doubleColon g.rest).bind fun behind =>
    (readGroups true (room - 1 - g.pieces.length) behind).whole.map fun tail =>
      (before ++ g.pieces ++ tail, some (before.length + g.pieces.length))

/-- Without a double colon an address needs all its pieces. -/
def complete (total : Nat) (scanned : Option (List Nat × Option Nat)) :
    Option (List Nat × Option Nat) :=
  scanned.filter fun found => found.2.isSome || found.1.length == total

theorem finish_cons (room piece : Nat) (before : List Nat) (g : Groups) :
    (g.cons piece).finish (room + 1) before = g.finish room (before ++ [piece]) := by
  unfold Groups.finish Groups.cons
  have hroom : room + 1 - 1 - (g.pieces.length + 1) = room - 1 - g.pieces.length := by omega
  have hsum : before.length + (g.pieces.length + 1) = before.length + 1 + g.pieces.length := by
    omega
  simp only [List.length_cons, Nat.add_right_cancel_iff, List.append_assoc, List.nil_append,
    List.length_append, List.length_nil, hroom, hsum, List.cons_append, zero_add]

theorem doubleColon_of_ne (hc : c ≠ ':') (rest : List Char) :
    doubleColon (c :: rest) = none ∧ doubleColon (':' :: c :: rest) = none := by
  unfold doubleColon
  constructor
  · split
    · rename_i heq
      exact absurd (List.cons.inj heq).1 hc
    · rfl
  · split
    · rename_i heq
      exact absurd (List.cons.inj (List.cons.inj heq).2).1 hc
    · rfl

theorem finish_stuck {room : Nat} {before : List Nat} (hc : c ≠ ':') :
    (Groups.mk pieces false (c :: rest)).finish room before = none := by
  unfold Groups.finish
  simp [(doubleColon_of_ne hc rest).1]

/-- In front of the double colon both readers read the same pieces: from the start of a piece, and
from the colon in front of one. -/
theorem complete_scanPieces (room : Nat) :
    (∀ (before : List Nat) (c : Char) (t : List Char), c ≠ ':' →
      complete (before.length + room) (scanPieces room none before (c :: t))
        = (readGroups true room (c :: t)).finish room before)
    ∧ ∀ (before : List Nat) (t : List Char), t ≠ [] →
      complete (before.length + room) (scanPieces room none before t)
        = (readGroups false room (':' :: t)).finish room before := by
  induction room with
  | zero =>
    refine ⟨fun before c t _ => ?_, fun before t ht => ?_⟩
    · simp [scanPieces, readGroups, complete, Groups.finish]
    · cases t with
      | nil => exact absurd rfl ht
      | cons c t => simp [scanPieces, readGroups, complete, Groups.finish]
  | succ room ih =>
    have hpieces : ∀ (before : List Nat) (c : Char) (t : List Char), c ≠ ':' →
        complete (before.length + (room + 1)) (scanPieces (room + 1) none before (c :: t))
          = (readGroups true (room + 1) (c :: t)).finish (room + 1) before := by
      intro before c t hc
      have hfirst := @firstPiece room none before c t hc
      generalize scanPieces (room + 1) none before (c :: t) = scanned at hfirst ⊢
      generalize readGroups true (room + 1) (c :: t) = groups at hfirst ⊢
      cases hfirst with
      | stuck pieces hc rest =>
        rw [finish_stuck hc]
        rfl
      | @address octets hip hroom =>
        obtain ⟨_, _, _, _, -, hhalves⟩ := halves_of_isIpv4 hip
        by_cases hone : room = 1
        · simp [hhalves, complete, Groups.finish, hone]
        · have hlength : ¬ 2 = room + 1 := by omega
          simp [hhalves, complete, Groups.finish, hlength]
      | behindAddress octets d remaining => simp [complete, Groups.finish]
      | last piece =>
        by_cases hroom : room = 0
        · simp [complete, Groups.finish, hroom]
        · simp [complete, Groups.finish, hroom, doubleColon]
      | colon piece => simp [complete, Groups.finish, doubleColon]
      | more piece hrest hg =>
        rw [finish_cons, ← hg, ← ih.2 (before ++ [piece]) _ hrest, List.length_append,
          List.length_singleton, Nat.add_assoc, Nat.add_comm 1]
    refine ⟨hpieces, fun before t ht => ?_⟩
    cases t with
    | nil => exact absurd rfl ht
    | cons c t =>
      by_cases hc : c = ':'
      · -- the double colon: what follows it is read by `scanPieces_some`
        subst hc
        have hempty : readGroups true (room + 1) (':' :: t) = ⟨[], false, ':' :: t⟩ :=
          readGroups_of_readPiece_none (readPiece_colon t)
        rw [readGroups_false_colon, hempty]
        rw [scanPieces, if_pos rfl, scanPieces_some]
        cases hwhole : (readGroups true room t).whole with
        | none => simp [complete, Groups.finish, doubleColon, hwhole]
        | some tail => simp [complete, Groups.finish, doubleColon, hwhole]
      · rw [hpieces before c t hc, readGroups_false_colon]
        split
        · rename_i hnil
          rw [readGroups_eq_of_pieces_nil hnil, finish_stuck hc]
          simp [Groups.finish, (doubleColon_of_ne hc t).2]
        · rfl

theorem assemble_complete (scanned : Option (List Nat × Option Nat)) :
    assemble (complete 8 scanned) = assemble scanned := by
  match scanned with
  | none => rfl
  | some (pieces, some compress) => rfl
  | some (pieces, none) =>
    unfold complete
    by_cases h : pieces.length = 8
    · rw [Option.filter_some_pos (by simp [h])]
    · rw [Option.filter_some_neg (by simp [h])]
      simp [assemble, h]

theorem parseIpv6_eq_assemble (t : List Char) :
    parseIpv6 t = assemble ((readGroups true 8 t).finish 8 []) := by
  unfold parseIpv6 Groups.finish
  dsimp only
  split
  · rename_i hlength
    split
    · simp [assemble, hlength]
    · rfl
  · split
    · rfl
    cases doubleColon (readGroups true 8 t).rest with
    | none => rfl
    | some behind =>
      simp only [Groups.whole, Option.bind_some, Nat.reduceSub]
      split
      · simp [assemble]
      · rfl

/-- **The two IPv6 readers agree**: they accept the same texts and read the same addresses. -/
theorem whatwgIpv6_eq_parseIpv6 (t : List Char) : whatwgIpv6 t = parseIpv6 t := by
  rw [parseIpv6_eq_assemble]
  unfold whatwgIpv6
  cases t with
  | nil => decide
  | cons c t =>
    by_cases hc : c = ':'
    · subst hc
      have hempty : readGroups true 8 (':' :: t) = ⟨[], false, ':' :: t⟩ :=
        readGroups_of_readPiece_none (readPiece_colon t)
      rw [hempty, if_pos (by simp)]
      refine congrArg assemble ?_
      simp [Groups.finish, scanPieces_some]
    · have hagree := (complete_scanPieces 8).1 [] c t hc
      rw [if_neg (by simpa using hc), ← hagree]
      exact (assemble_complete _).symm

/-! ## Writing IPv6 addresses -/

/-- Eight pieces of 16 bits. -/
def IsIpv6 (pieces : List Nat) : Prop := pieces.length = 8 ∧ ∀ piece ∈ pieces, piece < 65536

/-- How many zero pieces stand from an index on. -/
def zerosAt (pieces : List Nat) (index : Nat) : Nat :=
  ((pieces.drop index).takeWhile (· == 0)).length

/-- Where the first longest run of zero pieces starts. -/
def longestZeros (pieces : List Nat) : Nat :=
  (List.range 8).foldl (fun best i => if zerosAt pieces best < zerosAt pieces i then i else best) 0

def colonSeparated (pieces : List Nat) : List Char := [':'].intercalate (pieces.map hex)

/-- The IPv6 serializer of the URL Standard: the first longest run of at least two zero pieces is
written as a double colon. -/
def compressIpv6 (pieces : List Nat) : List Char :=
  let start := longestZeros pieces
  let zeros := zerosAt pieces start
  if 1 < zeros then
    colonSeparated (pieces.take start) ++ ':' :: ':' :: colonSeparated (pieces.drop (start + zeros))
  else colonSeparated pieces

/-- `to_ipv4_mapped` succeeds. -/
def isMapped (pieces : List Nat) : Bool := pieces.take 6 == [0, 0, 0, 0, 0, 65535]

/-- The octets of a list of pieces. -/
def octets (pieces : List Nat) : List Nat := pieces.flatMap fun piece => [piece / 256, piece % 256]

/-- `Display` of `Ipv6Addr`: as the URL Standard writes it, but for the IPv4-mapped addresses. -/
def displayIpv6 (pieces : List Nat) : List Char :=
  if isMapped pieces then "::ffff:".toList ++ dotted (octets (pieces.drop 6))
  else compressIpv6 pieces

theorem colonSeparated_cons (h : pieces ≠ []) :
    colonSeparated (piece :: pieces) = hex piece ++ ':' :: colonSeparated pieces := by
  cases pieces with
  | nil => exact absurd rfl h
  | cons next rest => simp [colonSeparated, List.intercalate]

theorem readPiece_hex (h : piece < 65536) (hrest : StopsAt isHexDigit rest) :
    readPiece (hex piece ++ rest) = some (piece, rest) := by
  obtain ⟨htake, hdrop⟩ := takeWhile_append_of_stops
    (fun c hc => isHexDigit_of_mem_hex (n := piece) hc) hrest
  unfold readPiece
  dsimp only
  rw [htake, hdrop, hexValue_hex, if_neg]
  simp only [not_or, not_lt]
  exact ⟨hex_ne_nil piece, length_hex_le h⟩

/-- The pieces written with colons are read back, if no further piece follows them. -/
theorem readGroups_colonSeparated {limit : Nat} {pieces : List Nat} {rest : List Char}
    (hlimit : pieces.length ≤ limit) (hpieces : ∀ p ∈ pieces, p < 65536)
    (hrest : rest = [] ∨ ∃ behind, rest = ':' :: ':' :: behind) :
    readGroups true limit (colonSeparated pieces ++ rest) = ⟨pieces, false, rest⟩ := by
  induction pieces generalizing limit with
  | nil =>
    refine readGroups_of_readPiece_none ?_
    rcases hrest with rfl | ⟨behind, rfl⟩
    · decide
    · exact readPiece_colon _
  | cons piece pieces ih =>
    cases limit with
    | zero => simp at hlimit
    | succ limit =>
      have hpiece : piece < 65536 := hpieces piece (by simp)
      cases pieces with
      | nil =>
        -- the last piece: what follows it is not a further one
        have hbehind : StopsAt isHexDigit rest ∧ rest.head? ≠ some '.' ∧
            readGroups false limit rest = ⟨[], false, rest⟩ := by
          rcases hrest with rfl | ⟨behind, rfl⟩
          · exact ⟨.nil _, by simp, readGroups_false_of_ne_colon (by simp)⟩
          · refine ⟨.cons not_isHexDigit_colon _, by simp, ?_⟩
            rw [readGroups_false_colon, readGroups_of_readPiece_none (readPiece_colon behind)]
            rfl
        obtain ⟨hstop, hdot, hmore⟩ := hbehind
        have hread : readPiece (colonSeparated [piece] ++ rest) = some (piece, rest) := by
          simpa [colonSeparated, List.intercalate] using readPiece_hex hpiece hstop
        rw [readGroups_of_readPiece hread hdot, hmore]
      | cons next pieces =>
        have hshape : colonSeparated (piece :: next :: pieces) ++ rest
            = hex piece ++ ':' :: (colonSeparated (next :: pieces) ++ rest) := by
          rw [colonSeparated_cons (by simp), List.append_assoc, List.cons_append]
        have hread := readPiece_hex hpiece
          (StopsAt.cons not_isHexDigit_colon (colonSeparated (next :: pieces) ++ rest))
        have hmore := @ih limit (by simpa using hlimit)
          fun p hp => hpieces p (List.mem_cons_of_mem _ hp)
        rw [hshape, readGroups_of_readPiece hread (by simp), readGroups_false_colon, hmore]
        simp

theorem readGroups_colonSeparated_end (hlimit : pieces.length ≤ limit)
    (hpieces : ∀ p ∈ pieces, p < 65536) :
    readGroups true limit (colonSeparated pieces) = ⟨pieces, false, []⟩ := by
  have hread := @readGroups_colonSeparated limit pieces [] hlimit hpieces (.inl rfl)
  rwa [List.append_nil] at hread

theorem pieces_eq_around_zeros (pieces : List Nat) (index : Nat) :
    pieces = pieces.take index ++ List.replicate (zerosAt pieces index) 0
      ++ pieces.drop (index + zerosAt pieces index) := by
  have hzeros : (pieces.drop index).takeWhile (· == 0)
      = List.replicate (zerosAt pieces index) 0 := by
    refine List.eq_replicate_iff.mpr ⟨rfl, fun p hp => ?_⟩
    simpa using List.mem_takeWhile_imp hp
  have hbehind : pieces.drop (index + zerosAt pieces index)
      = (pieces.drop index).dropWhile (· == 0) := by
    rw [← List.drop_drop]
    have hcut := congrArg (List.drop (zerosAt pieces index))
      (List.takeWhile_append_dropWhile (p := (· == 0)) (l := pieces.drop index))
    rw [zerosAt, List.drop_left] at hcut
    exact hcut.symm
  rw [hbehind, ← hzeros, List.append_assoc, List.takeWhile_append_dropWhile, List.take_append_drop]

/-- The compressed form of an address is read back. -/
theorem parseIpv6_compressIpv6 (h : IsIpv6 pieces) :
    parseIpv6 (compressIpv6 pieces) = some pieces := by
  obtain ⟨hlength, hpieces⟩ := h
  unfold compressIpv6
  dsimp only
  split
  · rename_i hzeros
    have hsplit := pieces_eq_around_zeros pieces (longestZeros pieces)
    generalize longestZeros pieces = start at hzeros hsplit ⊢
    generalize zerosAt pieces start = zeros at hzeros hsplit ⊢
    generalize hhead : pieces.take start = head at hsplit ⊢
    generalize htail : pieces.drop (start + zeros) = tail at hsplit ⊢
    have hsum : head.length + zeros + tail.length = 8 := by
      rw [← hlength]
      conv_rhs => rw [hsplit]
      simp [Nat.add_assoc]
    have hheadPieces : ∀ p ∈ head, p < 65536 := fun p hp =>
      hpieces p (List.mem_of_mem_take (hhead ▸ hp))
    have htailPieces : ∀ p ∈ tail, p < 65536 := fun p hp =>
      hpieces p (List.mem_of_mem_drop (htail ▸ hp))
    -- the double colon ends the first pieces, the end of the text the others
    have hfirst : readGroups true 8 (colonSeparated head ++ ':' :: ':' :: colonSeparated tail)
        = ⟨head, false, ':' :: ':' :: colonSeparated tail⟩ :=
      readGroups_colonSeparated (by omega) hheadPieces (.inr ⟨_, rfl⟩)
    have hsecond : readGroups true (7 - head.length) (colonSeparated tail) = ⟨tail, false, []⟩ :=
      readGroups_colonSeparated_end (by omega) htailPieces
    have hexpand : expand head tail = pieces := by
      have hgap : 8 - head.length - tail.length = zeros := by omega
      rw [expand, hgap]
      exact hsplit.symm
    have hshort : ¬ head.length = 8 := by omega
    unfold parseIpv6
    rw [hfirst]
    simp [hshort, doubleColon, hsecond, hexpand]
  · unfold parseIpv6
    rw [readGroups_colonSeparated_end (le_of_eq hlength) hpieces]
    simp [hlength]

/-! ## What is read is an address -/

theorem hexDigit_lt (h : hexDigit c = some d) : d < 16 := by
  unfold hexDigit at h
  split at h
  · rename_i hdigit
    have := (digitChar_of_isDigit hdigit).2
    obtain rfl := Option.some.inj h
    omega
  · split at h
    · obtain rfl := Option.some.inj h
      omega
    · split at h
      · obtain rfl := Option.some.inj h
        omega
      · cases h

theorem hexValue_lt (digits : List Char) : hexValue digits < 16 ^ digits.length := by
  induction digits using List.reverseRecOn with
  | nil => simp [hexValue]
  | append_singleton front c ih =>
    have hc : (hexDigit c).getD 0 < 16 := by
      cases hd : hexDigit c with
      | none => simp
      | some d => simpa using hexDigit_lt hd
    have hstep : hexValue (front ++ [c]) = 16 * hexValue front + (hexDigit c).getD 0 := by
      simp [hexValue]
    rw [hstep, List.length_append, List.length_singleton, pow_succ]
    omega

theorem readPiece_eq_some (h : readPiece t = some (piece, rest)) :
    piece < 65536 ∧ ∃ digits, t = digits ++ rest ∧ ∀ c ∈ digits, isHexDigit c = true := by
  unfold readPiece at h
  dsimp only at h
  split at h
  · cases h
  rename_i hgood
  simp only [not_or, not_lt] at hgood
  obtain ⟨rfl, rfl⟩ := Prod.mk.inj (Option.some.inj h)
  refine ⟨?_, _, List.takeWhile_append_dropWhile.symm, fun c hc => List.mem_takeWhile_imp hc⟩
  calc hexValue (t.takeWhile isHexDigit)
      < 16 ^ (t.takeWhile isHexDigit).length := hexValue_lt _
    _ ≤ 16 ^ 4 := Nat.pow_le_pow_right (by omega) hgood.2
    _ = 65536 := by norm_num

/-- The characters of an address. -/
def isAddressChar (c : Char) : Bool := isHexDigit c || c == ':' || c == '.'

theorem mem_intercalate {sep : Char} {parts : List (List Char)} (h : c ∈ [sep].intercalate parts) :
    (∃ part ∈ parts, c ∈ part) ∨ c = sep := by
  induction parts with
  | nil => cases h
  | cons part parts ih =>
    cases parts with
    | nil =>
      have hmem : c ∈ part := by simpa [List.intercalate] using h
      exact .inl ⟨part, by simp, hmem⟩
    | cons next rest =>
      rw [List.intercalate_cons_cons, List.append_assoc] at h
      rcases List.mem_append.mp h with hpart | hbehind
      · exact .inl ⟨part, by simp, hpart⟩
      · rcases List.mem_cons.mp hbehind with rfl | hmore
        · exact .inr rfl
        · exact (ih hmore).imp_left fun ⟨p, hp, hc⟩ => ⟨p, List.mem_cons_of_mem _ hp, hc⟩

theorem mem_splitOn (sep : Char) (h : c ∈ t) : (∃ part ∈ t.splitOn sep, c ∈ part) ∨ c = sep := by
  have hjoin : [sep].intercalate (t.splitOn sep) = t := List.intercalate_splitOn sep
  exact mem_intercalate (hjoin.symm ▸ h)

theorem mem_dotted {octets : List Nat} (h : c ∈ dotted octets) : c.isDigit = true ∨ c = '.' := by
  refine (mem_intercalate h).imp_left ?_
  rintro ⟨_, hpart, hc⟩
  obtain ⟨_, -, rfl⟩ := List.mem_map.mp hpart
  exact isDigit_of_mem_decimal hc

/-- What `read_groups` consumed is made of address characters, and every piece fits.  A colon stands
in front of a piece that is not the first, and behind the first of many. -/
theorem readGroups_spec (first : Bool) (limit : Nat) (t : List Char) :
    (readGroups first limit t).pieces.length ≤ limit
    ∧ (∀ p ∈ (readGroups first limit t).pieces, p < 65536)
    ∧ ∃ used, t = used ++ (readGroups first limit t).rest
        ∧ (∀ c ∈ used, isAddressChar c = true)
        ∧ ((readGroups first limit t).pieces ≠ [] → first = false ∨
          2 < (readGroups first limit t).pieces.length → ':' ∈ used) := by
  induction limit generalizing first t with
  | zero => exact ⟨by simp [readGroups], by simp [readGroups], [], by simp [readGroups]⟩
  | succ limit ih =>
    -- the separator is a colon or nothing
    have hlead : ∀ {start}, readSeparator first t = some start →
        ∃ colon, t = colon ++ start ∧ (∀ c ∈ colon, isAddressChar c = true) ∧
          (first = false → ':' ∈ colon) := by
      intro start hsep
      unfold readSeparator at hsep
      split at hsep
      · rename_i hfirst
        exact ⟨[], by simpa using hsep, by simp, by simp [hfirst]⟩
      · split at hsep
        · obtain rfl := Option.some.inj hsep
          exact ⟨[':'], rfl, by simp [isAddressChar], by simp⟩
        · cases hsep
    rcases readGroups_cases first limit t with heq | ⟨start, _, rest, hsep, _, hip, heq⟩
      | ⟨start, piece, rest, hsep, hpiece, heq⟩
    · rw [heq]
      exact ⟨by simp, by simp, [], by simp⟩
    · obtain ⟨colon, rfl, hcolon, hlater⟩ := hlead hsep
      obtain ⟨hip4, rfl, -⟩ := readIpv4_eq_some_iff.mp hip
      obtain ⟨a, b, c, d, rfl, hhalves⟩ := halves_of_isIpv4 hip4
      have hle := hip4.2
      simp only [List.mem_cons, List.not_mem_nil, or_false, forall_eq_or_imp, forall_eq] at hle
      rw [heq, hhalves]
      refine ⟨?_, ?_, colon ++ dotted [a, b, c, d], by simp, ?_, ?_⟩
      · show 2 ≤ limit + 1
        omega
      · simp only [List.mem_cons, List.not_mem_nil, or_false, forall_eq_or_imp, forall_eq]
        omega
      · intro x hx
        rcases List.mem_append.mp hx with hmem | hmem
        · exact hcolon x hmem
        · rcases mem_dotted hmem with hdigit | rfl
          · simp [isAddressChar, isHexDigit, hexDigit, hdigit]
          · decide
      · rintro - (hfirst | hlong)
        · exact List.mem_append_left _ (hlater hfirst)
        · exact absurd hlong (by simp)
    · obtain ⟨colon, rfl, hcolon, hlater⟩ := hlead hsep
      obtain ⟨hlt, digits, rfl, hdigits⟩ := readPiece_eq_some hpiece
      obtain ⟨hlength, hpieces, used, hused, hchars, hbehind⟩ := ih false rest
      rw [heq]
      refine ⟨by simpa using hlength, by simpa using ⟨hlt, hpieces⟩, colon ++ digits ++ used, ?_,
        ?_, ?_⟩
      · simp only [List.append_assoc]
        rw [← hused]
      · intro c hc
        simp only [List.append_assoc, List.mem_append] at hc
        rcases hc with hmem | hmem | hmem
        · exact hcolon c hmem
        · simp [isAddressChar, hdigits c hmem]
        · exact hchars c hmem
      · rintro - (hfirst | hlong)
        · simp [hlater hfirst]
        · have hmore : (readGroups false limit rest).pieces ≠ [] := by
            intro hnil
            simp [hnil] at hlong
          simp [hbehind hmore (.inl rfl)]

theorem doubleColon_eq_some_iff {behind : List Char} :
    doubleColon t = some behind ↔ t = ':' :: ':' :: behind := by
  constructor
  · intro h
    unfold doubleColon at h
    split at h
    · rw [Option.some.inj h]
    · cases h
  · rintro rfl
    rfl

/-- An accepted text is read as eight pieces, has address characters only, and a colon. -/
theorem parseIpv6_spec (h : parseIpv6 t = some pieces) :
    IsIpv6 pieces ∧ (∀ c ∈ t, isAddressChar c = true) ∧ ':' ∈ t := by
  obtain ⟨_, hheadPieces, _, hused, hchars, hcolon⟩ := readGroups_spec true 8 t
  unfold parseIpv6 at h
  dsimp only at h
  split at h
  · rename_i hlength
    split at h
    · rename_i hrest
      obtain rfl := Option.some.inj h
      rw [hrest, List.append_nil] at hused
      have hmem := hcolon (List.ne_nil_of_length_pos (by omega)) (.inr (by omega))
      exact ⟨⟨hlength, hheadPieces⟩, hused ▸ hchars, hused ▸ hmem⟩
    · cases h
  · split at h
    · cases h
    -- fewer than eight groups need a `::` to fill up
    cases hdouble : doubleColon (readGroups true 8 t).rest with
    | none => simp [hdouble] at h
    | some behind =>
      obtain ⟨htailLength, htailPieces, usedBehind, husedBehind, hcharsBehind, -⟩ :=
        readGroups_spec true (7 - (readGroups true 8 t).pieces.length) behind
      have hrest := doubleColon_eq_some_iff.mp hdouble
      simp only [hdouble] at h
      split at h
      · rename_i hend
        obtain rfl := Option.some.inj h
        rw [hend, List.append_nil] at husedBehind
        refine ⟨⟨?_, ?_⟩, ?_, ?_⟩
        · simp only [expand, List.length_append, List.length_replicate]
          omega
        · intro p hp
          simp only [expand, List.mem_append, List.mem_replicate] at hp
          rcases hp with (hp | ⟨-, rfl⟩) | hp
          · exact hheadPieces p hp
          · omega
          · exact htailPieces p hp
        · intro c hc
          rw [hused, hrest] at hc
          simp only [List.mem_append, List.mem_cons] at hc
          rcases hc with hmem | rfl | rfl | hmem
          · exact hchars c hmem
          · decide
          · decide
          · exact hcharsBehind c (husedBehind ▸ hmem)
        · rw [hused, hrest]
          simp
      · cases h

/-! ## The characters of what is written -/

theorem mem_colonSeparated (h : c ∈ colonSeparated pieces) :
    (∃ piece, c ∈ hex piece) ∨ c = ':' := by
  refine (mem_intercalate h).imp_left ?_
  rintro ⟨_, hpart, hc⟩
  obtain ⟨piece, -, rfl⟩ := List.mem_map.mp hpart
  exact ⟨piece, hc⟩

theorem mem_compressIpv6 (h : c ∈ compressIpv6 pieces) : (∃ piece, c ∈ hex piece) ∨ c = ':' := by
  unfold compressIpv6 at h
  dsimp only at h
  split at h
  · simp only [List.mem_append, List.mem_cons] at h
    rcases h with hhead | hcolon | hcolon | htail
    · exact mem_colonSeparated hhead
    · exact .inr hcolon
    · exact .inr hcolon
    · exact mem_colonSeparated htail
  · exact mem_colonSeparated h

theorem dot_notMem_compressIpv6 (pieces : List Nat) : '.' ∉ compressIpv6 pieces := by
  intro h
  rcases mem_compressIpv6 h with ⟨_, hmem⟩ | heq
  · have := isHexDigit_of_mem_hex hmem
    rw [not_isHexDigit_dot] at this
    cases this
  · exact absurd heq (by decide)

/-- The writers differ on the IPv4-mapped addresses only. -/
theorem displayIpv6_eq_compressIpv6_iff (h : pieces.length = 8) :
    displayIpv6 pieces = compressIpv6 pieces ↔ isMapped pieces = false := by
  unfold displayIpv6
  constructor
  · intro heq
    by_contra hmapped
    rw [if_pos (by simpa using hmapped)] at heq
    -- the dotted form has dots
    refine dot_notMem_compressIpv6 pieces (heq ▸ List.mem_append_right _ ?_)
    match hlast : pieces.drop 6 with
    | [a, b] =>
      have hshape : octets [a, b] = a / 256 :: [a % 256, b / 256, b % 256] := rfl
      rw [hshape, dotted_cons (by simp)]
      simp
    | [] | [_] | _ :: _ :: _ :: _ =>
      have := congrArg List.length hlast
      simp [h] at this
  · intro hmapped
    rw [hmapped]
    rfl

/-! ## IPv4 addresses as the URL Standard reads them -/

/-- The IPv4 number parser: decimal, octal with a leading `0`, hexadecimal with a leading `0x`. -/
def whatwgNumber (t : List Char) : Option Nat :=
  if t = [] then none
  else
    let (radix, digits) := match t with
      | '0' :: 'x' :: digits => (16, digits)
      | '0' :: 'X' :: digits => (16, digits)
      | '0' :: d :: digits => (8, d :: digits)
      | _ => (10, t)
    if digits.all fun c => (hexDigit c).any (· < radix) then
      some (digits.foldl (fun n c => radix * n + (hexDigit c).getD 0) 0)
    else none

/-- The dot-separated parts of a host; an empty last one is dropped. -/
def dottedParts (host : List Char) : List (List Char) :=
  let parts := host.splitOn '.'
  if parts.getLast? = some [] ∧ 1 < parts.length then parts.dropLast else parts

/-- The ends-in-a-number checker. -/
def endsInANumber (host : List Char) : Bool :=
  match (dottedParts host).getLast? with
  | none => false
  | some last => (decide (last ≠ []) && last.all Char.isDigit) || (whatwgNumber last).isSome

/-- The IPv4 parser: the last of at most four numbers fills the octets that remain. -/
def whatwgIpv4 (host : List Char) : Option Nat :=
  let parts := dottedParts host
  if 4 < parts.length then none
  else
    match parts.mapM whatwgNumber with
    | none => none
    | some numbers =>
      let last := numbers.getLastD 0
      if numbers.dropLast.any (255 < ·) || decide (256 ^ (5 - numbers.length) ≤ last) then none
      else some (last + ((numbers.dropLast.zipIdx.map fun (n, i) => n * 256 ^ (3 - i)).sum))

/-- The octets of a 32-bit number. -/
def octetsOf (n : Nat) : List Nat := [n / 256 ^ 3 % 256, n / 256 ^ 2 % 256, n / 256 % 256, n % 256]

theorem isIpv4_octetsOf (n : Nat) : IsIpv4 (octetsOf n) := by
  refine ⟨rfl, fun octet h => ?_⟩
  simp only [octetsOf, List.mem_cons, List.not_mem_nil, or_false] at h
  omega

theorem whatwgNumber_decimal (n : Nat) : whatwgNumber (decimal n) = some n := by
  have hvalue : (decimal n).foldl (fun n c => 10 * n + (hexDigit c).getD 0) 0 = n := by
    have hfold : ∀ (digits : List Char) (start : Nat), (∀ c ∈ digits, c.isDigit = true) →
        digits.foldl (fun n c => 10 * n + (hexDigit c).getD 0) start
          = Nat.ofDigitChars 10 digits start := by
      intro digits
      induction digits with
      | nil => intro start _; rfl
      | cons c digits ih =>
        intro start hdigits
        have hc : (hexDigit c).getD 0 = c.toNat - 48 := by
          simp [hexDigit, hdigits c (by simp)]
        rw [List.foldl_cons, Nat.ofDigitChars_cons, hc]
        exact ih _ fun d hd => hdigits d (List.mem_cons_of_mem _ hd)
    rw [hfold _ _ fun c hc => isDigit_of_mem_decimal hc]
    exact decimalValue_decimal n
  have hall : (decimal n).all (fun c => (hexDigit c).any (· < 10)) = true := by
    refine List.all_eq_true.mpr fun c hc => ?_
    have hdigit := isDigit_of_mem_decimal hc
    simpa [hexDigit, hdigit] using (digitChar_of_isDigit hdigit).2
  -- no second digit follows a zero
  have hradix : (match decimal n with
      | '0' :: 'x' :: digits => (16, digits)
      | '0' :: 'X' :: digits => (16, digits)
      | '0' :: d :: digits => (8, d :: digits)
      | _ => (10, decimal n)) = (10, decimal n) := by
    have hlead := decimal_no_lead n
    split
    any_goals rfl
    all_goals
      rename_i heq
      exact absurd ⟨by simp [heq], by simp [heq]⟩ hlead
  unfold whatwgNumber
  rw [if_neg (decimal_ne_nil n), hradix]
  simp only [hall, if_true, hvalue]

theorem dottedParts_dotted {octets : List Nat} (hne : octets ≠ []) :
    dottedParts (dotted octets) = octets.map decimal := by
  have hsplit : (dotted octets).splitOn '.' = octets.map decimal := by
    refine List.splitOn_intercalate '.' ?_ (by simpa using hne)
    intro _ hpart hdot
    obtain ⟨octet, -, rfl⟩ := List.mem_map.mp hpart
    exact absurd (isDigit_of_mem_decimal hdot) (by decide)
  unfold dottedParts
  rw [hsplit, if_neg]
  rintro ⟨hlast, -⟩
  obtain ⟨octet, -, heq⟩ := List.mem_map.mp (List.mem_of_getLast? hlast)
  exact decimal_ne_nil octet heq

/-- A canonical dotted address is read as itself. -/
theorem whatwgIpv4_dotted {octets : List Nat} (h : IsIpv4 octets) :
    ∃ n, whatwgIpv4 (dotted octets) = some n ∧ octetsOf n = octets := by
  obtain ⟨hlength, hle⟩ := h
  match octets, hlength with
  | [a, b, c, d], _ =>
    simp only [List.mem_cons, List.not_mem_nil, or_false, forall_eq_or_imp, forall_eq] at hle
    obtain ⟨_, _⟩ := hle
    have hnumbers : (dottedParts (dotted [a, b, c, d])).mapM whatwgNumber = some [a, b, c, d] := by
      rw [dottedParts_dotted (by simp)]
      simp [whatwgNumber_decimal]
    have hparts : (dottedParts (dotted [a, b, c, d])).length = 4 := by
      rw [dottedParts_dotted (by simp)]
      rfl
    refine ⟨d + (a * 256 ^ 3 + (b * 256 ^ 2 + c * 256)), ?_, ?_⟩
    · unfold whatwgIpv4
      simp only [hparts, hnumbers]
      simp [List.zipIdx]
      omega
    · simp only [octetsOf, List.cons.injEq, and_true]
      omega

end IpText

import SubversionR.Client.RemoteAccessProfile

/-!
# Endpoints — the extension and the daemon read the same repository URL

The extension takes the endpoint of a URL from the runtime's URL parser, the daemon cuts the URL
itself.  The runtime repairs what the daemon refuses or keeps: the case of a scheme, missing or
surplus slashes, blanks, empty credentials, an empty port, encoded hosts, the short and octal forms
of an IPv4 address.  And it writes an IPv4-mapped address in hexadecimal where the daemon's library
writes the dotted form, so that each side refuses the other's canonical host.

* `canonicalHost_iff` — of the hosts the extension accepts, the daemon refuses the IPv4-mapped ones;
* `PlainUrl` — the URLs that need no repair;
* `classifyRepositoryUrl_iff` — on a URL with an endpoint the two agree exactly if it is plain;
* `endpoints_agree_iff` — both, and what follows for envelopes.
-/

namespace SubversionR

open UrlStandard IpText Extension Fallible

/-- The codec of the daemon: addresses are read and written by the standard library. -/
def stdCodec (decode : JsonValues.Json → Option RemoteEnvelope) : RemoteCodec where
  decodeEnvelope := decode
  ipv4 t := (parseIpv4 t).map dotted
  ipv6 t := (parseIpv6 t).map displayIpv6

/-- The host is an IPv4-mapped IPv6 address. -/
def isMappedHost (host : Text) : Bool := (parseIpv6 host).any isMapped

section

variable {decode : JsonValues.Json → Option RemoteEnvelope} {unicode : Unicode}

/-! ## Canonical hosts -/

variable {t : Text}

theorem stdCodec_ipv4_eq_some {canonical : Text}
    (h : (stdCodec decode).ipv4 t = some canonical) :
    canonical = t ∧ ∀ c ∈ t, c.isDigit = true ∨ c = '.' := by
  obtain ⟨_, hparse, rfl⟩ := Option.map_eq_some_iff.mp h
  obtain ⟨-, rfl⟩ := parseIpv4_eq_some_iff.mp hparse
  exact ⟨rfl, fun c hc => mem_dotted hc⟩

/-- The daemon's check of one label. -/
theorem daemonLabel_of_labelPattern {label : Text} (h : labelPattern label = true) :
    (decide (label ≠ []) && decide (label.length ≤ 63) && decide (label.head? ≠ some '-')
      && decide (label.getLast? ≠ some '-')
      && label.all fun c => c.isLower || c.isDigit || c == '-') = true := by
  obtain ⟨hlength, hhead, hlast, hall⟩ := labelPattern_iff.mp h
  have hends : ∀ {o : Option Char}, o.any isLabelEnd = true → o ≠ some '-' := by
    rintro _ hany rfl
    exact absurd hany (by decide)
  have hne : label ≠ [] := by
    rintro rfl
    cases hhead
  simp only [Bool.and_eq_true, decide_eq_true_eq]
  exact ⟨⟨⟨⟨hne, hlength⟩, hends hhead⟩, hends hlast⟩, hall⟩

variable {endpoint : CanonicalEndpoint}

/-- Of the hosts the extension accepts, the daemon refuses the IPv4-mapped addresses. -/
theorem canonicalHost_iff (h : ValidEndpoint unicode endpoint) :
    canonicalHost (stdCodec decode) endpoint.canonicalHost = true
      ↔ isMappedHost endpoint.canonicalHost = false := by
  have hbasic : ¬ (endpoint.canonicalHost = [] ∨ 253 < endpoint.canonicalHost.length
      ∨ ¬ endpoint.canonicalHost.all (fun c => c.toNat < 128) = true
      ∨ endpoint.canonicalHost ≠ endpoint.canonicalHost.toAsciiLowercase) := by
    simp only [not_or, not_lt, not_not, ne_eq]
    exact ⟨h.host_ne, h.host_length, h.host_ascii, h.host_lower⟩
  have hlabels := h.host_labels
  have hipv6 := h.host_ipv6
  generalize endpoint.canonicalHost = host at *
  unfold canonicalHost
  rw [if_neg hbasic]
  by_cases hcolon : ':' ∈ host
  · -- an address: both sides read it, and write it alike unless it is mapped
    obtain ⟨pieces, hpieces, rfl⟩ := eq_compressIpv6_of_canonicalIpv6 (hipv6 hcolon)
    have hread := parseIpv6_compressIpv6 hpieces
    have hv4 : (stdCodec decode).ipv4 (compressIpv6 pieces) = none := by
      cases hsome : (stdCodec decode).ipv4 (compressIpv6 pieces) with
      | none => rfl
      | some canonical =>
        rcases (stdCodec_ipv4_eq_some hsome).2 ':' hcolon with hdigit | heq
        · exact absurd hdigit (by decide)
        · exact absurd heq (by decide)
    have hv6 : (stdCodec decode).ipv6 (compressIpv6 pieces)
        = some (displayIpv6 pieces) := by
      simp [stdCodec, hread]
    have hmapped : isMappedHost (compressIpv6 pieces) = isMapped pieces := by
      simp [isMappedHost, hread]
    rw [hv4, hmapped]
    simp only [hv6, decide_eq_true_eq]
    exact displayIpv6_eq_compressIpv6_iff hpieces.1
  · have hv6 : parseIpv6 host = none := by
      cases hsome : parseIpv6 host with
      | none => rfl
      | some pieces => exact absurd (parseIpv6_spec hsome).2.2 hcolon
    have hmapped : isMappedHost host = false := by simp [isMappedHost, hv6]
    simp only [hmapped, iff_true]
    cases hv4 : (stdCodec decode).ipv4 host with
    | some canonical => simpa using (stdCodec_ipv4_eq_some hv4).1
    | none =>
      have hnone : (stdCodec decode).ipv6 host = none := by simp [stdCodec, hv6]
      simp only [hnone]
      -- the outer characters belong to labels, and no label is empty
      have hdots : ¬ (host.head? = some '.' ∨ host.getLast? = some '.') := by
        have hempty : ([] : Text) ∉ host.splitOn '.' := fun hmem => by
          have := hlabels hcolon [] hmem
          cases this
        rintro (hhead | hlast)
        · obtain ⟨rest, rfl⟩ := List.head?_eq_some_iff.mp hhead
          refine hempty ?_
          have hsplit := List.splitOn_append_cons_self (a := '.') [] rest
          rw [List.nil_append] at hsplit
          rw [hsplit]
          simp
        · obtain ⟨_, rfl⟩ := List.getLast?_eq_some_iff.mp hlast
          refine hempty ?_
          rw [List.splitOn_append_cons_self]
          simp
      rw [if_neg hdots]
      exact List.all_eq_true.mpr fun label hlabel =>
        daemonLabel_of_labelPattern (hlabels hcolon label hlabel)

theorem validateEndpoint_iff (h : ValidEndpoint unicode endpoint) :
    validateEndpoint (stdCodec decode) endpoint = .ok ()
      ↔ isMappedHost endpoint.canonicalHost = false := by
  have hiff : canonicalHost (stdCodec decode) endpoint.canonicalHost = true
      ↔ isMappedHost endpoint.canonicalHost = false := canonicalHost_iff h
  rw [← hiff]
  have hport : ¬ endpoint.effectivePort = 0 := by
    have := h.port_pos
    omega
  unfold validateEndpoint
  by_cases hhost : canonicalHost (stdCodec decode) endpoint.canonicalHost = true
  · simp [hport, hhost]
  · simp [hhost]

/-! ## How the daemon cuts a URL -/

variable {front behind : Text}

theorem eq_of_splitOnce {mark : Text} (h : Text.splitOnce mark t = some (front, behind)) :
    t = front ++ mark ++ behind := by
  induction t generalizing front with
  | nil =>
    unfold Text.splitOnce at h
    split at h
    · rename_i hmark
      obtain ⟨rfl, rfl⟩ := Prod.mk.inj (Option.some.inj h)
      simp [hmark]
    · cases h
  | cons c rest ih =>
    unfold Text.splitOnce at h
    split at h
    · rename_i hlead
      obtain ⟨rfl, rfl⟩ := Prod.mk.inj (Option.some.inj h)
      obtain ⟨behind, heq⟩ := List.isPrefixOf_iff_prefix.mp hlead
      rw [← heq, List.drop_left]
      rfl
    · obtain ⟨⟨_, _⟩, hrest, heq⟩ := Option.map_eq_some_iff.mp h
      obtain ⟨rfl, rfl⟩ := Prod.mk.inj heq
      have hcut := ih hrest
      simp [hcut]

variable {c : Char}

theorem splitOnce_append {mark : Text} (h : c ∉ front) :
    Text.splitOnce (c :: mark) (front ++ (c :: mark) ++ behind) = some (front, behind) := by
  induction front with
  | nil =>
    unfold Text.splitOnce
    rw [List.nil_append, List.cons_append]
    simp
  | cons d front ih =>
    have hd : d ≠ c := fun heq => h (heq ▸ List.mem_cons_self)
    have hrest := ih fun hmem => h (List.mem_cons_of_mem _ hmem)
    unfold Text.splitOnce
    rw [List.cons_append, List.cons_append]
    dsimp only
    rw [if_neg, hrest]
    · rfl
    · intro hlead
      obtain ⟨_, heq⟩ := List.isPrefixOf_iff_prefix.mp hlead
      exact hd (List.cons.inj heq).1.symm

theorem splitOnce_eq_none (h : c ∉ t) : Text.splitOnce [c] t = none := by
  cases hcut : Text.splitOnce [c] t with
  | none => rfl
  | some parts =>
    have heq := eq_of_splitOnce hcut
    exact absurd (by rw [heq]; simp) h

theorem rsplitOnce_eq_none (h : c ∉ t) : Text.rsplitOnce c t = none := by
  unfold Text.rsplitOnce
  rw [splitOnce_eq_none (by simpa using h)]
  rfl

theorem rsplitOnce_append (h : c ∉ behind) :
    Text.rsplitOnce c (front ++ c :: behind) = some (front, behind) := by
  unfold Text.rsplitOnce
  have hreverse : (front ++ c :: behind).reverse = behind.reverse ++ [c] ++ front.reverse := by
    simp
  rw [hreverse, splitOnce_append (by simpa using h)]
  simp

theorem eq_of_rsplitOnce (h : Text.rsplitOnce c t = some (front, behind)) :
    t = front ++ c :: behind := by
  obtain ⟨⟨_, _⟩, hcut, heq⟩ := Option.map_eq_some_iff.mp h
  obtain ⟨rfl, rfl⟩ := Prod.mk.inj heq
  have hparts := congrArg List.reverse (eq_of_splitOnce hcut)
  simpa using hparts

/-- The scheme as it stands in a URL. -/
def RemoteScheme.word : RemoteScheme → Text
  | .http => "http"
  | .https => "https"
  | .svn => "svn"
  | .svnSsh => "svn+ssh"

variable {scheme : RemoteScheme}

theorem ofText?_eq_some_iff : RemoteScheme.ofText? t = some scheme ↔ t = scheme.word := by
  constructor
  · intro h
    unfold RemoteScheme.ofText? at h
    split_ifs at h <;> cases h <;> assumption
  · rintro rfl
    cases scheme <;> decide

theorem schemeAndPort_eq_some_iff {port : Nat} :
    schemeAndPort t = some (scheme, port) ↔ t = scheme.word ∧ port = scheme.defaultPort := by
  constructor
  · intro h
    refine ⟨?_, snd_of_schemeAndPort h⟩
    unfold schemeAndPort at h
    split_ifs at h <;> cases h <;> assumption
  · rintro ⟨rfl, rfl⟩
    cases scheme <;> decide

theorem plainScheme_word (scheme : RemoteScheme) : PlainScheme scheme.word := by
  have hchars : scheme.word.all isSchemeChar = true := by cases scheme <;> decide
  refine ⟨?_, List.all_eq_true.mp hchars, ?_, ?_⟩ <;> cases scheme <;> decide

/-- The authority of the text behind `://`. -/
def authorityOf (rest : Text) : Text := rest.takeWhile (! isDelimiter ·)

/-- What an accepted remote URL looks like to the daemon. -/
theorem classifyRepositoryUrl_eq_remote {codec : RemoteCodec} {url : Text}
    (h : classifyRepositoryUrl codec url = .ok (.remote endpoint)) :
    ∃ rest, url = endpoint.scheme.word ++ "://".toList ++ rest ∧ authorityOf rest ≠ []
      ∧ parseAuthority codec (authorityOf rest) endpoint.scheme
        = .ok (endpoint.canonicalHost, endpoint.effectivePort)
      ∧ validateEndpoint codec endpoint = .ok () := by
  unfold classifyRepositoryUrl at h
  split at h
  · cases h
  rename_i word rest hsplit
  split at h
  · split at h <;> cases h
  split at h
  · cases h
  rename_i scheme hscheme
  dsimp only at h
  split at h
  · cases h
  rename_i hauthority
  obtain ⟨⟨_, _⟩, hparse, h⟩ := bind_eq_ok_iff.mp h
  obtain ⟨_, hvalid, h⟩ := bind_eq_ok_iff.mp h
  obtain rfl := ClassifiedRepositoryUrl.remote.inj (Except.ok.inj h)
  obtain rfl := ofText?_eq_some_iff.mp hscheme
  exact ⟨rest, eq_of_splitOnce hsplit, fun hnil => hauthority (.inl hnil), hparse, hvalid⟩

theorem classifyRepositoryUrl_word {codec : RemoteCodec} {rest : Text} (hne : authorityOf rest ≠ [])
    (hat : '@' ∉ authorityOf rest) :
    classifyRepositoryUrl codec (scheme.word ++ "://".toList ++ rest)
      = (do
          let (host, port) ← parseAuthority codec (authorityOf rest) scheme
          validateEndpoint codec ⟨scheme, host, port⟩
          .ok (.remote ⟨scheme, host, port⟩)) := by
  have hcolon : ':' ∉ scheme.word := by cases scheme <;> decide
  have hfile : scheme.word ≠ "file".toList := by cases scheme <;> decide
  have hsplit : Text.splitOnce "://" (scheme.word ++ "://".toList ++ rest)
      = some (scheme.word, rest) := splitOnce_append hcolon
  unfold classifyRepositoryUrl
  rw [hsplit]
  simp only [hfile, if_false, ofText?_eq_some_iff.mpr (rfl : scheme.word = scheme.word)]
  rw [if_neg]
  · rfl
  · exact not_or.mpr ⟨hne, hat⟩

/-! ## How the extension cuts it -/

theorem splitHost_append (inside : Bool) (t : Text) :
    t = (splitHost inside t).1 ++ (splitHost inside t).2.elim [] (':' :: ·) := by
  induction t generalizing inside with
  | nil => rfl
  | cons c t ih =>
    unfold splitHost
    split
    · rename_i hcolon
      rw [hcolon.1]
      rfl
    · exact congrArg (c :: ·) (ih _)

theorem head?_splitHost (hc : c ≠ ':') : (splitHost false (c :: t)).1.head? = some c := by
  unfold splitHost
  simp [hc]

/-- Outside brackets a host ends at its first colon. -/
theorem colon_notMem_splitHost (h : '[' ∉ (splitHost false t).1) : ':' ∉ (splitHost false t).1 := by
  induction t with
  | nil => simp [splitHost]
  | cons c t ih =>
    unfold splitHost at h ⊢
    split
    · simp
    rename_i hcolon
    rw [if_neg hcolon] at h
    have hc : c ≠ '[' := fun heq => h (heq ▸ List.mem_cons_self)
    have hinside : (if c = '[' then true else if c = ']' then false else false) = false := by
      simp [hc]
    rw [hinside] at h ⊢
    have hne : c ≠ ':' := fun heq => hcolon ⟨heq, rfl⟩
    rw [List.mem_cons, not_or]
    exact ⟨hne.symm, ih fun hmem => h (List.mem_cons_of_mem _ hmem)⟩

/-- The host and port texts of an authority, as the extension cuts it, and what they were read
as. -/
structure CutAs (unicode : Unicode) (authority : Text) (endpoint : CanonicalEndpoint)
    (hostname : Text) (port : Option Nat) : Prop where
  readHost : parseHost unicode (isSpecial endpoint.scheme.word) (splitHost false authority).1
    = some hostname
  readPort : UrlStandard.parsePort endpoint.scheme.word (splitHost false authority).2 = some port
  canonicalHost : endpoint.canonicalHost = Text.toAsciiLowercase (withoutBrackets hostname)
  effectivePort : endpoint.effectivePort = port.getD endpoint.scheme.defaultPort
  port_pos : 0 < endpoint.effectivePort

theorem cutAs_of_endpointOf {rest : Text} {url : Url}
    (h : EndpointOf unicode (scheme.word ++ "://".toList ++ rest) url endpoint)
    (hne : authorityOf rest ≠ []) (hplain : ∀ c ∈ authorityOf rest, isPlain c = true) :
    endpoint.scheme = scheme
      ∧ ∃ hostname port, CutAs unicode (authorityOf rest) endpoint hostname port := by
  obtain ⟨tail, htail⟩ : ∃ tail, parseUrl unicode (scheme.word ++ "://".toList ++ rest)
      = parseHostPort unicode scheme.word [] [] (authorityOf rest) tail :=
    parseUrl_of_plain (plainScheme_word scheme) hne hplain
  have hparsed := h.parsed
  rw [htail] at hparsed
  unfold parseHostPort at hparsed
  dsimp only at hparsed
  split at hparsed
  · cases hparsed
  obtain ⟨hostname, hhost, hparsed⟩ := Option.bind_eq_some_iff.mp hparsed
  obtain ⟨port, hport, rfl⟩ := Option.map_eq_some_iff.mp hparsed
  have hword : scheme.word = endpoint.scheme.word := (schemeAndPort_eq_some_iff.mp h.scheme).1
  have hscheme : endpoint.scheme = scheme := by
    have := ofText?_eq_some_iff.mpr hword
    rw [ofText?_eq_some_iff.mpr rfl] at this
    exact (Option.some.inj this).symm
  refine ⟨hscheme, hostname, port, ?_, ?_, h.host, h.port, h.valid.port_pos⟩
  · rw [hscheme]
    exact hhost
  · rw [hscheme]
    exact hport

theorem defaultPort_word {port : Nat} (h : UrlStandard.defaultPort scheme.word = some port) :
    port = scheme.defaultPort := by
  have hall : UrlStandard.defaultPort scheme.word = none
      ∨ UrlStandard.defaultPort scheme.word = some scheme.defaultPort := by
    cases scheme <;> decide
  rcases hall with hnone | hsome
  · rw [hnone] at h
    cases h
  · rw [hsome] at h
    exact (Option.some.inj h).symm

variable {port : Option Nat}

/-- A port both sides read: digits, at least one of them. -/
theorem parsePort_digits {digits : Text}
    (h : UrlStandard.parsePort scheme.word (some digits) = some port) (hne : digits ≠ [])
    (hpos : 0 < port.getD scheme.defaultPort) :
    parsePort digits = .ok (port.getD scheme.defaultPort) ∧ ∀ c ∈ digits, c.isDigit = true := by
  unfold UrlStandard.parsePort at h
  dsimp only at h
  split at h
  · cases h
  rename_i hall
  rw [not_not] at hall
  have hdigits := List.all_eq_true.mp hall
  split at h
  · cases h
  have hvalue : port.getD scheme.defaultPort = decimalValue digits := by
    split at h
    · rename_i hdefault
      obtain rfl := Option.some.inj h
      exact (defaultPort_word hdefault).symm
    · obtain rfl := Option.some.inj h
      rfl
  have hread : Text.parseU16 digits = some (decimalValue digits) := by
    have hlt : decimalValue digits < 2 ^ 16 := by omega
    unfold Text.parseU16
    split
    · exact absurd (hdigits '+' (by simp)) (by decide)
    rw [if_neg (by simp [hne, hall])]
    exact if_pos hlt
  refine ⟨?_, hdigits⟩
  rw [hvalue] at hpos ⊢
  unfold parsePort
  rw [hread]
  exact if_pos hpos

variable {authority hostname : Text}

/-- The port the daemon reads behind a host. -/
def portBehind (scheme : RemoteScheme) : Text → Except RemoteRefusal Nat
  | ':' :: digits => parsePort digits
  | _ => .ok scheme.defaultPort

/-- Behind the host stands nothing or a port, and both sides read the same one unless its text is
empty. -/
theorem CutAs.suffix (h : CutAs unicode authority endpoint hostname port) :
    ∃ suffix, authority = (splitHost false authority).1 ++ suffix
      ∧ (suffix = [] ∨ ∃ digits, suffix = ':' :: digits ∧ ':' ∉ digits)
      ∧ portBehind endpoint.scheme suffix = if suffix.getLast? = some ':' then
          .error (.contractInvalid "url") else .ok endpoint.effectivePort := by
  have hcut := splitHost_append false authority
  have hread := h.readPort
  cases hport : (splitHost false authority).2 with
  | none =>
    rw [hport] at hread hcut
    obtain rfl : none = port := Option.some.inj hread
    refine ⟨[], by simpa using hcut, .inl rfl, ?_⟩
    rw [if_neg (by simp), h.effectivePort]
    rfl
  | some digits =>
    rw [hport] at hread hcut
    by_cases hne : digits = []
    · subst hne
      exact ⟨[':'], hcut, .inr ⟨[], rfl, by simp⟩, rfl⟩
    · have hpos := h.port_pos
      rw [h.effectivePort] at hpos
      obtain ⟨hparse, hdigits⟩ := parsePort_digits hread hne hpos
      have hnot : ':' ∉ digits := fun hmem => absurd (hdigits _ hmem) (by decide)
      refine ⟨':' :: digits, hcut, .inr ⟨digits, rfl, hnot⟩, ?_⟩
      rw [if_neg, h.effectivePort]
      · exact hparse
      · obtain ⟨_, _, rfl⟩ := List.exists_cons_of_ne_nil hne
        exact fun hlast => hnot (List.mem_of_getLast? hlast)

/-- What the daemon reads, by the last character of the authority: behind a host, this is the last
one behind the host. -/
theorem portBehind_map {host suffix daemonHost : Text} (hlast : host.getLast? ≠ some ':')
    (hport : portBehind endpoint.scheme suffix = if suffix.getLast? = some ':' then
      .error (.contractInvalid "url") else .ok endpoint.effectivePort) :
    ((portBehind endpoint.scheme suffix).map fun port => (daemonHost, port))
      = if (host ++ suffix).getLast? = some ':' then .error (.contractInvalid "url")
        else .ok (daemonHost, endpoint.effectivePort) := by
  have hend : (host ++ suffix).getLast? = some ':' ↔ suffix.getLast? = some ':' := by
    rw [List.getLast?_append]
    cases suffix.getLast? with
    | none => simpa using hlast
    | some c => simp
  simp only [hport, hend]
  split <;> rfl

/-! ## Bracketed hosts -/

theorem toAsciiLowercase_compressIpv6 (pieces : List Nat) :
    Text.toAsciiLowercase (compressIpv6 pieces) = compressIpv6 pieces := by
  refine (List.map_congr_left ?_).trans (List.map_id _)
  intro c hc
  rcases mem_compressIpv6 hc with ⟨_, hmem⟩ | rfl
  · have hall : ∀ d ∈ List.range 16, d.digitChar.toLower = d.digitChar := by decide
    have hdigit : ∃ d < 16, c = d.digitChar := mem_hex hmem
    obtain ⟨d, hd, rfl⟩ := hdigit
    exact hall d (List.mem_range.mpr hd)
  · rfl

theorem withoutBrackets_bracketed (t : Text) : withoutBrackets ('[' :: t ++ [']']) = t := by
  unfold withoutBrackets
  simp

/-- The text between the brackets an authority starts with. -/
def literalOf (authority : Text) : Text := authority.tail.takeWhile (· != ']')

/-- A bracketed authority: both sides read the same address. -/
theorem CutAs.bracket (decode : JsonValues.Json → Option RemoteEnvelope)
    (h : CutAs unicode authority endpoint hostname port) (hhead : authority.head? = some '[') :
    ∃ pieces, IsIpv6 pieces ∧ parseIpv6 (literalOf authority) = some pieces
      ∧ endpoint.canonicalHost = compressIpv6 pieces
      ∧ parseAuthority (stdCodec decode) authority endpoint.scheme
        = if authority.getLast? = some ':' then .error (.contractInvalid "url")
          else .ok (displayIpv6 pieces, endpoint.effectivePort) := by
  obtain ⟨remainder, rfl⟩ := List.head?_eq_some_iff.mp hhead
  have hhostHead : (splitHost false ('[' :: remainder)).1.head? = some '[' :=
    head?_splitHost (by decide)
  obtain ⟨suffix, hcut, hsuffix, hport⟩ := h.suffix
  have hread := h.readHost
  generalize (splitHost false ('[' :: remainder)).1 = host at hhostHead hcut hread
  -- the host is an address in brackets
  unfold parseHost at hread
  rw [if_pos hhostHead] at hread
  split at hread
  swap
  · cases hread
  rename_i hlast
  obtain ⟨pieces, hpieces, rfl⟩ := Option.map_eq_some_iff.mp hread
  rw [whatwgIpv6_eq_parseIpv6] at hpieces
  obtain ⟨hip, hchars, -⟩ := parseIpv6_spec hpieces
  obtain ⟨inner, rfl⟩ : ∃ inner, host = '[' :: inner ++ [']'] := by
    obtain ⟨t, rfl⟩ := List.head?_eq_some_iff.mp hhostHead
    cases t with
    | nil => exact absurd hlast (by simp)
    | cons c t =>
      rw [List.getLast?_cons_cons] at hlast
      obtain ⟨inner, heq⟩ := List.getLast?_eq_some_iff.mp hlast
      exact ⟨inner, by rw [heq]; rfl⟩
  have hinner : ('[' :: inner ++ [']']).tail.dropLast = inner := by simp
  rw [hinner] at hpieces hchars
  have hbracket : ']' ∉ inner := fun hmem => absurd (hchars _ hmem) (by decide)
  have hhost : endpoint.canonicalHost = compressIpv6 pieces := by
    rw [h.canonicalHost, withoutBrackets_bracketed, toAsciiLowercase_compressIpv6]
  have hv6 : (stdCodec decode).ipv6 inner = some (displayIpv6 pieces) := by
    simp [stdCodec, hpieces]
  obtain rfl : remainder = inner ++ ']' :: suffix := by simpa using hcut
  have hsplit : Text.splitOnce "]" (inner ++ ']' :: suffix) = some (inner, suffix) := by
    have hcut : Text.splitOnce [']'] (inner ++ [']'] ++ suffix) = some (inner, suffix) :=
      splitOnce_append hbracket
    rwa [List.append_assoc] at hcut
  have hliteral : literalOf ('[' :: (inner ++ ']' :: suffix)) = inner :=
    (takeWhile_append_of_stops (p := (· != ']')) (fun c hc => by
      have hne : c ≠ ']' := fun heq => hbracket (heq ▸ hc)
      simpa using hne) (StopsAt.cons (by simp) suffix)).1
  refine ⟨pieces, hip, by rw [hliteral]; exact hpieces, hhost, ?_⟩
  rw [hcut, ← portBehind_map (by rw [hlast]; simp) hport, ← hcut]
  unfold parseAuthority
  simp only [hsplit, hv6]
  rcases hsuffix with rfl | ⟨digits, rfl, -⟩
  · rfl
  · show (parsePort digits >>= fun port => _) = (parsePort digits).map _
    cases parsePort digits <;> rfl

/-! ## Host names -/

theorem toNat_of_isUpper (h : c.isUpper = true) : 65 ≤ c.toNat ∧ c.toNat ≤ 90 := by
  simpa [Char.isUpper, UInt32.le_iff_toNat_le] using h

/-- Lower-casing leaves a character alone or makes a letter of a letter. -/
theorem toLower_cases (c : Char) :
    c.toLower = c ∨ (65 ≤ c.toNat ∧ c.toNat ≤ 90 ∧ c.toLower.toNat = c.toNat + 32) := by
  by_cases hupper : c.isUpper = true
  · have hbounds := toNat_of_isUpper hupper
    have hall : ∀ n ∈ List.range 26, (Char.ofNat (n + 65)).toLower.toNat = n + 65 + 32 := by decide
    have hletter := hall (c.toNat - 65) (List.mem_range.mpr (by omega))
    have hsum : c.toNat - 65 + 65 = c.toNat := by omega
    rw [hsum, Char.ofNat_toNat] at hletter
    exact .inr ⟨hbounds.1, hbounds.2, hletter⟩
  · exact .inl (Char.toLower_eq_of_not_isUpper hupper)

theorem lower_lower (t : Text) : Text.toAsciiLowercase (lower t) = lower t := by
  simp [Text.toAsciiLowercase, lower]

/-- A character that is no letter is among the lower-cased ones only if it was there before. -/
theorem mem_of_mem_lower (hc : c.toNat < 97) (h : c ∈ lower t) : c ∈ t := by
  obtain ⟨d, _, rfl⟩ := List.mem_map.mp h
  rcases toLower_cases d with heq | ⟨_, -, heq⟩
  · rwa [heq]
  · omega

theorem withoutBrackets_of_notMem (hopen : '[' ∉ t) (hclose : ']' ∉ t) : withoutBrackets t = t := by
  have hhead : t.head? ≠ some '[' := fun h => hopen (List.mem_of_mem_head? h)
  have hlast : t.getLast? ≠ some ']' := fun h => hclose (List.mem_of_getLast? h)
  simp [withoutBrackets, hhead, hlast]

theorem toAsciiLowercase_dotted (octets : List Nat) :
    Text.toAsciiLowercase (dotted octets) = dotted octets := by
  refine (List.map_congr_left ?_).trans (List.map_id _)
  intro c hc
  rcases mem_dotted hc with hdigit | rfl
  · refine Char.toLower_eq_of_not_isUpper fun hupper => ?_
    have hbounds := toNat_of_isUpper hupper
    have hdigits : 48 ≤ c.toNat ∧ c.toNat ≤ 57 := Char.isDigit_iff_toNat.mp hdigit
    omega
  · rfl

theorem encodeControls_of_plain (h : ∀ c ∈ t, isPlain c = true) : encodeControls t = t := by
  unfold encodeControls
  have hsingle : ∀ c ∈ t, (if c.toNat < 32 || 126 < c.toNat then
      (String.utf8EncodeChar c).flatMap fun byte =>
        ['%', (Nat.digitChar (byte.toNat / 16)).toUpper, (Nat.digitChar (byte.toNat % 16)).toUpper]
      else [c]) = [c] := by
    intro c hc
    have hbounds := isPlain_iff.mp (h c hc)
    refine if_neg ?_
    simp only [Bool.or_eq_true, decide_eq_true_eq]
    omega
  rw [List.flatMap_congr hsingle]
  simp

/-- The text in front of the colon. -/
def hostOf (authority : Text) : Text := authority.takeWhile (· != ':')

variable {host : Text}

/-- A plain host: what it was read as, and that it has no brackets. -/
theorem parseHost_plain {special : Bool} (h : parseHost unicode special host = some hostname)
    (hhead : host.head? ≠ some '[') (hplain : ∀ c ∈ host, isPlain c = true) :
    '[' ∉ host
      ∧ (Text.toAsciiLowercase (withoutBrackets hostname) = lower host
        ↔ (special = true → endsInANumber (lower host) = true →
            (parseIpv4 (lower host)).isSome = true)) := by
  unfold parseHost at h
  rw [if_neg hhead] at h
  split at h
  · rename_i hspecial
    have hdecode : unicode.percentDecode host = host :=
      unicode.percentDecode_of_notMem fun hmem => (isPlain_iff.mp (hplain _ hmem)).2.2.1 rfl
    have hascii : isAscii host = true := List.all_eq_true.mpr fun c hc => by
      have := (isPlain_iff.mp (hplain c hc)).2.1
      exact decide_eq_true (by omega)
    rw [hdecode] at h
    split at h
    · cases h
    rename_i hdomain
    obtain rfl := unicode.eq_lower_of_toAscii hascii hdomain
    split at h
    · cases h
    rename_i hgood
    have hclean : ∀ c ∈ lower host, forbiddenDomain c = false := by
      intro c hc
      by_contra hforbidden
      exact hgood (.inr (List.any_eq_true.mpr ⟨c, hc, by simpa using hforbidden⟩))
    have hopen : '[' ∉ lower host := fun hmem => absurd (hclean _ hmem) (by decide)
    have hclose : ']' ∉ lower host := fun hmem => absurd (hclean _ hmem) (by decide)
    refine ⟨fun hmem => hopen (List.mem_map.mpr ⟨'[', hmem, by decide⟩), ?_⟩
    split at h
    · rename_i hnumber
      obtain ⟨address, haddress, rfl⟩ := Option.map_eq_some_iff.mp h
      have hdots : ∀ c ∈ dotted (octetsOf address), c ≠ '[' ∧ c ≠ ']' := by
        intro c hc
        rcases mem_dotted hc with hdigit | rfl
        · constructor <;> rintro rfl <;> exact absurd hdigit (by decide)
        · decide
      rw [withoutBrackets_of_notMem (fun hmem => (hdots _ hmem).1 rfl)
        (fun hmem => (hdots _ hmem).2 rfl), toAsciiLowercase_dotted]
      -- the address is written as it stands exactly if it stands in canonical form
      constructor
      · intro heq _ _
        rw [← heq, parseIpv4_eq_some_iff.mpr ⟨isIpv4_octetsOf address, rfl⟩]
        rfl
      · intro hcanonical
        obtain ⟨_, hparse⟩ := Option.isSome_iff_exists.mp (hcanonical hspecial hnumber)
        obtain ⟨hip, heq⟩ := parseIpv4_eq_some_iff.mp hparse
        obtain ⟨_, hn, hoctets⟩ := whatwgIpv4_dotted hip
        rw [heq, hn] at haddress
        rw [heq, ← hoctets, Option.some.inj haddress]
    · rename_i hnumber
      obtain rfl := Option.some.inj h
      rw [withoutBrackets_of_notMem hopen hclose, lower_lower]
      simp [hnumber]
  · rename_i hspecial
    split at h
    · cases h
    rename_i hgood
    obtain rfl := Option.some.inj h
    have hclean : ∀ c ∈ host, forbiddenHost c = false := by
      intro c hc
      by_contra hforbidden
      exact hgood (List.any_eq_true.mpr ⟨c, hc, by simpa using hforbidden⟩)
    have hopen : '[' ∉ host := fun hmem => absurd (hclean _ hmem) (by decide)
    have hclose : ']' ∉ host := fun hmem => absurd (hclean _ hmem) (by decide)
    refine ⟨hopen, ?_⟩
    rw [encodeControls_of_plain hplain, withoutBrackets_of_notMem hopen hclose]
    refine ⟨fun _ hspecial' => absurd hspecial' hspecial, fun _ => rfl⟩

/-- A plain authority without brackets: the daemon takes the text in front of the colon. -/
theorem CutAs.name (decode : JsonValues.Json → Option RemoteEnvelope)
    (h : CutAs unicode authority endpoint hostname port)
    (hplain : ∀ c ∈ authority, isPlain c = true) (hhead : authority.head? ≠ some '[') :
    (endpoint.canonicalHost = lower (hostOf authority)
        ↔ (isSpecial endpoint.scheme.word = true → endsInANumber (lower (hostOf authority)) = true →
            (parseIpv4 (lower (hostOf authority))).isSome = true))
      ∧ parseAuthority (stdCodec decode) authority endpoint.scheme
        = if authority.getLast? = some ':' then .error (.contractInvalid "url")
          else .ok (lower (hostOf authority), endpoint.effectivePort) := by
  obtain ⟨suffix, hcut, hsuffix, hport⟩ := h.suffix
  have hcolon := colon_notMem_splitHost (t := authority)
  have hread := h.readHost
  have hhostHead : (splitHost false authority).1.head? ≠ some '[' := by
    cases authority with
    | nil => simp [splitHost]
    | cons c t =>
      by_cases hc : c = ':'
      · simp [splitHost, hc]
      · rw [head?_splitHost hc]
        simpa using hhead
  have hhostPlain : ∀ c ∈ (splitHost false authority).1, isPlain c = true := by
    intro c hc
    refine hplain c ?_
    rw [hcut]
    exact List.mem_append_left _ hc
  obtain ⟨hopen, hname⟩ := parseHost_plain hread hhostHead hhostPlain
  have hcolon := hcolon hopen
  have hhost := h.canonicalHost
  generalize (splitHost false authority).1 = host at *
  subst hcut
  have hkeep : ∀ c ∈ host, (c != ':') = true := fun c hc => by
    have hne : c ≠ ':' := fun heq => hcolon (heq ▸ hc)
    simpa using hne
  have hstop : StopsAt (· != ':') suffix := by
    rcases hsuffix with rfl | ⟨digits, rfl, -⟩
    · exact .nil _
    · exact .cons (by simp) digits
  have hhostOf : hostOf (host ++ suffix) = host := (takeWhile_append_of_stops hkeep hstop).1
  rw [hhostOf, hhost]
  refine ⟨hname, ?_⟩
  rw [← portBehind_map (fun hlast => hcolon (List.mem_of_getLast? hlast)) hport]
  unfold parseAuthority
  split
  · rename_i heq
    exact absurd (by rw [heq]; rfl) hhead
  · -- the daemon looks for a port from the end
    rcases hsuffix with rfl | ⟨digits, rfl, hnot⟩
    · rw [List.append_nil, rsplitOnce_eq_none hcolon]
      rfl
    · rw [rsplitOnce_append hnot]
      simp only [hcolon, if_false]
      show (parsePort digits >>= fun port => _) = (parsePort digits).map _
      cases parsePort digits <;> rfl

/-! ## What the daemon accepts is plain -/

theorem isPlain_of_toNat (hlow : 32 < c.toNat) (hhigh : c.toNat < 127)
    (h : c.toNat ≠ 37 ∧ c.toNat ≠ 64 ∧ c.toNat ≠ 92) : isPlain c = true := by
  refine isPlain_iff.mpr ⟨hlow, hhigh, ?_, ?_, ?_⟩
  · rintro rfl; exact h.1 rfl
  · rintro rfl; exact h.2.1 rfl
  · rintro rfl; exact h.2.2 rfl

theorem isPlain_of_isDigit (h : c.isDigit = true) : isPlain c = true := by
  have hbounds : 48 ≤ c.toNat ∧ c.toNat ≤ 57 := Char.isDigit_iff_toNat.mp h
  exact isPlain_of_toNat (by omega) (by omega) (by omega)

theorem isPlain_of_isAddressChar (h : isAddressChar c = true) : isPlain c = true := by
  simp only [isAddressChar, Bool.or_eq_true, beq_iff_eq] at h
  rcases h with (hhex | rfl) | rfl
  · unfold isHexDigit hexDigit at hhex
    split at hhex
    · exact isPlain_of_isDigit ‹_›
    split at hhex
    · exact isPlain_of_toNat (by omega) (by omega) (by omega)
    split at hhex
    · exact isPlain_of_toNat (by omega) (by omega) (by omega)
    · cases hhex
  · decide
  · decide

theorem isPlain_of_canonicalHost (h : canonicalHost (stdCodec decode) host = true) :
    ∀ c ∈ host, isPlain c = true := by
  intro c hc
  unfold canonicalHost at h
  split at h
  · cases h
  split at h
  · rename_i canonical hv4
    rcases (stdCodec_ipv4_eq_some hv4).2 c hc with hdigit | rfl
    · exact isPlain_of_isDigit hdigit
    · decide
  · split at h
    · rename_i canonical hv6
      obtain ⟨_, hpieces, -⟩ := Option.map_eq_some_iff.mp hv6
      exact isPlain_of_isAddressChar ((parseIpv6_spec hpieces).2.1 c hc)
    · split at h
      · cases h
      rcases mem_splitOn '.' hc with ⟨label, hlabel, hmem⟩ | rfl
      · have hcheck := List.all_eq_true.mp h label hlabel
        rw [Bool.and_eq_true, List.all_eq_true] at hcheck
        have hchar := hcheck.2 c hmem
        simp only [Bool.or_eq_true, beq_iff_eq] at hchar
        rcases hchar with (hlower | hdigit) | rfl
        · have hbounds : 97 ≤ c.toNat ∧ c.toNat ≤ 122 := by
            simpa [Char.isLower, UInt32.le_iff_toNat_le] using hlower
          exact isPlain_of_toNat (by omega) (by omega) (by omega)
        · exact isPlain_of_isDigit hdigit
        · decide
      · decide

theorem isPlain_of_lower (h : ∀ c ∈ lower t, isPlain c = true) : ∀ c ∈ t, isPlain c = true := by
  intro c hc
  have hlower := h c.toLower (List.mem_map.mpr ⟨c, hc, rfl⟩)
  rcases toLower_cases c with heq | ⟨_, _⟩
  · rwa [heq] at hlower
  · exact isPlain_of_toNat (by omega) (by omega) (by omega)

theorem isPlain_of_parsePort {port : Nat} (h : parsePort t = .ok port) :
    ∀ c ∈ t, isPlain c = true := by
  have hdigits : ∃ port, Text.parseU16 t = some port := by
    unfold parsePort at h
    split at h
    · rename_i n hn
      exact ⟨n, hn⟩
    · cases h
  obtain ⟨value, hvalue⟩ := hdigits
  have hall : ∀ digits : Text, (if digits = [] ∨ ¬ digits.all Char.isDigit = true then none
      else if digits.foldl (fun n c => 10 * n + (c.toNat - 48)) 0 < 2 ^ 16 then
        some (digits.foldl (fun n c => 10 * n + (c.toNat - 48)) 0) else none) = some value →
      ∀ c ∈ digits, isPlain c = true := by
    intro digits hread c hc
    split at hread
    · cases hread
    rename_i hgood
    rw [not_or, not_not] at hgood
    exact isPlain_of_isDigit (List.all_eq_true.mp hgood.2 c hc)
  unfold Text.parseU16 at hvalue
  split at hvalue
  · intro c hc
    rcases List.mem_cons.mp hc with rfl | hc
    · decide
    · exact hall _ hvalue c hc
  · exact hall _ hvalue

/-- An authority the daemon accepts is made of plain characters. -/
theorem isPlain_of_parseAuthority {port : Nat}
    (h : parseAuthority (stdCodec decode) authority scheme = .ok (host, port))
    (hvalid : validateEndpoint (stdCodec decode) ⟨scheme, host, port⟩ = .ok ()) :
    ∀ c ∈ authority, isPlain c = true := by
  -- the host is known to be canonical; what is around it is digits and brackets
  have hhost : ∀ c ∈ host, isPlain c = true := by
    unfold validateEndpoint at hvalid
    split at hvalid
    · cases hvalid
    rename_i hgood
    rw [not_or, not_not] at hgood
    exact isPlain_of_canonicalHost hgood.2
  unfold parseAuthority at h
  split at h
  · rename_i remainder
    split at h
    · cases h
    rename_i literal suffix hsplit
    -- a bracketed IPv6 literal, with or without a port
    have hremainder : remainder = literal ++ ']' :: suffix := by
      have := eq_of_splitOnce hsplit
      rwa [List.append_assoc] at this
    split at h
    · cases h
    rename_i hv6
    obtain ⟨_, hpieces, -⟩ := Option.map_eq_some_iff.mp hv6
    have hsuffix : ∀ c ∈ suffix, isPlain c = true := by
      split at h
      · simp
      · obtain ⟨port, hport, -⟩ := bind_eq_ok_iff.mp h
        intro c hc
        rcases List.mem_cons.mp hc with rfl | hc
        · decide
        · exact isPlain_of_parsePort hport c hc
      · cases h
    intro c hc
    rw [hremainder] at hc
    simp only [List.mem_cons, List.mem_append] at hc
    rcases hc with rfl | hc | rfl | hc
    · decide
    · exact isPlain_of_isAddressChar ((parseIpv6_spec hpieces).2.1 c hc)
    · decide
    · exact hsuffix c hc
  · split at h
    · rename_i hsplit
      split at h
      · obtain ⟨rfl, -⟩ := Prod.mk.inj (Except.ok.inj h)
        exact isPlain_of_lower hhost
      · obtain ⟨_, hport, heq⟩ := bind_eq_ok_iff.mp h
        obtain ⟨rfl, -⟩ := Prod.mk.inj (Except.ok.inj heq)
        intro c hc
        rw [eq_of_rsplitOnce hsplit] at hc
        rcases List.mem_append.mp hc with hc | hc
        · exact isPlain_of_lower hhost c hc
        · rcases List.mem_cons.mp hc with rfl | hc
          · decide
          · exact isPlain_of_parsePort hport c hc
    · obtain ⟨rfl, -⟩ := Prod.mk.inj (Except.ok.inj h)
      exact isPlain_of_lower hhost

end

/-! ## Plain URLs -/

/-- An authority that both sides read alike: plain characters, no empty port, no IPv4-mapped
literal, and for the web schemes no IPv4 address in another than its canonical form. -/
def PlainAuthority (scheme : RemoteScheme) (authority : Text) : Prop :=
  authority ≠ [] ∧ (∀ c ∈ authority, isPlain c = true) ∧ authority.getLast? ≠ some ':'
    ∧ if authority.head? = some '[' then isMappedHost (literalOf authority) = false
      else scheme = .http ∨ scheme = .https →
        endsInANumber (lower (hostOf authority)) = true →
        (parseIpv4 (lower (hostOf authority))).isSome = true

/-- A URL that needs no repair: the scheme in lower case, directly followed by `://` and a plain
authority. -/
def PlainUrl (url : Text) : Prop :=
  ∃ (scheme : RemoteScheme) (rest : Text), url = scheme.word ++ "://".toList ++ rest
    ∧ PlainAuthority scheme (authorityOf rest)

theorem isSpecial_word (scheme : RemoteScheme) :
    isSpecial scheme.word = true ↔ scheme = .http ∨ scheme = .https := by
  cases scheme <;> decide

section

variable {decode : JsonValues.Json → Option RemoteEnvelope} {unicode : Unicode}

variable {endpoint : CanonicalEndpoint}

/-- On a plain authority the daemon finds the endpoint of the extension. -/
theorem parseAuthority_iff {authority hostname : Text} {port : Option Nat}
    (h : CutAs unicode authority endpoint hostname port) (hne : authority ≠ [])
    (hplain : ∀ c ∈ authority, isPlain c = true) :
    parseAuthority (stdCodec decode) authority endpoint.scheme
        = .ok (endpoint.canonicalHost, endpoint.effectivePort)
      ↔ PlainAuthority endpoint.scheme authority := by
  -- the daemon's host is the extension's for the kinds of hosts that need no repair
  have hread : ∃ host, parseAuthority (stdCodec decode) authority endpoint.scheme
        = (if authority.getLast? = some ':' then .error (.contractInvalid "url")
          else .ok (host, endpoint.effectivePort))
      ∧ (host = endpoint.canonicalHost ↔
        if authority.head? = some '[' then isMappedHost (literalOf authority) = false
        else endpoint.scheme = .http ∨ endpoint.scheme = .https →
          endsInANumber (lower (hostOf authority)) = true →
          (parseIpv4 (lower (hostOf authority))).isSome = true) := by
    by_cases hhead : authority.head? = some '['
    · obtain ⟨_, hip, hliteral, hhost, hparse⟩ := h.bracket decode hhead
      refine ⟨_, hparse, ?_⟩
      rw [if_pos hhead, hhost, displayIpv6_eq_compressIpv6_iff hip.1]
      simp [isMappedHost, hliteral]
    · obtain ⟨hhost, hparse⟩ := h.name decode hplain hhead
      refine ⟨_, hparse, ?_⟩
      rw [if_neg hhead, ← isSpecial_word, ← hhost, eq_comm]
  obtain ⟨host, hparse, hhost⟩ := hread
  unfold PlainAuthority
  rw [hparse, ← hhost]
  by_cases hlast : authority.getLast? = some ':'
  · simp [hlast]
  · simpa [hlast, hne] using fun _ => hplain

/-- A plain authority has no mapped host. -/
theorem CutAs.not_mapped {authority hostname : Text} {port : Option Nat}
    (h : CutAs unicode authority endpoint hostname port)
    (hplain : PlainAuthority endpoint.scheme authority) :
    isMappedHost endpoint.canonicalHost = false := by
  obtain ⟨_, hchars, _, hkind⟩ := hplain
  by_cases hhead : authority.head? = some '['
  · obtain ⟨pieces, hip, hliteral, hhost, -⟩ := h.bracket (fun _ => none) hhead
    rw [if_pos hhead] at hkind
    rw [hhost]
    unfold isMappedHost at hkind ⊢
    rw [hliteral] at hkind
    rw [parseIpv6_compressIpv6 hip]
    exact hkind
  · rw [if_neg hhead, ← isSpecial_word] at hkind
    have hhost := ((h.name (fun _ => none) hchars hhead).1).mpr hkind
    have hcolon : ':' ∉ endpoint.canonicalHost := by
      rw [hhost]
      intro hmem
      have := mem_of_mem_lower (by decide) hmem
      simpa using List.mem_takeWhile_imp this
    unfold isMappedHost
    cases hsome : parseIpv6 endpoint.canonicalHost with
    | none => rfl
    | some pieces => exact absurd (parseIpv6_spec hsome).2.2 hcolon

/-- On a URL with an endpoint the daemon finds the same one exactly if the URL is plain. -/
theorem classifyRepositoryUrl_iff {url : Text}
    (h : canonicalEndpointFromRepositoryUrl unicode url = .ok endpoint) :
    classifyRepositoryUrl (stdCodec decode) url = .ok (.remote endpoint)
      ↔ PlainUrl url := by
  obtain ⟨_, hof⟩ := canonicalEndpointFromRepositoryUrl_eq_ok h
  constructor
  · intro hclass
    obtain ⟨rest, rfl, hne, hparse, hvalid⟩ := classifyRepositoryUrl_eq_remote hclass
    have hplain := isPlain_of_parseAuthority hparse hvalid
    obtain ⟨-, hostname, port, hcut⟩ := cutAs_of_endpointOf hof hne hplain
    exact ⟨endpoint.scheme, rest, rfl, (parseAuthority_iff hcut hne hplain).mp hparse⟩
  · rintro ⟨scheme, rest, rfl, hauthority⟩
    have hne := hauthority.1
    have hplain := hauthority.2.1
    obtain ⟨rfl, hostname, port, hcut⟩ := cutAs_of_endpointOf hof hne hplain
    have hparse : parseAuthority (stdCodec decode) (authorityOf rest) endpoint.scheme
        = .ok (endpoint.canonicalHost, endpoint.effectivePort) :=
      (parseAuthority_iff hcut hne hplain).mpr hauthority
    have hvalid : validateEndpoint (stdCodec decode) endpoint = .ok () :=
      (validateEndpoint_iff hof.valid).mpr (hcut.not_mapped hauthority)
    have hat : '@' ∉ authorityOf rest := fun hmem => (isPlain_iff.mp (hplain _ hmem)).2.2.2.1 rfl
    rw [classifyRepositoryUrl_word hne hat, hparse]
    show (validateEndpoint (stdCodec decode) endpoint >>= fun _ =>
      Except.ok (ClassifiedRepositoryUrl.remote endpoint)) = _
    rw [hvalid]
    rfl

/-! ## Envelopes -/

/-- A computation that fails with another error, if at all. -/
def Spares (refusal : RemoteRefusal) {α : Type} (x : Except RemoteRefusal α) : Prop :=
  x ≠ .error refusal

variable {α : Type} {refusal : RemoteRefusal}

theorem Spares.bind {β : Type} {x : Except RemoteRefusal α} {f : α → Except RemoteRefusal β}
    (hx : Spares refusal x) (hf : ∀ a, Spares refusal (f a)) :
    Spares refusal (x >>= f) := by
  cases x with
  | error e => simpa [Spares, Bind.bind, Except.bind] using hx
  | ok a => exact hf a

theorem Spares.require {e : RemoteRefusal} {P : Prop} [Decidable P] (h : P ∨ e ≠ refusal) :
    Spares refusal (require P e) := by
  unfold Spares Fallible.require
  split
  · simp [Pure.pure, Except.pure]
  · rename_i hnot
    simpa [throw, throwThe, MonadExceptOf.throw] using h.resolve_left hnot

theorem Spares.check {e : RemoteRefusal} {P : Prop} [Decidable P]
    {f : Unit → Except RemoteRefusal α} (he : e ≠ refusal) (hf : Spares refusal (f ())) :
    Spares refusal (Fallible.require P e >>= f) :=
  (Spares.require (.inr he)).bind fun _ => hf

theorem Spares.ok {a : α} : Spares refusal (.ok a : Except RemoteRefusal α) := by
  simp [Spares]

theorem Spares.error {e : RemoteRefusal} (h : e ≠ refusal) :
    Spares refusal (.error e : Except RemoteRefusal α) := by
  simpa [Spares] using h

theorem spares_validateEndpoint (codec : RemoteCodec) (endpoint : CanonicalEndpoint) :
    Spares .originMismatch (validateEndpoint codec endpoint) := by
  unfold validateEndpoint
  split
  · exact Spares.error (by simp)
  · exact Spares.ok

theorem spares_validateProfile (codec : RemoteCodec) (profile : RemoteAccessProfileSnapshot)
    (intent : RemoteOperationIntent) (interaction : RemoteInteraction) :
    Spares .originMismatch (validateProfile codec profile intent interaction) := by
  have hhttp : ∀ auth, Spares .originMismatch (httpServerAuth auth) := by
    intro auth
    cases auth <;> first | exact Spares.ok | exact Spares.error (by simp)
  have hsvn : ∀ auth, Spares .originMismatch (svnServerAuth auth) := by
    intro auth
    cases auth <;> first | exact Spares.ok | exact Spares.error (by simp)
  have hssh : Spares .originMismatch (requireNoSsh profile) := Spares.require (.inr (by simp))
  have hscheme : Spares .originMismatch (validateProfileScheme profile) := by
    unfold validateProfileScheme
    split
    · exact .check (by simp) <| hssh.bind fun _ => (hhttp _).bind fun _ => .ok
    · split
      · exact Spares.error (by simp)
      · exact .check (by simp) <| hssh.bind fun _ => (hhttp _).bind fun _ => .ok
    · exact .check (by simp) <| hssh.bind fun _ => (hsvn _).bind fun _ => .ok
    · exact Spares.error (by simp)
  have haccount : Spares .originMismatch (validateServerAccount profile intent interaction) := by
    unfold validateServerAccount
    split
    · exact Spares.ok
    all_goals first
      | exact Spares.error (by simp)
      | (split <;> first | exact Spares.ok | exact Spares.error (by simp))
  exact .check (by simp) <| .check (by simp) <| (spares_validateEndpoint _ _).bind fun _ =>
    .check (by simp) <| .check (by simp) <| hscheme.bind fun _ => haccount.bind fun _ => .ok

/-- An envelope for the daemon's own endpoint is not refused for its origin. -/
theorem spares_validateEnvelopeContract {codec : RemoteCodec} {envelope : RemoteEnvelope}
    (horigin : envelope.expectedOrigin = endpoint)
    (hauthority : envelope.profile.authority = endpoint) :
    Spares .originMismatch (validateEnvelopeContract codec envelope endpoint) := by
  exact .check (by simp) <| .check (by simp) <| .check (by simp) <| .check (by simp) <|
    .check (by simp) <| (spares_validateEndpoint _ _).bind fun _ =>
    (Spares.require (.inl ⟨horigin, hauthority⟩)).bind fun _ =>
    (spares_validateProfile _ _ _ _).bind fun _ => .ok

end

/-- **Endpoints agree exactly on plain URLs.**  On a repository URL with an endpoint the daemon
finds the same endpoint if and only if the URL is plain; it accepts an endpoint the extension
accepts if and only if the host is no IPv4-mapped address; and an envelope for the endpoint of a
plain URL is never refused for its origin. -/
theorem endpoints_agree_iff (unicode : Unicode)
    (decode : JsonValues.Json → Option RemoteEnvelope) :
    (∀ url endpoint, canonicalEndpointFromRepositoryUrl unicode url = .ok endpoint →
      (classifyRepositoryUrl (stdCodec decode) url = .ok (.remote endpoint)
        ↔ PlainUrl url))
    ∧ (∀ endpoint field, Extension.validateEndpoint unicode endpoint field = .ok () →
      (validateEndpoint (stdCodec decode) endpoint = .ok ()
        ↔ isMappedHost endpoint.canonicalHost = false))
    ∧ ∀ url endpoint (envelope : RemoteEnvelope),
      canonicalEndpointFromRepositoryUrl unicode url = .ok endpoint → PlainUrl url →
      envelope.expectedOrigin = endpoint → envelope.profile.authority = endpoint →
      ∃ found, classifyRepositoryUrl (stdCodec decode) url = .ok (.remote found)
        ∧ validateEnvelopeContract (stdCodec decode) envelope found
          ≠ .error .originMismatch := by
  refine ⟨fun url endpoint h => classifyRepositoryUrl_iff h, fun endpoint field h => ?_, ?_⟩
  · exact validateEndpoint_iff (validEndpoint_of_ok h)
  · intro url endpoint envelope hurl hplain horigin hauthority
    exact ⟨endpoint, (classifyRepositoryUrl_iff hurl).mpr hplain,
      spares_validateEnvelopeContract horigin hauthority⟩

namespace EndpointExample

/-- A runtime that refuses every domain outside ASCII. -/
def asciiOnly : Unicode where
  percentDecode t := if '%' ∈ t then [] else t
  toAscii domain := if isAscii domain then some (lower domain) else none
  percentDecode_of_notMem h := if_neg h
  toAscii_of_plain h _ := if_pos h
  eq_lower_of_toAscii h heq := by
    rw [if_pos h] at heq
    exact (Option.some.inj heq).symm

def noEnvelope : JsonValues.Json → Option RemoteEnvelope := fun _ => none

def example80 : CanonicalEndpoint := ⟨.http, "svn.example.org".toList, 80⟩

/-- A plain URL: both sides find the endpoint, and the daemon accepts it. -/
theorem plain_url_agrees :
    classifyRepositoryUrl (stdCodec noEnvelope) "http://svn.example.org/repo".toList
        = .ok (.remote example80)
      ∧ validateEndpoint (stdCodec noEnvelope) example80 = .ok () := by
  have hurl : canonicalEndpointFromRepositoryUrl asciiOnly "http://svn.example.org/repo".toList
      = .ok example80 := by decide +kernel
  have hplain : PlainUrl "http://svn.example.org/repo".toList :=
    ⟨.http, "svn.example.org/repo".toList, by decide, by decide +kernel,
      List.all_eq_true.mp (by decide +kernel), by decide +kernel, by decide +kernel⟩
  have hvalid : Extension.validateEndpoint asciiOnly example80 [] = .ok () := by decide +kernel
  have hagree := endpoints_agree_iff asciiOnly noEnvelope
  obtain ⟨_, _⟩ := hagree.2.2 _ example80
    { (default : RemoteEnvelope) with
      expectedOrigin := example80
      profile := { (default : RemoteAccessProfileSnapshot) with authority := example80 } }
    hurl hplain rfl rfl
  exact ⟨(hagree.1 _ _ hurl).mpr hplain, (hagree.2.1 _ [] hvalid).mpr (by decide +kernel)⟩

/-- The runtime lower-cases the scheme and completes the address; the daemon does neither, and it
refuses the canonical form of an IPv4-mapped address. -/
theorem repaired_urls_disagree :
    (canonicalEndpointFromRepositoryUrl asciiOnly "HTTP://svn.example.org/repo".toList
        = .ok example80
      ∧ classifyRepositoryUrl (stdCodec noEnvelope) "HTTP://svn.example.org/repo".toList
        = .error (.contractInvalid "url"))
    ∧ (canonicalEndpointFromRepositoryUrl asciiOnly "http://127.1/repo".toList
        = .ok ⟨.http, "127.0.0.1".toList, 80⟩
      ∧ classifyRepositoryUrl (stdCodec noEnvelope) "http://127.1/repo".toList
        = .ok (.remote ⟨.http, "127.1".toList, 80⟩))
    ∧ (Extension.validateEndpoint asciiOnly ⟨.http, "::ffff:102:304".toList, 80⟩ [] = .ok ()
      ∧ validateEndpoint (stdCodec noEnvelope) ⟨.http, "::ffff:102:304".toList, 80⟩
        = .error (.contractInvalid "remote.expectedOrigin")) := by
  decide +kernel

end EndpointExample

end SubversionR

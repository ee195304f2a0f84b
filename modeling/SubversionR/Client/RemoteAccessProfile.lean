import SubversionR.Daemon.RemoteAccess
import SubversionR.Lib.Url

/-!
# The extension's canonical endpoints

`canonicalEndpointFromRepositoryUrl` and `validateEndpoint` of `remoteAccessProfile.ts`, over the
URL parser of the runtime.  The daemon has functions of the same names for the same endpoints; these
stand in the namespace `Extension`.

* `validEndpoint_of_ok` — an accepted host is a canonical IPv6 address or a list of labels;
* `canonicalEndpointFromRepositoryUrl_eq_ok` — what a URL with an endpoint was parsed to.
-/

namespace SubversionR

open UrlStandard IpText

/-- `RemoteProfileConfigurationError`, for the functions below. -/
inductive RemoteProfileConfigurationError where
  | repositoryUrlInvalid
  | schemeUnsupported (scheme : Text)
  | contractInvalid (field : Text)
deriving DecidableEq

namespace Extension

/-! ## The functions -/

/-- `/^(?:0|[1-9]\d{0,2})$/`. -/
def octetPattern (part : Text) : Bool :=
  decide (part = ['0'])
    || (part.head?.any (fun c => c.isDigit && c != '0') && part.all Char.isDigit
      && decide (part.length ≤ 3))

/-- `isIpv4` of `validateEndpoint`. -/
def isIpv4 (host : Text) : Bool :=
  decide ((host.splitOn '.').length = 4) && (host.splitOn '.').all octetPattern
    && (host.splitOn '.').all fun part => decide (decimalValue part ≤ 255)

def isLabelEnd (c : Char) : Bool := c.isLower || c.isDigit

/-- `/^[a-z0-9](?:[a-z0-9-]{0,61}[a-z0-9])?$/`. -/
def labelPattern : Text → Bool
  | [] => false
  | [c] => isLabelEnd c
  | c :: rest =>
    isLabelEnd c && decide (rest.dropLast.length ≤ 61)
      && rest.dropLast.all (fun c => isLabelEnd c || c == '-') && rest.getLast?.any isLabelEnd

/-- `isDns` of `validateEndpoint`. -/
def isDns (host : Text) : Bool := decide (':' ∉ host) && (host.splitOn '.').all labelPattern

/-- `canonicalIpv6`. -/
def canonicalIpv6 (unicode : Unicode) (host : Text) : Bool :=
  match parseUrl unicode ("http://[".toList ++ host ++ "]/".toList) with
  | none => false
  | some url => decide (url.hostname = '[' :: host ++ [']'])

/-- `validateEndpoint`. -/
def validateEndpoint (unicode : Unicode) (value : CanonicalEndpoint) (field : Text) :
    Except RemoteProfileConfigurationError Unit :=
  if value.effectivePort < 1 ∨ 65535 < value.effectivePort then
    .error (.contractInvalid (field ++ ".effectivePort".toList))
  else
    let host := value.canonicalHost
    if host.utf16.length < 1 ∨ 253 < host.utf16.length ∨ isAscii host = false
        ∨ host ≠ host.toAsciiLowercase then
      .error (.contractInvalid (field ++ ".canonicalHost".toList))
    else if isIpv4 host = false ∧ (decide (':' ∈ host) && canonicalIpv6 unicode host) = false
        ∧ isDns host = false then
      .error (.contractInvalid (field ++ ".canonicalHost".toList))
    else .ok ()

/-- The schemes of `canonicalEndpointFromRepositoryUrl` with their default ports. -/
def schemeAndPort (scheme : Text) : Option (RemoteScheme × Nat) :=
  if scheme = "http" then some (.http, 80)
  else if scheme = "https" then some (.https, 443)
  else if scheme = "svn" then some (.svn, 3690)
  else if scheme = "svn+ssh" then some (.svnSsh, 22)
  else none

/-- `hostname.replace(/^\[|\]$/g, "")`. -/
def withoutBrackets (hostname : Text) : Text :=
  let front := if hostname.head? = some '[' then hostname.tail else hostname
  if front.getLast? = some ']' then front.dropLast else front

/-- `canonicalEndpointFromRepositoryUrl`; the host of a URL is ASCII, so that `toLowerCase` is the
ASCII one. -/
def canonicalEndpointFromRepositoryUrl (unicode : Unicode) (repositoryRootUrl : Text) :
    Except RemoteProfileConfigurationError CanonicalEndpoint :=
  if repositoryRootUrl.utf16.length = 0 ∨ 4096 < repositoryRootUrl.utf16.length then
    .error .repositoryUrlInvalid
  else
    match parseUrl unicode repositoryRootUrl with
    | none => .error .repositoryUrlInvalid
    | some url =>
      if url.username ≠ [] ∨ url.password ≠ [] ∨ url.query ≠ [] ∨ url.fragment ≠ [] then
        .error .repositoryUrlInvalid
      else
        match schemeAndPort url.scheme with
        | none => .error (.schemeUnsupported (url.scheme.take 32))
        | some (scheme, defaultPort) => do
          let endpoint : CanonicalEndpoint :=
            ⟨scheme, Text.toAsciiLowercase (withoutBrackets url.hostname),
              url.port.getD defaultPort⟩
          validateEndpoint unicode endpoint "repositoryRootUrl"
          .ok endpoint

/-! ## Accepted hosts -/

variable {host : Text}

theorem length_utf16_of_isAscii (h : isAscii host = true) : host.utf16.length = host.length := by
  induction host with
  | nil => rfl
  | cons c host ih =>
    have hc : c.toNat < 128 ∧ isAscii host = true := by simpa [isAscii] using h
    have hunits : Text.utf16Units c = [c.toNat] := by
      rw [Text.utf16Units, if_pos (by omega)]
    have hcons : Text.utf16 (c :: host) = Text.utf16Units c ++ Text.utf16 host := List.flatMap_cons
    rw [hcons, hunits, List.length_append, ih hc.2, List.length_singleton, List.length_cons]
    omega

theorem labelPattern_iff {label : Text} :
    labelPattern label = true ↔
      label.length ≤ 63 ∧ label.head?.any isLabelEnd = true ∧ label.getLast?.any isLabelEnd = true
        ∧ label.all (fun c => isLabelEnd c || c == '-') = true := by
  match label with
  | [] => simp [labelPattern]
  | [c] =>
    simp only [labelPattern, List.length_singleton, List.head?_cons, Option.any_some,
      List.getLast?_singleton, List.all_cons, List.all_nil]
    cases isLabelEnd c <;> simp
  | c :: d :: rest =>
    -- the middle and the last character of what follows the first
    obtain ⟨middle, e, hrest⟩ : ∃ middle e, d :: rest = middle ++ [e] :=
      ⟨(d :: rest).dropLast, (d :: rest).getLast (by simp),
        (List.dropLast_append_getLast (by simp)).symm⟩
    have hlast : (c :: (middle ++ [e])).getLast? = some e := by
      rw [← List.cons_append, List.getLast?_append]
      rfl
    have hpattern : labelPattern (c :: d :: rest) = (isLabelEnd c
        && decide ((d :: rest).dropLast.length ≤ 61)
        && (d :: rest).dropLast.all (fun c => isLabelEnd c || c == '-')
        && (d :: rest).getLast?.any isLabelEnd) := rfl
    rw [hpattern, hrest, hlast]
    simp only [List.dropLast_concat, List.getLast?_concat, Option.any_some, List.head?_cons,
      Bool.and_eq_true, decide_eq_true_eq, List.length_cons, List.length_append,
      List.length_nil, List.all_cons, List.all_append, List.all_nil, Bool.or_eq_true, Bool.and_true]
    constructor
    · rintro ⟨⟨⟨hc, hlength⟩, hmiddle⟩, he⟩
      exact ⟨by omega, hc, he, .inl hc, hmiddle, .inl he⟩
    · rintro ⟨hlength, hc, he, -, hmiddle, -⟩
      exact ⟨⟨⟨hc, by omega⟩, hmiddle⟩, he⟩

/-- An octet looks like a label. -/
theorem labelPattern_of_octetPattern {part : Text} (h : octetPattern part = true) :
    labelPattern part = true ∧ ∀ c ∈ part, c.isDigit = true := by
  have hdigits : part ≠ [] ∧ part.length ≤ 3 ∧ ∀ c ∈ part, c.isDigit = true := by
    unfold octetPattern at h
    simp only [Bool.or_eq_true, Bool.and_eq_true, decide_eq_true_eq, List.all_eq_true] at h
    rcases h with rfl | ⟨⟨hhead, hall⟩, hlength⟩
    · exact ⟨by simp, by simp, by simp⟩
    · refine ⟨fun hnil => ?_, hlength, hall⟩
      rw [hnil] at hhead
      cases hhead
  obtain ⟨hne, hlength, hall⟩ := hdigits
  refine ⟨labelPattern_iff.mpr ⟨by omega, ?_, ?_, ?_⟩, hall⟩
  · rw [List.head?_eq_some_head hne]
    simp [isLabelEnd, hall _ (List.head_mem hne)]
  · rw [List.getLast?_eq_some_getLast hne]
    simp [isLabelEnd, hall _ (List.getLast_mem hne)]
  · refine List.all_eq_true.mpr fun c hc => ?_
    simp [isLabelEnd, hall c hc]

/-- What `validateEndpoint` establishes.  The IPv4 addresses are among the lists of labels. -/
structure ValidEndpoint (unicode : Unicode) (endpoint : CanonicalEndpoint) : Prop where
  port_pos : 0 < endpoint.effectivePort
  port_le : endpoint.effectivePort ≤ 65535
  host_ne : endpoint.canonicalHost ≠ []
  host_length : endpoint.canonicalHost.length ≤ 253
  host_ascii : isAscii endpoint.canonicalHost = true
  host_lower : endpoint.canonicalHost = endpoint.canonicalHost.toAsciiLowercase
  host_ipv6 : ':' ∈ endpoint.canonicalHost → canonicalIpv6 unicode endpoint.canonicalHost = true
  host_labels : ':' ∉ endpoint.canonicalHost →
    ∀ label ∈ endpoint.canonicalHost.splitOn '.', labelPattern label = true

theorem labels_of_isIpv4 (h : isIpv4 host = true) :
    ':' ∉ host ∧ ∀ label ∈ host.splitOn '.', labelPattern label = true := by
  have hparts : ∀ part ∈ host.splitOn '.', octetPattern part = true := by
    simp only [isIpv4, Bool.and_eq_true, List.all_eq_true] at h
    exact h.1.2
  refine ⟨fun hcolon => ?_, fun label hlabel =>
    (labelPattern_of_octetPattern (hparts label hlabel)).1⟩
  rcases mem_splitOn '.' hcolon with ⟨part, hpart, hmem⟩ | heq
  · exact absurd ((labelPattern_of_octetPattern (hparts part hpart)).2 _ hmem) (by decide)
  · exact absurd heq (by decide)

variable {unicode : Unicode}

theorem validEndpoint_of_ok {endpoint : CanonicalEndpoint} {field : Text}
    (h : validateEndpoint unicode endpoint field = .ok ()) : ValidEndpoint unicode endpoint := by
  unfold validateEndpoint at h
  dsimp only at h
  split at h
  · cases h
  rename_i hport
  split at h
  · cases h
  rename_i hhost
  split at h
  · cases h
  rename_i hkind
  simp only [not_or, not_lt, ne_eq, not_not, Bool.not_eq_false] at hport hhost
  obtain ⟨hlow, hhigh, hascii, hlower⟩ := hhost
  rw [length_utf16_of_isAscii hascii] at hlow hhigh
  have hkinds : isIpv4 endpoint.canonicalHost = true
      ∨ (':' ∈ endpoint.canonicalHost ∧ canonicalIpv6 unicode endpoint.canonicalHost = true)
      ∨ isDns endpoint.canonicalHost = true := by
    by_contra hnone
    simp only [not_or, not_and, Bool.not_eq_true] at hnone
    refine hkind ⟨hnone.1, ?_, hnone.2.2⟩
    rw [Bool.and_eq_false_iff, decide_eq_false_iff_not]
    by_cases hcolon : ':' ∈ endpoint.canonicalHost
    · exact .inr (hnone.2.1 hcolon)
    · exact .inl hcolon
  refine ⟨by omega, by omega, fun hnil => ?_, hhigh, hascii, hlower, ?_, ?_⟩
  · rw [hnil] at hlow
    simp at hlow
  · intro hcolon
    rcases hkinds with hip | ⟨-, hcanonical⟩ | hdns
    · exact absurd hcolon (labels_of_isIpv4 hip).1
    · exact hcanonical
    · simp only [isDns, Bool.and_eq_true, decide_eq_true_eq] at hdns
      exact absurd hcolon hdns.1
  · intro hcolon
    rcases hkinds with hip | ⟨hmem, -⟩ | hdns
    · exact (labels_of_isIpv4 hip).2
    · exact absurd hmem hcolon
    · simp only [isDns, Bool.and_eq_true, List.all_eq_true] at hdns
      exact hdns.2

/-- A canonical IPv6 host is the compressed form of an address. -/
theorem eq_compressIpv6_of_canonicalIpv6 (h : canonicalIpv6 unicode host = true) :
    ∃ pieces, IsIpv6 pieces ∧ host = compressIpv6 pieces := by
  unfold canonicalIpv6 at h
  split at h
  · cases h
  rename_i url hurl
  have hname : url.hostname = '[' :: host ++ [']'] := of_decide_eq_true h
  obtain ⟨_, _, hparse⟩ := parseUrl_hostname hurl (by rw [hname]; simp)
  obtain ⟨pieces, hpieces, heq⟩ := parseHost_bracket hparse (by rw [hname]; rfl)
  rw [hname] at heq
  exact ⟨pieces, hpieces, List.append_cancel_right (List.cons.inj heq).2⟩

/-! ## URLs with an endpoint -/

/-- What a URL with an endpoint was parsed to. -/
structure EndpointOf (unicode : Unicode) (repositoryRootUrl : Text) (url : Url)
    (endpoint : CanonicalEndpoint) : Prop where
  parsed : parseUrl unicode repositoryRootUrl = some url
  scheme : schemeAndPort url.scheme = some (endpoint.scheme, endpoint.scheme.defaultPort)
  host : endpoint.canonicalHost = Text.toAsciiLowercase (withoutBrackets url.hostname)
  port : endpoint.effectivePort = url.port.getD endpoint.scheme.defaultPort
  valid : ValidEndpoint unicode endpoint

theorem snd_of_schemeAndPort {t : Text} {scheme : RemoteScheme} {port : Nat}
    (h : schemeAndPort t = some (scheme, port)) : port = scheme.defaultPort := by
  unfold schemeAndPort at h
  split at h
  · cases h; rfl
  split at h
  · cases h; rfl
  split at h
  · cases h; rfl
  split at h
  · cases h; rfl
  · cases h

theorem canonicalEndpointFromRepositoryUrl_eq_ok {repositoryRootUrl : Text}
    {endpoint : CanonicalEndpoint}
    (h : canonicalEndpointFromRepositoryUrl unicode repositoryRootUrl = .ok endpoint) :
    ∃ url, EndpointOf unicode repositoryRootUrl url endpoint := by
  unfold canonicalEndpointFromRepositoryUrl at h
  split at h
  · cases h
  split at h
  · cases h
  rename_i url hurl
  split at h
  · cases h
  split at h
  · cases h
  rename_i hscheme
  obtain ⟨_, hvalid, heq⟩ := Fallible.bind_eq_ok_iff.mp h
  obtain rfl := Except.ok.inj heq
  have hport := snd_of_schemeAndPort hscheme
  refine ⟨url, hurl, ?_, rfl, ?_, validEndpoint_of_ok hvalid⟩
  · rw [hscheme, hport]
  · rw [hport]

end Extension

end SubversionR

import Paperboat.Lib.Fields
import Paperboat.Tunnel.Records
/-!
# Which domains can be stored

`PutStaged` checks again what `Ensure` put into the record. Both sides bring the
hostname into the same form, so they agree on everything but one point: the
store takes no hostname with a wildcard, and the certificate of a wildcard
domain is stored under one.
-/

namespace Paperboat.Tunnel

open Lib List
open Connector (trimSpace isSpace isAlnum)

/-! ## Identifiers -/

def hexChars : List Char := ['0', '1', '2', '3', '4', '5', '6', '7', '8', '9', 'a', 'b', 'c', 'd', 'e', 'f']

theorem mem_hexByte {b : Nat} {c : Char} (h : c ∈ hexByte b) : c ∈ hexChars := by
  have hdg : ∀ n < 16, (if n < 10 then Char.ofNat (48 + n) else Char.ofNat (87 + n)) ∈ hexChars := by decide
  simp only [hexByte, mem_cons, not_mem_nil, or_false] at h
  rcases h with rfl | rfl <;> exact hdg _ (Nat.mod_lt _ (by decide))

theorem trimSpace_of_forall {s : String} (h : ∀ c ∈ s.toList, isSpace c = false) : trimSpace s = s := by
  have hdrop : ∀ cs : List Char, (∀ c ∈ cs, isSpace c = false) → cs.dropWhile isSpace = cs := by
    intro cs hcs
    cases cs with
    | nil => rfl
    | cons c => rw [dropWhile_cons_of_neg (by simp [hcs c mem_cons_self])]
  unfold trimSpace
  rw [hdrop _ h, hdrop _ fun c hc => h c (mem_reverse.1 hc), reverse_reverse, String.ofList_toList]

theorem validIdentifier_hexText (digest : BitVec 128) : validIdentifier (hexText digest) := by
  have hchs : ∀ c ∈ (hexText digest).toList, c ∈ hexChars := by
    intro c hc
    rw [hexText, String.toList_ofList] at hc
    obtain ⟨i, -, hc⟩ := mem_flatMap.1 hc
    exact mem_hexByte hc
  have hpl : ∀ c ∈ hexChars, c.utf8Size = 1 ∧ isSpace c = false ∧ isAlnum c ∧
      (['\r', '\n', '\x00'].contains c) = false := by
    have hall : (hexChars.all fun c => c.utf8Size == 1 && !isSpace c && isAlnum c &&
        !(['\r', '\n', '\x00'].contains c)) := by decide
    simpa [and_assoc] using hall
  have hsize : (hexText digest).utf8ByteSize = 32 := by
    have hlen : (hexText digest).toList.length = 32 := by
      simp only [hexText, String.toList_ofList, length_flatMap, hexByte, length_cons, length_nil]
      rfl
    rw [Fields.utf8ByteSize_of_ascii fun c hc => (hpl c (hchs c hc)).1, hlen]
  have hspace : trimSpace (hexText digest) = hexText digest :=
    trimSpace_of_forall fun c hc => (hpl c (hchs c hc)).2.1
  have hbreak : containsChar ['\r', '\n', '\x00'] (hexText digest) = false := by
    unfold containsChar
    rw [any_eq_false]
    intro c hc
    rw [(hpl c (hchs c hc)).2.2.2]
    exact Bool.false_ne_true
  have hall : ((hexText digest).toList.all fun c => isAlnum c || c == '_' || c == '-' || c == '.') := by
    rw [all_eq_true]
    intro c hc
    rw [(hpl c (hchs c hc)).2.2.1]
    rfl
  simp only [validIdentifier, hsize, hspace, hbreak, hall, BEq.rfl]
  rfl

section Checks
variable {names : Names} {x509 : X509} {gcm : Gcm} {d : Domain} {b : CertificateBundle} {identity : CertificateIdentity}
  {now : Time} {maxLifetime : Int}

/-! ## Hostnames -/

theorem normalizeHostname_wildcard {raw host : String} {wildcard : Bool}
    (h : normalizeHostname names raw = .ok (host, wildcard)) : isWildcard host = wildcard := by
  unfold normalizeHostname at h
  simp only [bind_eq_ok, refuseIf_eq_ok] at h
  obtain ⟨-, -, h⟩ := h
  split at h
  · cases h
  simp only [bind_eq_ok, refuseIf_eq_ok] at h
  obtain ⟨-, -, -, hstar, h⟩ := h
  split at h
  · simp only [bind_eq_ok, refuseIf_eq_ok, Except.ok.injEq, Prod.mk.injEq] at h
    obtain ⟨-, -, rfl, rfl⟩ := h
    rw [isWildcard, hasPrefix, isPrefixOf_iff_prefix, String.toList_append]
    exact prefix_append _ _
  · simp only [bind_eq_ok, refuseIf_eq_ok, Except.ok.injEq, Prod.mk.injEq] at h
    obtain ⟨-, -, rfl, rfl⟩ := h
    -- A wildcard in front is a `*`, and there is none left.
    have hno := (Bool.or_eq_false_iff.1 hstar).1
    rw [containsChar, any_eq_false] at hno
    rw [isWildcard, hasPrefix, ← Bool.not_eq_true, isPrefixOf_iff_prefix]
    rintro ⟨rest, hrest⟩
    exact hno '*' (hrest ▸ by simp) (by decide)

/-! ## Records -/

theorem length_encryptBytes {nonce : BitVec 96} {text sealed : Bytes}
    (h : encryptBytes gcm nonce text = .ok sealed) : 29 ≤ sealed.length := by
  unfold encryptBytes at h
  split at h
  · cases h
  rename_i hne
  cases h
  have hpos : text ≠ [] := fun he => hne (isEmpty_iff.2 he)
  have := length_pos_iff.2 hpos
  rw [length_append, length_ofFn, gcm.length_sealText]
  omega

theorem length_sealParts {nonces : BitVec 96 × BitVec 96} {sealed : Bytes × Bytes}
    (h : sealParts gcm nonces b = .ok sealed) : 29 ≤ sealed.1.length := by
  unfold sealParts at h
  cases hc : encryptBytes gcm nonces.1 b.certificatePEM with
  | error =>
    rw [hc] at h
    cases h
  | ok =>
    rw [hc] at h
    cases hk : encryptBytes gcm nonces.2 b.privateKeyPEM with
    | error =>
      rw [hk] at h
      cases h
    | ok =>
      rw [hk] at h
      cases h
      exact length_encryptBytes hc

theorem validate_hostname {hostname : String} (h : b.validate names x509 hostname now maxLifetime = .ok identity) :
    ∃ wildcard, normalizeHostname names hostname = .ok (identity.hostname, wildcard) := by
  unfold CertificateBundle.validate at h
  simp only [bind_eq_ok, refuseIf_eq_ok] at h
  obtain ⟨⟨host, wildcard⟩, hn, -, -, h⟩ := h
  split at h
  · cases h
  split at h
  · cases h
  split at h
  · cases h
  unfold CertificateBundle.validateCertificate at h
  simp only [bind_eq_ok, refuseIf_eq_ok] at h
  obtain ⟨-, -, -, -, -, -, -, -, h⟩ := h
  cases h
  exact ⟨wildcard, hn⟩

theorem validate_canonical (h : d.validate names = .ok ()) :
    normalizeHostname names d.hostname = .ok (d.hostname, isWildcard d.hostname) ∧
      (d.leafHostname ≠ "" → isWildcard d.hostname ∧
        normalizeHostname names d.leafHostname = .ok (d.leafHostname, false)) := by
  unfold Domain.validate at h
  simp only [bind_eq_ok, refuseIf_eq_ok, bne_eq_false_iff_eq] at h
  obtain ⟨-, -, -, -, ⟨host, wildcard⟩, hn, -, hhost, -, -, _, hlf, -⟩ := h
  obtain rfl : d.hostname = host := hhost
  have hw := normalizeHostname_wildcard hn
  refine ⟨by rw [hn, hw], fun hne => ?_⟩
  unfold Domain.validateLeaf at hlf
  rw [if_neg hne] at hlf
  simp only [bind_eq_ok, refuseIf_eq_ok, Bool.or_eq_false_iff, Bool.not_eq_false'] at hlf
  obtain ⟨-, ⟨-, rfl⟩, hck⟩ := hlf
  split at hck
  · cases hck
  rename_i leaf leafWildcard hl
  simp only [refuseIf_eq_ok, Bool.or_eq_false_iff, bne_eq_false_iff_eq] at hck
  obtain ⟨⟨rfl, he⟩, -⟩ := hck
  exact ⟨hw, by rw [hl, ← he]⟩

theorem hostname_of_validate (hd : d.validate names = .ok ())
    (hb : b.validate names x509 d.validationHostname now maxLifetime = .ok identity) :
    identity.hostname = d.validationHostname := by
  obtain ⟨hhost, hlf⟩ := validate_canonical hd
  obtain ⟨wildcard, h⟩ := validate_hostname hb
  unfold Domain.validationHostname at h ⊢
  by_cases hne : d.leafHostname = ""
  · rw [if_neg (not_not.2 hne), hhost] at h
    rw [if_neg (not_not.2 hne)]
    exact (Prod.mk.inj (Except.ok.inj h)).1.symm
  · rw [if_pos hne, (hlf hne).2] at h
    rw [if_pos hne]
    exact (Prod.mk.inj (Except.ok.inj h)).1.symm

theorem checkHostname_iff {value : String} :
    checkHostname names value = .ok () ↔ normalizeHostname names value = .ok (value, false) := by
  unfold checkHostname
  cases he : normalizeHostname names value with
  | error => simp
  | ok r =>
    obtain ⟨host, wildcard⟩ := r
    simp only [refuseIf_eq_ok, Bool.or_eq_false_iff, bne_eq_false_iff_eq, Except.ok.injEq, Prod.mk.injEq]
    exact and_comm

/-- What `PutStaged` looks at. -/
structure Storable (names : Names) (value : StoredCertificate) : Prop where
  id : validIdentifier value.id
  domainID : validIdentifier value.domainID
  accountID : validIdentifier value.accountID
  masterKeyReference : validKeyReference value.masterKeyReference
  domainGeneration : value.domainGeneration ≠ 0
  certificateGeneration : value.certificateGeneration ≠ 0
  envelope : 29 ≤ value.envelope.length
  target : value.target.validateActive value.updatedAt = .ok ()
  hostname : normalizeHostname names value.hostname = .ok (value.hostname, false)
  leafHostname : value.leafHostname ≠ "" → value.hostname = value.leafHostname

theorem putStagedChecks_iff {value : StoredCertificate} : putStagedChecks names value = .ok () ↔ Storable names value := by
  unfold putStagedChecks
  simp only [check_eq_ok, refuseIf_eq_ok, Bool.or_eq_false_iff, Bool.not_eq_false', beq_eq_false_iff_ne,
    decide_eq_false_iff_not, not_lt, checkHostname_iff]
  constructor
  · rintro ⟨⟨⟨⟨⟨⟨⟨hid, hdm⟩, hacc⟩, hkey⟩, hdgen⟩, hcgen⟩, henv⟩, htg, hhost, hlf⟩
    refine ⟨hid, hdm, hacc, hkey, hdgen, hcgen, henv, htg, hhost, fun hne => ?_⟩
    rw [if_neg hne, check_eq_ok, refuseIf_eq_ok, bne_eq_false_iff_eq] at hlf
    exact hlf.2
  · intro h
    refine ⟨⟨⟨⟨⟨⟨⟨h.id, h.domainID⟩, h.accountID⟩, h.masterKeyReference⟩, h.domainGeneration⟩, h.certificateGeneration⟩,
      h.envelope⟩, h.target, h.hostname, ?_⟩
    split
    · rfl
    rename_i hne
    have he := h.leafHostname hne
    rw [check_eq_ok, refuseIf_eq_ok, bne_eq_false_iff_eq]
    exact ⟨checkHostname_iff.2 (he ▸ h.hostname), he⟩

end Checks

/-- Everything but the wildcard passes: the store takes the record of a domain exactly when it
asks for an exact leaf or has an exact hostname itself. -/
theorem staged_record_storable_iff {names : Names} {x509 : X509} {gcm : Gcm} {digest : Digest} {d : Domain}
    {b : CertificateBundle} {identity : CertificateIdentity} {nonces : BitVec 96 × BitVec 96} {sealed : Bytes × Bytes}
    {masterKeyReference : String} {renewBefore maxLifetime : Int} {generation : Nat} {now : Time}
    (hdomain : d.validate names = .ok ()) (hactive : d.target.validateActive now = .ok ())
    (hbundle : b.validate names x509 d.validationHostname now maxLifetime = .ok identity)
    (hsealed : sealParts gcm nonces b = .ok sealed) (hkey : validKeyReference masterKeyReference)
    (hgeneration : generation ≠ 0) :
    putStagedChecks names (stagedRecord digest masterKeyReference renewBefore d generation identity sealed now) = .ok () ↔
      d.leafHostname ≠ "" ∨ isWildcard d.hostname = false := by
  obtain ⟨hhost, hleaf⟩ := validate_canonical hdomain
  have he := hostname_of_validate hdomain hbundle
  obtain ⟨htarget, hgen⟩ : d.target.validate = .ok () ∧ d.generation ≠ 0 := by
    unfold Domain.validate at hdomain
    simp only [bind_eq_ok, refuseIf_eq_ok, beq_eq_false_iff_ne] at hdomain
    obtain ⟨_, htarget, -, hgen, -⟩ := hdomain
    exact ⟨htarget, hgen⟩
  obtain ⟨hid, hacc⟩ : validIdentifier d.id ∧ validIdentifier d.accountID := by
    unfold CertificateTarget.validate at htarget
    simp only [bind_eq_ok, refuseIf_eq_ok, Bool.or_eq_false_iff, Bool.not_eq_false'] at htarget
    obtain ⟨-, hids, -⟩ := htarget
    exact hids
  -- All that is left to look at is the hostname of the certificate.
  have hother (hhost : normalizeHostname names identity.hostname = .ok (identity.hostname, false))
      (hleaf : d.leafHostname ≠ "" → identity.hostname = d.leafHostname) :
      Storable names (stagedRecord digest masterKeyReference renewBefore d generation identity sealed now) :=
    ⟨validIdentifier_hexText _, hid, hacc, hkey, hgen, hgeneration, length_sealParts hsealed, hactive, hhost, hleaf⟩
  rw [putStagedChecks_iff]
  unfold Domain.validationHostname at he
  by_cases hne : d.leafHostname = ""
  · rw [if_neg (not_not.2 hne)] at he
    constructor
    · intro hs
      have hstored : normalizeHostname names identity.hostname = .ok (identity.hostname, false) := hs.hostname
      rw [he] at hstored
      exact .inr (normalizeHostname_wildcard hstored)
    · rintro (hleaf | hexact)
      · exact absurd hne hleaf
      · rw [hexact] at hhost
        exact hother (he ▸ hhost) fun hl => absurd hne hl
  · rw [if_pos hne] at he
    exact ⟨fun _ => .inl hne, fun _ => hother (he ▸ (hleaf hne).2) fun _ => he⟩

/-! ## A domain -/

namespace Sample

def names : Names where
  lower s := String.ofList (s.toList.map Char.toLower)
  toASCII := some
  isIP _ := false

def now : Time := ⟨Duration.hour, 0⟩

def expiry : Time := ⟨2160 * Duration.hour, 0⟩

def certificate : X509Certificate := ⟨some [7], ⟨0, 0⟩, expiry, [], 5⟩

def x509 : X509 where
  certificateBlock := some
  parseCertificate _ := .ok certificate
  parsePrivateKey _ := .ok (some [7])
  verifyHostname _ _ := true

def gcm : Gcm where
  sealText _ text := text ++ List.replicate 16 0
  length_sealText _ text := by rw [length_append, length_replicate]

def digest : Digest := fun _ _ => 0

def bundle : CertificateBundle := ⟨[1], [2], "authority", Time.zero, Time.zero⟩

def identity (hostname : String) (wildcard : Bool) : CertificateIdentity :=
  ⟨5, ⟨0, 0⟩, expiry, hostname, wildcard, "authority"⟩

def domain (hostname : String) : Domain where
  id := "domain"
  accountID := "account"
  tunnelID := "tunnel"
  targetKind := .durableRoute
  routeID := "route"
  previewID := ""
  previewGeneration := 0
  previewState := .unset
  previewExpiresAt := Time.zero
  hostname
  generation := 1
  strategy := .delegatedDNS01
  ownershipState := .verified
  caaState := .ready
  certificateReference := ""
  renewalDue := true
  allowOnDemandFallback := false
  leafHostname := ""
  edgeTargets := [⟨"node", "process1", 1⟩]

def sealed : Bytes × Bytes := (List.replicate 12 0 ++ [1] ++ List.replicate 16 0, List.replicate 12 0 ++ [2] ++ List.replicate 16 0)

end Sample

open Sample

theorem staged_record_storable_exact : putStagedChecks names (stagedRecord digest "key" (720 * Duration.hour)
      (domain "app.example.com") 1
      (identity "app.example.com" false) sealed now) = .ok () := by
  have hbundle : bundle.validate names x509 (domain "app.example.com").validationHostname
      now 0 = .ok (identity "app.example.com" false) := by decide +kernel
  have hsealed : sealParts gcm (0, 0) bundle = .ok sealed := by decide +kernel
  exact (staged_record_storable_iff (by decide +kernel) (by decide +kernel) hbundle hsealed (by decide +kernel)
    (by decide)).2 (.inr (by decide +kernel))

/-- A wildcard domain passes every check of `Ensure` up to the store. -/
theorem wildcard_record_refused : (domain "*.example.com").validate names = .ok () ∧
      (domain "*.example.com").target.validateActive now = .ok () ∧
      bundle.validate names x509 (domain "*.example.com").validationHostname now 0 =
        .ok (identity "*.example.com" true) ∧
      sealParts gcm (0, 0) bundle = .ok sealed ∧
      putStagedChecks names (stagedRecord digest "key" (720 * Duration.hour) (domain "*.example.com") 1
        (identity "*.example.com" true) sealed now) = .error (.ofSentinel .invalid) := by
  decide +kernel

end Paperboat.Tunnel

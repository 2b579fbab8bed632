import Paperboat.Connector.Basics
import Paperboat.Lib.Checks
/-!
# Certificate targets, hostnames and domains

The checks of `tunnelcert` on what is asked for: the target a certificate is
bound to, its hostname in the form it is stored in, and the domain with its
strategy and edges. What the code takes from elsewhere is in `Names`.

A text that is none of the constants of its type is the type's `other`; the zero
value is the empty text.
-/

namespace Paperboat.Tunnel

open Lib
open Connector (trimSpace isLower isUpper isDigit isAlnum)

/-! ## Errors -/

inductive Sentinel where
  | invalid | masterKeyUnavailable | issuanceLocked | caaUnavailable | caaBlocked | dnsChallengePending
  | dnsChallengeUnavailable | issuerUnavailable | issuerRateLimited | certificateInvalid | certificateNotReady
  | distributionUnavailable | generationConflict | certificateRevoked
  deriving DecidableEq

def Sentinel.text : Sentinel → String
  | .invalid => "invalid tunnel certificate request"
  | .masterKeyUnavailable => "certificate master key is unavailable"
  | .issuanceLocked => "certificate issuance is already locked"
  | .caaUnavailable => "certificate authority policy is unavailable"
  | .caaBlocked => "certificate authority policy blocks issuance"
  | .dnsChallengePending => "DNS-01 challenge is pending"
  | .dnsChallengeUnavailable => "DNS-01 challenge is unavailable"
  | .issuerUnavailable => "certificate issuer is unavailable"
  | .issuerRateLimited => "certificate issuer rate limited"
  | .certificateInvalid => "issued certificate is invalid"
  | .certificateNotReady => "certificate distribution is not ready"
  | .distributionUnavailable => "certificate distribution is unavailable"
  | .generationConflict => "certificate domain generation is stale"
  | .certificateRevoked => "certificate is revoked"

structure Err where
  sentinels : List Sentinel
  text : String
  deriving DecidableEq

namespace Err

def is (e : Err) (s : Sentinel) : Bool := e.sentinels.contains s

def ofSentinel (s : Sentinel) : Err := ⟨[s], s.text⟩

/-- `fmt.Errorf("%w: ...", s)` -/
def wrap (s : Sentinel) (detail : String) : Err := ⟨[s], s.text ++ ": " ++ detail⟩

def join (a b : Err) : Err := ⟨a.sentinels ++ b.sentinels, a.text ++ "\n" ++ b.text⟩

/-- `errors.Join(a, b)` where `b` may be nil. -/
def joinWith (a : Err) : Option Err → Err
  | none => a
  | some b => a.join b

end Err

/-! ## Texts -/

def hasPrefix (head value : String) : Bool := head.toList.isPrefixOf value.toList

variable (value : String)

/-- `strings.TrimSuffix(value, ".")` -/
def trimDot : String :=
  if value.toList.getLast? = some '.' then String.ofList value.toList.dropLast else value

def containsChar (chars : List Char) (value : String) : Bool := value.toList.any (chars.contains ·)

def validIdentifier : Bool :=
  3 ≤ value.utf8ByteSize && value.utf8ByteSize ≤ 128 && trimSpace value == value &&
    !containsChar ['\r', '\n', '\x00'] value &&
    value.toList.all fun c => isAlnum c || c == '_' || c == '-' || c == '.'

def validEpoch : Bool :=
  8 ≤ value.utf8ByteSize && value.utf8ByteSize ≤ 128 && value.toList.all fun c => isAlnum c || c == '_' || c == '-'

def validMetadata (maximum : Nat) : Bool :=
  value != "" && value.utf8ByteSize ≤ maximum && trimSpace value == value && !containsChar ['\r', '\n', '\x00'] value

/-- The last two checks of the source never fail here: none of these characters is a space. -/
def validKeyReference : Bool :=
  1 ≤ value.utf8ByteSize && value.utf8ByteSize ≤ 256 && trimSpace value == value &&
    !containsChar ['\r', '\n', '\x00'] value &&
    value.toList.all fun c => isAlnum c || c == '_' || c == '-' || c == '.' || c == ':' || c == '/'

/-! ## Hostnames -/

/-- `strings.ToLower`, `idna.Lookup.ToASCII` and `net.ParseIP`. -/
structure Names where
  lower : String → String
  toASCII : String → Option String
  isIP : String → Bool

/-- `[a-z0-9](?:[a-z0-9-]{0,61}[a-z0-9])?` -/
def dnsLabel (label : List Char) : Bool :=
  1 ≤ label.length && label.length ≤ 63 && label.all (fun c => isLower c || isDigit c || c == '-') &&
    label.head? != some '-' && label.getLast? != some '-'

def dnsNamePattern : Bool :=
  let labels := value.toList.splitOn '.'
  2 ≤ labels.length && labels.all dnsLabel

def isWildcard (host : String) : Bool := hasPrefix "*." host

def invalidHostname : Err := .wrap .invalid "hostname is invalid"

def normalizeHostname (names : Names) (raw : String) : Except Err (String × Bool) := do
  let host := names.lower (trimDot (trimSpace raw))
  refuseIf (host == "" || decide (host.utf8ByteSize > 253) ||
    containsChar ['/', ':', '@', '?', '#', '\r', '\n', '\x00'] host) invalidHostname
  let wildcard := isWildcard host
  let base := if wildcard then String.ofList (host.toList.drop 2) else host
  match names.toASCII base with
  | none => .error invalidHostname
  | some ascii => do
    let base := names.lower (trimDot ascii)
    let host := if wildcard then "*." ++ base else base
    refuseIf (host == "" || decide (host.utf8ByteSize > 253)) invalidHostname
    refuseIf (containsChar ['*'] base || names.isIP base) invalidHostname
    if wildcard then do
      refuseIf (!containsChar ['.'] base || !dnsNamePattern base) (.wrap .invalid "wildcard hostname is invalid")
      .ok (host, true)
    else do
      refuseIf (!dnsNamePattern host) invalidHostname
      .ok (host, false)

def oneLabelUnderWildcard (leaf wildcard : String) : Bool :=
  isWildcard wildcard && leaf != "" &&
    let suffix := '.' :: wildcard.toList.drop 2
    suffix.isSuffixOf leaf.toList &&
      let label := leaf.toList.take (leaf.toList.length - suffix.length)
      !label.isEmpty && !label.contains '.'

/-! ## Targets -/

inductive TargetKind where
  | durableRoute | previewLease | platformWildcard
  | other (text : String)
  deriving DecidableEq

def TargetKind.unset : TargetKind := .other ""

def TargetKind.text : TargetKind → String
  | .durableRoute => "durable_route"
  | .previewLease => "preview_lease"
  | .platformWildcard => "platform_wildcard"
  | .other text => text

inductive PreviewState where
  | active
  | other (text : String)
  deriving DecidableEq

def PreviewState.unset : PreviewState := .other ""

structure CertificateTarget where
  kind : TargetKind
  (domainID accountID tunnelID routeID previewID : String)
  previewGeneration : Nat
  previewState : PreviewState
  previewExpiresAt : Time

namespace CertificateTarget

variable (t : CertificateTarget)

def normalizedKind : TargetKind :=
  if t.kind ≠ .unset then t.kind
  else if t.previewID ≠ "" ∨ t.previewGeneration ≠ 0 then .previewLease
  else .durableRoute

def noPreview : Bool :=
  t.previewID == "" && t.previewGeneration == 0 && t.previewState == .unset && t.previewExpiresAt.isZero

def validate : Except Err Unit := do
  refuseIf (!validIdentifier t.domainID || !validIdentifier t.accountID) (.wrap .invalid "target identity is invalid")
  match t.normalizedKind with
  | .durableRoute => do
    refuseIf (!validIdentifier t.tunnelID) (.wrap .invalid "durable target tunnel is invalid")
    -- A target without a kind may leave out the route.
    refuseIf (t.kind != .unset && !validIdentifier t.routeID) (.wrap .invalid "durable target route is invalid")
    refuseIf (!t.noPreview) (.wrap .invalid "durable target contains preview-lease fields")
  | .previewLease =>
    refuseIf (t.tunnelID != "" || t.routeID != "" || !validIdentifier t.previewID || t.previewGeneration == 0)
      (.wrap .invalid "preview target identity is invalid")
  | .platformWildcard =>
    refuseIf (t.tunnelID != "" || t.routeID != "" || !t.noPreview)
      (.wrap .invalid "platform wildcard target contains route or lease identity")
  | .other _ => .error (.wrap .invalid "target kind is invalid")

def validateActive (now : Time) : Except Err Unit := do
  t.validate
  refuseIf (t.normalizedKind == .previewLease &&
    (t.previewState != .active || t.previewExpiresAt.isZero || !t.previewExpiresAt.after now))
    (.wrap .certificateRevoked "preview lease is not active")

/-- `Key`, before it is joined. -/
def key : TargetKind × String × String × String × String × String × Nat :=
  (t.normalizedKind, t.domainID, t.accountID, t.tunnelID, t.routeID, t.previewID, t.previewGeneration)

end CertificateTarget

/-! ## Domains -/

inductive Strategy where
  | delegatedDNS01 | platformDNS01 | provided | onDemandLeaf | wildcard
  | other (text : String)
  deriving DecidableEq

inductive OwnershipState where
  | verified
  | other (text : String)
  deriving DecidableEq

inductive CAAState where
  | unknown | ready | notApplicable
  | other (text : String)
  deriving DecidableEq

structure EdgeTarget where
  (nodeID processEpoch : String)
  generation : Nat
  deriving DecidableEq

def EdgeTarget.validate (t : EdgeTarget) : Except Err Unit :=
  refuseIf (!validIdentifier t.nodeID || !validEpoch t.processEpoch || t.generation == 0)
    (.wrap .invalid "edge target binding is invalid")

structure Domain where
  (id accountID tunnelID : String)
  targetKind : TargetKind
  (routeID previewID : String)
  previewGeneration : Nat
  previewState : PreviewState
  previewExpiresAt : Time
  hostname : String
  generation : Nat
  strategy : Strategy
  ownershipState : OwnershipState
  caaState : CAAState
  certificateReference : String
  (renewalDue allowOnDemandFallback : Bool)
  leafHostname : String
  edgeTargets : List EdgeTarget

namespace Domain

def target (d : Domain) : CertificateTarget :=
  ⟨d.targetKind, d.id, d.accountID, d.tunnelID, d.routeID, d.previewID, d.previewGeneration, d.previewState,
    d.previewExpiresAt⟩

def validateEdges : List (String × String) → List EdgeTarget → Except Err Unit
  | _, [] => .ok ()
  | seen, t :: ts => do
    t.validate
    refuseIf (seen.contains (t.nodeID, t.processEpoch)) (.wrap .invalid "duplicate edge target")
    validateEdges ((t.nodeID, t.processEpoch) :: seen) ts

def validateLeaf (names : Names) (d : Domain) (host : String) (wildcard : Bool) : Except Err Unit :=
  if d.leafHostname = "" then .ok ()
  else do
    refuseIf (d.strategy != .onDemandLeaf || !wildcard)
      (.wrap .invalid "exact leaf hostname requires an on-demand wildcard binding")
    match normalizeHostname names d.leafHostname with
    | .error _ => .error (.wrap .invalid "exact leaf hostname is outside the wildcard binding")
    | .ok (leaf, leafWildcard) =>
      refuseIf (leafWildcard || d.leafHostname != leaf || !oneLabelUnderWildcard leaf host)
        (.wrap .invalid "exact leaf hostname is outside the wildcard binding")

def validateStrategy (d : Domain) : Except Err Unit := do
  match d.strategy with
  | .delegatedDNS01 | .provided | .onDemandLeaf | .wildcard => .ok ()
  | .platformDNS01 =>
    refuseIf (d.target.normalizedKind != .platformWildcard)
      (.wrap .invalid "platform DNS-01 strategy requires a platform wildcard target")
  | .other _ => .error (.wrap .invalid "certificate strategy is invalid")
  refuseIf (d.target.normalizedKind == .platformWildcard && d.strategy != .platformDNS01)
    (.wrap .invalid "platform wildcard target requires platform DNS-01 strategy")

def validate (names : Names) (d : Domain) : Except Err Unit := do
  d.target.validate
  refuseIf (d.generation == 0) (.wrap .invalid "domain generation is required")
  let (host, wildcard) ← normalizeHostname names d.hostname
  refuseIf (d.hostname != host) (.wrap .invalid "hostname must be canonical")
  refuseIf (d.strategy == .onDemandLeaf && (!wildcard || d.leafHostname == "") &&
    !(wildcard && d.leafHostname == "" && d.allowOnDemandFallback))
    (.wrap .invalid "on-demand leaf requests require an exact hostname under a wildcard binding")
  d.validateLeaf names host wildcard
  d.validateStrategy
  refuseIf (d.ownershipState != .verified) (.wrap .invalid "domain ownership is not verified")
  refuseIf (d.caaState != .other "" && d.caaState != .unknown && d.caaState != .ready && d.caaState != .notApplicable)
    (.wrap .caaBlocked "CAA state is not ready")
  validateEdges [] d.edgeTargets

end Domain

end Paperboat.Tunnel

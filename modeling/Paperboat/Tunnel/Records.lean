import Paperboat.Tunnel.Contract
/-!
# Bundles and records

What an issuer hands over, how it is checked and sealed, and the record that
`Ensure` builds from it. Certificates are read by `X509` and encrypted by `Gcm`;
of both only what the checks look at is said.
-/

namespace Paperboat.Tunnel

open Lib
open Connector (trimSpace)

abbrev Bytes := List UInt8

/-- `[sha256.Size]byte` -/
abbrev Fingerprint := BitVec 256

/-! ## Bundles -/

structure CertificateBundle where
  (certificatePEM privateKeyPEM : Bytes)
  issuer : String
  (notBefore notAfter : Time)
  deriving DecidableEq

structure X509Certificate where
  /-- The public key in its DER form, where it has one. -/
  publicKey : Option Bytes
  (notBefore notAfter : Time)
  dnsNames : List String
  fingerprint : Fingerprint
  deriving DecidableEq

structure X509 where
  /-- The first PEM block, if it is a certificate. -/
  certificateBlock : Bytes → Option Bytes
  parseCertificate : Bytes → Except String X509Certificate
  /-- The public half of a private key in its DER form. -/
  parsePrivateKey : Bytes → Except String (Option Bytes)
  verifyHostname : X509Certificate → String → Bool

structure CertificateIdentity where
  fingerprint : Fingerprint
  (notBefore notAfter : Time)
  hostname : String
  wildcard : Bool
  issuer : String
  deriving DecidableEq

namespace CertificateBundle

def maxPEM : Nat := 16777216

def validateCertificate (x509 : X509) (b : CertificateBundle) (cert : X509Certificate) (key : Option Bytes) (host : String)
    (wildcard : Bool) (now : Time) (maxLifetime : Int) : Except Err CertificateIdentity := do
  refuseIf (cert.publicKey.isNone || key.isNone || cert.publicKey != key)
    (.wrap .certificateInvalid "certificate and private key do not match")
  refuseIf (!cert.notAfter.after now || cert.notBefore.after (now.add (10 * Duration.minute)) ||
    decide (maxLifetime > 0) && decide (cert.notAfter.sub now > maxLifetime))
    (.wrap .certificateInvalid "certificate lifetime is outside bounds")
  let verifyHost := if wildcard then "paperboat." ++ String.ofList (host.toList.drop 2) else host
  refuseIf (!x509.verifyHostname cert verifyHost) (.wrap .certificateInvalid ("certificate does not cover " ++ host))
  refuseIf (!b.notBefore.isZero && !b.notBefore.equal cert.notBefore ||
    !b.notAfter.isZero && !b.notAfter.equal cert.notAfter)
    (.wrap .certificateInvalid "issuer timestamps do not match certificate")
  .ok ⟨cert.fingerprint, cert.notBefore, cert.notAfter, host, wildcard, b.issuer⟩

def validate (names : Names) (x509 : X509) (b : CertificateBundle) (hostname : String) (now : Time) (maxLifetime : Int) :
    Except Err CertificateIdentity := do
  let (host, wildcard) ← normalizeHostname names hostname
  refuseIf (b.certificatePEM.isEmpty || decide (b.certificatePEM.length > maxPEM) || b.privateKeyPEM.isEmpty ||
    decide (b.privateKeyPEM.length > maxPEM) || !validMetadata b.issuer 256)
    (.wrap .certificateInvalid "bundle is empty or oversized")
  match x509.certificateBlock b.certificatePEM with
  | none => .error (.wrap .certificateInvalid "certificate PEM is invalid")
  | some block =>
    match x509.parseCertificate block with
    | .error text => .error (.wrap .certificateInvalid ("parse certificate: " ++ text))
    | .ok cert =>
      match x509.parsePrivateKey b.privateKeyPEM with
      | .error text => .error (.wrap .certificateInvalid ("parse private key: " ++ text))
      | .ok key => b.validateCertificate x509 cert key host wildcard now maxLifetime

/-- `validateExactLeafBundle`: no wildcard may stand in for the hostname. -/
def validateExactLeaf (names : Names) (x509 : X509) (b : CertificateBundle) (hostname : String) (now : Time)
    (maxLifetime : Int) : Except Err Unit := do
  let host ← match normalizeHostname names hostname with
    | .ok (host, false) => .ok host
    | _ => .error (.wrap .certificateInvalid "exact leaf hostname is invalid")
  let identity ← b.validate names x509 host now maxLifetime
  match (x509.certificateBlock b.certificatePEM).map x509.parseCertificate with
  | some (.ok cert) => do
    refuseIf (cert.dnsNames.any fun name => isWildcard (names.lower name))
      (.wrap .certificateInvalid "exact leaf certificate contains wildcard SAN")
    refuseIf (identity.hostname != host || identity.wildcard)
      (.wrap .certificateInvalid "exact leaf certificate is not bound to requested hostname")
  | _ => .error (.wrap .certificateInvalid "exact leaf certificate is invalid")

end CertificateBundle

/-! ## Sealing -/

structure Gcm where
  sealText : Bytes → Bytes → Bytes
  length_sealText : ∀ nonce text, (sealText nonce text).length = text.length + 16

/-- `secrets.EncryptBytes` with the nonce it drew. -/
def encryptBytes (gcm : Gcm) (nonce : BitVec 96) (plaintext : Bytes) : Except String Bytes :=
  let nonce : Bytes := List.ofFn fun i : Fin 12 => UInt8.ofNat (nonce.toNat >>> (8 * i.val))
  if plaintext.isEmpty then .error "cannot encrypt empty secret" else .ok (nonce ++ gcm.sealText nonce plaintext)

/-- `SealParts` with a key that was resolved. -/
def sealParts (gcm : Gcm) (nonces : BitVec 96 × BitVec 96) (b : CertificateBundle) : Except Err (Bytes × Bytes) := do
  let certificate ← match encryptBytes gcm nonces.1 b.certificatePEM with
    | .ok text => .ok text
    | .error text => .error (.wrap .masterKeyUnavailable ("encrypt certificate: " ++ text))
  let privateKey ← match encryptBytes gcm nonces.2 b.privateKeyPEM with
    | .ok text => .ok text
    | .error text => .error (.wrap .masterKeyUnavailable ("encrypt private key: " ++ text))
  .ok (certificate, privateKey)

/-! ## Records -/

inductive State where
  | staged | active | superseded | revoked | expired | failed
  deriving DecidableEq

/-- A row of `tunnel_certificate_records`; a column that is NULL has the zero value. -/
structure StoredCertificate where
  (id domainID accountID tunnelID : String)
  targetKind : TargetKind
  (routeID previewID : String)
  previewGeneration : Nat
  previewState : PreviewState
  previewExpiresAt : Time
  (hostname leafHostname : String)
  (domainGeneration certificateGeneration : Nat)
  strategy : Strategy
  state : State
  (certificateReference masterKeyReference : String)
  (envelope certificateCiphertext privateKeyCiphertext : Bytes)
  fingerprint : Fingerprint
  issuer : String
  (notBefore expiresAt renewalAt : Time)
  failureCode : String
  updatedAt : Time
  deriving DecidableEq

namespace StoredCertificate

def target (s : StoredCertificate) : CertificateTarget :=
  ⟨s.targetKind, s.domainID, s.accountID, s.tunnelID, s.routeID, s.previewID, s.previewGeneration, s.previewState,
    s.previewExpiresAt⟩

end StoredCertificate

def hexByte (b : Nat) : List Char :=
  let digit (n : Nat) : Char := if n < 10 then Char.ofNat (48 + n) else Char.ofNat (87 + n)
  [digit (b / 16 % 16), digit (b % 16)]

/-- `hex.EncodeToString` of 16 bytes. -/
def hexText (digest : BitVec 128) : String :=
  String.ofList ((List.range 16).flatMap fun i => hexByte (digest.toNat >>> (8 * (15 - i)) % 256))

/-- The first 16 bytes of the SHA-256 of the fields, each with a zero byte behind it, and the fingerprint. -/
abbrev Digest := List String → Fingerprint → BitVec 128

def certificateID (digest : Digest) (d : Domain) (generation : Nat) (fingerprint : Fingerprint) : String :=
  hexText (digest [d.target.normalizedKind.text, d.id, d.accountID, d.tunnelID, d.routeID, d.previewID,
    toString d.previewGeneration, toString generation, d.hostname, d.leafHostname] fingerprint)

/-- The record `Ensure` stores for an issued certificate. -/
def stagedRecord (digest : Digest) (masterKeyReference : String) (renewBefore : Int) (d : Domain)
    (certificateGeneration : Nat) (identity : CertificateIdentity) (sealed : Bytes × Bytes) (now : Time) :
    StoredCertificate where
  id := certificateID digest d certificateGeneration identity.fingerprint
  domainID := d.id
  accountID := d.accountID
  tunnelID := d.tunnelID
  targetKind := d.targetKind
  routeID := d.routeID
  previewID := d.previewID
  previewGeneration := d.previewGeneration
  previewState := d.previewState
  previewExpiresAt := d.previewExpiresAt
  hostname := identity.hostname
  leafHostname := d.leafHostname
  domainGeneration := d.generation
  certificateGeneration
  strategy := d.strategy
  state := .staged
  certificateReference := "tcert_" ++ certificateID digest d certificateGeneration identity.fingerprint
  masterKeyReference
  envelope := sealed.1
  certificateCiphertext := sealed.1
  privateKeyCiphertext := sealed.2
  fingerprint := identity.fingerprint
  issuer := identity.issuer
  notBefore := identity.notBefore
  expiresAt := identity.notAfter
  renewalAt := identity.notAfter.add (-renewBefore)
  failureCode := ""
  updatedAt := now

def Domain.validationHostname (d : Domain) : String := if d.leafHostname ≠ "" then d.leafHostname else d.hostname

def checkHostname (names : Names) (value : String) : Except Err Unit :=
  match normalizeHostname names value with
  | .error _ => .error (.ofSentinel .invalid)
  | .ok (host, wildcard) => refuseIf (wildcard || host != value) (.ofSentinel .invalid)

/-- What `SQLStore.PutStaged` checks before it writes; a fingerprint always has its 32 bytes. -/
def putStagedChecks (names : Names) (value : StoredCertificate) : Except Err Unit := do
  refuseIf (!validIdentifier value.id || !validIdentifier value.domainID || !validIdentifier value.accountID ||
    !validKeyReference value.masterKeyReference || value.domainGeneration == 0 || value.certificateGeneration == 0 ||
    decide (value.envelope.length < 29)) (.ofSentinel .invalid)
  value.target.validateActive value.updatedAt
  checkHostname names value.hostname
  if value.leafHostname = "" then .ok ()
  else do
    checkHostname names value.leafHostname
    refuseIf (value.hostname != value.leafHostname) (.ofSentinel .invalid)

end Paperboat.Tunnel

import Paperboat.Lib.Time
/-!
# Codes, errors and field checks of the connector protocol

The vocabulary every message of `connector-v1` shares: the reason and error
codes, the typed boundary error, the size limits and the checks of single
fields (identifiers, proofs, nonces, identity keys, capabilities, versions).

Strings are texts; their length is the number of bytes of their UTF-8 form. A
wire string that names none of the constants of an enumeration is its `other`.
-/

namespace Paperboat.Connector

open Lib

/-! ## Limits -/

def protocolName : String := "paperboat.connector"
def protocolVersion : String := "1.0"

def maxSnapshotBytes : Nat := 4194304
def maxDeltaBytes : Nat := 1048576
def maxCapabilities : Nat := 64
def maxCapabilityBytes : Nat := 128
def maxIdentifierBytes : Nat := 128
def maxCredentialRef : Nat := 512
def maxProofBytes : Nat := 16384
def maxNonceBytes : Nat := 128
def maxActiveStreams : UInt32 := 1048576
def maxClockSkew : Int := 2 * Duration.minute
def defaultLease : Int := 45 * Duration.second
def defaultHeartbeat : Int := 5 * Duration.second
def defaultAbortTimeout : Int := 5 * Duration.second
def maxLease : Int := 24 * Duration.hour

theorem defaultLease_pos : 0 < defaultLease := by decide

theorem defaultLease_le : defaultLease ≤ maxLease := by decide

/-! ## Codes and errors -/

inductive Code where
  | invalidInput | malformedFrame | frameTooLarge | protocolIncompatible | capabilityMissing
  | authenticationFailed | credentialExpired | identityMismatch | sessionConflict | sessionClosed
  | leaseExpired | heartbeatTimeout | snapshotRequired | generationGap | staleGeneration
  | contentHashMismatch | snapshotRejected | deltaRejected | notReady | canceled | staleSession
  | unsupportedMessage | drainRejected | drainTimeout | credentialRotationRejected
  | credentialRotationNotReady | credentialRotationFailed
  | other (text : String)
  deriving DecidableEq

def Code.empty : Code := .other ""

def Code.text : Code → String
  | .invalidInput => "invalid_input"
  | .malformedFrame => "malformed_frame"
  | .frameTooLarge => "frame_too_large"
  | .protocolIncompatible => "protocol_incompatible"
  | .capabilityMissing => "capability_missing"
  | .authenticationFailed => "authentication_failed"
  | .credentialExpired => "credential_expired"
  | .identityMismatch => "identity_mismatch"
  | .sessionConflict => "session_conflict"
  | .sessionClosed => "session_closed"
  | .leaseExpired => "lease_expired"
  | .heartbeatTimeout => "heartbeat_timeout"
  | .snapshotRequired => "snapshot_required"
  | .generationGap => "generation_gap"
  | .staleGeneration => "stale_generation"
  | .contentHashMismatch => "content_hash_mismatch"
  | .snapshotRejected => "snapshot_rejected"
  | .deltaRejected => "delta_rejected"
  | .notReady => "not_ready"
  | .canceled => "canceled"
  | .staleSession => "stale_session"
  | .unsupportedMessage => "unsupported_message"
  | .drainRejected => "drain_rejected"
  | .drainTimeout => "drain_timeout"
  | .credentialRotationRejected => "credential_rotation_rejected"
  | .credentialRotationNotReady => "credential_rotation_not_ready"
  | .credentialRotationFailed => "credential_rotation_failed"
  | .other text => text

def validCode : Code → Bool
  | .other _ => false
  | _ => true

inductive DisconnectReason where
  | protocolMismatch | capabilityMissing | malformed | authentication | credentialExpired
  | leaseExpired | heartbeatTimeout | sessionReplaced | staleGeneration | snapshotRejected
  | generationGap | credentialRotation | canceled | serverShutdown | protocolClosed
  | other (text : String)
  deriving DecidableEq

def DisconnectReason.empty : DisconnectReason := .other ""

def validDisconnectReason : DisconnectReason → Bool
  | .other _ => false
  | _ => true

/-- An error value: a typed protocol error without or with a cause, a plain
error known by its text, one wrapped with a text, or two joined errors. -/
inductive Err where
  | coded (code : Code) (reason : DisconnectReason) (retryable : Bool)
  | caused (code : Code) (reason : DisconnectReason) (retryable : Bool) (cause : Err)
  | text (message : String)
  | wrap (message : String) (cause : Err)
  | join (first second : Err)
  deriving DecidableEq

namespace Err

def sentinel (code : Code) : Err := .coded code .empty false

def invalidInput : Err := sentinel .invalidInput
def capabilityMissing : Err := sentinel .capabilityMissing
def authenticationFailed : Err := sentinel .authenticationFailed
def identityMismatch : Err := sentinel .identityMismatch
def sessionClosed : Err := sentinel .sessionClosed
def notReady : Err := sentinel .notReady

end Err

/-- `codeError`: the code of a sentinel with a reason and maybe a cause. -/
def codeError (code : Code) (reason : DisconnectReason) (retryable : Bool) : Option Err → Err
  | none => .coded code reason retryable
  | some cause => .caused code reason retryable cause

/-! ## Text -/

variable (value : String) (c : Char) (s : String)

def isSpace : Bool :=
  let n := c.toNat
  (9 ≤ n && n ≤ 13) || n == 0x20 || n == 0x85 || n == 0xA0 || n == 0x1680 ||
    (0x2000 ≤ n && n ≤ 0x200A) || n == 0x2028 || n == 0x2029 || n == 0x202F || n == 0x205F || n == 0x3000

def trimSpace : String :=
  String.ofList ((s.toList.dropWhile isSpace).reverse.dropWhile isSpace).reverse

/-- The bytes of a text as characters, which is what a pattern of ASCII
characters is matched against: no byte of another character is ASCII. -/
def byteChars : List Char := s.toByteArray.data.toList.map fun b => Char.ofNat b.toNat

/-- `strings.ContainsAny(s, "\r\n")`. -/
def hasLineBreak : Bool := (byteChars s).any fun c => c == '\r' || c == '\n'

def isLower : Bool := decide ('a' ≤ c) && decide (c ≤ 'z')
def isUpper : Bool := decide ('A' ≤ c) && decide (c ≤ 'Z')
def isDigit : Bool := decide ('0' ≤ c) && decide (c ≤ '9')
def isAlnum : Bool := isLower c || isUpper c || isDigit c

/-- `^[A-Za-z0-9][A-Za-z0-9._:-]{0,127}$` -/
def identifierPattern : Bool :=
  match byteChars s with
  | [] => false
  | c :: cs => isAlnum c && cs.length ≤ 127 &&
      cs.all fun d => isAlnum d || d == '.' || d == '_' || d == ':' || d == '-'

/-- `^[a-z][a-z0-9_.-]{1,127}$` -/
def capabilityPattern : Bool :=
  match byteChars s with
  | [] => false
  | c :: cs => isLower c && 1 ≤ cs.length && cs.length ≤ 127 &&
      cs.all fun d => isLower d || isDigit d || d == '_' || d == '.' || d == '-'

/-- `^sha256:[0-9a-f]{64}$` -/
def hashPattern : Bool :=
  let cs := byteChars s
  cs.take 7 == byteChars "sha256:" && cs.length == 71 &&
    (cs.drop 7).all fun d => isDigit d || (decide ('a' ≤ d) && decide (d ≤ 'f'))

/-- `[A-Za-z0-9_-]{43}` -/
def isThumbprint (cs : List Char) : Bool := cs.length == 43 && cs.all fun d => isAlnum d || d == '_' || d == '-'

/-- `^[A-Za-z0-9_-]{43}$` -/
def identityThumbprintPattern : Bool := isThumbprint (byteChars s)

/-- `^ed25519:[A-Za-z0-9_-]{43}$` -/
def identityKeyIDPattern : Bool :=
  (byteChars s).take 8 == byteChars "ed25519:" && isThumbprint ((byteChars s).drop 8)

/-! ## Field checks -/

def validateIdentifier : Option Err :=
  if !identifierPattern value || value.utf8ByteSize > maxIdentifierBytes then some .invalidInput else none

def okIdentifier : Bool := (validateIdentifier value).isNone

/-- The shared shape of opaque one-line values: a byte length within bounds, no
surrounding space and no line break. -/
def plainText (least most : Nat) (value : String) : Bool :=
  decide (least ≤ value.utf8ByteSize) && decide (value.utf8ByteSize ≤ most) && trimSpace value == value &&
    !hasLineBreak value

def validateProof : Option Err :=
  if plainText 32 maxProofBytes value then none else some .invalidInput

def okNonce (nonce : String) : Bool := plainText 16 maxNonceBytes nonce

def validateIdentityKey (keyID thumbprint : String) : Option Err :=
  if !identityKeyIDPattern keyID || !identityThumbprintPattern thumbprint ||
      (byteChars keyID).drop 8 != byteChars thumbprint then some .invalidInput
  else none

/-! ## Capabilities and versions -/

def capabilitySnapshot : String := "config.snapshot.v1"
def capabilityDelta : String := "config.delta.v1"
def capabilityAck : String := "config.ack.v1"
def capabilityHeartbeat : String := "session.heartbeat.v1"
def capabilityRenewal : String := "auth.renew.v1"
def capabilityDrain : String := "connector.drain.v1"
def capabilityCredentialRotation : String := "credential.rotate.v1"

def requiredCapabilities : List String :=
  [capabilitySnapshot, capabilityDelta, capabilityAck, capabilityHeartbeat, capabilityRenewal]

def productionCapabilities : List String :=
  [capabilitySnapshot, capabilityDelta, capabilityAck, capabilityHeartbeat, capabilityRenewal, capabilityDrain,
    capabilityCredentialRotation]

def scanCapabilities (seen : List String) : List String → Bool
  | [] => true
  | value :: rest =>
    decide (value.utf8ByteSize ≤ maxCapabilityBytes) && capabilityPattern value && !seen.contains value &&
      scanCapabilities (value :: seen) rest

/-- Which missing name the error quotes is the map's choice in the source; the
model quotes the first in declaration order. -/
def validateCapabilities (values : List String) : Option Err :=
  if values.isEmpty || values.length > maxCapabilities then some .capabilityMissing
  else if !scanCapabilities [] values then some .invalidInput
  else match requiredCapabilities.find? (fun required => !values.contains required) with
    | some required => some (codeError .capabilityMissing .capabilityMissing false
        (some (.text ("missing capability \"" ++ required ++ "\""))))
    | none => none

def negotiateCapabilities (offered supported : List String) : Except Err (List String) :=
  match validateCapabilities offered with
  | some err => .error err
  | none =>
    match validateCapabilities supported with
    | some err => .error err
    | none =>
      let selected := offered.filter supported.contains
      match validateCapabilities selected with
      | some err => .error (codeError .capabilityMissing .capabilityMissing false (some err))
      | none => .ok selected

/-- The digits of a decimal number as `strconv` reads and prints it: no leading
zero, and within a signed 64-bit integer. -/
def parseDecimal (digits : List Char) : Option Nat :=
  if digits.isEmpty || !digits.all isDigit || (digits.length > 1 && digits.head? == some '0') then none
  else
    let n := digits.foldl (fun acc c => acc * 10 + (c.toNat - 48)) 0
    if n ≤ 9223372036854775807 then some n else none

/-- `major.minor`. -/
def parseVersion : Option (Nat × Nat) :=
  match value.toList.splitOn '.' with
  | [major, minor] => (parseDecimal major).bind fun a => (parseDecimal minor).map fun b => (a, b)
  | _ => none

/-- `^[0-9]+\.[0-9]+$` -/
def versionPattern : Bool :=
  match value.toList.splitOn '.' with
  | [major, minor] => !major.isEmpty && major.all isDigit && !minor.isEmpty && minor.all isDigit
  | _ => false

def versionMismatch (message : String) : Err :=
  codeError .protocolIncompatible .protocolMismatch false (some (.text message))

def negotiateVersion (minVersion maxVersion : String) : Except Err String :=
  if !versionPattern minVersion || !versionPattern maxVersion then .error (versionMismatch "invalid version range")
  else
    match parseVersion minVersion, parseVersion maxVersion, parseVersion protocolVersion with
    | some (minMajor, minMinor), some (maxMajor, maxMinor), some (selectedMajor, selectedMinor) =>
      if minMajor > maxMajor || minMajor > selectedMajor || maxMajor < selectedMajor ||
          (minMajor == selectedMajor && minMinor > selectedMinor) ||
          (maxMajor == selectedMajor && maxMinor < selectedMinor) then
        .error (versionMismatch "no compatible protocol version")
      else .ok protocolVersion
    | _, _, _ => .error (versionMismatch "invalid protocol version")

end Paperboat.Connector

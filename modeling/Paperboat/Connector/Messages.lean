import Paperboat.Connector.Basics
/-!
# Control messages

The messages of a connector session, each with its fields and its `Validate`.
A check that a source condition makes is written in the source's order, so the
error a message earns is the one the source returns.

What a configuration payload may contain is a parameter, `PayloadRules`: the
canonical form of a JSON text, the SHA-256 of it, and the check of the decoded
snapshot. The session logic only asks whether these accept, and every result
about sessions holds for all of them.
-/

namespace Paperboat.Connector

open Lib

structure PayloadRules where
  /-- The canonical form within a size limit. -/
  canonicalJSON : String → Nat → Except Err String
  /-- The lower-case hexadecimal SHA-256 of a text. -/
  digest : String → String
  /-- The decoded payload describes this tunnel at this generation. -/
  validateConfigSnapshotPayload : String → String → UInt64 → Option Err

variable {rules : PayloadRules}

/-! ## Authentication -/

structure AuthRequest where
  (accountID tunnelID connectorID hostID identityKeyID identityKeyThumbprint : String)
  (processGeneration credentialGeneration : UInt64)
  (nonce signedProof : String)
  (issuedAt expiresAt : Time)
  deriving DecidableEq

namespace AuthRequest

def wellFormed (a : AuthRequest) (requireProof : Bool) : Bool :=
  okIdentifier a.accountID && okIdentifier a.tunnelID && okIdentifier a.connectorID && okIdentifier a.hostID &&
    (validateIdentityKey a.identityKeyID a.identityKeyThumbprint).isNone &&
    okNonce a.nonce && a.processGeneration != 0 && a.credentialGeneration != 0 &&
    !a.issuedAt.isZero && !a.expiresAt.isZero && a.expiresAt.after a.issuedAt &&
    decide (a.expiresAt.sub a.issuedAt ≤ 15 * Duration.minute) &&
    (!requireProof || (validateProof a.signedProof).isNone)

def checkAt (a : AuthRequest) (now : Time) (requireProof : Bool) : Option Err :=
  if !a.wellFormed requireProof then some .invalidInput
  else if !now.isZero && (a.issuedAt.after (now.add maxClockSkew) || decide (now.sub a.issuedAt > maxClockSkew) ||
      !a.expiresAt.after now) then some (codeError .credentialExpired .credentialExpired true none)
  else none

def validate (a : AuthRequest) (now : Time) : Option Err := a.checkAt now true

end AuthRequest

structure AuthResult where
  (accountID tunnelID connectorID sessionID hostID identityKeyID identityKeyThumbprint : String)
  (processGeneration credentialGeneration : UInt64)
  (credentialExpiresAt leaseExpiresAt : Time)
  deriving DecidableEq

namespace AuthResult

def validate (a : AuthResult) (now : Time) : Option Err :=
  if !([a.accountID, a.tunnelID, a.connectorID, a.hostID].all okIdentifier) then some .authenticationFailed
  else if a.sessionID != "" && !okIdentifier a.sessionID then some .authenticationFailed
  else if (validateIdentityKey a.identityKeyID a.identityKeyThumbprint).isSome || a.processGeneration == 0 ||
      a.credentialGeneration == 0 || a.credentialExpiresAt.isZero || a.leaseExpiresAt.isZero ||
      a.leaseExpiresAt.after a.credentialExpiresAt then some .authenticationFailed
  else if !now.isZero && (!a.credentialExpiresAt.after now || !a.leaseExpiresAt.after now ||
      decide (a.leaseExpiresAt.sub now > maxLease)) then some .authenticationFailed
  else none

def validateBound (a : AuthResult) : Option Err :=
  if (a.validate .zero).isSome || !okIdentifier a.sessionID then some .authenticationFailed else none

end AuthResult

structure RenewalRequest where
  (sessionID accountID tunnelID connectorID hostID identityKeyID identityKeyThumbprint : String)
  (processGeneration credentialGeneration : UInt64)
  (nonce signedProof : String)
  requestedAt : Time
  deriving DecidableEq

namespace RenewalRequest

def wellFormed (r : RenewalRequest) (requireProof : Bool) : Bool :=
  okIdentifier r.sessionID && okIdentifier r.accountID && okIdentifier r.tunnelID && okIdentifier r.connectorID &&
    okIdentifier r.hostID && (validateIdentityKey r.identityKeyID r.identityKeyThumbprint).isNone &&
    r.processGeneration != 0 && r.credentialGeneration != 0 && okNonce r.nonce && !r.requestedAt.isZero &&
    (!requireProof || (validateProof r.signedProof).isNone)

def validate (r : RenewalRequest) : Option Err := if r.wellFormed true then none else some .invalidInput

def validateAt (r : RenewalRequest) (now : Time) : Option Err :=
  match r.validate with
  | some err => some err
  | none =>
    if !now.isZero && (r.requestedAt.after (now.add maxClockSkew) || decide (now.sub r.requestedAt > maxClockSkew))
    then some (codeError .authenticationFailed .authentication false
      (some (.text "renewal request is outside clock skew")))
    else none

end RenewalRequest

structure Lease where
  sessionID : String
  expiresAt : Time
  heartbeatIntervalMS : UInt32
  deriving DecidableEq

def Lease.validate (l : Lease) (now : Time) : Option Err :=
  if !okIdentifier l.sessionID || l.expiresAt.isZero || l.heartbeatIntervalMS == 0 then some .invalidInput
  else if !now.isZero && (!l.expiresAt.after now || decide (l.expiresAt.sub now > maxLease) ||
      decide ((l.heartbeatIntervalMS.toNat : Int) * Duration.millisecond ≥ l.expiresAt.sub now)) then
    some .invalidInput
  else none

/-! ## Handshake -/

structure Hello where
  (protocol minVersion maxVersion accountID tunnelID connectorID hostID : String)
  processGeneration : UInt64
  capabilities : List String
  auth : AuthRequest
  deriving DecidableEq

def Hello.validate (h : Hello) (now : Time) : Option Err :=
  if h.protocol != protocolName || h.minVersion == "" || h.maxVersion == "" || !okIdentifier h.accountID ||
      !okIdentifier h.tunnelID || !okIdentifier h.connectorID || !okIdentifier h.hostID ||
      h.processGeneration == 0 then some .invalidInput
  else match negotiateVersion h.minVersion h.maxVersion with
  | .error err => some err
  | .ok _ =>
    match validateCapabilities h.capabilities with
    | some err => some err
    | none =>
      if h.auth.accountID != h.accountID || h.auth.tunnelID != h.tunnelID || h.auth.connectorID != h.connectorID ||
          h.auth.hostID != h.hostID || h.auth.processGeneration != h.processGeneration then
        some (codeError .identityMismatch .authentication false none)
      else h.auth.validate now

structure Welcome where
  (protocol version sessionID : String)
  capabilities : List String
  lease : Lease
  requiresSnapshot : Bool
  serverTime : Time
  deriving DecidableEq

def Welcome.validate (w : Welcome) (now : Time) : Option Err :=
  if w.protocol != protocolName || w.version != protocolVersion || !okIdentifier w.sessionID ||
      !w.requiresSnapshot || (validateCapabilities w.capabilities).isSome || w.serverTime.isZero ||
      w.lease.sessionID != w.sessionID then some .invalidInput
  else w.lease.validate now

/-! ## Configuration -/

structure Snapshot where
  (accountID tunnelID connectorID sessionID : String)
  (processGeneration generation : UInt64)
  (contentHash payload : String)
  deriving DecidableEq

namespace Snapshot

def empty : Snapshot := ⟨"", "", "", "", 0, 0, "", ""⟩

def validate (rules : PayloadRules) (s : Snapshot) : Option Err :=
  if !okIdentifier s.tunnelID || (s.accountID != "" && !okIdentifier s.accountID) ||
      (s.sessionID != "" && !okIdentifier s.sessionID) || s.generation == 0 || !hashPattern s.contentHash ||
      s.payload.utf8ByteSize == 0 || s.payload.utf8ByteSize > maxSnapshotBytes then some .invalidInput
  else match rules.canonicalJSON s.payload maxSnapshotBytes with
  | .error err => some (codeError .contentHashMismatch .snapshotRejected false (some err))
  | .ok canonical =>
    if canonical != s.payload then some (codeError .contentHashMismatch .snapshotRejected false none)
    else if s.contentHash != "sha256:" ++ rules.digest canonical then
      some (codeError .contentHashMismatch .snapshotRejected false none)
    else match rules.validateConfigSnapshotPayload canonical s.tunnelID s.generation with
    | some err => some (codeError .snapshotRejected .snapshotRejected false (some err))
    | none => none

def validateBound (rules : PayloadRules) (s : Snapshot) : Option Err :=
  if !okIdentifier s.accountID || !okIdentifier s.connectorID || !okIdentifier s.sessionID ||
      s.processGeneration == 0 then some .invalidInput
  else s.validate rules

end Snapshot

structure Delta where
  (accountID tunnelID connectorID sessionID : String)
  (processGeneration previousGeneration generation : UInt64)
  (previousContentHash contentHash payload : String)
  deriving DecidableEq

namespace Delta

/-- The successor of the previous generation is taken in 64-bit arithmetic, and
unlike a snapshot's the new generation itself is not compared with zero. -/
def validate (rules : PayloadRules) (d : Delta) : Option Err :=
  if !okIdentifier d.tunnelID || (d.accountID != "" && !okIdentifier d.accountID) ||
      (d.sessionID != "" && !okIdentifier d.sessionID) || !hashPattern d.previousContentHash ||
      !hashPattern d.contentHash || d.payload.utf8ByteSize == 0 || d.payload.utf8ByteSize > maxDeltaBytes then
    some .invalidInput
  else if d.previousGeneration == 0 || d.generation != d.previousGeneration + 1 then
    some (codeError .generationGap .generationGap true none)
  else match rules.canonicalJSON d.payload maxDeltaBytes with
  | .error err => some (codeError .contentHashMismatch .generationGap false (some err))
  | .ok canonical =>
    if canonical != d.payload then some (codeError .contentHashMismatch .generationGap false none)
    else if d.contentHash != "sha256:" ++ rules.digest canonical then
      some (codeError .contentHashMismatch .generationGap false none)
    else match rules.validateConfigSnapshotPayload canonical d.tunnelID d.generation with
    | some err => some (codeError .deltaRejected .generationGap false (some err))
    | none => none

def validateBound (rules : PayloadRules) (d : Delta) : Option Err :=
  if !okIdentifier d.accountID || !okIdentifier d.connectorID || !okIdentifier d.sessionID ||
      d.processGeneration == 0 then some .invalidInput
  else d.validate rules

end Delta

inductive AckKind where
  | snapshot | delta | ready | renewal
  | other (text : String)
  deriving DecidableEq

inductive AckStatus where
  | applied | duplicate | rejected | snapshotRequired
  | other (text : String)
  deriving DecidableEq

structure Ack where
  (accountID tunnelID connectorID sessionID : String)
  processGeneration : UInt64
  kind : AckKind
  status : AckStatus
  generation : UInt64
  contentHash : String
  code : Code
  deriving DecidableEq

def Ack.validate (a : Ack) : Option Err :=
  if !okIdentifier a.accountID || !okIdentifier a.tunnelID || !okIdentifier a.connectorID ||
      !okIdentifier a.sessionID || a.processGeneration == 0 ||
      (a.kind != .snapshot && a.kind != .delta && a.kind != .ready && a.kind != .renewal) ||
      (a.status != .applied && a.status != .duplicate && a.status != .rejected && a.status != .snapshotRequired) ||
      a.generation == 0 || !hashPattern a.contentHash then some .invalidInput
  else if (a.status == .rejected && (a.code == .empty || !validCode a.code)) ||
      (a.status != .rejected && a.code != .empty) then some .invalidInput
  else none

structure Readiness where
  (accountID sessionID tunnelID connectorID : String)
  (processGeneration generation : UInt64)
  contentHash : String
  (edgeReady routeReady originReady : Bool)
  deriving DecidableEq

def Readiness.validate (r : Readiness) : Option Err :=
  if !okIdentifier r.accountID || !okIdentifier r.sessionID || !okIdentifier r.tunnelID ||
      !okIdentifier r.connectorID || r.processGeneration == 0 || r.generation == 0 || !hashPattern r.contentHash then
    some .invalidInput
  else none

/-! ## Liveness -/

structure Heartbeat where
  (accountID sessionID tunnelID connectorID : String)
  (processGeneration lastAppliedGeneration : UInt64)
  lastAppliedHash : String
  sentAt : Time

def Heartbeat.validate (h : Heartbeat) : Option Err :=
  if !okIdentifier h.accountID || !okIdentifier h.sessionID || !okIdentifier h.tunnelID ||
      !okIdentifier h.connectorID || h.processGeneration == 0 || h.lastAppliedGeneration == 0 ||
      !hashPattern h.lastAppliedHash || h.sentAt.isZero then some .invalidInput
  else none

structure HeartbeatAck where
  (accountID tunnelID connectorID sessionID : String)
  processGeneration : UInt64
  (leaseExpiresAt serverTime : Time)
  deriving DecidableEq

def HeartbeatAck.validate (h : HeartbeatAck) (now : Time) : Option Err :=
  if !okIdentifier h.accountID || !okIdentifier h.tunnelID || !okIdentifier h.connectorID ||
      !okIdentifier h.sessionID || h.processGeneration == 0 || h.leaseExpiresAt.isZero ||
      !h.leaseExpiresAt.after now || h.serverTime.isZero then some .invalidInput
  else none

/-! ## Draining -/

inductive DrainStatus where
  | accepted | progress | completed | forced | rejected
  | other (text : String)
  deriving DecidableEq

structure Drain where
  (accountID tunnelID connectorID sessionID : String)
  processGeneration : UInt64
  drainID : String
  generation : UInt64
  contentHash : String
  deadline : Time
  (stopNewStreams forceAfterDeadline : Bool)
  deriving DecidableEq

def Drain.validate (d : Drain) (now : Time) : Option Err :=
  if !okIdentifier d.accountID || !okIdentifier d.tunnelID || !okIdentifier d.connectorID ||
      !okIdentifier d.sessionID || !okIdentifier d.drainID || d.processGeneration == 0 || d.generation == 0 ||
      !hashPattern d.contentHash || d.deadline.isZero || !d.stopNewStreams then some .invalidInput
  else if !now.isZero && (!d.deadline.after now || decide (d.deadline.sub now > maxLease)) then some .invalidInput
  else none

structure DrainAck where
  (accountID tunnelID connectorID sessionID : String)
  processGeneration : UInt64
  drainID : String
  generation : UInt64
  contentHash : String
  status : DrainStatus
  activeStreams : UInt32
  forcedClose : Bool
  code : Code

def DrainAck.statusOk (a : DrainAck) : Bool :=
  match a.status with
  | .accepted | .progress => !a.forcedClose && a.code == .empty
  | .completed => a.activeStreams == 0 && !a.forcedClose && a.code == .empty
  | .forced => a.forcedClose && a.code == .drainTimeout && a.activeStreams == 0
  | .rejected => !a.forcedClose && a.code == .drainRejected
  | .other _ => false

/-- The source takes the time and ignores it. -/
def DrainAck.validate (a : DrainAck) : Option Err :=
  if !okIdentifier a.accountID || !okIdentifier a.tunnelID || !okIdentifier a.connectorID ||
      !okIdentifier a.sessionID || !okIdentifier a.drainID || a.processGeneration == 0 || a.generation == 0 ||
      !hashPattern a.contentHash || decide (a.activeStreams > maxActiveStreams) then some .invalidInput
  else if !a.statusOk then some .invalidInput
  else if a.code != .empty && !validCode a.code then some .invalidInput
  else none

/-! ## What an accepted message guarantees -/

theorem Snapshot.generation_ne_zero {s : Snapshot} (h : s.validate rules = none) : s.generation ≠ 0 := by
  intro h0
  simp [Snapshot.validate, h0] at h

theorem Ack.generation_ne_zero {a : Ack} (h : a.validate = none) : a.generation ≠ 0 := by
  intro h0
  simp [Ack.validate, h0] at h

/-! ## A connector

The request of the connector that the later examples follow. -/

namespace Sample

def now : Time := ⟨63900000000 * Duration.second, 0⟩

def thumbprint : String := "0123456789abcdefghijklmnopqrstuvwxyzABCDEFG"

def authRequest : AuthRequest where
  accountID := "account_1"
  tunnelID := "tunnel_1"
  connectorID := "connector_1"
  hostID := "host_1"
  identityKeyID := "ed25519:" ++ thumbprint
  identityKeyThumbprint := thumbprint
  processGeneration := 1
  credentialGeneration := 1
  nonce := "nonce_0123456789"
  signedProof := "proof_01234567890123456789012345"
  issuedAt := now
  expiresAt := now.add (5 * Duration.minute)

example : authRequest.validate now = none := by decide +kernel

end Sample

end Paperboat.Connector

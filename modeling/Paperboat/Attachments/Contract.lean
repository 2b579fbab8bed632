import Paperboat.Previews.Machine
/-!
# Attachments of previews to carriers

`previewattachment`: an attachment says which session of a machine with an edge may
serve a preview. Its binding names the lease, the machine, the edge process and the
generations of all of them; a change is fenced by comparing the whole binding.

What the code takes from `crypto`, `encoding/json` and `net/url` is a parameter.
-/

namespace Paperboat.Attachments

open Lib
open Previews (AccessMode TerminalState)

inductive Err where
  | invalid | notFound | idempotencyConflict | conflict | staleBinding | expired | terminal | unauthorized
  | admissionUnavailable
  /-- A statement that the database refuses. -/
  | database
  deriving DecidableEq

inductive State where
  | pending | admitted | edgeReady | ready | failed | released
  deriving DecidableEq

def State.terminal : State → Bool
  | .failed | .released => true
  | _ => false

/-! ## Texts -/

variable (v : String)

def validID : Bool :=
  decide (3 ≤ v.utf8ByteSize) && decide (v.utf8ByteSize ≤ 256) && v.toList.all fun c => decide ('!' ≤ c) && decide (c ≤ '~')

def hasControl : Bool := v.toList.any fun c => decide (c < ' ') || c == '\x7f'

/-- `connectorprotocol.ValidateOpaqueEpoch` -/
def validOpaqueEpoch : Bool :=
  decide (8 ≤ v.utf8ByteSize) && decide (v.utf8ByteSize ≤ 128) && v.toList.all fun c =>
    decide ('a' ≤ c) && decide (c ≤ 'z') || decide ('A' ≤ c) && decide (c ≤ 'Z') || decide ('0' ≤ c) && decide (c ≤ '9') ||
      c == '-' || c == '_'

def isLowerHex (c : Char) : Bool := decide ('0' ≤ c) && decide (c ≤ '9') || decide ('a' ≤ c) && decide (c ≤ 'f')

/-- What `hex.DecodeString` takes. -/
def isHex (c : Char) : Bool := isLowerHex c || decide ('A' ≤ c) && decide (c ≤ 'F')

/-- The rest of a text behind `sha256:`. -/
def sha256Rest : Option (List Char) :=
  if "sha256:".toList.isPrefixOf v.toList then some (v.toList.drop 7) else none

/-- `sha256:` and 64 digits of a kind. -/
def sha256Text (digit : Char → Bool) (v : String) : Bool := (sha256Rest v).any fun cs => cs.length == 64 && cs.all digit

def validContentHash : Bool := sha256Text isHex v

def validCarrierServerSPKISHA256 : Bool := sha256Text isHex v

/-- The value of a character of `base64.RawURLEncoding`. -/
def base64Value (c : Char) : Option Nat :=
  if 'A' ≤ c ∧ c ≤ 'Z' then some (c.toNat - 'A'.toNat)
  else if 'a' ≤ c ∧ c ≤ 'z' then some (c.toNat - 'a'.toNat + 26)
  else if '0' ≤ c ∧ c ≤ '9' then some (c.toNat - '0'.toNat + 52)
  else if c = '-' then some 62
  else if c = '_' then some 63
  else none

/-- 32 bytes in the strict encoding: 43 characters, the last of which has no bits to spare. -/
def base64Of32 (cs : List Char) : Bool :=
  cs.length == 43 && cs.all (fun c => (base64Value c).isSome) && (cs.getLast?.bind base64Value).any (· % 4 == 0)

/-- The decoder passes over line breaks. -/
def decodesTo32 (cs : List Char) : Bool := base64Of32 (cs.filter fun c => c != '\r' && c != '\n')

def validMachineIdentityPublicKey : Bool :=
  decide (40 ≤ v.utf8ByteSize) && decide (v.utf8ByteSize ≤ 256) && !hasControl v && decodesTo32 v.toList

def validMachineIdentityThumbprint : Bool :=
  v.utf8ByteSize == 50 && !hasControl v && (sha256Rest v).any decodesTo32

/-! ## Requests -/

/-- What a verified signature says about the caller. -/
structure MachineProof where
  (userID machineID operationID : String)
  installationGeneration : Nat

structure Request where
  (previewID operationID ownerDeviceID ownerSessionID idempotencyKey requestID correlationID : String)

def MachineProof.valid (p : MachineProof) : Bool :=
  validID p.userID && validID p.machineID && validID p.operationID && p.installationGeneration != 0

def validTrace : Bool := decide (3 ≤ v.utf8ByteSize) && decide (v.utf8ByteSize ≤ 128) && !hasControl v

def validKey : Bool := decide (1 ≤ v.utf8ByteSize) && decide (v.utf8ByteSize ≤ 256) && !hasControl v

def Request.valid (r : Request) : Bool :=
  validID r.previewID && validID r.operationID && validID r.ownerDeviceID && validID r.ownerSessionID &&
    validKey r.idempotencyKey && validTrace r.requestID && validTrace r.correlationID

/-- What is not computed here. -/
structure Codec where
  /-- SHA-256 of the bytes of a text, in hexadecimal digits. -/
  sha256 : String → String
  sha256_hex : ∀ s, (sha256 s).toList.length = 64 ∧ (sha256 s).toList.all isLowerHex
  /-- The canonical envelope of a request of an account. -/
  marshal : String → Request → String
  /-- SHA-256 of the bytes of a decoded key, encoded again. -/
  keyDigest : String → String
  keyDigest_form : ∀ s, base64Of32 (keyDigest s).toList
  /-- `md5` of the database. -/
  md5 : String → String
  validEndpoint : String → Bool
  endpointHost : String → String
  checkEdgeEndpoints : List String → Except Err Unit

def Request.hash (r : Request) (codec : Codec) (accountID : String) : Except Err String := do
  refuseIf (!validID accountID) .invalid
  refuseIf (!r.valid) .invalid
  .ok (codec.sha256 (codec.marshal accountID r))

def machineIdentityThumbprint (codec : Codec) (publicKey : String) : Option String :=
  if decodesTo32 publicKey.toList then some ("sha256:" ++ codec.keyDigest publicKey) else none

def validateRequestProof (proof : MachineProof) (req : Request) : Except Err Unit := do
  refuseIf (!proof.valid) .invalid
  refuseIf (!req.valid) .invalid
  refuseIf (proof.operationID != req.operationID || proof.machineID != req.ownerDeviceID) .unauthorized
  refuseIf (proof.operationID != req.idempotencyKey) .unauthorized

/-! ## Resolutions -/

structure Target where
  (scheme address : String)
  deriving DecidableEq

/-- `strings.EqualFold` with a word of lower-case letters and digits, none of which is a `k`. -/
def equalFold (v word : String) : Bool := v.toList.map (fun c => if c = 'ſ' then 's' else c.toLower) == word.toList

def Target.valid (t : Target) : Bool :=
  decide (1 ≤ t.scheme.utf8ByteSize) && decide (t.scheme.utf8ByteSize ≤ 32) && decide (1 ≤ t.address.utf8ByteSize) &&
    decide (t.address.utf8ByteSize ≤ 2048) && !hasControl t.scheme && !hasControl t.address &&
    ["http", "https", "h2c", "tcp", "unix"].any (equalFold t.scheme)

structure LeaseSnapshot where
  (machineAccountID accountID actorID previewID operationID ownerDeviceID ownerSessionID endpoint : String)
  target : Target
  accessMode : AccessMode
  generation : Nat
  leaseDeadline : Time
  state : TerminalState
  (machineIdentityPublicKey machineIdentityThumbprint : String)

structure CarrierSnapshot where
  (accountID hostID tunnelID connectorID sessionID : String)
  (processGeneration configGeneration : Nat)
  configContentHash : String
  leaseDeadline : Time
  (edgeNodeID edgeProcessEpoch edgeCarrierServerSPKISHA256 edgeCarrierServerCertificateChainPEM : String)
  (machineIdentityPublicKey machineIdentityThumbprint : String)
  edgeEndpoints : List String

structure RouteSnapshot where
  (accountID tunnelID routeID : String)
  generation : Nat
  (protocol publicEndpoint : String)

structure Resolution where
  lease : LeaseSnapshot
  carrier : CarrierSnapshot
  route : RouteSnapshot

def LeaseSnapshot.named (l : LeaseSnapshot) : Bool :=
  validID l.accountID && validID l.actorID && validID l.previewID && validID l.operationID && validID l.ownerDeviceID &&
    validID l.ownerSessionID

/-- `validateResolution`; a lost owner is no terminal state to it. -/
def validateResolution (codec : Codec) (now : Time) (r : Resolution) : Except Err Unit := do
  let l := r.lease
  let c := r.carrier
  refuseIf (!l.named) .invalid
  refuseIf (!validMachineIdentityPublicKey l.machineIdentityPublicKey ||
    !validMachineIdentityThumbprint l.machineIdentityThumbprint) .unauthorized
  refuseIf (l.generation == 0 || l.leaseDeadline.isZero || !now.isZero && !l.leaseDeadline.after now) .expired
  refuseIf (l.state == .failed || l.state == .stopped || l.state == .expired) .terminal
  refuseIf (!l.target.valid) .invalid
  refuseIf (!codec.validEndpoint l.endpoint) .invalid
  refuseIf (c.accountID != l.accountID || c.hostID != l.ownerDeviceID || !validID c.tunnelID || !validID c.connectorID ||
    !validID c.sessionID || c.processGeneration == 0 || c.configGeneration == 0 || !validContentHash c.configContentHash ||
    !validID c.edgeNodeID || !validOpaqueEpoch c.edgeProcessEpoch ||
    !validCarrierServerSPKISHA256 c.edgeCarrierServerSPKISHA256) .conflict
  refuseIf (c.machineIdentityPublicKey != l.machineIdentityPublicKey ||
    c.machineIdentityThumbprint != l.machineIdentityThumbprint) .unauthorized
  refuseIf (!validMachineIdentityPublicKey c.machineIdentityPublicKey ||
    !validMachineIdentityThumbprint c.machineIdentityThumbprint) .conflict
  codec.checkEdgeEndpoints c.edgeEndpoints
  refuseIf (c.leaseDeadline.isZero || !c.leaseDeadline.after now || c.leaseDeadline.after l.leaseDeadline) .conflict
  refuseIf (r.route.accountID != l.accountID || r.route.tunnelID != c.tunnelID || !validID r.route.routeID ||
    r.route.generation == 0 || r.route.protocol == "" || r.route.publicEndpoint == "") .conflict
  refuseIf (codec.endpointHost l.endpoint != codec.endpointHost r.route.publicEndpoint) .conflict

def authorizeResolution (proof : MachineProof) (req : Request) (r : Resolution) : Except Err Unit :=
  refuseIf (r.lease.machineAccountID != proof.userID || r.lease.ownerDeviceID != proof.machineID ||
    r.lease.operationID != proof.operationID || r.lease.ownerSessionID != req.ownerSessionID) .unauthorized

/-! ## Attachments -/

structure Binding where
  (accountID previewID operationID ownerDeviceID ownerSessionID hostID : String)
  leaseGeneration : Nat
  (tunnelID connectorID sessionID : String)
  (processGeneration configGeneration : Nat)
  routeID : String
  routeGeneration : Nat
  (edgeNodeID edgeProcessEpoch edgeCarrierServerSPKISHA256 edgeCarrierServerCertificateChainPEM : String)
  (machineIdentityPublicKey machineIdentityThumbprint : String)
  deriving DecidableEq

namespace Binding

def valid (b : Binding) : Bool :=
  [b.accountID, b.previewID, b.operationID, b.ownerDeviceID, b.ownerSessionID, b.hostID, b.tunnelID, b.connectorID,
    b.sessionID, b.routeID, b.edgeNodeID, b.edgeProcessEpoch].all validID &&
    b.leaseGeneration != 0 && b.processGeneration != 0 && b.configGeneration != 0 && b.routeGeneration != 0 &&
    b.hostID == b.ownerDeviceID && b.tunnelID != b.connectorID && validOpaqueEpoch b.edgeProcessEpoch &&
    validCarrierServerSPKISHA256 b.edgeCarrierServerSPKISHA256 &&
    decide (1 ≤ b.edgeCarrierServerCertificateChainPEM.utf8ByteSize) &&
    decide (b.edgeCarrierServerCertificateChainPEM.utf8ByteSize ≤ 65536) &&
    validMachineIdentityPublicKey b.machineIdentityPublicKey && validMachineIdentityThumbprint b.machineIdentityThumbprint

def logicalEqual (a b : Binding) : Bool :=
  a.accountID == b.accountID && a.previewID == b.previewID && a.operationID == b.operationID &&
    a.ownerDeviceID == b.ownerDeviceID && a.ownerSessionID == b.ownerSessionID && a.hostID == b.hostID &&
    a.tunnelID == b.tunnelID && a.connectorID == b.connectorID && a.routeID == b.routeID && a.edgeNodeID == b.edgeNodeID

/-- `carrierBindingEqual`, which compares every field. -/
def carrierEqual (a b : Binding) : Bool :=
  a.logicalEqual b && a.leaseGeneration == b.leaseGeneration && a.sessionID == b.sessionID &&
    a.processGeneration == b.processGeneration && a.configGeneration == b.configGeneration &&
    a.routeGeneration == b.routeGeneration && a.edgeProcessEpoch == b.edgeProcessEpoch &&
    a.edgeCarrierServerSPKISHA256 == b.edgeCarrierServerSPKISHA256 &&
    a.edgeCarrierServerCertificateChainPEM == b.edgeCarrierServerCertificateChainPEM &&
    a.machineIdentityPublicKey == b.machineIdentityPublicKey && a.machineIdentityThumbprint == b.machineIdentityThumbprint

theorem carrierEqual_iff {a b : Binding} : a.carrierEqual b ↔ a = b := by
  cases a
  cases b
  simp only [carrierEqual, logicalEqual, Bool.and_eq_true, beq_iff_eq, mk.injEq]
  tauto

end Binding

/-- `bindingFromResolution` -/
def Resolution.binding (r : Resolution) : Binding where
  accountID := r.lease.accountID
  previewID := r.lease.previewID
  operationID := r.lease.operationID
  ownerDeviceID := r.lease.ownerDeviceID
  ownerSessionID := r.lease.ownerSessionID
  hostID := r.carrier.hostID
  leaseGeneration := r.lease.generation
  tunnelID := r.carrier.tunnelID
  connectorID := r.carrier.connectorID
  sessionID := r.carrier.sessionID
  processGeneration := r.carrier.processGeneration
  configGeneration := r.carrier.configGeneration
  routeID := r.route.routeID
  routeGeneration := r.route.generation
  edgeNodeID := r.carrier.edgeNodeID
  edgeProcessEpoch := r.carrier.edgeProcessEpoch
  edgeCarrierServerSPKISHA256 := r.carrier.edgeCarrierServerSPKISHA256
  edgeCarrierServerCertificateChainPEM := r.carrier.edgeCarrierServerCertificateChainPEM
  machineIdentityPublicKey := r.carrier.machineIdentityPublicKey
  machineIdentityThumbprint := r.carrier.machineIdentityThumbprint

/-- The columns of `preview_lease_carrier_attachments`. -/
structure Row where
  binding : Binding
  (idempotencyKey requestID correlationID requestHash configContentHash : String)
  edgeEndpoints : List String
  attachmentGeneration : Nat
  state : State
  (edgeReady originReady : Bool)
  (issuedAt expiresAt : Time)
  (readyAt releasedAt : Option Time)
  deriving DecidableEq

/-- `(account_id, operation_id)` -/
def Row.key (r : Row) : String × String := (r.binding.accountID, r.binding.operationID)

structure Attachment extends Row where
  endpoint : String
  target : Target
  accessMode : AccessMode
  deriving DecidableEq

def Row.consistent (r : Row) : Bool :=
  match r.state with
  | .pending | .admitted => !r.edgeReady && !r.originReady && r.readyAt.isNone && r.releasedAt.isNone
  | .edgeReady => r.edgeReady && !r.originReady && r.readyAt.isNone && r.releasedAt.isNone
  | .ready => r.edgeReady && r.originReady && r.readyAt.isSome && r.releasedAt.isNone
  | .failed => r.readyAt.isNone && r.releasedAt.isNone
  | .released => r.readyAt.isNone && r.releasedAt.isSome && !r.edgeReady && !r.originReady

/-- `Attachment.Validate` without a time. -/
def Attachment.validate (a : Attachment) (codec : Codec) : Except Err Unit := do
  refuseIf (!a.binding.valid) .invalid
  refuseIf (!validKey a.idempotencyKey || !validTrace a.requestID || !validTrace a.correlationID) .invalid
  refuseIf (a.requestHash.toList.length != 64 || !a.requestHash.toList.all isHex) .invalid
  refuseIf (!a.target.valid) .invalid
  refuseIf (!codec.validEndpoint a.endpoint) .invalid
  codec.checkEdgeEndpoints a.edgeEndpoints
  refuseIf (!validContentHash a.configContentHash) .invalid
  refuseIf (a.attachmentGeneration == 0 || a.issuedAt.isZero || a.expiresAt.isZero || !a.expiresAt.after a.issuedAt) .invalid
  refuseIf (!a.consistent) .invalid

def minTime (a b : Time) : Time := if a.before b then a else b

def attachmentFromResolution (req : Request) (hash : String) (r : Resolution) (now : Time) : Attachment where
  binding := r.binding
  idempotencyKey := req.idempotencyKey
  requestID := req.requestID
  correlationID := req.correlationID
  requestHash := hash
  configContentHash := r.carrier.configContentHash
  edgeEndpoints := r.carrier.edgeEndpoints
  attachmentGeneration := 1
  state := .pending
  edgeReady := false
  originReady := false
  issuedAt := now
  expiresAt := minTime r.lease.leaseDeadline r.carrier.leaseDeadline
  readyAt := none
  releasedAt := none
  endpoint := r.lease.endpoint
  target := r.lease.target
  accessMode := r.lease.accessMode

def checkRecordRequest (codec : Codec) (a : Attachment) (req : Request) (accountID : String) : Except Err Unit := do
  let hash ← req.hash codec accountID
  refuseIf (a.requestHash != hash) .idempotencyConflict

end Paperboat.Attachments

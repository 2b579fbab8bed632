import Paperboat.Attachments.Authority
/-!
# The tables of attachments

`SQLRepository`: rows of `preview_lease_carrier_attachments` and the commands for the
edge in `preview_carrier_attachment_outbox`. Every change of a row compares its whole
binding and its generation, counts the generation up, and passes the checks of the
table and two triggers. A command to admit a row is queued in the transaction that
makes the row pending, and delivered in the one in which the edge acknowledges it.
-/

namespace Paperboat.Attachments

open Lib
open Previews (AccessMode)

inductive Action where
  | admission | detach
  deriving DecidableEq

inductive CommandState where
  | pending | inFlight | delivered | failed
  deriving DecidableEq

/-- A row of `preview_carrier_attachment_outbox`. -/
structure Command where
  (accountID operationID : String)
  attachmentGeneration : Nat
  action : Action
  binding : Binding
  configContentHash : String
  edgeEndpoints : List String
  endpoint : String
  accessMode : AccessMode
  expiresAt : Time
  state : CommandState
  updatedAt : Time

namespace Command

variable (c : Command) (now : Time)

def key : String × String × Nat × Action := (c.accountID, c.operationID, c.attachmentGeneration, c.action)

def deliver : Command := { c with state := .delivered, updatedAt := now }

def requeue : Command := { c with state := .pending, updatedAt := now }

def claim : Command := { c with state := .inFlight, updatedAt := now }

theorem deliver_key : (c.deliver now).key = c.key := rfl

theorem requeue_key : (c.requeue now).key = c.key := rfl

theorem claim_key : (c.claim now).key = c.key := rfl

end Command

structure World extends Registry where
  rows : Table Row.key
  outbox : Table Command.key

/-! ## Checks and triggers -/

/-- `length(trim(v))` -/
def trimmedLength (v : String) : Nat :=
  ((v.toList.dropWhile (· == ' ')).reverse.dropWhile (· == ' ')).length

/-- `v ~ '^[A-Za-z0-9_-]{43}$'` -/
def keyPattern (cs : List Char) : Bool := cs.length == 43 && cs.all fun c => (base64Value c).isSome

namespace Row

variable (r : Row)

def live : Bool := !r.state.terminal

theorem live_of {r : Row} {state : State} (h : r.state = state) (hs : !state.terminal) : r.live := by rwa [live, h]

def requestChecks : Bool :=
  r.requestHash.toList.length == 64 && decide (1 ≤ trimmedLength r.idempotencyKey) &&
    decide (trimmedLength r.idempotencyKey ≤ 256) && decide (3 ≤ trimmedLength r.requestID) &&
    decide (trimmedLength r.requestID ≤ 128) && decide (3 ≤ trimmedLength r.correlationID) &&
    decide (trimmedLength r.correlationID ≤ 128)

def carrierChecks : Bool :=
  r.binding.hostID == r.binding.ownerDeviceID && r.binding.edgeNodeID != "" &&
    keyPattern r.binding.machineIdentityPublicKey.toList && (sha256Rest r.binding.machineIdentityThumbprint).any keyPattern &&
    r.binding.leaseGeneration != 0 && r.binding.processGeneration != 0 && r.binding.configGeneration != 0 &&
    r.binding.routeGeneration != 0 && sha256Text isLowerHex r.configContentHash && r.edgeEndpoints.length == 2 &&
    validOpaqueEpoch r.binding.edgeProcessEpoch && sha256Text isLowerHex r.binding.edgeCarrierServerSPKISHA256 &&
    decide (1 ≤ r.binding.edgeCarrierServerCertificateChainPEM.utf8ByteSize) &&
    decide (r.binding.edgeCarrierServerCertificateChainPEM.utf8ByteSize ≤ 65536)

def stateChecks : Bool :=
  (r.state == .ready) == (r.edgeReady && r.originReady) && (!r.originReady || r.edgeReady) &&
    (!(r.state == .pending || r.state == .admitted) || !r.edgeReady && !r.originReady) &&
    (r.state != .edgeReady || r.edgeReady && !r.originReady) && (r.state == .released) == r.releasedAt.isSome &&
    (r.state == .ready) == r.readyAt.isSome && (r.state != .released || !r.edgeReady && !r.originReady)

def checks : Bool :=
  r.requestChecks && r.carrierChecks && r.stateChecks && r.attachmentGeneration != 0 && r.expiresAt.after r.issuedAt

def markAdmitted : Row :=
  { r with state := .admitted, edgeReady := false, readyAt := none, attachmentGeneration := r.attachmentGeneration + 1 }

def observeEdge : Row :=
  { r with
    state := .edgeReady
    edgeReady := true
    originReady := false
    readyAt := none
    attachmentGeneration := r.attachmentGeneration + 1 }

def observeOrigin (originReady : Bool) (now : Time) : Row :=
  { r with
    state := if originReady then .ready else .edgeReady
    originReady
    readyAt := if originReady then some now else none
    attachmentGeneration := r.attachmentGeneration + 1 }

end Row

/-- What a renewal compares to keep the state of a row: the carrier that the edge has admitted. -/
structure Carrier where
  sessionID : String
  (processGeneration configGeneration : Nat)
  (configContentHash edgeNodeID edgeProcessEpoch edgeCarrierServerSPKISHA256 : String)
  (edgeCarrierServerCertificateChainPEM machineIdentityPublicKey machineIdentityThumbprint : String)
  deriving DecidableEq

def Binding.carrier (b : Binding) (configContentHash : String) : Carrier where
  sessionID := b.sessionID
  processGeneration := b.processGeneration
  configGeneration := b.configGeneration
  configContentHash
  edgeNodeID := b.edgeNodeID
  edgeProcessEpoch := b.edgeProcessEpoch
  edgeCarrierServerSPKISHA256 := b.edgeCarrierServerSPKISHA256
  edgeCarrierServerCertificateChainPEM := b.edgeCarrierServerCertificateChainPEM
  machineIdentityPublicKey := b.machineIdentityPublicKey
  machineIdentityThumbprint := b.machineIdentityThumbprint

/-- The columns of a binding that `renewAttachmentSQL` sets. -/
def Binding.renew (b next : Binding) : Binding :=
  { b with
    leaseGeneration := next.leaseGeneration
    sessionID := next.sessionID
    processGeneration := next.processGeneration
    configGeneration := next.configGeneration
    edgeNodeID := next.edgeNodeID
    edgeProcessEpoch := next.edgeProcessEpoch
    edgeCarrierServerSPKISHA256 := next.edgeCarrierServerSPKISHA256
    edgeCarrierServerCertificateChainPEM := next.edgeCarrierServerCertificateChainPEM
    machineIdentityPublicKey := next.machineIdentityPublicKey
    machineIdentityThumbprint := next.machineIdentityThumbprint }

namespace Row

variable (r : Row)

def carrier : Carrier := r.binding.carrier r.configContentHash

def renew (next : Row) : Row :=
  let same := decide (r.carrier = next.carrier)
  { r with
    binding := r.binding.renew next.binding
    configContentHash := next.configContentHash
    edgeEndpoints := next.edgeEndpoints
    attachmentGeneration := r.attachmentGeneration + 1
    state := if same then r.state else .pending
    edgeReady := same && r.edgeReady
    originReady := same && r.originReady
    readyAt := if same then r.readyAt else none
    expiresAt := next.expiresAt }

def release (now : Time) : Row :=
  { r with
    state := .released
    edgeReady := false
    originReady := false
    readyAt := none
    releasedAt := some now
    expiresAt := now
    attachmentGeneration := r.attachmentGeneration + 1 }

def expire : Row :=
  { r with
    state := .failed
    edgeReady := false
    originReady := false
    readyAt := none
    attachmentGeneration := r.attachmentGeneration + 1 }

theorem markAdmitted_key : r.markAdmitted.key = r.key := rfl

theorem observeEdge_key : r.observeEdge.key = r.key := rfl

theorem observeOrigin_key (originReady : Bool) (now : Time) : (r.observeOrigin originReady now).key = r.key := rfl

theorem renew_key (next r : Row) : (r.renew next).key = r.key := rfl

theorem release_key (now : Time) : (r.release now).key = r.key := rfl

theorem expire_key : r.expire.key = r.key := rfl

end Row

namespace Registry

/-- `preview_lease_carrier_attachment_guard_v1` -/
def leaseGuard (w : Registry) (r : Row) : Bool :=
  let b := r.binding
  let ownedLease := (w.previews.lease? b.accountID b.previewID).filter fun p =>
    p.ownerDeviceID == b.ownerDeviceID && p.ownerSessionID == b.ownerSessionID
  (if r.live then
    ownedLease.any (·.terminalState == .active) &&
      (w.machines.find b.ownerDeviceID).any fun m => m.userID == b.accountID &&
        m.publicIdentityKey == some b.machineIdentityPublicKey && m.deletedAt.isNone && m.revokedAt.isNone
  else ownedLease.isSome) &&
    (w.previews.createOperations.find (b.accountID, b.previewID)).any (·.operationID == b.operationID)

/-- `preview_lease_carrier_attachment_edge_epoch_guard_v1` -/
def epochGuard (w : Registry) (r : Row) : Bool :=
  !r.live || (w.nodes.find r.binding.edgeNodeID).any (·.processEpoch == r.binding.edgeProcessEpoch)

def accepts (w : Registry) (r : Row) : Bool := r.checks && w.leaseGuard r && w.epochGuard r

end Registry

/-! ## Statements -/

namespace World

/-- `selectAttachmentSQL` and `scanAttachment` -/
def scan (codec : Codec) (w : World) (accountID operationID : String) : Except Err Attachment :=
  match w.rows.find (accountID, operationID) with
  | none => .error .notFound
  | some r =>
    match w.previews.lease? r.binding.accountID r.binding.previewID with
    | none => .error .notFound
    | some p => do
      let a : Attachment := { r with
        endpoint := p.endpoint, target := ⟨p.targetScheme, p.targetAddress⟩, accessMode := p.accessMode }
      a.validate codec
      .ok a

def get (codec : Codec) (w : World) (accountID operationID : String) : Except Err Attachment := do
  refuseIf (!validID accountID || !validID operationID) .invalid
  w.scan codec accountID operationID

variable (w : World) (a : Attachment)

/-- An `UPDATE` of a row that still is where the attachment was read: `WHERE` compares the generation and every column
of the binding. The answer is whether a row was changed. -/
def changeRow (matching : Row → Bool) (change : Row → Row) (keeps : ∀ r, (change r).key = r.key) :
    Except Err (Bool × World) :=
  match w.rows.find a.key with
  | none => .ok (false, w)
  | some r =>
    if r.attachmentGeneration = a.attachmentGeneration ∧ r.binding = a.binding ∧ matching r = true then
      if w.accepts (change r) then
        .ok (true, { w with rows := w.rows.update (·.key == a.key) change keeps })
      else .error .database
    else .ok (false, w)

/-- `prepareAdmissionOutboxSQL` and `enqueueDetachOutboxSQL`: a command that is there stays. -/
def queue (c : Command) : World :=
  match w.outbox.insert c with
  | some outbox => { w with outbox }
  | none => w

def prepareAdmission (now : Time) : World :=
  w.queue ⟨a.binding.accountID, a.binding.operationID, a.attachmentGeneration, .admission, a.binding, a.configContentHash,
    a.edgeEndpoints, a.endpoint, a.accessMode, a.expiresAt, .pending, now⟩

def enqueueDetach (now : Time) : World :=
  w.queue ⟨a.binding.accountID, a.binding.operationID, a.attachmentGeneration + 1, .detach, a.binding, a.configContentHash,
    a.edgeEndpoints, a.endpoint, a.accessMode, now, .pending, now⟩

/-- `insertAttachmentSQL`: the triggers and checks come before the conflicts, which do nothing. -/
def insertRow (r : Row) : Except Err (Bool × World) :=
  if !w.accepts r then .error .conflict
  else if w.rows.rows.any fun o => o.binding.accountID == r.binding.accountID &&
      (o.idempotencyKey == r.idempotencyKey || o.live && o.binding.previewID == r.binding.previewID) then .ok (false, w)
  else
    match w.rows.insert r with
    | some rows => .ok (true, { w with rows })
    | none => .ok (false, w)

end World

end Paperboat.Attachments

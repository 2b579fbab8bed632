import Paperboat.Attachments.Store
/-!
# Transactions on attachments

The methods of `SQLRepository`. A change that meets no row is not an error when the
row is already where the change would have brought it.
-/

namespace Paperboat.Attachments

open Lib

def validateRepositoryAttachment (codec : Codec) (a : Attachment) : Except Err Unit := do
  refuseIf a.state.terminal .terminal
  a.validate codec

namespace World

variable (codec : Codec) (w : World) (a : Attachment) (nodeID processEpoch : String) (now : Time) (r : Row)

def withAdmission : World :=
  if a.state = .pending then w.prepareAdmission a now else w

def createPending : Except Err (Attachment × World) := do
  refuseIf (a.state != .pending || a.attachmentGeneration != 1 || a.edgeReady || a.originReady) .invalid
  a.validate codec
  let (inserted, w) ← w.insertRow a.toRow
  if inserted then do
    let result ← w.scan codec a.binding.accountID a.binding.operationID
    .ok (result, w.withAdmission result now)
  else
    match w.scan codec a.binding.accountID a.binding.operationID with
    -- The preview has another live attachment.
    | .error .notFound => .error .conflict
    | .error e => .error e
    | .ok existing => do
      refuseIf (existing.requestHash != a.requestHash) .idempotencyConflict
      .ok (existing, w.withAdmission existing now)

def settle (changed : Bool) (already : Attachment → Bool) (w : World) : Except Err (Attachment × World) := do
  let current ← w.scan codec a.binding.accountID a.binding.operationID
  refuseIf (!changed && !already current) .staleBinding
  .ok (current, w)

/-- `SQLRepository.Admit` -/
def admitAttachment : Except Err (Attachment × World) := do
  validateRepositoryAttachment codec a
  let (changed, w) ← w.changeRow a (fun r => r.state == .pending && r.expiresAt.after now) Row.markAdmitted Row.markAdmitted_key
  settle codec a changed
    (fun c => c.attachmentGeneration == a.attachmentGeneration + 1 && c.binding == a.binding && c.state == .admitted) w

def observeEdge (codec : Codec) (w : World) (a : Attachment) (now : Time) : Except Err (Attachment × World) := do
  validateRepositoryAttachment codec a
  let (changed, w) ← w.changeRow a (fun r => r.state == .admitted && r.expiresAt.after now) Row.observeEdge Row.observeEdge_key
  settle codec a changed
    (fun c => c.binding == a.binding &&
      (c.attachmentGeneration == a.attachmentGeneration + 1 && c.state == .edgeReady && c.edgeReady && !c.originReady ||
        c.attachmentGeneration == a.attachmentGeneration && c.edgeReady)) w

def observeOrigin (codec : Codec) (w : World) (a : Attachment) (originReady : Bool) (now : Time) :
    Except Err (Attachment × World) := do
  validateRepositoryAttachment codec a
  let (changed, w) ← w.changeRow a
    (fun r => (r.state == .edgeReady || r.state == .ready) && r.edgeReady && r.expiresAt.after now)
    (·.observeOrigin originReady now) fun r => r.observeOrigin_key _ _
  settle codec a changed
    (fun c => c.binding == a.binding && c.edgeReady && c.originReady == originReady &&
      (c.attachmentGeneration == a.attachmentGeneration + 1 && c.state == (if originReady then .ready else .edgeReady) ||
        c.attachmentGeneration == a.attachmentGeneration)) w

def renewable (current next : Attachment) : Bool :=
  let b := current.binding
  let n := next.binding
  b.logicalEqual n && current.requestHash == next.requestHash && !next.expiresAt.isZero &&
    n.routeGeneration == b.routeGeneration && decide (b.leaseGeneration ≤ n.leaseGeneration) &&
    decide (b.processGeneration ≤ n.processGeneration) && decide (b.configGeneration ≤ n.configGeneration) &&
    !(n.configGeneration == b.configGeneration && next.configContentHash != current.configContentHash) &&
    !(n.sessionID != b.sessionID && decide (n.processGeneration ≤ b.processGeneration)) &&
    !(n.sessionID == b.sessionID && n.processGeneration != b.processGeneration)

def renew (codec : Codec) (w : World) (current next : Attachment) (now : Time) : Except Err (Attachment × World) := do
  validateRepositoryAttachment codec current
  validateRepositoryAttachment codec next
  refuseIf (!renewable current next) .conflict
  refuseIf (!next.expiresAt.after now) .expired
  let (changed, w) ← w.changeRow current (fun r => r.live && r.expiresAt.after now) (·.renew next.toRow) (Row.renew_key _)
  let (result, w) ← settle codec current changed
    (fun c => c.attachmentGeneration == current.attachmentGeneration + 1 && c.binding == next.binding &&
      c.expiresAt.equal next.expiresAt) w
  .ok (result, if changed then w.withAdmission result now else w)

def release (codec : Codec) (w : World) (a : Attachment) (now : Time) : Except Err (Attachment × World) := do
  a.validate codec
  let (changed, w) ← w.changeRow a Row.live (·.release now) fun r => r.release_key _
  settle codec a changed
    (fun c => c.binding == a.binding &&
      (c.state == .released && (c.attachmentGeneration == a.attachmentGeneration + 1 ||
        c.attachmentGeneration == a.attachmentGeneration) ||
        c.state == .failed && c.attachmentGeneration == a.attachmentGeneration))
    (if changed then w.enqueueDetach a now else w)

/-- The rows that `expireAttachmentSQL` ends. -/
def overdue : Bool := r.live && !r.expiresAt.after now

def expiryCommand : Option Command :=
  (w.previews.lease? r.binding.accountID r.binding.previewID).map fun p =>
    ⟨r.binding.accountID, r.binding.operationID, r.attachmentGeneration, .detach, r.binding, r.configContentHash,
      r.edgeEndpoints, p.endpoint, p.accessMode, p.leaseDeadline, .pending, now⟩

def expire (w : World) (now : Time) : Except Err World :=
  if w.rows.rows.all fun r => !overdue now r || w.accepts r.expire then
    .ok (((w.rows.rows.filter (overdue now)).filterMap fun r => w.expiryCommand now r.expire).foldl queue
      { w with rows := w.rows.update (overdue now) Row.expire Row.expire_key })
  else .error .database

/-! ## The edge -/

/-- `previewEdgeProcessEpochForUpdateSQL` and `assertPreviewEdgeProcessEpochTx` -/
def assertProcessEpoch : Except Err Unit :=
  match w.nodes.find nodeID with
  | none => .error .unauthorized
  | some n =>
    refuseIf (n.processEpoch != processEpoch ||
      !((n.state == .ready && n.ready || n.state == .draining) && n.inService now)) .unauthorized

def command? (nodeID processEpoch accountID operationID : String) (generation : Nat) (action : Action) :
    Option Command :=
  (w.outbox.find (accountID, operationID, generation, action)).filter fun c =>
    c.binding.edgeNodeID == nodeID && c.binding.edgeProcessEpoch == processEpoch

def deliverCommand (accountID operationID : String) (generation : Nat) (action : Action) (now : Time) : World :=
  { w with
    outbox := w.outbox.update (fun c => c.key == (accountID, operationID, generation, action) && c.state != .delivered)
      (·.deliver now) fun c => c.deliver_key _ }

/-- `PreviewCarrierOutboxItem.validate` -/
def checkItem (c : Command) (now : Time) (nodeID processEpoch : String) : Except Err Unit := do
  refuseIf (!validID c.accountID || !validID c.operationID || c.attachmentGeneration == 0) .invalid
  refuseIf (c.binding.accountID != c.accountID || c.binding.operationID != c.operationID || c.binding.edgeNodeID != nodeID)
    .unauthorized
  refuseIf (!validOpaqueEpoch processEpoch || c.binding.edgeProcessEpoch != processEpoch) .unauthorized
  refuseIf (!c.binding.valid) .invalid
  refuseIf (!validContentHash c.configContentHash) .invalid
  codec.checkEdgeEndpoints c.edgeEndpoints
  refuseIf (!codec.validEndpoint c.endpoint) .invalid
  refuseIf c.expiresAt.isZero .invalid
  refuseIf (c.action == .admission && !now.isZero && !c.expiresAt.after now) .expired

def acknowledgeAdmission (nodeID processEpoch accountID operationID : String) (generation : Nat)
    (now : Time) : Except Err World :=
  match w.command? nodeID processEpoch accountID operationID generation .admission with
  | none => .error .notFound
  | some c =>
    if c.state = .delivered then .ok w
    else do
      checkItem codec c now nodeID processEpoch
      let current ← w.scan codec c.accountID operationID
      refuseIf (current.binding != c.binding) .staleBinding
      if generation + 1 ≤ current.attachmentGeneration ∧
          (current.state = .admitted ∨ current.state = .edgeReady ∨ current.state = .ready) then
        .ok (w.deliverCommand accountID operationID generation .admission now)
      else do
        refuseIf (current.state != .pending || current.attachmentGeneration != generation) .staleBinding
        let (changed, w) ← w.changeRow current (fun r => r.state == .pending && r.expiresAt.after now)
          Row.markAdmitted Row.markAdmitted_key
        refuseIf (!changed) .staleBinding
        .ok (w.deliverCommand accountID operationID generation .admission now)

/-- `SQLRepository.AcknowledgePreviewCarrierOutbox` -/
def acknowledge (nodeID processEpoch accountID operationID : String) (generation : Nat)
    (action : Action) (now : Time) : Except Err World := do
  refuseIf (!validID nodeID || !validOpaqueEpoch processEpoch || !validID accountID || !validID operationID ||
    generation == 0) .invalid
  w.assertProcessEpoch nodeID processEpoch now
  match action with
  | .admission => w.acknowledgeAdmission codec nodeID processEpoch accountID operationID generation now
  | .detach =>
    match w.command? nodeID processEpoch accountID operationID generation .detach with
    | some _ => .ok (w.deliverCommand accountID operationID generation .detach now)
    | none => .error .notFound

/-- The columns that the lateral join of `pullPreviewCarrierSnapshotSQL` compares: the binding without the
key and the certificates of the edge. -/
def admits (c : Command) : Bool :=
  c.accountID == r.binding.accountID && c.operationID == r.binding.operationID && c.action == .admission &&
    { c.binding with
      edgeCarrierServerSPKISHA256 := r.binding.edgeCarrierServerSPKISHA256
      edgeCarrierServerCertificateChainPEM := r.binding.edgeCarrierServerCertificateChainPEM } == r.binding

def commandGeneration : Nat :=
  ((w.outbox.rows.filter (admits r)).map (·.attachmentGeneration)).max?.getD r.attachmentGeneration

/-- The rows of `pullPreviewCarrierSnapshotSQL`. -/
def desired : Bool :=
  r.binding.edgeNodeID == nodeID && r.binding.edgeProcessEpoch == processEpoch && r.live && r.expiresAt.after now &&
    (w.previews.lease? r.binding.accountID r.binding.previewID).any (·.terminalState == .active)

def maxPreviewCarrierAdmissions : Nat := 4096

structure Item where
  attachment : Attachment
  generation : Nat

def Item.command (i : Item) (now : Time) : Command :=
  ⟨i.attachment.binding.accountID, i.attachment.binding.operationID, i.generation, .admission, i.attachment.binding,
    i.attachment.configContentHash, i.attachment.edgeEndpoints, i.attachment.endpoint, i.attachment.accessMode,
    i.attachment.expiresAt, .pending, now⟩

def snapshotItem : Except Err Item := do
  let a ← w.scan codec r.binding.accountID r.binding.operationID
  let item : Item := ⟨a, w.commandGeneration r⟩
  checkItem codec (item.command now) now nodeID processEpoch
  .ok item

/-- `SQLRepository.PullPreviewCarrierSnapshot`, up to the order of the items. -/
def pullSnapshot : Except Err (List Item) := do
  refuseIf (!validID nodeID || !validOpaqueEpoch processEpoch) .invalid
  w.assertProcessEpoch nodeID processEpoch now
  let rows := w.rows.rows.filter (w.desired nodeID processEpoch now)
  refuseIf (decide (maxPreviewCarrierAdmissions < rows.length)) .conflict
  rows.mapM (w.snapshotItem codec nodeID processEpoch now)

/-- `RequeuePreviewCarrierOutbox` -/
def requeue (w : World) (now : Time) : World :=
  { w with
    outbox := w.outbox.update (fun c => c.state == .inFlight && !c.updatedAt.after (now.add (-(30 * Duration.second))))
      (·.requeue now) fun c => c.requeue_key _ }

/-- What `PullPreviewCarrierDetachOutbox` writes: the commands it hands out are in flight. -/
def claimDetach (claimed : Command → Bool) (now : Time) : World :=
  { w with
    outbox := w.outbox.update
      (fun c => c.action == .detach && (c.state == .pending || c.state == .failed) && claimed c)
      (·.claim now) fun c => c.claim_key _ }

end World

end Paperboat.Attachments

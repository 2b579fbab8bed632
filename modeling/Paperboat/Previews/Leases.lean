import Paperboat.Previews.Domains
/-!
# Transactions on leases

`previewtunnelstore`: a lease is created, renewed and stopped by its owner, marked
by the workers that observe its carrier, and ended by the reconciler when its time
or its owner is gone. Each of them counts the generation of the lease up. Renewing
takes the domains and certificates of the lease along, stopping and reconciling
withdraw them.
-/

namespace Paperboat.Previews

open Lib
open Connector (trimSpace)

def validActorType (actorType : String) : Bool :=
  actorType == "user" || actorType == "host" || actorType == "system" || actorType == "edge"

/-- What the code takes from `net/url` and `net`: `validPreviewEndpoint`, `ValidPreviewTargetV1` and
`StableTargetHostname`. -/
structure Hosts where
  validEndpoint : String → Bool
  validTarget : String → String → AccessMode → Bool
  stableTarget : String → Option String

/-! ## Requests -/

structure CreateLease where
  (operationID leaseID auditEventID accountID actorID actorType ownerDeviceID ownerSessionID targetScheme : String)
  targetAddress : String
  accessMode : AccessMode
  (endpointID endpoint : String)
  leaseDeadline : Time
  userDeadline : Option Time
  requestHash : BitVec 256
  (idempotencyKey correlationID requestID : String)
  now : Time
  domains : List DomainRequest

/-- `validateCreatePreviewLeaseV1` -/
def CreateLease.valid (i : CreateLease) (hosts : Hosts) : Bool :=
  [i.operationID, i.leaseID, i.auditEventID, i.accountID, i.actorID, i.actorType, i.ownerDeviceID, i.ownerSessionID,
    i.targetScheme, i.targetAddress, i.endpointID, i.endpoint, i.idempotencyKey, i.requestID, i.correlationID].all
      (trimSpace · != "") &&
    validActorType i.actorType && hosts.validTarget i.targetScheme i.targetAddress i.accessMode &&
    hosts.validEndpoint i.endpoint && !i.leaseDeadline.isZero && !i.now.isZero && i.leaseDeadline.after i.now &&
    i.userDeadline.all (fun t => !t.isZero && !t.before i.now && !i.leaseDeadline.after t) &&
    decide (i.domains.length ≤ maxDomains)

/-- The row that `CreatePreviewLease` inserts. -/
def CreateLease.row (i : CreateLease) (dbNow : Time) : Lease where
  id := i.leaseID
  endpointID := i.endpointID
  endpoint := i.endpoint
  accountID := i.accountID
  actorID := i.actorID
  ownerDeviceID := i.ownerDeviceID
  ownerSessionID := i.ownerSessionID
  targetScheme := i.targetScheme
  targetAddress := i.targetAddress
  accessMode := i.accessMode
  leaseDeadline := i.leaseDeadline
  userDeadline := i.userDeadline
  allocationState := .pending
  edgeState := .pending
  originState := .unknown
  terminalState := .active
  createdAt := i.now
  readyAt := none
  lastRenewedAt := i.now
  stoppedAt := none
  generation := 1
  ownerLastSeenAt := dbNow

structure RenewLease where
  (operationID auditEventID accountID actorID actorType previewID ownerDeviceID ownerSessionID : String)
  expectedGeneration : Nat
  leaseDeadline : Time
  requestHash : BitVec 256
  (idempotencyKey correlationID requestID : String)
  now : Time

/-- `validateRenewPreviewLeaseV1` -/
def RenewLease.valid (i : RenewLease) : Bool :=
  [i.operationID, i.auditEventID, i.accountID, i.actorID, i.actorType, i.previewID, i.ownerDeviceID, i.ownerSessionID,
    i.idempotencyKey, i.requestID, i.correlationID].all (trimSpace · != "") &&
    decide (1 ≤ i.expectedGeneration) && !i.leaseDeadline.isZero && !i.now.isZero && validActorType i.actorType

structure StopLease where
  /-- Set when the lease is stopped through its management. -/
  (managementAccountID operationID auditEventID accountID actorID actorType previewID ownerDeviceID : String)
  ownerSessionID : String
  expectedGeneration : Nat
  requestHash : BitVec 256
  (idempotencyKey correlationID requestID : String)
  now : Time

/-- `validateStopPreviewLeaseV1` -/
def StopLease.valid (i : StopLease) : Bool :=
  [i.operationID, i.auditEventID, i.accountID, i.actorID, i.actorType, i.previewID, i.ownerDeviceID, i.ownerSessionID,
    i.requestID, i.correlationID].all (trimSpace · != "") &&
    decide (1 ≤ i.expectedGeneration) && !i.now.isZero && validActorType i.actorType

structure MarkReady where
  (auditEventID accountID actorID actorType previewID : String)
  expectedGeneration : Nat
  allocationState : AllocationState
  edgeState : EdgeState
  originState : OriginState
  (correlationID requestID : String)
  now : Time

/-- `validateMarkPreviewLeaseReadyV1` -/
def MarkReady.valid (i : MarkReady) : Bool :=
  [i.auditEventID, i.accountID, i.actorID, i.actorType, i.previewID, i.requestID, i.correlationID].all (trimSpace · != "") &&
    decide (1 ≤ i.expectedGeneration) && !i.now.isZero && validActorType i.actorType && i.edgeState != .released

structure MarkUncertain where
  (auditEventID accountID actorID actorType previewID errorCode correlationID requestID : String)
  now : Time

def MarkUncertain.valid (i : MarkUncertain) : Bool :=
  [i.auditEventID, i.accountID, i.actorID, i.previewID, i.errorCode, i.correlationID, i.requestID].all (trimSpace · != "") &&
    validActorType i.actorType && !i.now.isZero

structure ReconcileLeases where
  (actorID actorType correlationID requestID : String)
  now : Time
  (ownerGrace limit : Int)

def ReconcileLeases.valid (i : ReconcileLeases) : Bool :=
  [i.actorID, i.correlationID, i.requestID].all (trimSpace · != "") && validActorType i.actorType &&
    decide (0 < i.ownerGrace) && !i.now.isZero && decide (1 ≤ i.limit) && decide (i.limit ≤ 500)

namespace Tables

/-! ## Creation -/

/-- `verifyPreviewMachineAuthority` on the row of its query: whether the machine is shared. -/
def verifyMachineAuthority (shared : Option Bool) (accessMode : AccessMode) : Except Err Unit :=
  match shared with
  | none => .error .ownerNotFound
  | some shared => refuseIf (shared && accessMode == .publicAccess) .publicationDenied

variable (s : Tables)

def createLeaseDomains (hosts : Hosts) (i : CreateLease) (generation : Nat) (env : Surroundings) : Except Err Tables :=
  if i.domains.isEmpty then .ok s
  else s.createDomains i.accountID i.leaseID generation (hosts.stableTarget i.endpoint) i.domains i.now env

/-- `Store.CreatePreviewLeaseV1`: the lease, whether it is a replay, and the tables. -/
def createLease (hosts : Hosts) (i : CreateLease) (shared : Option Bool) (env : Surroundings) :
    Except Err (Lease × Bool × Tables) := do
  refuseIf (!i.valid hosts) .invalidInput
  verifyMachineAuthority shared i.accessMode
  match s.operation? i.accountID i.idempotencyKey with
  | some existing => do
    refuseIf (existing.operationType != .previewCreate || existing.requestHash != i.requestHash) .idempotencyConflict
    match existing.resourceID with
    | none => .error .operationInProgress
    | some previewID => do
      let lease ← s.getLease i.accountID previewID
      .ok (lease, true, s)
  | none => do
    let s ← s.insertOperation ⟨i.operationID, i.accountID, i.idempotencyKey, i.requestHash, .previewCreate, none, .running⟩
    let s ← s.insertLease (i.row env.dbNow)
    let lease ← s.getLease i.accountID i.leaseID
    let s ← s.createLeaseDomains hosts i lease.generation env
    let s ← s.completeOperation i.operationID i.leaseID .running
    .ok (lease, false, s)

/-! ## Renewal -/

/-- `AdvancePreviewLeaseLifecycleV1`; no row is a conflict of generations. -/
def advanceLifecycle (accountID previewID ownerDeviceID ownerSessionID : String) (expectedGeneration : Nat)
    (seenAt : Time) : Except Err Tables :=
  match s.lease? accountID previewID with
  | some l =>
    if l.ownerDeviceID = ownerDeviceID ∧ l.ownerSessionID = ownerSessionID ∧ l.terminalState = .active ∧
        l.generation = expectedGeneration then
      s.setLease previewID (·.advance seenAt) fun l => l.advance_id _
    else .error .generationConflict
  | none => .error .generationConflict

/-- `RenewPreviewLeaseV1` -/
def extendLease (accountID previewID : String) (deadline now : Time) : Except Err Tables :=
  match s.lease? accountID previewID with
  | some l =>
    if l.terminalState = .active ∧ l.userDeadline.all (fun t => !deadline.after t) then
      s.setLease previewID (·.renew deadline now) fun l => l.renew_id _ _
    else .ok s
  | none => .ok s

/-- `Store.RenewPreviewLeaseV1` -/
def renewLease (i : RenewLease) : Except Err (Lease × Bool × Tables) := do
  refuseIf (!i.valid) .invalidInput
  let begun ← s.beginOperation
    ⟨i.operationID, i.accountID, i.idempotencyKey, i.requestHash, .previewRenew, some i.previewID, .running⟩
  match begun with
  | .replayed _ => do
    let lease ← s.getLease i.accountID i.previewID
    .ok (lease, true, s)
  | .fresh s => do
    let current ← s.getLease i.accountID i.previewID
    refuseIf (current.terminalState != .active) .terminal
    refuseIf (current.generation != i.expectedGeneration) .generationConflict
    refuseIf (!i.leaseDeadline.after i.now) .expired
    refuseIf (current.userDeadline.any fun t => i.leaseDeadline.after t) .deadlineExceeded
    let s ← s.advanceLifecycle i.accountID i.previewID i.ownerDeviceID i.ownerSessionID i.expectedGeneration i.now
    let s ← s.extendLease i.accountID i.previewID i.leaseDeadline i.now
    let lease ← s.getLease i.accountID i.previewID
    let s ← s.advanceDomains i.accountID i.previewID current.generation lease.generation i.now
    let s ← s.rebindCertificates i.accountID i.previewID current.generation lease.generation lease.deadline i.now
    let s ← s.completeOperation i.operationID i.previewID .succeeded
    .ok (lease, false, s)

/-! ## The end of a lease -/

def withdrawAll (l : Lease) (now : Time) : Except Err Tables := do
  let s ← s.withdrawDomains l.accountID l.id l.generation (now.add quarantine) now
  s.revokeCertificates l.accountID l.id now

/-- `StopPreviewLeaseV1` -/
def stopRow (accountID previewID : String) (now : Time) : Except Err Tables :=
  match s.lease? accountID previewID with
  | some l =>
    if l.terminalState = .active then s.setLease previewID (·.stop now) fun l => l.stop_id _
    else .ok s
  | none => .ok s

/-- `Store.StopPreviewLeaseV1`; `allowed` is `preview_management_allowed` for the managing account. -/
def stopLease (i : StopLease) (allowed : Bool) : Except Err (Lease × Bool × Tables) := do
  refuseIf (!i.valid) .invalidInput
  refuseIf (i.managementAccountID != "" && !((s.lease? i.accountID i.previewID).isSome && allowed)) .notFound
  let begun ← s.beginOperation
    ⟨i.operationID, i.accountID, i.idempotencyKey, i.requestHash, .previewStop, some i.previewID, .running⟩
  match begun with
  | .replayed _ => do
    let lease ← s.getLease i.accountID i.previewID
    .ok (lease, true, s)
  | .fresh s => do
    let current ← s.getLease i.accountID i.previewID
    if current.terminalState ≠ .active then do
      let s ← s.completeOperation i.operationID i.previewID .succeeded
      .ok (current, true, s)
    else do
      refuseIf (current.generation != i.expectedGeneration) .generationConflict
      let s ← s.advanceLifecycle i.accountID i.previewID i.ownerDeviceID i.ownerSessionID i.expectedGeneration
        current.ownerLastSeenAt
      let s ← s.stopRow i.accountID i.previewID i.now
      let stopped ← s.getLease i.accountID i.previewID
      let s ← s.withdrawAll stopped i.now
      let s ← s.completeOperation i.operationID i.previewID .succeeded
      .ok (stopped, false, s)

/-! ## Readiness -/

/-- `AdvancePreviewLeaseReadinessV1` and `MarkPreviewLeaseReadyV1` -/
def markRow (i : MarkReady) : Except Err Tables := do
  let s ← s.setLease i.previewID (·.advanceReadiness) fun l => l.advanceReadiness_id
  s.setLease i.previewID (·.mark i.allocationState i.edgeState i.originState i.now) fun l => l.mark_id _ _ _ _

/-- `Store.MarkPreviewLeaseReadyV1`; a lease that has ended is answered as it is. -/
def markReady (i : MarkReady) : Except Err (Lease × Tables) := do
  refuseIf (!i.valid) .invalidInput
  let current ← s.getLease i.accountID i.previewID
  if current.terminalState ≠ .active then .ok (current, s)
  else do
    refuseIf (current.generation != i.expectedGeneration) .generationConflict
    let s ← s.markRow i
    let updated ← s.getLease i.accountID i.previewID
    .ok (updated,
      if updated.allocationState = .failed then s.settleCreateOperation i.accountID i.previewID (·.open) .failed
      else if updated.allocationState = .ready ∧ updated.edgeState = .ready ∧ updated.originState = .ready then
        s.settleCreateOperation i.accountID i.previewID (·.open) .succeeded
      else s)

/-- `Store.MarkPreviewLeaseDispatchUncertainV1` writes the phase `dispatch`, which `operations` does not admit, so it
fails as soon as it meets a row. -/
def markUncertain (i : MarkUncertain) : Except Err Tables := do
  refuseIf (!i.valid) .invalidInput
  match s.createOperations.find (i.accountID, i.previewID) with
  | none => .ok s
  | some c =>
    if s.operations.rows.any fun o => o.id == c.operationID && o.accountID == i.accountID &&
        o.operationType == .previewCreate && o.resourceID == some i.previewID && (o.state.open || o.state == .uncertain) then
      .error .checkViolation
    else .ok s

/-! ## Reconciliation -/

/-- `ExpirePreviewLeasesV1` and `MarkLostPreviewLeasesV1`: the selected rows end, and each of them gives up
its domains and certificates. -/
def terminateLeases (ids : List String) (state : TerminalState) (now : Time) : Except Err Tables := do
  refuseIf (!s.leases.rows.all fun l => !ids.contains l.id || (l.terminate state now).checks) .checkViolation
  let s := { s with leases := s.leases.update (fun l => ids.contains l.id) (·.terminate state now) fun l => l.terminate_id _ _ }
  ids.foldlM
    (fun s id => match s.leases.find id with
      | some l => s.withdrawAll l now
      | none => .error .notFound) s

/-- The rows `ExpirePreviewLeasesV1` selects: their earlier deadline is over. -/
def expiredRow (now : Time) (l : Lease) : Bool := l.terminalState == .active && !l.deadline.after now

def expiredIDs (now : Time) (limit : Nat) : List String :=
  (((s.leases.rows.filter (expiredRow now)).mergeSort fun a b =>
    a.deadline.before b.deadline || a.deadline.equal b.deadline && decide (a.id ≤ b.id)).take limit).map (·.id)

/-- The rows `MarkLostPreviewLeasesV1` selects: the owner was not seen lately, or the lease belongs to an
activation that is over, which `inactive` says. -/
def lostRow (inactive : Lease → Bool) (now cutoff : Time) (l : Lease) : Bool :=
  l.terminalState == .active && l.leaseDeadline.after now &&
    (!l.ownerLastSeenAt.after cutoff || "lazy_".toList.isPrefixOf l.ownerSessionID.toList && inactive l)

def lostIDs (inactive : Lease → Bool) (now cutoff : Time) (limit : Nat) : List String :=
  (((s.leases.rows.filter (lostRow inactive now cutoff)).mergeSort fun a b =>
    a.ownerLastSeenAt.before b.ownerLastSeenAt || a.ownerLastSeenAt.equal b.ownerLastSeenAt && decide (a.id ≤ b.id)).take
      limit).map (·.id)

/-- `Store.ReconcilePreviewLeasesV1` -/
def reconcileLeases (i : ReconcileLeases) (inactive : Lease → Bool) : Except Err Tables := do
  refuseIf (!i.valid) .invalidInput
  let s ← s.terminateLeases (s.expiredIDs i.now i.limit.toNat) .expired i.now
  s.terminateLeases (s.lostIDs inactive i.now (i.now.add (-i.ownerGrace)) i.limit.toNat) .ownerLost i.now

end Tables

end Paperboat.Previews

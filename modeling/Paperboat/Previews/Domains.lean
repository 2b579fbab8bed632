import Paperboat.Previews.Tables
/-!
# Custom domains of a preview

`previewdomain.SQLRepository`: a domain is created, verified again and deleted
under its lease, which has to run and to be at the generation the domain is bound
to. The reconciler first releases quarantines that ran out and then observes the
DNS records of the domains that are due, each in a transaction of its own.
-/

namespace Paperboat.Previews

open Lib
open Connector (trimSpace)
open Tunnel (CertificateStrategy)

def quarantine : Int := 7 * 24 * Duration.hour

def maxDomains : Nat := 8

def validScope (accountID previewID : String) : Bool := trimSpace accountID != "" && trimSpace previewID != ""

/-! ## Requests -/

structure DomainRequest where
  (domainID hostname : String)
  matchType : MatchType
  challengeReference : String
  dnsProvider : DNSProvider
  certificateStrategy : CertificateStrategy

/-- The row that `CreatePreviewDomainV1` inserts. -/
def DomainRequest.row (r : DomainRequest) (accountID previewID : String) (previewGeneration : Nat) (dnsTarget : String)
    (now : Time) : PreviewDomain where
  id := r.domainID
  accountID
  previewID
  previewGeneration
  hostname := r.hostname
  matchType := r.matchType
  challengeReference := r.challengeReference
  ownershipState := .pending
  dnsTarget
  observedRecords := []
  dnsProvider := r.dnsProvider
  dnsLastCheckedAt := none
  dnsNextCheckAt := now
  dnsTTLSeconds := none
  verificationAttempts := 0
  certificateStrategy := r.certificateStrategy
  certificateReference := none
  certificateState := if r.certificateStrategy = .none then .notApplicable else .pending
  certificateExpiresAt := none
  caaState := if r.certificateStrategy = .none then .notApplicable else .unknown
  conflictState := .clear
  lastVerifiedAt := none
  generation := 1
  createdAt := now
  updatedAt := now
  deletedAt := none
  quarantineUntil := none

/-- What the database knows and these tables do not: its clock, and the hostnames that rows of
`tunnel_domains` claim. -/
structure Surroundings where
  dbNow : Time
  claimed : String → Bool

structure Mutation where
  (operationID auditEventID idempotencyKey : String)
  requestHash : BitVec 256

def Mutation.complete (m : Mutation) : Bool :=
  trimSpace m.operationID != "" && trimSpace m.auditEventID != "" && trimSpace m.idempotencyKey != "" && m.requestHash != 0

structure CreateDomain where
  mutation : Mutation
  (accountID previewID : String)
  previewGeneration : Nat
  request : DomainRequest
  dnsTarget : String
  now : Time

structure ChangeDomain where
  mutation : Mutation
  (accountID previewID domainID : String)
  expectedGeneration : Nat
  now : Time

def requireActiveLease (l : Lease) (now : Time) : Except Err Unit :=
  refuseIf (l.terminalState != .active || !l.unexpired now) .leaseNotActive

inductive Begun where
  | fresh (s : Tables)
  | replayed (o : Operation)

namespace Tables

variable (s : Tables)

/-- `beginOperation`: the operation that is known under the key has to be the same one. -/
def beginOperation (o : Operation) : Except Err Begun :=
  match s.operation? o.accountID o.idempotencyKey with
  | none => (s.insertOperation o).map .fresh
  | some existing =>
    if existing.operationType = o.operationType ∧ existing.resourceID = o.resourceID ∧ existing.requestHash = o.requestHash then
      .ok (.replayed existing)
    else .error .idempotencyConflict

/-- `GetPreviewDomainAnyV1` -/
def domain? (accountID previewID domainID : String) : Option PreviewDomain :=
  (s.domains.find domainID).filter fun d => d.ofLease accountID previewID

def changeDomain (accountID previewID domainID : String) (expectedGeneration : Nat)
    (also : PreviewDomain → Bool) (change : PreviewDomain → PreviewDomain) (keeps : ∀ d, (change d).id = d.id) :
    Except Err Tables :=
  let selected (d : PreviewDomain) : Bool :=
    d.id == domainID && d.ofLease accountID previewID && d.generation == expectedGeneration && d.live && also d
  if s.domains.rows.any selected then s.updateDomains selected change keeps else .error .generationConflict

/-! ## The repository -/

/-- `SQLRepository.Create` -/
def createDomain (input : CreateDomain) (env : Surroundings) : Except Err Tables := do
  refuseIf (!validScope input.accountID input.previewID || trimSpace input.request.domainID == "" ||
    !input.mutation.complete || input.previewGeneration == 0 || input.now.isZero) .invalidInput
  refuseIf (input.request.hostname == "" || input.request.challengeReference == "" || input.dnsTarget == "") .invalidInput
  let lease ← s.getLease input.accountID input.previewID
  requireActiveLease lease input.now
  refuseIf (input.previewGeneration != lease.generation) .generationConflict
  let begun ← s.beginOperation
    ⟨input.mutation.operationID, input.accountID, input.mutation.idempotencyKey, input.mutation.requestHash, .domainCreate,
      some input.request.domainID, .running⟩
  match begun with
  | .replayed _ =>
    if (s.domain? input.accountID input.previewID input.request.domainID).isSome then .ok s else .error .notFound
  | .fresh s => do
    let s ← s.insertDomain
      (input.request.row input.accountID input.previewID input.previewGeneration input.dnsTarget input.now)
      (env.claimed input.request.hostname) env.dbNow
    s.completeOperation input.mutation.operationID input.request.domainID .running

/-- `SQLRepository.Verify` and `SQLRepository.Delete` -/
def mutateDomain (input : ChangeDomain) (verify : Bool) : Except Err Tables := do
  refuseIf (!validScope input.accountID input.previewID || trimSpace input.domainID == "" || !input.mutation.complete ||
    input.expectedGeneration == 0 || input.now.isZero) .invalidInput
  let lease ← s.getLease input.accountID input.previewID
  requireActiveLease lease input.now
  let begun ← s.beginOperation
    ⟨input.mutation.operationID, input.accountID, input.mutation.idempotencyKey, input.mutation.requestHash,
      if verify then .domainVerify else .domainDelete, some input.domainID, .running⟩
  match s.domain? input.accountID input.previewID input.domainID with
  | none => .error .notFound
  | some current =>
    match begun with
    | .replayed _ => .ok s
    | .fresh s => do
      refuseIf (!current.live) .notFound
      refuseIf (current.previewGeneration != lease.generation) .generationConflict
      refuseIf (current.generation != input.expectedGeneration) .generationConflict
      if verify then do
        let s ← s.changeDomain input.accountID input.previewID input.domainID input.expectedGeneration
          (fun d => d.ownershipState == .pending || d.ownershipState == .failed || d.ownershipState == .verified)
          (·.beginVerification input.now) fun _ => rfl
        s.completeOperation input.mutation.operationID input.domainID .running
      else do
        let s ← s.changeDomain input.accountID input.previewID input.domainID input.expectedGeneration (fun _ => true)
          (·.withdraw .revoked (input.now.add quarantine) input.now) fun d => d.withdraw_id _ _ _
        s.completeOperation input.mutation.operationID input.domainID .succeeded

/-- `SQLRepository.CreateForPreviewTx`: all domains of a new preview, in its transaction. -/
def createDomains (accountID previewID : String) (previewGeneration : Nat) (dnsTarget : Option String)
    (requests : List DomainRequest) (now : Time) (env : Surroundings) : Except Err Tables := do
  refuseIf (!validScope accountID previewID || previewGeneration == 0 || now.isZero || decide (requests.length > maxDomains))
    .invalidInput
  let lease ← s.getLease accountID previewID
  requireActiveLease lease now
  refuseIf (lease.generation != previewGeneration) .generationConflict
  match dnsTarget with
  | none => .error .invalidInput
  | some target => do
    refuseIf (!decide (requests.map (·.hostname)).Nodup) .domainConflict
    requests.foldlM
      (fun s r => s.insertDomain (r.row accountID previewID previewGeneration target now) (env.claimed r.hostname) env.dbNow) s

/-! ## Certificates of a domain -/

structure CommitReady where
  (accountID domainID previewID : String)
  (previewGeneration expectedDomainGeneration : Nat)
  certificate : Tunnel.StoredCertificate
  now : Time

/-- The record that `CommitPreviewDomainCertificateReadyV1` asks for. -/
def publishes (input : CommitReady) (r : Tunnel.StoredCertificate) : Bool :=
  r.id == input.certificate.id && r.domainID == input.domainID && r.accountID == input.accountID &&
    r.targetKind == .previewLease && r.previewID == input.previewID && r.previewGeneration == input.previewGeneration &&
    r.domainGeneration == input.expectedDomainGeneration &&
    r.certificateGeneration == input.certificate.certificateGeneration &&
    r.certificateReference == input.certificate.certificateReference && r.state == .active

/-- `SQLStore.CommitPreviewDomainCertificateReady` -/
def commitCertificateReady (input : CommitReady) : Except Err Tables := do
  let c := input.certificate
  refuseIf (!Tunnel.validIdentifier input.accountID || !Tunnel.validIdentifier input.domainID ||
    !Tunnel.validIdentifier input.previewID || input.previewGeneration == 0 || input.expectedDomainGeneration == 0 ||
    c.domainID != input.domainID || c.accountID != input.accountID || c.targetKind != .previewLease ||
    c.previewID != input.previewID || c.previewGeneration != input.previewGeneration ||
    c.domainGeneration != input.expectedDomainGeneration || c.leafHostname != "" || c.state != .active ||
    c.certificateGeneration == 0 || c.certificateReference == "" || c.expiresAt.isZero)
    (.certificate (.ofSentinel .invalid))
  s.changeDomain input.accountID input.previewID input.domainID input.expectedDomainGeneration
    (fun d => d.previewGeneration == input.previewGeneration && (s.joined? d).any (·.live input.now) &&
      s.records.rows.any (publishes input))
    (·.certificateReady c.certificateReference c.expiresAt input.now) fun _ => rfl

/-! ## DNS -/

structure Observation where
  (domainID accountID previewID : String)
  (previewGeneration expectedGeneration : Nat)
  observedRecords : List String
  ownershipState : Ownership
  conflictState : ConflictState
  nextCheckAt : Time
  ttlSeconds : Int
  verified : Bool
  now : Time

end Tables

/-- `ApplyPreviewDomainDNSObservationV1` -/
def PreviewDomain.observe (d : PreviewDomain) (o : Tables.Observation) : PreviewDomain :=
  { d with
    observedRecords := o.observedRecords
    ownershipState := o.ownershipState
    conflictState := o.conflictState
    dnsLastCheckedAt := some o.now
    dnsNextCheckAt := o.nextCheckAt
    dnsTTLSeconds := if o.ttlSeconds > 0 then some o.ttlSeconds else none
    verificationAttempts := if o.verified then 0 else d.verificationAttempts + 1
    lastVerifiedAt := if o.verified then some o.now else d.lastVerifiedAt
    certificateState := if o.verified ∧ d.certificateState = .pending then .issuing else d.certificateState
    generation := d.generation + 1
    updatedAt := o.now }

namespace Tables

variable (s : Tables) (now : Time)

/-- `CompletePreviewDomainVerificationOperationsV1` and `AdvancePreviewDomainCreateOperationsV1` -/
def settleDomainOperations (accountID domainID : String) : Tables :=
  { s with
    operations := (s.operations.update
      (fun o => o.accountID == accountID && o.resourceID == some domainID && o.operationType == .domainVerify && o.state.open)
      (·.setState .succeeded) fun o => o.setState_id _).update
      (fun o => o.accountID == accountID && o.resourceID == some domainID && o.operationType == .domainCreate && o.state.open)
      (·.setState .running) fun o => o.setState_id _ }

/-- `SQLRepository.ApplyDNSObservationForReconciliation` -/
def applyObservation (o : Observation) : Except Err Tables := do
  refuseIf (trimSpace o.domainID == "" || !validScope o.accountID o.previewID || o.previewGeneration == 0 ||
    o.expectedGeneration == 0 || o.now.isZero || o.nextCheckAt.isZero) .invalidInput
  refuseIf (s.domain? o.accountID o.previewID o.domainID).isNone .notFound
  let lease ← s.getLease o.accountID o.previewID
  refuseIf (lease.generation != o.previewGeneration || lease.terminalState != .active || !lease.unexpired o.now)
    .generationConflict
  let s ← s.changeDomain o.accountID o.previewID o.domainID o.expectedGeneration (fun _ => true)
    (·.observe o) fun _ => rfl
  .ok (if o.verified ∧ o.ownershipState = .verified ∧ o.conflictState = .clear then
    s.settleDomainOperations o.accountID o.domainID else s)

/-- `ReleaseExpiredPreviewDomainQuarantinesV1` -/
def releaseExpiredQuarantines : Except Err Tables := do
  refuseIf now.isZero .invalidInput
  s.updateDomains
    (fun d => !d.live && d.conflictState == .quarantined && d.quarantineUntil.any fun t => !t.after now)
    (·.release now) fun d => d.release_id _

/-- The rows of `ListDuePreviewDomainsV1`. -/
def due (d : PreviewDomain) : Bool :=
  d.live && (s.lease? d.accountID d.previewID).any (fun l => l.terminalState == .active &&
    l.generation == d.previewGeneration && l.unexpired now) && !d.dnsNextCheckAt.after now &&
    (d.ownershipState == .pending || d.ownershipState == .failed || d.ownershipState == .verified)

/-- By `dns_next_check_at`, then by `id`. -/
def dueBefore (a b : PreviewDomain) : Bool :=
  a.dnsNextCheckAt.before b.dnsNextCheckAt || a.dnsNextCheckAt.equal b.dnsNextCheckAt && decide (a.id ≤ b.id)

def listDue (limit : Nat) : List PreviewDomain :=
  ((s.domains.rows.filter (s.due now)).mergeSort dueBefore).take limit

end Tables

/-! ## The reconciler -/

namespace Reconciler

def maximumBatch : Int := 500

/-- What `Reconcile` does before it observes anything: the domains it goes on with. -/
def prepare (s : Tables) (limit : Int) (now : Time) : Except Err (List PreviewDomain × Tables) := do
  refuseIf (decide (limit < 1) || decide (maximumBatch < limit)) .invalidInput
  refuseIf now.isZero .invalidInput
  let s ← s.releaseExpiredQuarantines now
  .ok (s.listDue now limit.toNat, s)

inductive DNSResult where
  | verified | wrongRecord | notFound | unavailable | error
  deriving DecidableEq

/-- `dnsObservationState` -/
def observationState (d : PreviewDomain) (result : DNSResult) (grace : Nat) : Ownership × ConflictState :=
  match result with
  | .verified => (.verified, .clear)
  | .wrongRecord => (.failed, .conflicted)
  | .notFound => (.failed, .clear)
  | .unavailable | .error =>
    if d.ownershipState = .verified ∧ d.verificationAttempts + 1 < grace then (.verified, .clear)
    else if d.ownershipState = .failed ∨ d.ownershipState = .verified then (.failed, .clear)
    else (.pending, .clear)

structure Answer where
  result : DNSResult
  records : List String
  nextCheckAt : Time
  ttlSeconds : Int

def observation (d : PreviewDomain) (a : Answer) (grace : Nat) (now : Time) : Tables.Observation :=
  let state := observationState d a.result grace
  let verified := a.result == .verified
  { domainID := d.id
    accountID := d.accountID
    previewID := d.previewID
    previewGeneration := d.previewGeneration
    expectedGeneration := d.generation
    -- A failure that is tolerated does not replace the last answer.
    observedRecords := if state.1 = .verified ∧ ¬verified then d.observedRecords else a.records
    ownershipState := state.1
    conflictState := state.2
    nextCheckAt := a.nextCheckAt
    ttlSeconds := a.ttlSeconds
    verified
    now }

def reconcileOne (s : Tables) (d : PreviewDomain) (a : Answer) (grace : Nat) (now : Time) : Except Err Tables := do
  refuseIf (trimSpace d.id == "" || trimSpace d.accountID == "" || trimSpace d.previewID == "" ||
    d.previewGeneration == 0 || d.generation == 0) .invalidInput
  s.applyObservation (observation d a grace now)

/-- The loop over the domains that are due; a domain that has changed meanwhile is passed over. -/
def observeAll (answers : PreviewDomain → Answer) (grace : Nat) (now : Time) :
    Tables → Nat → List PreviewDomain → Except Err Nat × Tables
  | s, processed, [] => (.ok processed, s)
  | s, processed, d :: ds =>
    match reconcileOne s d (answers d) grace now with
    | .ok s => observeAll answers grace now s (processed + 1) ds
    | .error .generationConflict | .error .leaseNotActive | .error .notFound => observeAll answers grace now s processed ds
    | .error e => (.error e, s)

/-- `Reconciler.Reconcile` with the answers of the resolver. -/
def reconcile (s : Tables) (limit : Int) (answers : PreviewDomain → Answer) (grace : Nat) (now : Time) :
    Except Err Nat × Tables :=
  match prepare s limit now with
  | .ok (ds, s) => observeAll answers grace now s 0 ds
  | .error e => (.error e, s)

end Reconciler

end Paperboat.Previews

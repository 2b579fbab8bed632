import Paperboat.Tunnel.Store
/-!
# The tables behind previews

A preview is a lease of an endpoint: `preview_leases` has a row for each, with a
generation that its changes count up and a terminal state that ends it. Custom
hostnames of a preview are rows of `preview_domains`, bound to one generation of
the lease; their certificates are the records of `Tunnel.Store`. Requests that can
be repeated leave a row of `operations`.

A `CHECK` of a table is part of the statement that writes the row.
-/

namespace Paperboat.Previews

open Lib
open Tunnel (CertificateStrategy CertificateState RecordTable PreviewRow)

/-! ## Rows -/

inductive TerminalState where
  | active | stopped | expired | ownerLost | failed
  deriving DecidableEq

inductive AllocationState where
  | pending | ready | failed | released
  deriving DecidableEq

inductive EdgeState where
  | pending | ready | degraded | down | released
  deriving DecidableEq

inductive OriginState where
  | unknown | ready | degraded | down
  deriving DecidableEq

inductive AccessMode where
  | publicAccess | privateAccess | team
  deriving DecidableEq

/-- A row of `preview_leases`. -/
structure Lease where
  (id endpointID endpoint accountID actorID ownerDeviceID ownerSessionID targetScheme targetAddress : String)
  accessMode : AccessMode
  leaseDeadline : Time
  userDeadline : Option Time
  allocationState : AllocationState
  edgeState : EdgeState
  originState : OriginState
  terminalState : TerminalState
  createdAt : Time
  readyAt : Option Time
  lastRenewedAt : Time
  stoppedAt : Option Time
  generation : Nat
  ownerLastSeenAt : Time
  deriving DecidableEq

namespace Lease

variable (l : Lease) (now : Time)

def checks : Bool :=
  l.leaseDeadline.after l.createdAt && l.userDeadline.all (fun t => !t.before l.createdAt) && decide (0 < l.generation) &&
    (l.terminalState == .active) == l.stoppedAt.isNone

def unexpired : Bool := l.leaseDeadline.after now && l.userDeadline.all (·.after now)

def deadline : Time :=
  match l.userDeadline with
  | some t => if t.before l.leaseDeadline then t else l.leaseDeadline
  | none => l.leaseDeadline

/-- `AdvancePreviewLeaseLifecycleV1` -/
def advance (seenAt : Time) : Lease := { l with generation := l.generation + 1, ownerLastSeenAt := seenAt }

/-- `AdvancePreviewLeaseReadinessV1` -/
def advanceReadiness : Lease := { l with generation := l.generation + 1 }

/-- `RenewPreviewLeaseV1` -/
def renew (deadline now : Time) : Lease := { l with leaseDeadline := deadline, lastRenewedAt := now }

/-- `StopPreviewLeaseV1` -/
def stop : Lease :=
  { l with allocationState := .released, edgeState := .released, terminalState := .stopped, stoppedAt := some now }

/-- What `ExpirePreviewLeasesV1` and `MarkLostPreviewLeasesV1` make of a row. -/
def terminate (state : TerminalState) (now : Time) : Lease :=
  { l with
    allocationState := .released
    edgeState := .released
    terminalState := state
    generation := l.generation + 1
    stoppedAt := some now }

/-- `MarkPreviewLeaseReadyV1`: a failed allocation ends the lease. -/
def mark (allocation : AllocationState) (edge : EdgeState) (origin : OriginState) (now : Time) : Lease :=
  { l with
    allocationState := allocation
    edgeState := edge
    originState := origin
    terminalState := if allocation = .failed then .failed else l.terminalState
    stoppedAt := if allocation = .failed then some (l.stoppedAt.getD now) else l.stoppedAt
    readyAt := if allocation = .ready ∧ edge = .ready ∧ origin = .ready then some (l.readyAt.getD now) else l.readyAt }

theorem advance_id (seenAt : Time) : (l.advance seenAt).id = l.id := rfl

theorem advanceReadiness_id : l.advanceReadiness.id = l.id := rfl

theorem renew_id (deadline now : Time) : (l.renew deadline now).id = l.id := rfl

theorem stop_id : (l.stop now).id = l.id := rfl

theorem terminate_id (state : TerminalState) (now : Time) : (l.terminate state now).id = l.id := rfl

theorem mark_id (allocation : AllocationState) (edge : EdgeState) (origin : OriginState) (now : Time) :
    (l.mark allocation edge origin now).id = l.id := rfl

end Lease

inductive MatchType where
  | exact | oneLabelWildcard

inductive Ownership where
  | pending | verified | failed | expired | revoked
  deriving DecidableEq

def Ownership.forCertificates : Ownership → Tunnel.OwnershipState
  | .verified => .verified
  | .pending => .other "pending"
  | .failed => .other "failed"
  | .expired => .other "expired"
  | .revoked => .other "revoked"

inductive CAAState where
  | unknown | ready | blocked | notApplicable

inductive ConflictState where
  | clear | conflicted | quarantined
  deriving DecidableEq

inductive DNSProvider where
  | generic | cloudflare | route53 | googleCloudDNS | digitalocean | namecheap

/-- A row of `preview_domains`. -/
structure PreviewDomain where
  (id accountID previewID : String)
  previewGeneration : Nat
  hostname : String
  matchType : MatchType
  challengeReference : String
  ownershipState : Ownership
  dnsTarget : String
  observedRecords : List String
  dnsProvider : DNSProvider
  dnsLastCheckedAt : Option Time
  dnsNextCheckAt : Time
  dnsTTLSeconds : Option Int
  verificationAttempts : Nat
  certificateStrategy : CertificateStrategy
  certificateReference : Option String
  certificateState : CertificateState
  certificateExpiresAt : Option Time
  caaState : CAAState
  conflictState : ConflictState
  lastVerifiedAt : Option Time
  generation : Nat
  (createdAt updatedAt : Time)
  (deletedAt quarantineUntil : Option Time)

/-- `hostname = btrim(hostname) AND hostname = lower(hostname) AND hostname !~ '[.]$'`; a hostname was
brought into its ASCII form before. -/
def plainHostname (h : String) : Bool :=
  h.toList.head? != some ' ' && h.toList.getLast? != some ' ' && h.toList.getLast? != some '.' &&
    h.toList.all fun c => !(decide ('A' ≤ c) && decide (c ≤ 'Z'))

def MatchType.fits : MatchType → String → Bool
  | .exact, h => !(['*', '.'].isPrefixOf h.toList)
  | .oneLabelWildcard, h =>
    match h.toList with
    | '*' :: '.' :: c :: _ => decide ('a' ≤ c) && decide (c ≤ 'z') || decide ('0' ≤ c) && decide (c ≤ '9')
    | _ => false

namespace PreviewDomain

variable (d : PreviewDomain) (now : Time)

/-- `deleted_at IS NULL` -/
def live : Bool := d.deletedAt.isNone

def checks : Bool :=
  decide (0 < d.previewGeneration) && decide (0 < d.generation) && plainHostname d.hostname &&
    d.matchType.fits d.hostname && d.dnsTTLSeconds.all (fun n => 30 ≤ n && n ≤ 86400) &&
    (d.certificateStrategy == .none) == (d.certificateState == .notApplicable) &&
    (d.conflictState == .quarantined) == d.quarantineUntil.isSome &&
    (d.deletedAt.isNone || d.conflictState == .quarantined && d.quarantineUntil.isSome)

def ofLease (accountID previewID : String) : Bool := d.previewID == previewID && d.accountID == accountID

def revokedCertificate : CertificateState :=
  if d.certificateState = .notApplicable then .notApplicable else .revoked

def withdraw (ownership : Ownership) (quarantineUntil now : Time) : PreviewDomain :=
  { d with
    ownershipState := ownership
    certificateState := d.revokedCertificate
    conflictState := .quarantined
    quarantineUntil := some quarantineUntil
    deletedAt := some now
    generation := d.generation + 1
    updatedAt := now }

/-- `BeginPreviewDomainVerificationV1` -/
def beginVerification : PreviewDomain :=
  { d with
    ownershipState := .pending
    conflictState := .clear
    verificationAttempts := 0
    dnsNextCheckAt := now
    generation := d.generation + 1
    updatedAt := now }

/-- `AdvancePreviewDomainTargetGenerationV1` -/
def advance (previewGeneration : Nat) (now : Time) : PreviewDomain :=
  { d with previewGeneration, updatedAt := now }

/-- `ReleaseExpiredPreviewDomainQuarantinesV1` -/
def release : PreviewDomain :=
  { d with conflictState := .clear, quarantineUntil := none, updatedAt := now }

/-- `CommitPreviewDomainCertificateReadyV1` -/
def certificateReady (reference : String) (expiresAt now : Time) : PreviewDomain :=
  { d with
    certificateState := .ready
    certificateReference := some reference
    certificateExpiresAt := some expiresAt
    caaState := .ready
    generation := d.generation + 1
    updatedAt := now }

theorem withdraw_id (ownership : Ownership) (quarantineUntil now : Time) :
    (d.withdraw ownership quarantineUntil now).id = d.id := rfl

theorem advance_id (previewGeneration : Nat) (now : Time) : (d.advance previewGeneration now).id = d.id := rfl

theorem release_id : (d.release now).id = d.id := rfl

def joined (l : Lease) : PreviewRow where
  id := d.id
  accountID := d.accountID
  previewID := d.previewID
  previewGeneration := d.previewGeneration
  hostname := d.hostname
  generation := d.generation
  ownershipState := d.ownershipState.forCertificates
  clear := d.conflictState == .clear
  deleted := d.deletedAt.isSome
  certificateState := d.certificateState
  certificateReference := d.certificateReference.getD ""
  leaseGeneration := l.generation
  leaseActive := l.terminalState == .active
  leaseDeadline := l.leaseDeadline
  userDeadline := l.userDeadline

end PreviewDomain

inductive OperationType where
  | previewCreate | previewRenew | previewStop | domainCreate | domainVerify | domainDelete
  | other (text : String)
  deriving DecidableEq

inductive OperationState where
  | pending | running | succeeded | failed | cancelled | uncertain
  deriving DecidableEq

def OperationState.open : OperationState → Bool
  | .pending | .running => true
  | _ => false

/-- A row of `operations`; its kind of resource is that of its type. -/
structure Operation where
  (id accountID idempotencyKey : String)
  requestHash : BitVec 256
  operationType : OperationType
  resourceID : Option String
  state : OperationState

namespace Operation

def complete (o : Operation) (resourceID : String) (state : OperationState) : Operation :=
  { o with resourceID := some resourceID, state }

def setState (o : Operation) (state : OperationState) : Operation := { o with state }

theorem setState_id (o : Operation) (state : OperationState) : (o.setState state).id = o.id := rfl

end Operation

/-- A row of `preview_lease_create_operations`: the one operation that created a preview. -/
structure CreateOperation where
  (accountID previewID operationID : String)
  deriving DecidableEq

def CreateOperation.key (c : CreateOperation) : String × String := (c.accountID, c.previewID)

structure Tables where
  leases : Table Lease.id
  domains : Table PreviewDomain.id
  records : RecordTable
  operations : Table Operation.id
  createOperations : Table CreateOperation.key

inductive Err where
  | invalidInput | notFound | generationConflict | idempotencyConflict | operationInProgress | terminal | expired
  | deadlineExceeded | ownerNotFound | publicationDenied | endpointConflict | leaseNotActive | domainConflict
  | uniqueViolation | checkViolation
  | certificate (e : Tunnel.Err)

namespace Tables

/-! ## Leases -/

variable (s : Tables) (d : PreviewDomain) (accountID previewID : String) (previous generation : Nat) (now : Time)

/-- `GetPreviewLeaseV1` -/
def lease? : Option Lease :=
  (s.leases.find previewID).filter (·.accountID == accountID)

def getLease : Except Err Lease :=
  match s.lease? accountID previewID with
  | some l => .ok l
  | none => .error .notFound

def setLease (id : String) (change : Lease → Lease) (keeps : ∀ l, (change l).id = l.id) : Except Err Tables :=
  if (s.leases.find id).all fun l => (change l).checks then
    .ok { s with leases := s.leases.update (·.id == id) change keeps }
  else .error .checkViolation

/-- Reserved labels give their endpoint back when they end: `endpoint !~ '^https://p[0-9]+-'`. -/
def reservedLabel (endpoint : String) : Bool :=
  match "https://p".toList.isPrefixOf endpoint.toList, endpoint.toList.drop 9 with
  | true, rest => (rest.takeWhile Char.isDigit).length != 0 && (rest.dropWhile Char.isDigit).head? == some '-'
  | false, _ => false

/-- `preview_leases_endpoint_reserved` -/
def endpointTaken (endpoint : String) : Bool :=
  s.leases.rows.any fun l => l.endpoint == endpoint && (l.terminalState == .active || !reservedLabel endpoint)

/-- `CreatePreviewLease` -/
def insertLease (l : Lease) : Except Err Tables :=
  if s.endpointTaken l.endpoint then .error .uniqueViolation
  else if s.leases.rows.any (·.endpointID == l.endpointID) then .error .uniqueViolation
  else if !l.checks then .error .checkViolation
  else
    match s.leases.insert l with
    | some leases => .ok { s with leases }
    | none => .error .uniqueViolation

/-! ## Domains -/

def updateDomains (selected : PreviewDomain → Bool) (change : PreviewDomain → PreviewDomain)
    (keeps : ∀ d, (change d).id = d.id) : Except Err Tables :=
  if s.domains.rows.all fun d => !selected d || (change d).checks then
    .ok { s with domains := s.domains.update selected change keeps }
  else .error .checkViolation

/-- `enforce_preview_tunnel_domain_hostname_claim_v1` on the rows of `preview_domains`. -/
def hostnameClaimed : Bool :=
  s.domains.rows.any fun o => o.id != d.id && o.hostname == d.hostname &&
    (o.live || o.accountID != d.accountID && o.quarantineUntil.any (·.after now))

/-- `CreatePreviewDomainV1`; `claimed` is a claim on the hostname by a row of `tunnel_domains`. -/
def insertDomain (claimed : Bool) (dbNow : Time) : Except Err Tables :=
  if claimed || s.hostnameClaimed d dbNow then .error .domainConflict
  else if !d.checks then .error .invalidInput
  else
    match s.domains.insert d with
    | some domains => .ok { s with domains }
    | none => .error .uniqueViolation

/-- `WithdrawPreviewDomainsV1` -/
def withdrawDomains (generation : Nat) (quarantineUntil now : Time) : Except Err Tables :=
  s.updateDomains (fun d => d.ofLease accountID previewID && decide (d.previewGeneration ≤ generation) && d.live)
    (·.withdraw .expired quarantineUntil now) fun d => d.withdraw_id _ _ _

/-- `AdvancePreviewDomainTargetGenerationV1` -/
def advanceDomains : Except Err Tables :=
  s.updateDomains (fun d => d.ofLease accountID previewID && d.previewGeneration == previous && d.live)
    (·.advance generation now) fun d => d.advance_id _ _

/-! ## Certificates -/

def joined? : Option PreviewRow := (s.lease? d.accountID d.previewID).map d.joined

theorem joined?_id {s : Tables} {d : PreviewDomain} {p : PreviewRow} (h : s.joined? d = some p) : p.id = d.id := by
  obtain ⟨l, -, rfl⟩ := Option.map_eq_some_iff.1 h
  rfl

theorem joined_keys (ds : List PreviewDomain) :
    ((ds.filterMap s.joined?).map PreviewRow.id).Sublist (ds.map PreviewDomain.id) := by
  induction ds with
  | nil => exact List.Sublist.slnil
  | cons d _ ih =>
    cases h : s.joined? d with
    | none =>
      rw [List.filterMap_cons_none h]
      exact ih.cons _
    | some =>
      rw [List.filterMap_cons_some h, List.map_cons, List.map_cons, joined?_id h]
      exact ih.cons_cons _

/-- `preview_domains` joined with `preview_leases`. -/
def previews : Table PreviewRow.id where
  rows := s.domains.rows.filterMap s.joined?
  keys := (s.joined_keys s.domains.rows).nodup s.domains.keys

/-- The tables of the certificate store, with the rows of `tunnel_domains`. -/
def certificates (domains : Table Tunnel.DomainRow.id) : Tunnel.Tables where
  domains
  previews := s.previews
  records := s.records
  edges := ⟨[], List.nodup_nil⟩
  locks := ⟨[], List.nodup_nil⟩
  platforms := []

/-- The rows of `RebindPreviewCertificatesForLeaseV1`. -/
def rebinds (r : Tunnel.StoredCertificate) : Bool :=
  r.targetKind == .previewLease && r.previewGeneration == previous && (r.state == .active || r.state == .staged) &&
    (s.previews.find r.domainID).any fun p => p.accountID == r.accountID && p.previewID == r.previewID &&
      p.accountID == accountID && p.previewID == previewID && p.previewGeneration == generation && p.live now

/-- `RebindPreviewCertificatesTx` -/
def rebindCertificates (expiresAt now : Time) : Except Err Tables :=
  if !Tunnel.validIdentifier accountID || !Tunnel.validIdentifier previewID || previous == 0 || generation == 0 ||
      previous == generation || expiresAt.isZero || !expiresAt.after now then
    .error (.certificate (.ofSentinel .invalid))
  else
    .ok { s with
      records := s.records.update (s.rebinds accountID previewID previous generation now)
        (·.rebind generation expiresAt now) fun r => r.rebind_id _ _ _ }

def ownedRecord (r : Tunnel.StoredCertificate) : Bool :=
  r.accountID == accountID && r.targetKind == .previewLease && r.previewID == previewID &&
    (r.state == .staged || r.state == .active)

/-- `RevokePreviewCertificatesTx` with the reason `preview_lease_terminal`. -/
def revokeCertificates : Except Err Tables :=
  if !Tunnel.validIdentifier accountID || !Tunnel.validIdentifier previewID || now.isZero then
    .error (.certificate (.ofSentinel .invalid))
  else
    .ok { s with
      records := s.records.update (ownedRecord accountID previewID)
        (·.mark .revoked "preview_lease_terminal" now) fun r => r.mark_id _ _ _ }

/-! ## Operations -/

/-- `GetPreviewTunnelOperationByIdempotency` -/
def operation? (accountID idempotencyKey : String) : Option Operation :=
  s.operations.rows.find? fun o => o.accountID == accountID && o.idempotencyKey == idempotencyKey

def insertOperation (o : Operation) : Except Err Tables :=
  match s.operations.insert o with
  | some operations => .ok { s with operations }
  | none => .error .uniqueViolation

/-- `preview_lease_create_operation_relation_v1`, where nothing is done on a conflict. -/
def relateCreate (o : Operation) : Tables :=
  match o.operationType, o.resourceID with
  | .previewCreate, some previewID =>
    if (s.lease? o.accountID previewID).isSome ∧
        ¬s.createOperations.rows.any fun c => c.accountID == o.accountID && c.operationID == o.id then
      match s.createOperations.insert ⟨o.accountID, previewID, o.id⟩ with
      | some createOperations => { s with createOperations }
      | none => s
    else s
  | _, _ => s

/-- `CompletePreviewTunnelOperation`, with the trigger behind it. -/
def completeOperation (id resourceID : String) (state : OperationState) : Except Err Tables :=
  match s.operations.find id with
  | some o =>
    if o.state.open then
      .ok (Tables.relateCreate
        { s with operations := s.operations.update (·.id == id) (·.complete resourceID state) fun _ => rfl }
        (o.complete resourceID state))
    else .error .notFound
  | none => .error .notFound

def settleCreateOperation (settles : OperationState → Bool) (state : OperationState) : Tables :=
  match s.createOperations.find (accountID, previewID) with
  | some c =>
    { s with
      operations := s.operations.update
        (fun o => o.id == c.operationID && o.accountID == accountID && o.operationType == .previewCreate &&
          o.resourceID == some previewID && settles o.state)
        (·.setState state) fun o => o.setState_id _ }
  | none => s

end Tables

end Paperboat.Previews

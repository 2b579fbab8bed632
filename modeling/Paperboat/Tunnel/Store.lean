import Paperboat.Tunnel.Edges
/-!
# The tables behind certificates

Records of certificates, durable domains, preview domains with their lease and
issuance locks. A time is kept to the microsecond. A statement is a function on the tables, with its guards in the order of
its `WHERE` clause; a transaction that fails leaves the tables as they were.
-/

namespace Paperboat.Tunnel

open Lib StoredCertificate

/-! ## Rows -/

inductive CertificateStrategy where
  | managed | providedReference | onDemandLeaf | none
  deriving DecidableEq

inductive CertificateState where
  | pending | issuing | ready | renewing | failed | expired | revoked | notApplicable
  deriving DecidableEq

/-- A row of `tunnel_domains`. -/
structure DomainRow where
  (id accountID tunnelID : String)
  ownershipState : OwnershipState
  /-- `conflict_state = 'clear'` -/
  (clear deleted : Bool)
  generation : Nat

/-- A row of `preview_domains` with its lease. -/
structure PreviewRow where
  (id accountID previewID : String)
  previewGeneration : Nat
  hostname : String
  generation : Nat
  ownershipState : OwnershipState
  (clear deleted : Bool)
  certificateState : CertificateState
  certificateReference : String
  leaseGeneration : Nat
  leaseActive : Bool
  leaseDeadline : Time
  userDeadline : Option Time

def PreviewRow.live (p : PreviewRow) (now : Time) : Bool :=
  p.ownershipState == .verified && p.clear && !p.deleted && p.leaseGeneration == p.previewGeneration && p.leaseActive &&
    p.leaseDeadline.after now && p.userDeadline.all (·.after now)

/-- The certificate of a preview domain is published; the query does not look at `deleted_at`. -/
def PreviewRow.ready (p : PreviewRow) (now : Time) : Bool :=
  p.ownershipState == .verified && p.clear && p.certificateState == .ready && p.certificateReference != "" &&
    p.leaseGeneration == p.previewGeneration && p.leaseActive && p.leaseDeadline.after now &&
    p.userDeadline.all (·.after now)

structure IssuanceLock where
  (domainID ownerID : String)
  domainGeneration : Nat
  leaseUntil : Time

def IssuanceLock.row (lock : IssuanceLock) : IssuanceLock := { lock with leaseUntil := lock.leaseUntil.stored }

def IssuanceLock.takeOver (lock held : IssuanceLock) : IssuanceLock := { lock with domainID := held.domainID }

variable (r : StoredCertificate)

def StoredCertificate.mark (state : State) (failureCode : String) (now : Time) : StoredCertificate :=
  { r with state, failureCode, updatedAt := now.stored }

theorem StoredCertificate.mark_id (state : State) (failureCode : String) (now : Time) :
    (r.mark state failureCode now).id = r.id := rfl

def StoredCertificate.rebind (previewGeneration : Nat) (expiresAt now : Time) : StoredCertificate :=
  { r with previewGeneration, previewState := .active, previewExpiresAt := expiresAt.stored, updatedAt := now.stored }

theorem StoredCertificate.rebind_id (previewGeneration : Nat) (expiresAt now : Time) :
    (r.rebind previewGeneration expiresAt now).id = r.id := rfl

abbrev RecordTable := Table StoredCertificate.id

structure Tables where
  domains : Table DomainRow.id
  previews : Table PreviewRow.id
  records : RecordTable
  edges : EdgeTable
  locks : Table IssuanceLock.domainID
  /-- The ids of `tunnel_platform_certificate_targets`. -/
  platforms : List String

def uniqueViolation : Err := ⟨[], "duplicate key value violates unique constraint"⟩

def lockTargetMissing : Err := ⟨[], "certificate issuance lock target does not exist"⟩

def checkViolation : Err := ⟨[], "new row violates check constraint"⟩

/-! ## Records -/

namespace RecordTable

def newest (t : RecordTable) (selected : StoredCertificate → Bool) : Option StoredCertificate :=
  (t.rows.filter selected).foldl
    (fun best r => match best with
      | none => some r
      | some b => if b.certificateGeneration < r.certificateGeneration then some r else some b) none

def supersede (t : RecordTable) (selected : StoredCertificate → Bool) (generation : Nat) (now : Time) : RecordTable :=
  t.update
    (fun r => selected r && decide (r.certificateGeneration < generation) && (r.state == .active || r.state == .staged))
    (fun r => r.mark .superseded r.failureCode now) fun r => r.mark_id _ _ _

end RecordTable

namespace StoredCertificate

def ofDomain (domainID : String) (r : StoredCertificate) : Bool :=
  r.domainID == domainID && r.targetKind == .durableRoute && r.leafHostname == ""

def ofLeaf (domainID hostname : String) (r : StoredCertificate) : Bool :=
  r.domainID == domainID && r.hostname == hostname && r.leafHostname == hostname

def ofPreview (domainID previewID leaf : String) (r : StoredCertificate) : Bool :=
  r.domainID == domainID && r.targetKind == .previewLease && r.previewID == previewID && r.leafHostname == leaf &&
    (leaf == "" || r.hostname == leaf)

/-- What `PutStaged` writes; an empty ciphertext is replaced by the envelope, which is not stored. -/
def stagedRow (v : StoredCertificate) : StoredCertificate :=
  let certificateCiphertext := if v.certificateCiphertext.isEmpty then v.envelope else v.certificateCiphertext
  { v with
    state := .staged
    certificateCiphertext
    privateKeyCiphertext := if v.privateKeyCiphertext.isEmpty then v.envelope else v.privateKeyCiphertext
    envelope := certificateCiphertext
    failureCode := ""
    updatedAt := v.updatedAt.stored }

def durableRow (v : StoredCertificate) : StoredCertificate :=
  { v.stagedRow with
    targetKind := .durableRoute
    previewID := ""
    previewGeneration := 0
    previewState := .unset
    previewExpiresAt := Time.zero }

def previewRow (v : StoredCertificate) : StoredCertificate :=
  { v.stagedRow with targetKind := .previewLease, tunnelID := "", routeID := "", previewState := .active }

def checks (r : StoredCertificate) : Bool :=
  r.expiresAt.after r.notBefore && r.renewalAt.before r.expiresAt && 29 ≤ r.certificateCiphertext.length &&
    r.certificateCiphertext.length ≤ 16777216 && 29 ≤ r.privateKeyCiphertext.length &&
    r.privateKeyCiphertext.length ≤ 16777216

/-- `ON CONFLICT (id) DO UPDATE ... WHERE`: the same certificate, staged again. -/
def sameAttempt (r v : StoredCertificate) : Bool :=
  (r.state == .staged || r.state == .failed) && r.domainID == v.domainID && r.accountID == v.accountID &&
    r.tunnelID == v.tunnelID && r.targetKind == v.targetKind && r.routeID == v.routeID && r.previewID == v.previewID &&
    r.previewGeneration == v.previewGeneration && r.hostname == v.hostname && r.leafHostname == v.leafHostname &&
    r.domainGeneration == v.domainGeneration && r.certificateGeneration == v.certificateGeneration &&
    r.fingerprint == v.fingerprint

end StoredCertificate

namespace Tables

/-! ## Lookups -/

variable (w : Tables) (r : StoredCertificate) (names : Names) (domainID : String)

/-- `GetActiveTunnelCertificateV1` -/
def current : Option StoredCertificate :=
  w.records.newest fun r => r.ofDomain domainID && r.state == .active

/-- `GetActiveTunnelCertificateByHostnameV1` -/
def currentForHostname (domainID hostname : String) : Option StoredCertificate :=
  w.records.newest fun r => r.ofLeaf domainID hostname && r.targetKind == .durableRoute && r.state == .active

/-- The active rows of a preview domain whose lease runs. In the renewal gap a row may still have
an older generation of the lease, and then it may not be expired. -/
def previewCandidate (rebind : Bool) (accountID domainID previewID leaf : String) (now : Time)
    (r : StoredCertificate) : Bool :=
  match w.previews.find domainID with
  | none => false
  | some p =>
    p.accountID == r.accountID && p.previewID == r.previewID && p.live now && r.accountID == accountID &&
      r.ofPreview domainID previewID leaf && r.state == .active &&
      if rebind then r.expiresAt.after now else r.previewGeneration == p.previewGeneration

/-- `GetActivePreviewTunnelCertificateV1` and its form for a leaf. -/
def currentPreview (accountID domainID previewID leaf : String) (now : Time) : Option StoredCertificate :=
  w.records.newest (w.previewCandidate false accountID domainID previewID leaf now)

/-- `GetActivePreviewTunnelCertificateForRebindV1` and its form for a leaf: the newest lease first. -/
def currentPreviewForRebind (accountID domainID previewID leaf : String) (now : Time) : Option StoredCertificate :=
  let candidates := w.previewCandidate true accountID domainID previewID leaf now
  let newestLease := ((w.records.rows.filter candidates).map (·.previewGeneration)).foldl max 0
  w.records.newest fun r => candidates r && r.previewGeneration == newestLease

/-! ## Staging -/

/-- The insertion of `Create...CertificateRecordV1`, once the domain was found. -/
def insertRecord (v : StoredCertificate) : Except Err Tables :=
  if !v.checks then .error checkViolation
  else
    match w.records.find v.id with
    | some r =>
      if r.sameAttempt v then
        .ok { w with
          records := w.records.update (·.id == v.id)
            (·.mark .staged "" v.updatedAt) fun r => r.mark_id _ _ _ }
      else .error (.ofSentinel .generationConflict)
    | none =>
      -- `tunnel_certificate_records_domain_hostname_generation`
      if w.records.rows.any fun r => r.domainID = v.domainID ∧ r.hostname = v.hostname ∧
          r.certificateGeneration = v.certificateGeneration then .error uniqueViolation
      else
        match w.records.insert v with
        | some records => .ok { w with records }
        | none => .error uniqueViolation

def putStaged (v : StoredCertificate) : Except Err Tables := do
  putStagedChecks names v
  if v.target.normalizedKind = .previewLease then
    match w.previews.find v.domainID with
    | some p =>
      if p.accountID = v.accountID ∧ p.previewID = v.previewID ∧ p.previewGeneration = v.previewGeneration ∧
          p.generation = v.domainGeneration ∧ p.live v.updatedAt then w.insertRecord v.previewRow
      else .error (.ofSentinel .generationConflict)
    | none => .error (.ofSentinel .generationConflict)
  else
    match w.domains.find v.domainID with
    | some d =>
      if d.accountID = v.accountID ∧ d.tunnelID = v.tunnelID ∧ d.generation = v.domainGeneration ∧
          d.ownershipState = .verified ∧ d.clear ∧ !d.deleted then w.insertRecord v.durableRow
      else .error (.ofSentinel .generationConflict)
    | none => .error (.ofSentinel .generationConflict)

def markFailed (id reason : String) (now : Time) : Except Err Tables :=
  if !validIdentifier id || reason == "" then .error (.ofSentinel .invalid)
  else
    match w.records.find id with
    | some r =>
      if r.state = .staged then
        .ok { w with
          records := w.records.update (·.id == id) (·.mark .failed reason now) fun r => r.mark_id _ _ _ }
      else .error (.ofSentinel .generationConflict)
    | none => .error (.ofSentinel .generationConflict)

/-! ## Activation -/

/-- The rows a record replaces when it becomes active, if its target may have any. -/
def replaces : Option (StoredCertificate → Bool) :=
  match r.targetKind with
  | .previewLease =>
    if r.previewID = "" ∨ r.previewGeneration = 0 then none
    else some fun s => s.ofPreview r.domainID r.previewID r.leafHostname && s.previewGeneration == r.previewGeneration &&
      s.hostname == r.hostname
  | .durableRoute =>
    if r.leafHostname = "" then some (ofDomain r.domainID)
    else some (ofLeaf r.domainID r.leafHostname)
  | _ => none

def activatable (domainGeneration : Nat) (now : Time) : Bool :=
  match r.targetKind with
  | .durableRoute =>
    match w.domains.find r.domainID with
    | some d => d.accountID = r.accountID ∧ d.tunnelID = r.tunnelID ∧ d.generation = domainGeneration ∧ !d.deleted
    | none => false
  | .previewLease =>
    match w.previews.find r.domainID with
    | some p => p.accountID = r.accountID ∧ p.previewID = r.previewID ∧ p.generation = domainGeneration ∧
        p.previewGeneration = r.previewGeneration ∧ p.live now
    | none => false
  | _ => false

def activate (id : String) (domainGeneration : Nat) (now : Time) : Except Err (StoredCertificate × Tables) := do
  refuseIf (!validIdentifier id || domainGeneration == 0) (.ofSentinel .invalid)
  match w.records.find id with
  | none => .error (.ofSentinel .generationConflict)
  | some r => do
    refuseIf (r.domainID == "" || r.accountID == "" || r.certificateGeneration == 0 || r.hostname == "")
      (.ofSentinel .generationConflict)
    match replaces r with
    | none => .error (.ofSentinel .generationConflict)
    | some older => do
      let records := w.records.supersede older r.certificateGeneration now
      refuseIf (!(r.domainGeneration == domainGeneration && r.state == .staged && w.activatable r domainGeneration now))
        (.ofSentinel .generationConflict)
      refuseIf (records.rows.any fun s => s.state = .active ∧ s.hostname = r.hostname ∧
        (s.domainID = r.domainID ∨ s.targetKind = .previewLease ∧ r.targetKind = .previewLease ∧ s.previewID = r.previewID))
        uniqueViolation
      .ok (r.mark .active "" now, { w with
        records := records.update (·.id == id) (·.mark .active "" now) fun r => r.mark_id _ _ _ })

def supersedeOlder (generation : Nat) (now : Time) : Except Err Tables :=
  if !validIdentifier domainID || generation == 0 then .error (.ofSentinel .invalid)
  else .ok { w with records := w.records.supersede (ofDomain domainID) generation now }

def supersedeOlderForHostname (domainID hostname : String) (generation : Nat) (now : Time) : Except Err Tables :=
  if !validIdentifier domainID || generation == 0 then .error (.ofSentinel .invalid)
  else
    match normalizeHostname names hostname with
    | .ok (host, false) => .ok { w with records := w.records.supersede (ofLeaf domainID host) generation now }
    | _ => .error (.ofSentinel .invalid)

/-! ## Locks -/

/-- `AcquireTunnelCertificateIssuanceLockV1`: a lock is taken over when it ran out or is one's own, and not for an
older generation. A trigger wants its target to exist. -/
def acquire (lock : IssuanceLock) (now : Time) : Except Err (Option Tables) := do
  refuseIf ((w.domains.find lock.domainID).isNone && (w.previews.find lock.domainID).isNone &&
    !w.platforms.contains lock.domainID) lockTargetMissing
  refuseIf (!lock.row.leaseUntil.after now.stored) checkViolation
  .ok <| match w.locks.find lock.domainID with
    | none => (w.locks.insert lock.row).map fun locks => { w with locks }
    | some held =>
      if (!held.leaseUntil.after now.stored ∨ held.ownerID = lock.ownerID) ∧
          held.domainGeneration ≤ lock.domainGeneration then
        some { w with
          locks := w.locks.update (·.domainID == lock.domainID) lock.row.takeOver fun _ => rfl }
      else none

/-- `ReleaseTunnelCertificateIssuanceLockGenerationV1` -/
def releaseGeneration (domainID ownerID : String) (domainGeneration : Nat) : Tables :=
  { w with
    locks := ⟨w.locks.rows.filter fun l => !(l.domainID == domainID && l.ownerID == ownerID &&
      l.domainGeneration == domainGeneration), w.locks.keys.sublist (List.filter_sublist.map _)⟩ }

/-! ## Edges -/

/-- `StageTunnelCertificateEdgeV1`, for a record of the tables. -/
def stageEdge (certificate : StoredCertificate) (target : EdgeTarget) (now : Time) : Option Tables :=
  let platform := w.records.rows.any fun r => r.id == certificate.id && r.targetKind == .platformWildcard
  (w.edges.stage platform certificate.id target certificate.certificateGeneration now).map fun edges => { w with edges }

/-- `MarkTunnelCertificateEdgeStateV1` -/
def markEdge (certificate : StoredCertificate) (target : EdgeTarget) (state : EdgeState) (now : Time) : Option Tables :=
  (w.edges.mark certificate.id target certificate.certificateGeneration state now).map fun edges => { w with edges }

/-! ## The target of a preview certificate -/

/-- `SQLStore.RebindPreviewCertificateTarget`: the certificate moves to the current lease. -/
def rebindPreviewCertificateTarget (certificateID accountID domainID previewID : String)
    (previousGeneration previewGeneration : Nat) (expiresAt now : Time) : Except Err (StoredCertificate × Tables) := do
  refuseIf (!validIdentifier certificateID || !validIdentifier accountID || !validIdentifier domainID ||
    !validIdentifier previewID || previousGeneration == 0 || previewGeneration == 0 ||
    previousGeneration == previewGeneration || expiresAt.isZero || !expiresAt.after now) (.ofSentinel .invalid)
  match w.records.find certificateID, w.previews.find domainID with
  | some r, some p =>
    if r.domainID = domainID ∧ r.accountID = accountID ∧ r.targetKind = .previewLease ∧ r.previewID = previewID ∧
        r.previewGeneration = previousGeneration ∧ (r.state = .active ∨ r.state = .staged) ∧
        p.accountID = accountID ∧ p.previewID = previewID ∧ p.previewGeneration = previewGeneration ∧ p.live now then
      .ok (r.rebind previewGeneration expiresAt now, { w with
        records := w.records.update (·.id == certificateID) (·.rebind previewGeneration expiresAt now)
          fun r => r.rebind_id _ _ _ })
    else .error (.ofSentinel .generationConflict)
  | _, _ => .error (.ofSentinel .generationConflict)

def publishedFor (p : PreviewRow) (certificateGeneration : Nat) (now : Time) (r : StoredCertificate) : Bool :=
  r.domainID = p.id ∧ r.accountID = p.accountID ∧ r.targetKind = .previewLease ∧ r.previewID = p.previewID ∧
    r.previewGeneration = p.previewGeneration ∧ r.certificateReference = p.certificateReference ∧
    r.certificateGeneration = certificateGeneration ∧ r.state = .active ∧ r.expiresAt.after now

def acknowledgedBy (edge : EdgeTarget) (e : EdgeRow) : Bool :=
  e.certificateID = r.id ∧ e.target = edge ∧ e.observedGeneration = r.certificateGeneration ∧ e.state = .active ∧
    !e.updatedAt.before r.updatedAt

def previewCertificateReady (accountID domainID previewID hostname : String)
    (previewGeneration domainGeneration certificateGeneration : Nat) (edge : EdgeTarget) (now : Time) :
    Except Err Bool := do
  refuseIf (!validIdentifier accountID || !validIdentifier domainID || !validIdentifier previewID ||
    previewGeneration == 0 || domainGeneration == 0 || certificateGeneration == 0) (.ofSentinel .invalid)
  match normalizeHostname names hostname with
  | .error _ => .error (.ofSentinel .invalid)
  | .ok (host, _) => do
    refuseIf (host != hostname) (.ofSentinel .invalid)
    edge.validate
    .ok <| match w.previews.find domainID with
      | none => false
      | some p =>
        p.accountID = accountID ∧ p.previewID = previewID ∧ p.previewGeneration = previewGeneration ∧
          p.generation = domainGeneration ∧ p.hostname = hostname ∧ p.ready now ∧
          w.records.rows.any fun r => publishedFor p certificateGeneration now r &&
            w.edges.rows.any (acknowledgedBy r edge)

end Tables

end Paperboat.Tunnel

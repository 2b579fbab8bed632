import Paperboat.Connector.Activation
import Paperboat.Connector.RotationResume
/-!
# The durable records of a rotation

The table `tunnel_connector_rotation_targets` and the store's calls on it from
readiness to the result, and the recovery of a rotation from its rows. Each call
is one transaction: it locks the row of its target, checks it and updates it. A
column that may be NULL is an `Option`; generations are stored as signed 64-bit
integers. What the statements on other tables answer is an argument.

Readiness binds a row to the replacement session; the revocation is first sent to
that session, and `RebindCredentialRotationRevoke` moves it to a newer one.
-/

namespace Paperboat.Connector

open Lib

namespace Err

def staleProcess : Err := .text "connector process generation is stale"
def operationNotFound : Err := .text "connector operation is not available"
def contentHashMismatch : Err := sentinel .contentHashMismatch
def checkViolation : Err := .text "row violates a check constraint"

end Err

/-! ## Rows -/

structure RotationKey where
  (operationID accountID tunnelID connectorID : String)
  deriving DecidableEq

def RotationKey.primary (key : RotationKey) : String × String := (key.operationID, key.connectorID)

def RotationEnvelope.key (e : RotationEnvelope) : RotationKey := ⟨e.operationID, e.accountID, e.tunnelID, e.connectorID⟩

def RotationPlan.key (plan : RotationPlan) (connectorID : String) : RotationKey :=
  ⟨plan.operationID, plan.accountID, plan.tunnelID, connectorID⟩

structure SQLRotationTarget extends RotationKey where
  (hostID targetSetHash : String)
  (oldGeneration newGeneration : Int64)
  state : RotationTargetState
  (oldIdentityKeyID oldIdentityKeyThumbprint challengeNonce : Option String)
  (challengeIssuedAt challengeExpiresAt overlapUntil newCredentialValidUntil : Option Time)
  proofSessionID : Option String
  proofProcessGeneration : Option Int64
  (newIdentityKeyID newIdentityKeyThumbprint : Option String)
  newPublicKey : Option Bytes
  (newCredentialReference replacementSessionID : Option String)
  (replacementProcessGeneration configGeneration : Option Int64)
  configContentHash : Option Bytes
  (edgeReady routeReady originReady : Option Bool)
  readyAt : Option Time
  (revokeNonce revokeSessionID : Option String)
  revokeProcessGeneration : Option Int64
  (revokeIssuedAt revokeDeadline revokedAt : Option Time)
  failureCode : Option Code
  deriving DecidableEq

def rotationTime : Option Time → Time
  | none => .zero
  | some t => t.utc

def rotationString (value : Option String) : String := value.getD ""

def rotationUint : Option Int64 → UInt64
  | none => 0
  | some n => if n ≤ 0 then 0 else n.toUInt64

def rotationBool (value : Option Bool) : Bool := value.getD false

def hexDigits : List Char := "0123456789abcdef".toList

def hexEncode (bytes : Bytes) : String :=
  String.ofList (bytes.flatMap fun b => [hexDigits.getD (b.toNat / 16) '0', hexDigits.getD (b.toNat % 16) '0'])

namespace SQLRotationTarget

variable (row : SQLRotationTarget)

/-- `rotationTargetFromSQL`. -/
def target : Except Err RotationTarget :=
  if row.oldGeneration ≤ 0 || row.newGeneration ≤ 0 || row.oldGeneration.toUInt64 > 9223372036854775807 ||
      row.newGeneration.toUInt64 > 9223372036854775807 then .error .invalidInput
  else
    let result : RotationTarget := ⟨row.connectorID, row.hostID, row.oldGeneration.toUInt64, row.newGeneration.toUInt64⟩
    match result.validate with
    | some err => .error err
    | none => .ok result

def envelope (item : RotationTarget) (sessionID : String) (processGeneration : UInt64) : RotationEnvelope where
  accountID := row.accountID
  tunnelID := row.tunnelID
  operationID := row.operationID
  connectorID := row.connectorID
  hostID := row.hostID
  sessionID := sessionID
  processGeneration := processGeneration
  targetSetHash := row.targetSetHash
  oldCredentialGeneration := item.oldCredentialGeneration
  newCredentialGeneration := item.newCredentialGeneration

def challenge (item : RotationTarget) : Except Err CredentialRotationChallenge :=
  let result : CredentialRotationChallenge :=
    { toRotationEnvelope := row.envelope item (rotationString row.proofSessionID) (rotationUint row.proofProcessGeneration)
      target := item
      oldIdentityKeyID := rotationString row.oldIdentityKeyID
      oldIdentityKeyThumbprint := rotationString row.oldIdentityKeyThumbprint
      challengeNonce := rotationString row.challengeNonce
      issuedAt := rotationTime row.challengeIssuedAt
      expiresAt := rotationTime row.challengeExpiresAt
      overlapUntil := rotationTime row.overlapUntil
      newCredentialValidUntil := rotationTime row.newCredentialValidUntil }
  if result.sessionID == "" then .error .operationNotFound else .ok result

def recoveredChallenge (item : RotationTarget) : Except Err CredentialRotationChallenge :=
  if row.proofSessionID.isSome then row.challenge item else .ok .empty

def install (rules : RotationRules) (item : RotationTarget) : CredentialRotationInstall where
  toRotationEnvelope := row.envelope item (rotationString row.proofSessionID) (rotationUint row.proofProcessGeneration)
  newIdentityKeyID := rotationString row.newIdentityKeyID
  newIdentityKeyThumbprint := rotationString row.newIdentityKeyThumbprint
  newPublicKey := rules.encodeBase64 (row.newPublicKey.getD [])
  newCredentialReference := rotationString row.newCredentialReference
  challengeNonce := rotationString row.challengeNonce
  overlapUntil := rotationTime row.overlapUntil
  newCredentialValidUntil := rotationTime row.newCredentialValidUntil
  replacementProcessGeneration := rotationUint row.proofProcessGeneration + 1

def ready (rules : RotationRules) (item : RotationTarget) : CredentialRotationReady where
  toRotationEnvelope :=
    row.envelope item (rotationString row.replacementSessionID) (rotationUint row.replacementProcessGeneration)
  previousSessionID := rotationString row.proofSessionID
  newIdentityKeyID := rotationString row.newIdentityKeyID
  newIdentityKeyThumbprint := rotationString row.newIdentityKeyThumbprint
  newPublicKey := rules.encodeBase64 (row.newPublicKey.getD [])
  newCredentialReference := rotationString row.newCredentialReference
  newCredentialValidUntil := rotationTime row.newCredentialValidUntil
  configGeneration := rotationUint row.configGeneration
  configContentHash := "sha256:" ++ hexEncode (row.configContentHash.getD [])
  edgeReady := rotationBool row.edgeReady
  routeReady := rotationBool row.routeReady
  originReady := rotationBool row.originReady
  readyAt := rotationTime row.readyAt

def revoke (item : RotationTarget) : CredentialRotationRevoke where
  toRotationEnvelope := row.envelope item (rotationString row.revokeSessionID) (rotationUint row.revokeProcessGeneration)
  revokeNonce := rotationString row.revokeNonce
  issuedAt := rotationTime row.revokeIssuedAt
  deadline := rotationTime row.revokeDeadline

def hasInstall : Bool :=
  row.state == .installed || row.state == .ready || row.state == .revoking || row.state == .revoked

def hasReady : Bool := row.state == .ready || row.state == .revoking || row.state == .revoked

def hasRevoke : Bool := row.state == .revoking || row.state == .revoked

/-- The check constraints on the columns that the calls below write. -/
def allowed : Bool :=
  row.replacementProcessGeneration.all (fun n => 0 < n) && row.revokeProcessGeneration.all (fun n => 0 < n) &&
    row.configGeneration.all (fun n => 0 < n) && row.configContentHash.all (fun hash => hash.length == 32) &&
    validRotationTargetState row.state &&
    (!row.hasInstall || (row.newPublicKey.isSome && row.newCredentialReference.isSome && row.newCredentialValidUntil.isSome)) &&
    (!row.hasReady || (row.replacementSessionID.isSome && row.replacementProcessGeneration.isSome &&
      row.configGeneration.isSome && row.configContentHash.isSome && rotationBool row.edgeReady &&
      rotationBool row.routeReady && rotationBool row.originReady && row.readyAt.isSome)) &&
    (!row.hasRevoke || (row.revokeNonce.isSome && row.revokeSessionID.isSome && row.revokeProcessGeneration.isSome &&
      row.revokeDeadline.isSome)) &&
    ((row.state == .revoked) == row.revokedAt.isSome) && ((row.state == .failed) == row.failureCode.isSome)

end SQLRotationTarget

def rotationResumeTarget (rules : RotationRules) (row : SQLRotationTarget) : Except Err RotationResumeTarget := do
  let item ← row.target
  let challenge ← row.recoveredChallenge item
  return {
    target := item
    state := row.state
    code := row.failureCode.getD .empty
    overlapUntil := rotationTime row.overlapUntil
    newCredentialValidUntil := rotationTime row.newCredentialValidUntil
    challenge := challenge
    proof := .empty
    install := if row.hasInstall then row.install rules item else .empty
    ready := if row.hasReady then row.ready rules item else .empty
    revoke := if row.hasRevoke then row.revoke item else .empty }

/-! ## The table -/

def SQLRotationTarget.primaryKey (row : SQLRotationTarget) : String × String := row.toRotationKey.primary

abbrev RotationTable := Table SQLRotationTarget.primaryKey

namespace RotationTable

variable (table : RotationTable)

def loadRotationTarget (key : RotationKey) (err : Option Err) : Except Err SQLRotationTarget :=
  match err, (table.find key.primary).filter fun row => row.toRotationKey == key with
  | some err, _ => .error err
  | none, none => .error .operationNotFound
  | none, some row => .ok row

def operation (operationID accountID tunnelID : String) : List SQLRotationTarget :=
  table.rows.filter fun row => row.operationID == operationID && row.accountID == accountID && row.tunnelID == tunnelID

def updateTarget (key : RotationKey) (selected : SQLRotationTarget → Bool) (change : SQLRotationTarget → SQLRotationTarget)
    (keeps : ∀ row, (change row).primaryKey = row.primaryKey) (err : Option Err) : Except Err RotationTable := do
  let chosen := fun row : SQLRotationTarget => row.toRotationKey == key && selected row
  failWith err
  refuseIf (table.rows.any fun row => chosen row && !(change row).allowed) .checkViolation
  refuseIf (table.rows.countP chosen != 1) .staleProcess
  return table.update chosen change keeps

end RotationTable

def affectsOne (answer : Except Err Nat) : Except Err Unit := do
  let rows ← answer
  refuseIf (rows != 1) .staleProcess

/-! ## Readiness -/

structure ReadySession where
  (accountID hostID state : String)
  (credentialGeneration processGeneration : Int64)

structure RotationReadyAnswers where
  loadErr : Option Err
  session : Answer ReadySession
  generationHash : Except Err Bytes
  (oldCredential newCredential : Except Err Nat)
  targetErr : Option Err
  (sessionUpdate connectorUpdate : Except Err Nat)
  (auditErr commitErr : Option Err)

variable (rules : RotationRules) (db : Database) (table : RotationTable) (now : Time) (row : SQLRotationTarget)
  (ack : CredentialRotationAck)

def SQLRotationTarget.installedFor (item : RotationTarget) (ready : CredentialRotationReady) : Bool :=
  row.state == .installed && row.hostID == ready.hostID &&
    item.oldCredentialGeneration == ready.oldCredentialGeneration &&
    item.newCredentialGeneration == ready.newCredentialGeneration && row.targetSetHash == ready.targetSetHash &&
    decide (rotationUint row.proofProcessGeneration + 1 ≤ ready.processGeneration) &&
    rotationString row.newIdentityKeyID == ready.newIdentityKeyID &&
    rotationString row.newIdentityKeyThumbprint == ready.newIdentityKeyThumbprint &&
    rotationString row.newCredentialReference == ready.newCredentialReference &&
    row.newPublicKey.getD [] == (decodeRotationPublicKey rules ready.newPublicKey).getD [] &&
    (rotationTime row.newCredentialValidUntil).equal ready.newCredentialValidUntil

def ReadySession.check (answer : Answer ReadySession) (ready : CredentialRotationReady) : Except Err Unit :=
  match answer with
  | .error err => .error err
  | .ok none => .error .sessionNotFound
  | .ok (some session) =>
    refuseIf (session.accountID != ready.accountID || session.hostID != ready.hostID || session.state == "" ||
      session.credentialGeneration != ready.newCredentialGeneration.toInt64 ||
      session.processGeneration != ready.processGeneration.toInt64) .identityMismatch

def Database.stored (t : Time) : Time := ⟨db.tick t * db.resolution, 0⟩

def SQLRotationTarget.setReady (ready : CredentialRotationReady) (storedHash : Bytes)
    (row : SQLRotationTarget) : SQLRotationTarget :=
  { row with
    state := .ready
    replacementSessionID := some ready.sessionID
    replacementProcessGeneration := some ready.processGeneration.toInt64
    configGeneration := some ready.configGeneration.toInt64
    configContentHash := some storedHash
    edgeReady := some true
    routeReady := some true
    originReady := some true
    readyAt := some (db.stored ready.readyAt) }

def RotationTable.recordCredentialRotationReady
    (ready : CredentialRotationReady) (answers : RotationReadyAnswers) : Except Err RotationTable := do
  failWith (ready.validate rules now)
  let row ← table.loadRotationTarget ready.key answers.loadErr
  let item ← row.target
  refuseIf (!row.installedFor rules item ready) .identityMismatch
  refuseIf (!row.overlapUntil.any fun deadline => deadline.after now) .credentialExpired
  ReadySession.check answers.session ready
  let storedHash ← answers.generationHash
  refuseIf (!configHashMatches storedHash ready.configContentHash) .configHashCorrupt
  affectsOne answers.oldCredential
  affectsOne answers.newCredential
  let table' ← table.updateTarget ready.key (fun row => row.state == .installed)
    (SQLRotationTarget.setReady db ready storedHash) (fun _ => rfl) answers.targetErr
  affectsOne answers.sessionUpdate
  affectsOne answers.connectorUpdate
  failWith answers.auditErr
  failWith answers.commitErr
  return table'

/-! ## Revocation -/

structure RotationAnswers where
  (loadErr countErr updateErr auditErr commitErr : Option Err)

def SQLRotationTarget.revocableBy (item : RotationTarget) (revoke : CredentialRotationRevoke) : Bool :=
  row.hostID == revoke.hostID && row.targetSetHash == revoke.targetSetHash &&
    item.oldCredentialGeneration == revoke.oldCredentialGeneration &&
    item.newCredentialGeneration == revoke.newCredentialGeneration &&
    rotationString row.replacementSessionID == revoke.sessionID &&
    rotationUint row.replacementProcessGeneration == revoke.processGeneration

def SQLRotationTarget.revokedBy (revoke : CredentialRotationRevoke) : Bool :=
  rotationString row.revokeNonce == revoke.revokeNonce && rotationString row.revokeSessionID == revoke.sessionID &&
    rotationUint row.revokeProcessGeneration == revoke.processGeneration &&
    (rotationTime row.revokeDeadline).equal revoke.deadline

def SQLRotationTarget.bindRevoke (revoke : CredentialRotationRevoke) (row : SQLRotationTarget) : SQLRotationTarget :=
  { row with
    revokeNonce := some revoke.revokeNonce
    revokeSessionID := some revoke.sessionID
    revokeProcessGeneration := some revoke.processGeneration.toInt64
    revokeIssuedAt := some (db.stored revoke.issuedAt)
    revokeDeadline := some (db.stored revoke.deadline) }

def RotationTable.recordCredentialRotationRevoke
    (revoke : CredentialRotationRevoke) (answers : RotationAnswers) : Except Err RotationTable := do
  failWith (revoke.validate now)
  let row ← table.loadRotationTarget revoke.key answers.loadErr
  let item ← row.target
  refuseIf (!row.revocableBy item revoke) .identityMismatch
  if row.state = .revoking then
    refuseIf (!row.revokedBy revoke) .durableReplay
    failWith answers.commitErr
    return table
  else
    refuseIf (row.state != .ready) .staleProcess
    failWith answers.countErr
    refuseIf (!(table.operation revoke.operationID revoke.accountID revoke.tunnelID).all SQLRotationTarget.hasReady)
      (codeError .credentialRotationNotReady .credentialRotation true none)
    let table' ← table.updateTarget revoke.key (fun row => row.state == .ready)
      (fun row => { row.bindRevoke db revoke with state := .revoking }) (fun _ => rfl) answers.updateErr
    failWith answers.auditErr
    failWith answers.commitErr
    return table'

/-! ## Rebinding -/

structure RecoverySession where
  (accountID hostID : String)
  credentialGeneration : Int64
  capabilities : List String

def authorizeRotationRecoverySession (plan : RotationPlan) (target : RotationTarget) (ref : SessionRef)
    (credentialGeneration : UInt64) (answer : Answer RecoverySession) : Except Err Unit :=
  if (plan.validate rules).isSome || target.validate.isSome || ref.validate.isSome || ref.tunnelID != plan.tunnelID ||
      ref.connectorID != target.connectorID || credentialGeneration == 0 then .error .invalidInput
  else match answer with
  | .error err => .error err
  | .ok none => .error .sessionNotFound
  | .ok (some session) =>
    refuseIf (session.accountID != plan.accountID || session.hostID != target.hostID ||
      session.credentialGeneration != credentialGeneration.toInt64 ||
      !session.capabilities.contains capabilityCredentialRotation) .identityMismatch

structure RebindCall where
  now : Time
  plan : RotationPlan
  target : RotationTarget
  ref : SessionRef
  nonce : String
  (issuedAt deadline : Time)
  session : Answer RecoverySession
  answers : RotationAnswers

def RebindCall.key (call : RebindCall) : RotationKey := call.plan.key call.target.connectorID

def RebindCall.revoke (call : RebindCall) : CredentialRotationRevoke where
  accountID := call.plan.accountID
  tunnelID := call.plan.tunnelID
  operationID := call.plan.operationID
  connectorID := call.target.connectorID
  hostID := call.target.hostID
  sessionID := call.ref.sessionID
  processGeneration := call.ref.processGeneration
  targetSetHash := call.plan.targetSetHash
  oldCredentialGeneration := call.target.oldCredentialGeneration
  newCredentialGeneration := call.target.newCredentialGeneration
  revokeNonce := call.nonce
  issuedAt := call.issuedAt
  deadline := call.deadline

def RotationTable.rebindCredentialRotationRevoke (call : RebindCall) : Except Err RotationTable := do
  failWith (call.revoke.validate call.now)
  let row ← table.loadRotationTarget call.key call.answers.loadErr
  refuseIf (row.target.toOption != some call.target || row.targetSetHash != call.plan.targetSetHash) .identityMismatch
  refuseIf (row.state != .revoking || decide (call.ref.processGeneration ≤ rotationUint row.revokeProcessGeneration))
    .staleProcess
  authorizeRotationRecoverySession rules call.plan call.target call.ref call.target.newCredentialGeneration call.session
  let table' ← table.updateTarget call.key
    (fun row => row.state == .revoking &&
      row.revokeProcessGeneration.any fun n => n < call.ref.processGeneration.toInt64)
    (SQLRotationTarget.bindRevoke db call.revoke) (fun _ => rfl) call.answers.updateErr
  failWith call.answers.auditErr
  failWith call.answers.commitErr
  return table'

/-! ## The result of a target -/

def expectedState : Except Err RotationTargetState :=
  if row.connectorID != ack.connectorID then .ok row.state
  else match ack.status with
  | .rejected | .failed => .ok .failed
  | .revoked => .ok .revoked
  | _ => .error .invalidInput

def checkSummaryTarget (item : RotationTargetSummary) : Except Err RotationTargetState := do
  let target ← row.target
  refuseIf (target != item.target || row.hostID != item.target.hostID) .identityMismatch
  let expected ← expectedState row ack
  refuseIf (!validRotationTargetState expected || item.state != expected) .staleProcess
  let rejects := row.connectorID == ack.connectorID && (ack.status == .rejected || ack.status == .failed)
  let expectedCode := if rejects then ack.code else row.failureCode.getD .empty
  if expected = .failed then refuseIf (expectedCode == .empty || item.code != expectedCode) .identityMismatch
  else refuseIf (item.code != .empty) .invalidInput
  return expected

def scanSummary (rows : List SQLRotationTarget) (ack : CredentialRotationAck) (seen : List String) :
    List RotationTargetSummary → Except Err (List RotationTargetState)
  | [] => .ok []
  | item :: rest => do
    failWith (item.target.validate.map fun _ => .invalidInput)
    refuseIf (seen.contains item.target.connectorID) .contentHashMismatch
    match rows.find? fun row => row.connectorID == item.target.connectorID with
    | none => .error .contentHashMismatch
    | some row =>
      let state ← checkSummaryTarget row ack item
      let states ← scanSummary rows ack (item.target.connectorID :: seen) rest
      return state :: states

def RotationTable.validateRotationSummary (summary : RotationSummary) (err : Option Err) : Except Err Unit := do
  let stored := table.operation ack.operationID ack.accountID ack.tunnelID
  failWith err
  refuseIf (stored.any fun row => row.targetSetHash != ack.targetSetHash) .contentHashMismatch
  refuseIf (stored.length == 0 || stored.length != summary.targets.length) .contentHashMismatch
  let states ← scanSummary stored ack [] summary.targets
  let wantStatus : RotationAggregateStatus :=
    if states.contains .failed then .failed
    else if states.all fun state => state == .revoked then .succeeded
    else .pending
  refuseIf (summary.status != wantStatus) .staleProcess
  refuseIf ((wantStatus == .succeeded) != !summary.completedAt.isZero) .invalidInput

def rotationResultAckMatchesTarget : Bool :=
  let matching (sessionID : Option String) (processGeneration : Option Int64) : Bool :=
    rotationString sessionID != "" && decide (0 < rotationUint processGeneration) &&
      ack.sessionID == rotationString sessionID && ack.processGeneration == rotationUint processGeneration
  match row.state with
  | .challenged | .installed => matching row.proofSessionID row.proofProcessGeneration
  | .ready => matching row.replacementSessionID row.replacementProcessGeneration
  | .revoking => matching row.revokeSessionID row.revokeProcessGeneration
  | _ => false

def SQLRotationTarget.acknowledgedBy : Bool :=
  ack.sessionID == rotationString row.replacementSessionID &&
    ack.processGeneration == rotationUint row.replacementProcessGeneration

structure ResultSession where
  (desiredState drainState sessionState : String)
  credentialGeneration : Int64
  leaseDeadline : Time

def ResultSession.check (answer : Answer ResultSession) (ack : CredentialRotationAck) (now : Time) : Except Err Unit :=
  match answer with
  | .error err => .error err
  | .ok none => .error .sessionNotFound
  | .ok (some s) =>
    refuseIf (s.desiredState == "revoked" || s.drainState == "forced_closed" ||
      (s.sessionState != "ready" && s.sessionState != "draining") || !s.leaseDeadline.after now ||
      s.credentialGeneration != ack.newCredentialGeneration.toInt64) .staleProcess

structure RotationResultAnswers extends RotationAnswers where
  session : Answer ResultSession
  oldCredential : Except Err Nat
  /-- `updateRotationOperation`: the rows of the operation that changed. -/
  operationUpdate : Except Err Nat

def updateRotationOperation (answer : Except Err Nat) : Except Err Unit := do
  let rows ← answer
  refuseIf (rows != 1) .operationNotFound

def RotationTable.recordCredentialRotationResult
    (summary : RotationSummary) (answers : RotationResultAnswers) : Except Err RotationTable := do
  failWith ack.validate
  refuseIf (summary.accountID != ack.accountID || summary.tunnelID != ack.tunnelID ||
    summary.operationID != ack.operationID || summary.targetSetHash != ack.targetSetHash) .identityMismatch
  let row ← table.loadRotationTarget ack.key answers.loadErr
  let item ← row.target
  refuseIf (row.hostID != ack.hostID || row.targetSetHash != ack.targetSetHash ||
    item.oldCredentialGeneration != ack.oldCredentialGeneration ||
    item.newCredentialGeneration != ack.newCredentialGeneration) .identityMismatch
  table.validateRotationSummary ack summary answers.countErr
  if row.state = .revoked ∨ row.state = .failed then
    failWith answers.commitErr
    return table
  else if ack.status = .rejected ∨ ack.status = .failed then
    refuseIf (!rotationResultAckMatchesTarget row ack) .identityMismatch
    let table' ← table.updateTarget ack.key (fun row => row.state != .revoked && row.state != .failed)
      (fun row => { row with state := .failed, failureCode := some ack.code }) (fun _ => rfl) answers.updateErr
    updateRotationOperation answers.operationUpdate
    failWith answers.auditErr
    failWith answers.commitErr
    return table'
  else
    refuseIf (ack.status != .revoked || row.state != .revoking || !row.acknowledgedBy ack) .staleProcess
    ResultSession.check answers.session ack now
    let table' ← table.updateTarget ack.key (fun row => row.state == .revoking)
      (fun row => { row with state := .revoked, revokedAt := some (db.stored now) }) (fun _ => rfl) answers.updateErr
    affectsOne answers.oldCredential
    updateRotationOperation answers.operationUpdate
    failWith answers.auditErr
    failWith answers.commitErr
    return table'

/-! ## Recovery -/

structure OperationRow where
  (accountID resourceID resourceKind operationType state : String)
  completedAt : Option Time

def OperationRow.check (answer : Answer OperationRow) (plan : RotationPlan) : Except Err OperationRow :=
  match answer with
  | .error err => .error err
  | .ok none => .error .operationNotFound
  | .ok (some op) =>
    if op.accountID != plan.accountID || op.resourceID != plan.tunnelID || op.resourceKind != "tunnel" ||
        op.operationType != "connector.credentials.rotate" || op.state == "cancelled" then .error .identityMismatch
    else .ok op

def pickTarget (resumed : List RotationResumeTarget) (item : RotationTarget) : Except Err RotationResumeTarget :=
  match resumed.find? fun rec => rec.target.connectorID == item.connectorID with
  | none => .error .contentHashMismatch
  | some rec => if rec.target = item then .ok rec else .error .contentHashMismatch

def RotationTable.loadCredentialRotation (plan : RotationPlan)
    (operation : Answer OperationRow) (rowsErr commitErr : Option Err) : Except Err RotationResume := do
  refuseIf (plan.validate rules).isSome .invalidInput
  let op ← OperationRow.check operation plan
  failWith rowsErr
  let resumed ← (table.operation plan.operationID plan.accountID plan.tunnelID).mapM fun row => do
    refuseIf (row.targetSetHash != plan.targetSetHash) .contentHashMismatch
    rotationResumeTarget rules row
  refuseIf (resumed.length != plan.targets.length) .contentHashMismatch
  let targets ← plan.targets.mapM (pickTarget resumed)
  failWith commitErr
  return ⟨plan, true, rotationTime op.completedAt, targets⟩

end Paperboat.Connector

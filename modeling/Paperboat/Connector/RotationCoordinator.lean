import Paperboat.Connector.Rotation
/-!
# The coordinator of a credential rotation

A `RotationCoordinator` drives every target of a plan through challenge, proof,
readiness and revocation. Each call takes the lock for its whole length, makes
at most one call to the store, and touches the record of one target. What the
environment contributes to a call (the clock, a cancelled context, the random
nonce, the answer of the old key's verifier and of the store) is an argument;
the call to the store is part of the result.

The map of target states has one entry for each connector of the plan, so it is
a function here that is read at those connectors only.
-/

namespace Paperboat.Connector

open Lib

/-! ## State -/

inductive RotationTargetState where
  | pending | challenged | installed | ready | revoking | revoked | failed
  | other (text : String)
  deriving DecidableEq

def validRotationTargetState : RotationTargetState → Bool
  | .other _ => false
  | _ => true

structure TargetRecord where
  state : RotationTargetState
  code : Code
  challenge : CredentialRotationChallenge
  proof : CredentialRotationProof
  install : CredentialRotationInstall
  ready : CredentialRotationReady
  revoke : CredentialRotationRevoke

def TargetRecord.new : TargetRecord := ⟨.pending, .empty, .empty, .empty, .empty, .empty, .empty⟩

def TargetRecord.fail (r : TargetRecord) (code : Code) : TargetRecord := { r with state := .failed, code }

def TargetRecord.challengeable (r : TargetRecord) (now : Time) : Bool :=
  r.state == .pending ||
    (r.state == .challenged && !r.challenge.expiresAt.isZero && !r.challenge.expiresAt.after now)

inductive RotationAggregateStatus where
  | pending | succeeded | failed
  deriving DecidableEq

structure RotationTargetSummary where
  target : RotationTarget
  state : RotationTargetState
  code : Code

structure RotationSummary where
  (accountID tunnelID operationID targetSetHash : String)
  status : RotationAggregateStatus
  targets : List RotationTargetSummary
  completedAt : Time

inductive RotationStoreCall where
  | begin (plan : RotationPlan) (err : Option Err)
  | challenge (challenge : CredentialRotationChallenge) (err : Option Err)
  | proof (challenge : CredentialRotationChallenge) (proof : CredentialRotationProof)
      (install : CredentialRotationInstall) (err : Option Err)
  | ready (ready : CredentialRotationReady) (err : Option Err)
  | revoke (revoke : CredentialRotationRevoke) (err : Option Err)
  | result (ack : CredentialRotationAck) (summary : RotationSummary) (err : Option Err)

inductive RotationReply where
  | done (err : Option Err)
  | challenged (result : Except Err CredentialRotationChallenge)
  | installed (result : Except Err (CredentialRotationInstall × CredentialRotationAck))
  | readied (ack : Option CredentialRotationAck) (err : Option Err)
  | revoking (result : Except Err CredentialRotationRevoke)
  | summarised (summary : Option RotationSummary) (err : Option Err)

structure RotationCoordinator (rules : RotationRules) where
  plan : RotationPlan
  plan_ok : plan.validate rules = none
  started : Bool
  finished : Time
  record : String → TargetRecord

variable {rules : RotationRules}

def newRotationCoordinator (rules : RotationRules) (plan : RotationPlan) : Except Err (RotationCoordinator rules) :=
  if h : plan.validate rules = none then .ok ⟨plan, h, false, .zero, fun _ => .new⟩ else .error .invalidInput

namespace RotationCoordinator

abbrev Step (rules : RotationRules) := RotationCoordinator rules × Option RotationStoreCall × RotationReply

variable (c : RotationCoordinator rules)

def set (connectorID : String) (r : TargetRecord) : RotationCoordinator rules :=
  { c with record := fun id => if id = connectorID then r else c.record id }

def summary : RotationSummary :=
  let targets := c.plan.targets.map fun t =>
    (⟨t, (c.record t.connectorID).state, (c.record t.connectorID).code⟩ : RotationTargetSummary)
  let status : RotationAggregateStatus :=
    if targets.any fun t => t.state == .failed then .failed
    else if targets.all fun t => t.state == .revoked then .succeeded
    else .pending
  ⟨c.plan.accountID, c.plan.tunnelID, c.plan.operationID, c.plan.targetSetHash, status, targets,
    if status = .succeeded then c.finished else .zero⟩

def allReady : Bool :=
  c.plan.targets.all fun t =>
    let state := (c.record t.connectorID).state
    state == .ready || state == .revoking || state == .revoked

def canceled (err : Err) : Err := codeError .canceled .canceled true (some err)

def storeFailed (err : Err) : Err := codeError .credentialRotationFailed .credentialRotation false (some err)

def notATarget : Err := codeError .identityMismatch .authentication false none

def stale : Err := codeError .staleGeneration .staleGeneration false none

variable (t : RotationTarget) (connectorID : String)

def envelope (sessionID : String) (processGeneration : UInt64) : RotationEnvelope where
  accountID := c.plan.accountID
  tunnelID := c.plan.tunnelID
  operationID := c.plan.operationID
  connectorID := connectorID
  hostID := t.hostID
  sessionID := sessionID
  processGeneration := processGeneration
  targetSetHash := c.plan.targetSetHash
  oldCredentialGeneration := t.oldCredentialGeneration
  newCredentialGeneration := t.newCredentialGeneration

/-! ## Calls -/

def start (ctxErr storeErr : Option Err) : Step rules :=
  match ctxErr with
  | some err => (c, none, .done (some (canceled err)))
  | none =>
    if c.started then (c, none, .done none)
    else match storeErr with
    | some err => (c, some (.begin c.plan (some err)), .done (some (storeFailed err)))
    | none => ({ c with started := true }, some (.begin c.plan none), .done none)

/-- The arguments of `ChallengeWithCredentialExpiry`. -/
structure ChallengeInput where
  (connectorID sessionID : String)
  processGeneration : UInt64
  (oldIdentityKeyID oldIdentityKeyThumbprint nonce : String)
  (issuedAt expiresAt overlapUntil credentialValidUntil : Time)

def challengeFor (input : ChallengeInput) : CredentialRotationChallenge where
  toRotationEnvelope := c.envelope t input.connectorID input.sessionID input.processGeneration
  target := t
  oldIdentityKeyID := input.oldIdentityKeyID
  oldIdentityKeyThumbprint := input.oldIdentityKeyThumbprint
  challengeNonce := input.nonce
  issuedAt := input.issuedAt
  expiresAt := input.expiresAt
  overlapUntil := input.overlapUntil
  newCredentialValidUntil := input.credentialValidUntil

/-- A store without session authorisation has no `authorizeErr`. -/
def challengeWithCredentialExpiry (now : Time) (ctxErr : Option Err)
    (input : ChallengeInput) (authorizeErr storeErr : Option Err) : Step rules :=
  match ctxErr with
  | some err => (c, none, .challenged (.error (canceled err)))
  | none =>
    if !c.started then (c, none, .challenged (.error .invalidInput))
    else match c.plan.target input.connectorID with
    | none => (c, none, .challenged (.error notATarget))
    | some t =>
      let r := c.record input.connectorID
      if !r.challengeable now.utc then
        (c, none, .challenged (.error (codeError .sessionConflict .staleGeneration true none)))
      else
        let challenge := c.challengeFor t input
        match challenge.validate now.utc, authorizeErr, storeErr with
        | some err, _, _ => (c, none, .challenged (.error err))
        | none, some err, _ => (c, none, .challenged (.error err))
        | none, none, some err => (c, some (.challenge challenge (some err)), .challenged (.error (storeFailed err)))
        | none, none, none =>
          (c.set input.connectorID { r with challenge, state := .challenged }, some (.challenge challenge none),
            .challenged (.ok challenge))

def rotationProofMatchesChallenge (proof : CredentialRotationProof) (challenge : CredentialRotationChallenge)
    (target : RotationTarget) : Bool :=
  proof.accountID == challenge.accountID && proof.tunnelID == challenge.tunnelID &&
    proof.operationID == challenge.operationID && proof.connectorID == challenge.connectorID &&
    proof.hostID == challenge.hostID && proof.sessionID == challenge.sessionID &&
    proof.processGeneration == challenge.processGeneration && proof.targetSetHash == challenge.targetSetHash &&
    proof.oldCredentialGeneration == target.oldCredentialGeneration &&
    proof.newCredentialGeneration == target.newCredentialGeneration &&
    proof.oldIdentityKeyID == challenge.oldIdentityKeyID &&
    proof.oldIdentityKeyThumbprint == challenge.oldIdentityKeyThumbprint &&
    proof.challengeNonce == challenge.challengeNonce &&
    proof.newCredentialValidUntil == challenge.newCredentialValidUntil &&
    !proof.issuedAt.before challenge.issuedAt && !proof.issuedAt.after challenge.expiresAt

def installFor (challenge : CredentialRotationChallenge) (proof : CredentialRotationProof) :
    CredentialRotationInstall where
  toRotationEnvelope :=
    { proof.toRotationEnvelope with
      accountID := c.plan.accountID
      tunnelID := c.plan.tunnelID
      operationID := c.plan.operationID
      targetSetHash := c.plan.targetSetHash }
  newIdentityKeyID := proof.newIdentityKeyID
  newIdentityKeyThumbprint := proof.newIdentityKeyThumbprint
  newPublicKey := proof.newPublicKey
  newCredentialReference := proof.newCredentialReference
  challengeNonce := proof.challengeNonce
  overlapUntil := challenge.overlapUntil
  newCredentialValidUntil := proof.newCredentialValidUntil
  replacementProcessGeneration := proof.processGeneration + 1

def ackOf (e : RotationEnvelope) (status : RotationAckStatus) (code : Code) : CredentialRotationAck := ⟨e, status, code, ""⟩

def rotationAckForInstall (install : CredentialRotationInstall) : CredentialRotationAck :=
  ackOf install.toRotationEnvelope .installed .empty

/-- `verifyErr` is the answer of the old key's verifier. -/
def acceptProof (now : Time) (ctxErr : Option Err) (proof : CredentialRotationProof)
    (verifyErr storeErr : Option Err) : Step rules :=
  match ctxErr, proof.validate rules now.utc with
  | some err, _ => (c, none, .installed (.error (canceled err)))
  | none, some err => (c, none, .installed (.error err))
  | none, none =>
    match c.plan.target proof.connectorID with
    | none => (c, none, .installed (.error stale))
    | some t =>
      let r := c.record proof.connectorID
      if r.state ≠ .challenged then (c, none, .installed (.error stale))
      else if !rotationProofMatchesChallenge proof r.challenge t then (c, none, .installed (.error notATarget))
      else match verifyCredentialRotationProofAt rules proof verifyErr now.utc with
      | .error err => (c, none, .installed (.error err))
      | .ok _ =>
        let install := c.installFor r.challenge proof
        match install.validate rules now.utc, storeErr with
        | some err, _ => (c, none, .installed (.error err))
        | none, some err =>
          (c.set proof.connectorID (r.fail .credentialRotationFailed),
            some (.proof r.challenge proof install (some err)), .installed (.error (storeFailed err)))
        | none, none =>
          (c.set proof.connectorID { r with proof, install, state := .installed },
            some (.proof r.challenge proof install none), .installed (.ok (install, rotationAckForInstall install)))

def readyMatches (ready : CredentialRotationReady) (install : CredentialRotationInstall) : Bool :=
  ready.accountID == c.plan.accountID && ready.tunnelID == c.plan.tunnelID && ready.operationID == c.plan.operationID &&
    ready.connectorID == install.connectorID && ready.hostID == install.hostID &&
    ready.targetSetHash == c.plan.targetSetHash && ready.sessionID != install.sessionID &&
    ready.previousSessionID == install.sessionID &&
    decide (install.replacementProcessGeneration ≤ ready.processGeneration) &&
    ready.oldCredentialGeneration == install.oldCredentialGeneration &&
    ready.newCredentialGeneration == install.newCredentialGeneration &&
    ready.newIdentityKeyID == install.newIdentityKeyID &&
    ready.newIdentityKeyThumbprint == install.newIdentityKeyThumbprint && ready.newPublicKey == install.newPublicKey &&
    ready.newCredentialReference == install.newCredentialReference &&
    ready.newCredentialValidUntil == install.newCredentialValidUntil

def rotationRejectedAck (ready : CredentialRotationReady) (code : Code) : CredentialRotationAck :=
  ackOf ready.toRotationEnvelope .rejected code

def markReady (now : Time) (ctxErr : Option Err) (ready : CredentialRotationReady)
    (storeErr : Option Err) : Step rules :=
  match ctxErr, ready.validate rules now.utc with
  | some err, _ => (c, none, .readied none (some (canceled err)))
  | none, some err => (c, none, .readied (some (rotationRejectedAck ready .credentialRotationNotReady)) (some err))
  | none, none =>
    if (c.plan.target ready.connectorID).isNone || (c.record ready.connectorID).state ≠ .installed then
      (c, none, .readied none (some stale))
    else
      let r := c.record ready.connectorID
      if !c.readyMatches ready r.install then (c, none, .readied none (some notATarget))
      else match storeErr with
      | some err =>
        (c.set ready.connectorID (r.fail .credentialRotationFailed), some (.ready ready (some err)),
          .readied none (some (storeFailed err)))
      | none =>
        (c.set ready.connectorID { r with ready, state := .ready }, some (.ready ready none),
          .readied (some (ackOf ready.toRotationEnvelope .ready .empty)) none)

def revokeFor (nonce : String) (now : Time) : CredentialRotationRevoke where
  toRotationEnvelope := c.envelope t connectorID (c.record connectorID).ready.sessionID
    (c.record connectorID).ready.processGeneration
  revokeNonce := nonce
  issuedAt := now
  deadline := now.add defaultAbortTimeout

def revoke (now : Time) (ctxErr : Option Err) (connectorID : String)
    (revokeNonce : Except Err String) (storeErr : Option Err) : Step rules :=
  match ctxErr with
  | some err => (c, none, .revoking (.error (canceled err)))
  | none =>
    match c.plan.target connectorID with
    | none => (c, none, .revoking (.error notATarget))
    | some t =>
      let r := c.record connectorID
      if c.summary.status = .failed then
        (c, none, .revoking (.error (codeError .credentialRotationFailed .credentialRotation false none)))
      else if !c.allReady then
        (c, none, .revoking (.error (codeError .credentialRotationNotReady .snapshotRejected true none)))
      else if r.state = .revoking then (c, none, .revoking (.ok r.revoke))
      else if r.state ≠ .ready then (c, none, .revoking (.error stale))
      else match revokeNonce with
      | .error err => (c, none, .revoking (.error err))
      | .ok nonce =>
        let revoke := c.revokeFor t connectorID nonce now.utc
        match revoke.validate now.utc, storeErr with
        | some err, _ => (c, none, .revoking (.error err))
        | none, some err =>
          (c.set connectorID (r.fail .credentialRotationFailed), some (.revoke revoke (some err)),
            .revoking (.error (storeFailed err)))
        | none, none =>
          (c.set connectorID { r with revoke, state := .revoking }, some (.revoke revoke none), .revoking (.ok revoke))

/-- The session that may reject: the challenged one up to the installation, then
the replacement, then the one the revocation was sent to. -/
def rotationNegativeAckMatches (r : TargetRecord) (ack : CredentialRotationAck) : Bool :=
  let matching (e : RotationEnvelope) : Bool :=
    e.sessionID != "" && decide (0 < e.processGeneration) && ack.sessionID == e.sessionID &&
      ack.processGeneration == e.processGeneration
  match r.state with
  | .challenged | .installed => matching r.challenge.toRotationEnvelope
  | .ready => matching r.ready.toRotationEnvelope
  | .revoking => matching r.revoke.toRotationEnvelope
  | _ => false

variable (ack : CredentialRotationAck)

def ackMatches : Bool :=
  ack.accountID == c.plan.accountID && ack.tunnelID == c.plan.tunnelID && ack.operationID == c.plan.operationID &&
    ack.targetSetHash == c.plan.targetSetHash && ack.hostID == t.hostID &&
    ack.oldCredentialGeneration == t.oldCredentialGeneration && ack.newCredentialGeneration == t.newCredentialGeneration

/-- A target fails with a code, and the store is told. If the store fails, the
target keeps its state. -/
def recordFailure (code : Code) (failure : Err → Err) (storeErr : Option Err) : Step rules :=
  let failed := c.set connectorID ((c.record connectorID).fail code)
  match storeErr with
  | some err => (c, some (.result ack failed.summary (some err)), .summarised (some c.summary) (some (failure err)))
  | none =>
    (failed, some (.result ack failed.summary none),
      .summarised (some failed.summary) (some (storeFailed (.text code.text))))

def addresses (e : RotationEnvelope) : Bool :=
  ack.sessionID == e.sessionID && ack.processGeneration == e.processGeneration

def complete (clock : Time) : RotationCoordinator rules :=
  if c.summary.status = .succeeded then { c with finished := clock.utc } else c

/-- A revocation is acknowledged. The target fails if the store cannot record it;
the time of completion stays. -/
def recordRevoked (clock : Time) (storeErr : Option Err) : Step rules :=
  let revoked := (c.set connectorID { c.record connectorID with state := .revoked }).complete clock
  match storeErr with
  | some err =>
    let failed := revoked.set connectorID ((c.record connectorID).fail .credentialRotationFailed)
    (failed, some (.result ack revoked.summary (some err)), .summarised (some failed.summary) (some (storeFailed err)))
  | none => (revoked, some (.result ack revoked.summary none), .summarised (some revoked.summary) none)

def handleAck (ctxErr : Option Err) (ack : CredentialRotationAck) (clock : Time)
    (storeErr : Option Err) : Step rules :=
  match ack.validate, ctxErr with
  | some err, _ => (c, none, .summarised none (some err))
  | none, some err => (c, none, .summarised none (some (canceled err)))
  | none, none =>
    match c.plan.target ack.connectorID with
    | none => (c, none, .summarised none (some notATarget))
    | some t =>
      let r := c.record ack.connectorID
      if !c.ackMatches t ack then (c, none, .summarised none (some notATarget))
      else if r.state = .revoked ∨ r.state = .failed then (c, none, .summarised (some c.summary) (some stale))
      else match ack.status with
      | .rejected | .failed =>
        if !rotationNegativeAckMatches r ack then (c, none, .summarised none (some notATarget))
        else c.recordFailure ack.connectorID ack ack.code
          (fun err => storeFailed (.join (.sentinel .credentialRotationFailed) err)) storeErr
      | .installed =>
        -- delivery of the installation is confirmed, nothing more
        if r.state = .installed ∧ addresses ack r.install.toRotationEnvelope then
          (c, none, .summarised (some c.summary) none)
        else (c, none, .summarised none (some stale))
      | .ready =>
        if r.state = .ready ∧ addresses ack r.ready.toRotationEnvelope then (c, none, .summarised (some c.summary) none)
        else (c, none, .summarised none (some stale))
      | .revoked =>
        if r.state = .revoking ∧ addresses ack r.revoke.toRotationEnvelope then
          c.recordRevoked ack.connectorID ack clock storeErr
        else (c, none, .summarised none (some stale))
      | _ => (c, none, .summarised none (some stale))

/-- The acknowledgement the coordinator writes itself when it gives a target up. -/
def failureAck (code : Code) : CredentialRotationAck :=
  let r := c.record connectorID
  let latest : RotationEnvelope :=
    if r.revoke.sessionID != "" then r.revoke.toRotationEnvelope
    else if r.ready.sessionID != "" then r.ready.toRotationEnvelope
    else r.challenge.toRotationEnvelope
  ackOf (c.envelope t t.connectorID latest.sessionID latest.processGeneration) .failed code

def fail (code : Code) (storeErr : Option Err) : Step rules :=
  if !validCode code || code == .empty then (c, none, .summarised none (some .invalidInput))
  else match c.plan.target connectorID with
  | none => (c, none, .summarised none (some notATarget))
  | some t =>
    let r := c.record connectorID
    if r.state = .revoked then (c, none, .summarised (some c.summary) (some stale))
    else if r.state = .failed then
      (c, none, .summarised (some c.summary) (some (storeFailed (.text r.code.text))))
    else c.recordFailure connectorID (c.failureAck t connectorID code) code storeFailed storeErr

end RotationCoordinator

/-! ## The coordinator as a machine -/

inductive RotationOp where
  | start (ctxErr storeErr : Option Err)
  | challenge (now : Time) (ctxErr : Option Err) (input : RotationCoordinator.ChallengeInput)
      (authorizeErr storeErr : Option Err)
  | acceptProof (now : Time) (ctxErr : Option Err) (proof : CredentialRotationProof) (verifyErr storeErr : Option Err)
  | markReady (now : Time) (ctxErr : Option Err) (ready : CredentialRotationReady) (storeErr : Option Err)
  | revoke (now : Time) (ctxErr : Option Err) (connectorID : String) (revokeNonce : Except Err String)
      (storeErr : Option Err)
  | handleAck (ctxErr : Option Err) (ack : CredentialRotationAck) (clock : Time) (storeErr : Option Err)
  | fail (connectorID : String) (code : Code) (storeErr : Option Err)

def RotationCoordinator.step (c : RotationCoordinator rules) : RotationOp → RotationCoordinator.Step rules
  | .start ctxErr storeErr => c.start ctxErr storeErr
  | .challenge now ctxErr input authorizeErr storeErr =>
    c.challengeWithCredentialExpiry now ctxErr input authorizeErr storeErr
  | .acceptProof now ctxErr proof verifyErr storeErr => c.acceptProof now ctxErr proof verifyErr storeErr
  | .markReady now ctxErr ready storeErr => c.markReady now ctxErr ready storeErr
  | .revoke now ctxErr connectorID revokeNonce storeErr => c.revoke now ctxErr connectorID revokeNonce storeErr
  | .handleAck ctxErr ack clock storeErr => c.handleAck ctxErr ack clock storeErr
  | .fail connectorID code storeErr => c.fail connectorID code storeErr

end Paperboat.Connector

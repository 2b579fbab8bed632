import Paperboat.Lib.Table
import Paperboat.Connector.ProofLedger
/-!
# Messages of a credential rotation

A rotation replaces the credential of every target connector of a plan: the
server challenges a connector, accepts the proof of the new key, sends the
installation, waits for the replacement session to be ready and revokes the old
credential. All messages carry the same envelope.

Keys, encodings, hashes and the parsing of URLs are parameters, `RotationRules`.
-/

namespace Paperboat.Connector

open Lib

def maxRotationTargets : Nat := 256
def maxRotationMessage : Nat := 512
def maxRotationCredentialLifetime : Int := 5 * 365 * 24 * Duration.hour

/-! ## The plan -/

structure RotationTarget where
  (connectorID hostID : String)
  (oldCredentialGeneration newCredentialGeneration : UInt64)
  deriving DecidableEq

def RotationTarget.validate (t : RotationTarget) : Option Err :=
  if !okIdentifier t.connectorID || !okIdentifier t.hostID || t.oldCredentialGeneration == 0 ||
      t.newCredentialGeneration != t.oldCredentialGeneration + 1 then some .invalidInput
  else none

structure RotationPlan where
  (accountID tunnelID operationID targetSetHash : String)
  targets : List RotationTarget

/-! ## The messages -/

structure RotationEnvelope where
  (accountID tunnelID operationID connectorID hostID sessionID : String)
  processGeneration : UInt64
  targetSetHash : String
  (oldCredentialGeneration newCredentialGeneration : UInt64)

def RotationEnvelope.empty : RotationEnvelope := ⟨"", "", "", "", "", "", 0, "", 0, 0⟩

def RotationEnvelope.ok (e : RotationEnvelope) : Bool :=
  okIdentifier e.accountID && okIdentifier e.tunnelID && okIdentifier e.operationID && okIdentifier e.connectorID &&
    okIdentifier e.hostID && okIdentifier e.sessionID && e.processGeneration != 0 && hashPattern e.targetSetHash &&
    e.oldCredentialGeneration != 0 && e.newCredentialGeneration == e.oldCredentialGeneration + 1

structure CredentialRotationChallenge extends RotationEnvelope where
  target : RotationTarget
  (oldIdentityKeyID oldIdentityKeyThumbprint challengeNonce : String)
  (issuedAt expiresAt overlapUntil newCredentialValidUntil : Time)

structure CredentialRotationProof extends RotationEnvelope where
  (oldIdentityKeyID oldIdentityKeyThumbprint newIdentityKeyID newIdentityKeyThumbprint newPublicKey : String)
  (newCredentialReference challengeNonce : String)
  (issuedAt newCredentialValidUntil : Time)
  (oldSignedProof newSignedProof : String)

structure CredentialRotationInstall extends RotationEnvelope where
  (newIdentityKeyID newIdentityKeyThumbprint newPublicKey newCredentialReference challengeNonce : String)
  (overlapUntil newCredentialValidUntil : Time)
  replacementProcessGeneration : UInt64

structure CredentialRotationReady extends RotationEnvelope where
  (previousSessionID newIdentityKeyID newIdentityKeyThumbprint newPublicKey newCredentialReference : String)
  newCredentialValidUntil : Time
  configGeneration : UInt64
  configContentHash : String
  (edgeReady routeReady originReady : Bool)
  readyAt : Time

structure CredentialRotationRevoke extends RotationEnvelope where
  revokeNonce : String
  (issuedAt deadline : Time)

inductive RotationAckStatus where
  | proofAccepted | installed | ready | revoked | rejected | failed
  | other (text : String)
  deriving DecidableEq

structure CredentialRotationAck extends RotationEnvelope where
  status : RotationAckStatus
  code : Code
  message : String

/-! The zero values that stand for a message not sent yet. -/

def CredentialRotationChallenge.empty : CredentialRotationChallenge :=
  ⟨.empty, ⟨"", "", 0, 0⟩, "", "", "", .zero, .zero, .zero, .zero⟩

def CredentialRotationProof.empty : CredentialRotationProof :=
  ⟨.empty, "", "", "", "", "", "", "", .zero, .zero, "", ""⟩

def CredentialRotationInstall.empty : CredentialRotationInstall := ⟨.empty, "", "", "", "", "", .zero, .zero, 0⟩

def CredentialRotationReady.empty : CredentialRotationReady :=
  ⟨.empty, "", "", "", "", "", .zero, 0, "", false, false, false, .zero⟩

def CredentialRotationRevoke.empty : CredentialRotationRevoke := ⟨.empty, "", .zero, .zero⟩

/-! ## Rules -/

structure CredentialURL where
  (scheme host : String)
  hasUser : Bool
  (opaquePart rawQuery fragment path : String)

structure RotationRules extends ProofRules where
  encodeBase64 : Bytes → String
  /-- `url.Parse`. -/
  parseURL : String → Option CredentialURL
  /-- The content hash of the plan's document. -/
  rotationPlanHash : RotationPlan → Except Err String
  /-- The JSON text both keys sign. -/
  rotationTranscript : CredentialRotationProof → Except Err Bytes

variable {id : String} {rules : RotationRules} {p : RotationPlan} {t : RotationTarget}

section Validation
variable (rules : RotationRules)

def validateCredentialReference (value : String) : Option Err :=
  if !plainText 1 maxCredentialRef value then some .invalidInput
  else match rules.parseURL value with
  | none => some .invalidInput
  | some parsed =>
    if parsed.scheme == "" || parsed.host != "paperboat" || parsed.hasUser || parsed.opaquePart != "" ||
        parsed.rawQuery != "" || parsed.fragment != "" || parsed.path == "" then some .invalidInput
    else if ["keychain", "credential-manager", "secret-service", "protected-file", "tpm"].contains parsed.scheme then none
    else some .invalidInput

def decodeRotationPublicKey (value : String) : Option Bytes :=
  (rules.decodeBase64 value).filter fun key => key.length == 32 && rules.encodeBase64 key == value

/-- The key decodes and has this thumbprint; `mismatch` is the error otherwise. -/
def checkPublicKey (newPublicKey thumbprint : String) (mismatch : Err) : Option Err :=
  match decodeRotationPublicKey rules newPublicKey with
  | none => some .invalidInput
  | some key => if rules.thumbprint key != thumbprint then some mismatch else none

/-- Each connector once, in the order of their names; `seen` are the names so
far, the last first. -/
def scanTargets (seen : List String) : List RotationTarget → Option Err
  | [] => none
  | target :: rest =>
    match target.validate with
    | some err => some err
    | none =>
      if (seen.head?.any fun previous => target.connectorID ≤ previous) || seen.contains target.connectorID then
        some .invalidInput
      else scanTargets (target.connectorID :: seen) rest

def validateRotationPlanFields (p : RotationPlan) : Option Err :=
  if !okIdentifier p.accountID || !okIdentifier p.tunnelID || !okIdentifier p.operationID ||
      (!hashPattern p.targetSetHash && p.targetSetHash != "") || p.targets.length == 0 ||
      decide (p.targets.length > maxRotationTargets) then some .invalidInput
  else scanTargets [] p.targets

def RotationPlan.validate (p : RotationPlan) : Option Err :=
  match validateRotationPlanFields p with
  | some err => some err
  | none =>
    match rules.rotationPlanHash p with
    | .error err => some err
    | .ok expected =>
      if p.targetSetHash != expected then
        some (codeError .contentHashMismatch .snapshotRejected false (some (.text "rotation target set hash mismatch")))
      else none

def RotationPlan.target (p : RotationPlan) (connectorID : String) : Option RotationTarget :=
  p.targets.find? fun t => t.connectorID == connectorID

def CredentialRotationChallenge.wellFormed (c : CredentialRotationChallenge) : Bool :=
  c.toRotationEnvelope.ok && (validateIdentityKey c.oldIdentityKeyID c.oldIdentityKeyThumbprint).isNone &&
    okNonce c.challengeNonce && !c.issuedAt.isZero && !c.expiresAt.isZero && !c.overlapUntil.isZero &&
    !c.newCredentialValidUntil.isZero && c.expiresAt.after c.issuedAt && c.overlapUntil.after c.expiresAt &&
    c.newCredentialValidUntil.after c.overlapUntil && decide (c.expiresAt.sub c.issuedAt ≤ 15 * Duration.minute) &&
    decide (c.overlapUntil.sub c.issuedAt ≤ maxLease) &&
    decide (c.newCredentialValidUntil.sub c.issuedAt ≤ maxRotationCredentialLifetime)

def CredentialRotationChallenge.validate (c : CredentialRotationChallenge) (now : Time) : Option Err :=
  if !c.wellFormed then some .invalidInput
  else if c.target.validate.isSome || c.target.connectorID != c.connectorID || c.target.hostID != c.hostID ||
      c.target.oldCredentialGeneration != c.oldCredentialGeneration ||
      c.target.newCredentialGeneration != c.newCredentialGeneration then
    some (codeError .identityMismatch .authentication false (some (.text "rotation challenge target mismatch")))
  else if !now.isZero && (c.issuedAt.after (now.add maxClockSkew) || decide (now.sub c.issuedAt > maxClockSkew) ||
      !c.expiresAt.after now || !c.overlapUntil.after now) then
    some (codeError .credentialExpired .credentialExpired true none)
  else none

def CredentialRotationProof.check (p : CredentialRotationProof) : Option Err :=
  if !p.toRotationEnvelope.ok || (validateIdentityKey p.oldIdentityKeyID p.oldIdentityKeyThumbprint).isSome ||
      (validateIdentityKey p.newIdentityKeyID p.newIdentityKeyThumbprint).isSome ||
      p.oldIdentityKeyID == p.newIdentityKeyID || !okNonce p.challengeNonce || p.issuedAt.isZero ||
      p.newCredentialValidUntil.isZero || (validateCredentialReference rules p.newCredentialReference).isSome ||
      !p.newCredentialValidUntil.after p.issuedAt ||
      decide (p.newCredentialValidUntil.sub p.issuedAt > maxRotationCredentialLifetime) then some .invalidInput
  else checkPublicKey rules p.newPublicKey p.newIdentityKeyThumbprint
    (codeError .identityMismatch .authentication false (some (.text "new rotation key thumbprint mismatch")))

def CredentialRotationProof.validate (p : CredentialRotationProof) (now : Time) : Option Err :=
  match p.check rules with
  | some err => some err
  | none =>
    if (validateProof p.oldSignedProof).isSome || (validateProof p.newSignedProof).isSome then some .invalidInput
    else if !now.isZero && (p.issuedAt.after (now.add maxClockSkew) || decide (now.sub p.issuedAt > maxClockSkew)) then
      some (codeError .authenticationFailed .authentication false (some (.text "rotation proof is outside clock skew")))
    else none

def credentialRotationProofPayload (p : CredentialRotationProof) : Except Err Bytes := do
  failWith (p.check rules)
  rules.rotationTranscript p

/-- `oldErr` is the answer of the old key's verifier. -/
def verifyCredentialRotationProofAt (p : CredentialRotationProof) (oldErr : Option Err) (now : Time) :
    Except Err Unit := do
  failWith (p.validate rules now)
  let payload ← credentialRotationProofPayload rules p
  let _ ← decodeProof rules.toProofRules p.oldSignedProof
  failWith (oldErr.map fun err => codeError .authenticationFailed .authentication false (some err))
  let newSignature ← decodeProof rules.toProofRules p.newSignedProof
  refuseIf (!(decodeRotationPublicKey rules p.newPublicKey).any fun key => rules.verify key payload newSignature)
    (codeError .authenticationFailed .authentication false (some (.text "new rotation key proof failed")))

def CredentialRotationInstall.validate (i : CredentialRotationInstall) (now : Time) : Option Err :=
  if !i.toRotationEnvelope.ok || i.replacementProcessGeneration ≤ i.processGeneration ||
      (validateIdentityKey i.newIdentityKeyID i.newIdentityKeyThumbprint).isSome ||
      (validateCredentialReference rules i.newCredentialReference).isSome || !okNonce i.challengeNonce ||
      i.overlapUntil.isZero || i.newCredentialValidUntil.isZero || !i.newCredentialValidUntil.after i.overlapUntil ||
      decide (i.newCredentialValidUntil.sub i.overlapUntil > maxRotationCredentialLifetime) then some .invalidInput
  else match checkPublicKey rules i.newPublicKey i.newIdentityKeyThumbprint .identityMismatch with
  | some err => some err
  | none =>
    if !now.isZero && !i.overlapUntil.after now then some (codeError .credentialExpired .credentialExpired true none)
    else none

def CredentialRotationReady.validate (r : CredentialRotationReady) (now : Time) : Option Err :=
  if !r.toRotationEnvelope.ok || !okIdentifier r.previousSessionID ||
      (validateIdentityKey r.newIdentityKeyID r.newIdentityKeyThumbprint).isSome ||
      (validateCredentialReference rules r.newCredentialReference).isSome || r.newCredentialValidUntil.isZero ||
      r.configGeneration == 0 || !hashPattern r.configContentHash || r.readyAt.isZero then some .invalidInput
  else match checkPublicKey rules r.newPublicKey r.newIdentityKeyThumbprint .identityMismatch with
  | some err => some err
  | none =>
    if !r.edgeReady || !r.routeReady || !r.originReady then
      some (codeError .credentialRotationNotReady .snapshotRejected true none)
    else if !now.isZero && (!r.newCredentialValidUntil.after now || r.readyAt.before (now.add (-maxClockSkew)) ||
        r.readyAt.after (now.add maxClockSkew)) then
      if !r.newCredentialValidUntil.after now then some (codeError .credentialExpired .credentialExpired true none)
      else some .invalidInput
    else none

def CredentialRotationRevoke.validate (r : CredentialRotationRevoke) (now : Time) : Option Err :=
  if !r.toRotationEnvelope.ok || !okNonce r.revokeNonce || r.issuedAt.isZero || r.deadline.isZero ||
      !r.deadline.after r.issuedAt || decide (r.deadline.sub r.issuedAt > defaultAbortTimeout * 2) then
    some .invalidInput
  else if !now.isZero && (r.issuedAt.after (now.add maxClockSkew) || !r.deadline.after now) then
    some (codeError .credentialExpired .credentialExpired true none)
  else none

def CredentialRotationAck.validate (a : CredentialRotationAck) : Option Err :=
  if !a.toRotationEnvelope.ok || decide (a.message.utf8ByteSize > maxRotationMessage) then some .invalidInput
  else match a.status with
  | .proofAccepted | .installed | .ready | .revoked => if a.code != .empty then some .invalidInput else none
  | .rejected | .failed => if a.code == .empty || !validCode a.code then some .invalidInput else none
  | .other _ => some .invalidInput

end Validation

/-! ## What a valid plan guarantees -/

theorem scanTargets_ok {seen : List String} {targets : List RotationTarget} (h : scanTargets seen targets = none) :
    (∀ t ∈ targets, t.validate = none ∧ t.connectorID ∉ seen) ∧ (targets.map (·.connectorID)).Nodup := by
  induction targets generalizing seen with
  | nil => simp
  | cons _ _ ih =>
    unfold scanTargets at h
    split at h
    · cases h
    rename_i hv
    split at h
    · cases h
    rename_i hs
    simp only [Bool.or_eq_true, not_or, List.contains_eq_mem, decide_eq_true_eq] at hs
    obtain ⟨hrest, hnodup⟩ := ih h
    refine ⟨fun t ht => ?_, ?_⟩
    · rcases List.mem_cons.1 ht with rfl | ht
      · exact ⟨hv, hs.2⟩
      · obtain ⟨hv, hn⟩ := hrest t ht
        exact ⟨hv, fun hm => hn (List.mem_cons_of_mem _ hm)⟩
    · rw [List.map_cons, List.nodup_cons]
      refine ⟨fun hm => ?_, hnodup⟩
      obtain ⟨t, ht, he⟩ := List.mem_map.1 hm
      exact (hrest t ht).2 (by simp [he])

theorem RotationPlan.scan_of_valid (h : p.validate rules = none) : scanTargets [] p.targets = none := by
  unfold validate at h
  split at h
  · cases h
  rename_i hf
  unfold validateRotationPlanFields at hf
  split at hf
  · cases hf
  · exact hf

theorem RotationPlan.target_eq (h : p.validate rules = none) : p.target t.connectorID = some t ↔ t ∈ p.targets := by
  rw [target, find?_key (scanTargets_ok (scan_of_valid h)).2]
  simp

theorem RotationPlan.target_unique (h : p.validate rules = none)
    {u : RotationTarget} (ht : p.target id = some t) (hu : u ∈ p.targets) (hid : u.connectorID = id) : u = t := by
  have hu' := (target_eq h).2 hu
  rw [hid, ht] at hu'
  exact (Option.some.inj hu').symm

end Paperboat.Connector

import Mathlib.Data.List.Nodup
import Mathlib.Data.List.Sort
import Paperboat.Lib.Checks
import Paperboat.Connector.Messages
/-!
# The replay ledger of connector proofs

`AuthenticateConnector` and `RenewConnector` of the SQL store. Each checks the
request against the server clock, verifies its signature with the enrolled key
and consumes its nonce: `reserveControlReplay` deletes a batch of expired rows
of `connector_proof_replays` and inserts a row, which fails if the nonce or the
proof is there already. A call is one transaction, so a call that fails leaves
the ledger as it was.

What the database answers to the other queries is an argument of the call.
Encodings, hashes and signatures are a parameter, `ProofRules`.
-/

namespace Paperboat.Connector

open Lib

abbrev Bytes := List UInt8

namespace Err

def durableReplay : Err := .text "connector proof was already consumed"
def connectorNotFound : Err := .text "connector is not enrolled or is revoked"
def sessionNotFound : Err := .text "connector session is not active"
def proofKeyUnavailable : Err := .text "enrolled connector proof key is unavailable"
def credentialExpired : Err := sentinel .credentialExpired

end Err

/-! ## The proof of a request -/

structure ProofRules where
  /-- The JSON text of the signed transcript of an authentication. -/
  authTranscript : AuthRequest → Except Err Bytes
  renewalTranscript : RenewalRequest → Except Err Bytes
  /-- SHA-256. -/
  digest : Bytes → Bytes
  /-- The strict unpadded URL encoding. -/
  decodeBase64 : String → Option Bytes
  /-- The thumbprint of a public key. -/
  thumbprint : Bytes → String
  /-- `ed25519.Verify`: key, message and signature. -/
  verify : Bytes → Bytes → Bytes → Bool

section Proofs
variable (rules : ProofRules)

def authProofPayload (request : AuthRequest) : Except Err Bytes := do
  failWith (request.checkAt .zero false)
  rules.authTranscript request

def renewalProofPayload (request : RenewalRequest) : Except Err Bytes := do
  refuseIf (!request.wellFormed false) .invalidInput
  rules.renewalTranscript request

def decodeProof (signedProof : String) : Except Err Bytes :=
  if (validateProof signedProof).isSome then .error .authenticationFailed
  else match rules.decodeBase64 signedProof with
  | some signature =>
    if signature.length == 0 || signature.length > maxProofBytes then .error .authenticationFailed else .ok signature
  | none => .error .authenticationFailed

structure ProofMaterial where
  (accountID hostID hostPublicIdentityKey credentialThumbprint credentialAlgorithm : String)
  credentialPublicKey : Bytes
  credentialValidUntil : Time

/-- The answer of a query for one row: an error, no row, or the row. -/
abbrev Answer (α : Type) := Except Err (Option α)

/-- The query selects an enrolled connector with a valid credential generation;
`answer` is its result. -/
def loadProofMaterial (answer : Answer ProofMaterial) (accountID hostID : String) (credentialGeneration : UInt64)
    (now : Time) : Except Err ProofMaterial :=
  if credentialGeneration == 0 then .error .authenticationFailed
  else match answer with
  | .error err => .error err
  | .ok none => .error .connectorNotFound
  | .ok (some material) =>
    if material.accountID != accountID || material.hostID != hostID || !material.credentialValidUntil.after now then
      .error .connectorNotFound
    else .ok material

def decodeStoredPublicKey (encoded : String) : Option Bytes :=
  (rules.decodeBase64 (trimSpace encoded)).filter fun key => key.length == 32

def ProofMaterial.proofKey (m : ProofMaterial) (identityKeyID identityThumbprint : String) : Except Err Bytes :=
  let presents (key : Bytes) : Bool :=
    identityKeyID == "ed25519:" ++ rules.thumbprint key && identityThumbprint == rules.thumbprint key
  if m.credentialAlgorithm != "ed25519" || m.credentialPublicKey.length != 32 then .error .proofKeyUnavailable
  else match (decodeStoredPublicKey rules m.hostPublicIdentityKey).filter presents with
  | some hostKey => .ok hostKey
  | none =>
    if presents m.credentialPublicKey && identityThumbprint == m.credentialThumbprint then .ok m.credentialPublicKey
    else .error .proofKeyUnavailable

def verifyTranscript (expected supplied signed key : Bytes) : Option Err :=
  if expected != supplied || key.length != 32 || signed.length != 64 || !rules.verify key expected signed then
    some .authenticationFailed
  else none

end Proofs

/-! ## The ledger -/

inductive ProofKind where
  | auth | renew | rotation
  deriving DecidableEq

structure ReplayKey where
  (accountID tunnelID connectorID : String)
  proofKind : ProofKind
  nonce : String
  deriving DecidableEq

/-- A row of `connector_proof_replays`. A time is stored as its number of ticks
of the column's resolution. -/
structure ReplayRow extends ReplayKey where
  credentialGeneration : UInt64
  proofDigest : Bytes
  (expiresAt createdAt : Int)

def ReplayRow.proof (r : ReplayRow) : String × String × String × Bytes :=
  (r.accountID, r.tunnelID, r.connectorID, r.proofDigest)

/-- The check constraints of the table. A nonce has no space around it here, so
its trimmed length is its length. -/
def ReplayRow.allowed (r : ReplayRow) : Bool :=
  r.credentialGeneration != 0 && decide (16 ≤ r.nonce.length) && decide (r.nonce.length ≤ 128) &&
    decide (r.createdAt < r.expiresAt)

/-- How the database keeps times and orders texts. A time is rounded down to a
multiple of the resolution (a microsecond), which divides the clock skew. -/
structure Database where
  resolution : Int
  textBefore : String → String → Bool
  pos : 0 < resolution
  dvd : resolution ∣ maxClockSkew

namespace Database

variable (db : Database)

def tick (t : Time) : Int := t.ns / db.resolution

/-- `ORDER BY expires_at, account_id, tunnel_id, connector_id, proof_digest`. -/
def before (a b : ReplayRow) : Bool :=
  if a.expiresAt ≠ b.expiresAt then a.expiresAt < b.expiresAt
  else if a.accountID ≠ b.accountID then db.textBefore a.accountID b.accountID
  else if a.tunnelID ≠ b.tunnelID then db.textBefore a.tunnelID b.tunnelID
  else if a.connectorID ≠ b.connectorID then db.textBefore a.connectorID b.connectorID
  else decide (a.proofDigest ≤ b.proofDigest)

def expired (rows : List ReplayRow) (now : Time) : List ReplayRow :=
  ((rows.filter fun r => r.expiresAt ≤ db.tick now).insertionSort fun a b => db.before a b).take 256

end Database

structure ReplayLedger where
  rows : List ReplayRow
  keys : (rows.map ReplayRow.toReplayKey).Nodup
  proofs : (rows.map ReplayRow.proof).Nodup

namespace ReplayLedger

variable (db : Database)

def empty : ReplayLedger := ⟨[], by simp, by simp⟩

/-- The rows for which `keep` holds. -/
def filter (l : ReplayLedger) (keep : ReplayRow → Bool) : ReplayLedger where
  rows := l.rows.filter keep
  keys := l.keys.sublist (List.filter_sublist.map _)
  proofs := l.proofs.sublist (List.filter_sublist.map _)

/-- The cleanup deletes by account, tunnel, connector and digest. -/
def cleanup (l : ReplayLedger) (now : Time) : ReplayLedger :=
  l.filter fun r => !((db.expired l.rows now).map ReplayRow.proof).contains r.proof

/-- `INSERT ... ON CONFLICT DO NOTHING`: no row comes back on a conflict. -/
def insert (l : ReplayLedger) (row : ReplayRow) : Answer ReplayLedger :=
  if !row.allowed then .error (.text "new row violates a check constraint")
  else if h : row.toReplayKey ∈ l.rows.map ReplayRow.toReplayKey ∨ row.proof ∈ l.rows.map ReplayRow.proof then .ok none
  else .ok (some
    { rows := row :: l.rows
      keys := by simpa using List.nodup_cons.2 ⟨fun hm => h (.inl hm), l.keys⟩
      proofs := by simpa using List.nodup_cons.2 ⟨fun hm => h (.inr hm), l.proofs⟩ })

/-- Failures of the two statements are arguments. -/
def reserveControlReplay (rules : ProofRules) (l : ReplayLedger) (key : ReplayKey) (credentialGeneration : UInt64)
    (payload : Bytes) (expiresAt now : Time) (cleanupErr insertErr : Option Err) : Except Err ReplayLedger := do
  refuseIf (key.accountID == "" || key.tunnelID == "" || key.connectorID == "" || credentialGeneration == 0 ||
    decide (credentialGeneration > 9223372036854775807) || !okNonce key.nonce || expiresAt.isZero ||
    !expiresAt.after now || decide (expiresAt.sub now > maxLease)) .invalidInput
  failWith cleanupErr
  failWith insertErr
  match ← (l.cleanup db now).insert
    { toReplayKey := key, credentialGeneration, proofDigest := rules.digest payload, expiresAt := db.tick expiresAt,
      createdAt := db.tick now } with
  | none => .error .durableReplay
  | some l' => return l'

end ReplayLedger

/-! ## The store's calls -/

/-- `SQLControlStore` as `valid` requires it. -/
structure SQLControlStore where
  db : Database
  rules : ProofRules
  leaseDuration : Int
  lease_pos : 0 < leaseDuration
  lease_le : leaseDuration ≤ maxLease

structure StoreAnswers where
  material : Answer ProofMaterial
  session : Answer String
  (cleanupErr insertErr sessionErr connectorErr commitErr : Option Err)

namespace SQLControlStore

variable (store : SQLControlStore)

def leaseExpiry (material : ProofMaterial) (now : Time) : Time :=
  if material.credentialValidUntil.before (now.add store.leaseDuration) then material.credentialValidUntil
  else now.add store.leaseDuration

/-- `AuthenticateConnector` at a reading of the clock in UTC: the ledger it
commits and the result it returns. -/
def authenticateConnector (l : ReplayLedger) (now : Time) (request : AuthRequest) (answers : StoreAnswers) :
    Except Err (ReplayLedger × AuthResult) := do
  failWith (request.validate now)
  let payload ← authProofPayload store.rules request
  let signature ← decodeProof store.rules request.signedProof
  let material ← loadProofMaterial answers.material request.accountID request.hostID request.credentialGeneration now
  let key ← material.proofKey store.rules request.identityKeyID request.identityKeyThumbprint
  failWith (verifyTranscript store.rules payload payload signature key)
  let l' ← l.reserveControlReplay store.db store.rules
    ⟨request.accountID, request.tunnelID, request.connectorID, .auth, request.nonce⟩ request.credentialGeneration payload
    request.expiresAt now answers.cleanupErr answers.insertErr
  let leaseExpiry := store.leaseExpiry material now
  refuseIf (!leaseExpiry.after now) .credentialExpired
  failWith answers.commitErr
  return (l',
    { accountID := request.accountID, tunnelID := request.tunnelID, connectorID := request.connectorID, sessionID := "",
      hostID := request.hostID, identityKeyID := request.identityKeyID,
      identityKeyThumbprint := request.identityKeyThumbprint, processGeneration := request.processGeneration,
      credentialGeneration := request.credentialGeneration, credentialExpiresAt := material.credentialValidUntil,
      leaseExpiresAt := leaseExpiry })

def sessionState : Answer String → Except Err Unit
  | .error err => .error err
  | .ok none => .error .sessionNotFound
  | .ok (some state) => refuseIf (state == "") .sessionNotFound

/-- `RenewConnector`. The row lives for the clock skew, counted from the server's
clock and not from the request's time. -/
def renewConnector (l : ReplayLedger) (now : Time) (request : RenewalRequest) (answers : StoreAnswers) :
    Except Err (ReplayLedger × AuthResult) := do
  failWith (request.validateAt now)
  let payload ← renewalProofPayload store.rules request
  let signature ← decodeProof store.rules request.signedProof
  let material ← loadProofMaterial answers.material request.accountID request.hostID request.credentialGeneration now
  let key ← material.proofKey store.rules request.identityKeyID request.identityKeyThumbprint
  failWith (verifyTranscript store.rules payload payload signature key)
  sessionState answers.session
  let l' ← l.reserveControlReplay store.db store.rules
    ⟨request.accountID, request.tunnelID, request.connectorID, .renew, request.nonce⟩ request.credentialGeneration
    payload (now.add maxClockSkew) now answers.cleanupErr answers.insertErr
  let leaseExpiry := store.leaseExpiry material now
  refuseIf (!leaseExpiry.after now) .credentialExpired
  failWith answers.sessionErr
  failWith answers.connectorErr
  failWith answers.commitErr
  return (l',
    { accountID := request.accountID, tunnelID := request.tunnelID, connectorID := request.connectorID,
      sessionID := request.sessionID, hostID := request.hostID, identityKeyID := request.identityKeyID,
      identityKeyThumbprint := request.identityKeyThumbprint, processGeneration := request.processGeneration,
      credentialGeneration := request.credentialGeneration, credentialExpiresAt := material.credentialValidUntil,
      leaseExpiresAt := leaseExpiry })

end SQLControlStore

end Paperboat.Connector

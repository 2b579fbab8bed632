import Paperboat.Connector.Registry
/-!
# The server's side of a connector session

A `ServerSession` is created by `accept` and then only changed by its
operations. Every operation reads the clock, closes the session lazily when it
is no longer entitled to run (`ensureActive`), and otherwise rewrites the
session's own fields. The registry the sessions share is part of the `World`
the operations run in, since other sessions attach and disconnect in it.

What the source asks of its environment is an argument here: each clock
reading, the cancellation of the context, the answers of the authenticator, the
snapshot source and the session-id source. `Renew` gives up the lock while it
asks the authenticator, so it is two operations: `renewBegin` leaves a ticket,
`renewCommit` brings the answer back for one.
-/

namespace Paperboat.Connector

open Lib

inductive SessionState where
  | new | awaitingSnapshot | awaitingReady | ready | draining | closed
  deriving DecidableEq

structure ServerConfig where
  capabilities : List String
  (leaseDuration heartbeatInterval : Int)
  deriving DecidableEq

/-- A configuration `newServer` has passed. The doubling is the source's, in
64-bit arithmetic. -/
structure Server extends ServerConfig where
  lease_pos : 0 < leaseDuration
  lease_le : leaseDuration ≤ maxLease
  heartbeat_pos : 0 < heartbeatInterval
  heartbeat_lt : Int.bmod (heartbeatInterval * 2) 18446744073709551616 < leaseDuration
  capabilities_ok : validateCapabilities capabilities = none
  deriving DecidableEq

def newServer (config : ServerConfig) : Except Err Server :=
  let leaseDuration := if config.leaseDuration = 0 then defaultLease else config.leaseDuration
  let heartbeatInterval := if config.heartbeatInterval = 0 then defaultHeartbeat else config.heartbeatInterval
  if h : 0 < leaseDuration ∧ leaseDuration ≤ maxLease ∧ 0 < heartbeatInterval ∧
      Int.bmod (heartbeatInterval * 2) 18446744073709551616 < leaseDuration ∧ validateCapabilities config.capabilities = none then
    .ok { capabilities := config.capabilities, leaseDuration, heartbeatInterval, lease_pos := h.1,
          lease_le := h.2.1, heartbeat_pos := h.2.2.1, heartbeat_lt := h.2.2.2.1, capabilities_ok := h.2.2.2.2 }
  else .error .invalidInput

structure ServerSession where
  server : Server
  ref : SessionRef
  auth : AuthResult
  lease : Lease
  welcome : Welcome
  pendingSnapshot : Option Snapshot
  pendingDelta : Option Delta
  active : Snapshot
  hasActive : Bool
  candidate : Snapshot
  hasCandidate : Bool
  readyGeneration : UInt64
  needsSnapshot : Bool
  state : SessionState
  (lastHeartbeat lastHeartbeatSentAt : Time)
  drain : Option Drain
  drainStatus : DrainStatus
  drainCode : Code
  drainCompleted : Bool
  disconnectReason : DisconnectReason
  deriving DecidableEq

/-- A `Renew` call between its two locked parts. -/
structure RenewalTicket where
  request : RenewalRequest
  now : Time
  expected : AuthResult
  ref : SessionRef

structure World where
  session : ServerSession
  registry : SessionRegistry
  renewals : List RenewalTicket

def bindSnapshot (snapshot : Snapshot) (accountID connectorID sessionID : String) (processGeneration : UInt64) :
    Snapshot :=
  { snapshot with accountID, connectorID, sessionID, processGeneration }

/-! ## Accept -/

/-- What `Accept` gets from its environment: the clock, the authenticator, the
snapshot source and the session-id source. -/
structure AcceptInput where
  now : Time
  authenticate : Except Err AuthResult
  snapshot : Except Err Snapshot
  sessionID : Except Err String

def Hello.admits (hello : Hello) (auth : AuthResult) : Bool :=
  auth.accountID == hello.accountID && auth.tunnelID == hello.tunnelID && auth.connectorID == hello.connectorID &&
    auth.hostID == hello.hostID && auth.identityKeyID == hello.auth.identityKeyID &&
    auth.identityKeyThumbprint == hello.auth.identityKeyThumbprint &&
    auth.processGeneration == hello.processGeneration

/-- The session `Accept` returns once every check has passed. -/
def openSession (server : Server) (ref : SessionRef) (auth : AuthResult) (welcome : Welcome) (snapshot : Snapshot)
    (now : Time) : ServerSession where
  server := server
  ref := ref
  auth := auth
  lease := welcome.lease
  welcome := welcome
  pendingSnapshot := some snapshot
  pendingDelta := none
  active := .empty
  hasActive := false
  candidate := .empty
  hasCandidate := false
  readyGeneration := 0
  needsSnapshot := false
  state := .awaitingSnapshot
  lastHeartbeat := now
  lastHeartbeatSentAt := .zero
  drain := none
  drainStatus := .other ""
  drainCode := .empty
  drainCompleted := false
  disconnectReason := .empty

def grantLease (server : Server) (auth : AuthResult) (sessionID : String) (now : Time) : Lease where
  sessionID := sessionID
  expiresAt :=
    if (now.add server.leaseDuration).before auth.leaseExpiresAt then now.add server.leaseDuration
    else auth.leaseExpiresAt
  heartbeatIntervalMS := UInt32.ofNat (server.heartbeatInterval / Duration.millisecond).toNat

def accept (rules : PayloadRules) (server : Server) (registry : SessionRegistry) (input : AcceptInput) (hello : Hello) :
    SessionRegistry × Except Err (ServerSession × Welcome × Snapshot) :=
  let now := input.now.utc
  match hello.validate now, negotiateVersion hello.minVersion hello.maxVersion,
    negotiateCapabilities hello.capabilities server.capabilities, input.authenticate with
  | some err, _, _, _ => (registry, .error err)
  | none, .error err, _, _ => (registry, .error err)
  | none, .ok _, .error err, _ => (registry, .error err)
  | none, .ok _, .ok _, .error err =>
    (registry, .error (codeError .authenticationFailed .authentication false (some err)))
  | none, .ok version, .ok capabilities, .ok auth =>
    if (auth.validate now).isSome || !hello.admits auth then
      (registry, .error (codeError .authenticationFailed .authentication false (auth.validate now)))
    else match input.snapshot with
    | .error err => (registry, .error (codeError .snapshotRejected .snapshotRejected true (some err)))
    | .ok snapshot =>
      if (snapshot.validate rules).isSome || snapshot.tunnelID != hello.tunnelID then
        (registry, .error (codeError .snapshotRejected .snapshotRejected false (snapshot.validate rules)))
      else match input.sessionID with
      | .error err => (registry, .error (codeError .sessionConflict .authentication true (some err)))
      | .ok sessionID =>
        if !okIdentifier sessionID then (registry, .error (codeError .sessionConflict .authentication true none))
        else
          let lease := grantLease server auth sessionID now
          if (lease.validate now).isSome then
            (registry, .error (codeError .authenticationFailed .authentication false (lease.validate now)))
          else
            let ref : SessionRef := ⟨hello.tunnelID, hello.connectorID, sessionID, hello.processGeneration⟩
            match registry.attach ref with
            | (registry', .error err) => (registry', .error err)
            | (registry', .ok _) =>
              let welcome : Welcome :=
                ⟨protocolName, version, sessionID, capabilities, lease, true, now⟩
              let bound := bindSnapshot snapshot hello.accountID hello.connectorID sessionID hello.processGeneration
              (registry', .ok (openSession server ref auth welcome bound now, welcome, bound))

namespace ServerSession

/-! ## Helpers under the lock -/

variable (s : ServerSession) (ack : DrainAck) (now : Time) (snapshot : Snapshot) (delta : Delta)

def matchesIdentity (accountID tunnelID connectorID sessionID : String) (processGeneration : UInt64) : Bool :=
  accountID == s.auth.accountID && tunnelID == s.ref.tunnelID && connectorID == s.ref.connectorID &&
    sessionID == s.ref.sessionID && processGeneration == s.ref.processGeneration

/-- The state without a drain. A session with and one without an active
snapshot wait alike when they are not ready. -/
def restoreState : ServerSession :=
  { s with
    state :=
      if s.hasActive && s.readyGeneration == s.active.generation && !s.needsSnapshot then .ready
      else .awaitingSnapshot }

def makeAck (kind : AckKind) (status : AckStatus) (generation : UInt64) (contentHash : String) : Ack where
  accountID := s.auth.accountID
  tunnelID := s.ref.tunnelID
  connectorID := s.ref.connectorID
  sessionID := s.ref.sessionID
  processGeneration := s.ref.processGeneration
  kind := kind
  status := status
  generation := generation
  contentHash := contentHash
  code := .empty

def closeWith (reason : DisconnectReason) : ServerSession :=
  { s with state := .closed, disconnectReason := reason }

def activeIsReady : Bool := s.hasActive && s.readyGeneration == s.active.generation

def stage (candidate : Snapshot) : ServerSession :=
  { s with
    candidate := candidate
    hasCandidate := true
    state := if s.activeIsReady then s.state else .awaitingReady }

def refuse : ServerSession := restoreState { s with needsSnapshot := true }

def deltaSnapshot : Snapshot where
  accountID := s.auth.accountID
  tunnelID := delta.tunnelID
  connectorID := s.ref.connectorID
  sessionID := s.ref.sessionID
  processGeneration := s.ref.processGeneration
  generation := delta.generation
  contentHash := delta.contentHash
  payload := delta.payload

/-! ## Operations under the lock

Each is what the source does after `ensureActiveLocked` has passed. -/

def ackSnapshot (pending : Snapshot) (ack : Ack) : ServerSession × Except Err Unit :=
  if ack.kind != .snapshot || ack.generation != pending.generation || ack.contentHash != pending.contentHash then
    (s, .error (codeError .snapshotRejected .snapshotRejected false none))
  else if ack.status = .snapshotRequired then
    (refuse { s with pendingSnapshot := none }, .error (codeError .snapshotRequired .generationGap true none))
  else if ack.status = .rejected then
    (refuse { s with pendingSnapshot := none }, .error (codeError .snapshotRejected .snapshotRejected false none))
  else (stage { s with pendingSnapshot := none, needsSnapshot := false } pending, .ok ())

def ackDelta (pending : Delta) (ack : Ack) : ServerSession × Except Err Unit :=
  if ack.kind != .delta || ack.generation != pending.generation || ack.contentHash != pending.contentHash then
    (s, .error (codeError .deltaRejected .generationGap false none))
  else if ack.status = .snapshotRequired then
    (refuse { s with pendingDelta := none }, .error (codeError .snapshotRequired .generationGap true none))
  else if ack.status = .rejected then
    (refuse { s with pendingDelta := none }, .error (codeError .deltaRejected .snapshotRejected false none))
  else if s.hasActive && (pending.previousGeneration != s.active.generation ||
      pending.previousContentHash != s.active.contentHash) then
    ({ s with pendingDelta := none }, .error (codeError .generationGap .generationGap true none))
  else (stage { s with pendingDelta := none } (s.deltaSnapshot pending), .ok ())

/-- Nothing is pending: only a repeated acknowledgement of the newest
configuration is in order. -/
def ackRepeated (ack : Ack) : Except Err Unit :=
  if ack.status = .duplicate then
    let current := if s.hasCandidate then s.candidate else s.active
    if (!s.hasCandidate && !s.hasActive) || ack.generation != current.generation ||
        ack.contentHash != current.contentHash then .error (codeError .staleGeneration .staleGeneration false none)
    else .ok ()
  else .error (codeError .invalidInput .malformed false none)

def handleAck (ack : Ack) : ServerSession × Except Err Unit :=
  if !s.matchesIdentity ack.accountID ack.tunnelID ack.connectorID ack.sessionID ack.processGeneration then
    (s, .error (codeError .identityMismatch .authentication false none))
  else match s.pendingSnapshot with
  | some pending => s.ackSnapshot pending ack
  | none =>
    match s.pendingDelta with
    | some pending => s.ackDelta pending ack
    | none => (s, s.ackRepeated ack)

def readyTarget : Option Snapshot :=
  if s.hasCandidate then some s.candidate else if s.hasActive then some s.active else none

def promote : ServerSession :=
  if s.hasCandidate then
    { s with active := s.candidate, hasActive := true, candidate := .empty, hasCandidate := false }
  else s

def handleReadiness (readiness : Readiness) : ServerSession × Except Err Ack :=
  if !s.matchesIdentity readiness.accountID readiness.tunnelID readiness.connectorID readiness.sessionID
      readiness.processGeneration then (s, .error (codeError .identityMismatch .authentication false none))
  else match s.readyTarget with
  | none => (s, .error (codeError .staleGeneration .staleGeneration false none))
  | some target =>
    if readiness.generation != target.generation || readiness.contentHash != target.contentHash then
      (s, .error (codeError .staleGeneration .staleGeneration false none))
    else if !readiness.edgeReady || !readiness.routeReady || !readiness.originReady then
      (s, .error (codeError .notReady .snapshotRejected true none))
    else
      ({ s.promote with needsSnapshot := false, readyGeneration := readiness.generation, state := .ready },
        .ok (s.makeAck .ready .applied readiness.generation readiness.contentHash))

def sameGeneration (known offered : Snapshot) : ServerSession × Except Err Unit :=
  if offered.contentHash != known.contentHash then
    (s, .error (codeError .contentHashMismatch .snapshotRejected false none))
  else (s, .ok ())

def envelopeOk (accountID connectorID sessionID : String) (processGeneration : UInt64) : Bool :=
  (accountID == "" || accountID == s.auth.accountID) && (connectorID == "" || connectorID == s.ref.connectorID) &&
    (sessionID == "" || sessionID == s.ref.sessionID) &&
    (processGeneration == 0 || processGeneration == s.ref.processGeneration)

def bind : Snapshot :=
  bindSnapshot snapshot s.auth.accountID s.ref.connectorID s.ref.sessionID s.ref.processGeneration

def propose : ServerSession :=
  { s with
    pendingDelta := none
    pendingSnapshot := some (s.bind snapshot)
    state := if s.hasActive then s.state else .awaitingSnapshot }

def offerSnapshot : ServerSession × Except Err Unit :=
  if snapshot.tunnelID != s.ref.tunnelID then (s, .error (codeError .identityMismatch .authentication false none))
  else if !s.envelopeOk snapshot.accountID snapshot.connectorID snapshot.sessionID snapshot.processGeneration then
    (s, .error (codeError .identityMismatch .authentication false none))
  else if s.hasActive && snapshot.generation < s.active.generation then
    (s, .error (codeError .staleGeneration .staleGeneration false none))
  else if s.hasCandidate && snapshot.generation == s.candidate.generation then s.sameGeneration s.candidate snapshot
  else if s.hasActive && snapshot.generation == s.active.generation then s.sameGeneration s.active snapshot
  else match s.pendingSnapshot.filter (fun pending => snapshot.generation == pending.generation) with
  | some pending => s.sameGeneration pending snapshot
  | none => (s.propose snapshot, .ok ())

def bindDelta : Delta :=
  { delta with
    accountID := s.auth.accountID
    connectorID := s.ref.connectorID
    sessionID := s.ref.sessionID
    processGeneration := s.ref.processGeneration }

def offerDelta : ServerSession × Except Err Unit :=
  if !s.activeIsReady || s.needsSnapshot then (s, .error (codeError .notReady .snapshotRejected true none))
  else if s.pendingSnapshot.isSome || s.pendingDelta.isSome || s.hasCandidate then
    (s, .error (codeError .generationGap .generationGap true none))
  else if delta.tunnelID != s.ref.tunnelID ||
      !s.envelopeOk delta.accountID delta.connectorID delta.sessionID delta.processGeneration ||
      delta.previousGeneration != s.active.generation || delta.previousContentHash != s.active.contentHash then
    (s, .error (codeError .generationGap .generationGap true none))
  else ({ s with pendingDelta := some (s.bindDelta delta) }, .ok ())

def heartbeatTarget : Option Snapshot :=
  if s.hasActive then some s.active else if s.hasCandidate then some s.candidate else s.pendingSnapshot

def withdraw : ServerSession :=
  if s.hasActive then { s with needsSnapshot := true, readyGeneration := 0, state := .awaitingSnapshot } else s

def heartbeatExpiry : Time :=
  if s.auth.credentialExpiresAt.before (now.add s.server.leaseDuration) then s.auth.credentialExpiresAt
  else now.add s.server.leaseDuration

def handleHeartbeat (heartbeat : Heartbeat) : ServerSession × Except Err HeartbeatAck :=
  if !s.matchesIdentity heartbeat.accountID heartbeat.tunnelID heartbeat.connectorID heartbeat.sessionID
      heartbeat.processGeneration then (s, .error (codeError .identityMismatch .authentication false none))
  else if heartbeat.sentAt.after (now.add maxClockSkew) then
    (s, .error (codeError .invalidInput .malformed false none))
  else if heartbeat.sentAt.before (now.add (-maxClockSkew)) then
    (s, .error (codeError .heartbeatTimeout .heartbeatTimeout true none))
  else if !s.lastHeartbeatSentAt.isZero && !heartbeat.sentAt.after s.lastHeartbeatSentAt then
    (s, .error (codeError .staleSession .staleGeneration false none))
  else match s.heartbeatTarget with
  | none => (s, .error (codeError .snapshotRequired .generationGap true none))
  | some expected =>
    if heartbeat.lastAppliedGeneration != expected.generation || heartbeat.lastAppliedHash != expected.contentHash then
      (s.withdraw, .error (codeError .snapshotRequired .generationGap true none))
    else
      ({ s with
          lastHeartbeatSentAt := heartbeat.sentAt
          lastHeartbeat := now
          lease := { s.lease with expiresAt := s.heartbeatExpiry now } },
        .ok ⟨s.auth.accountID, s.ref.tunnelID, s.ref.connectorID, s.ref.sessionID, s.ref.processGeneration,
          s.heartbeatExpiry now, now⟩)

def drainRequest (drainID : String) (deadline : Time) (forceAfterDeadline : Bool) : Drain where
  accountID := s.auth.accountID
  tunnelID := s.ref.tunnelID
  connectorID := s.ref.connectorID
  sessionID := s.ref.sessionID
  processGeneration := s.ref.processGeneration
  drainID := drainID
  generation := s.active.generation
  contentHash := s.active.contentHash
  deadline := deadline
  stopNewStreams := true
  forceAfterDeadline := forceAfterDeadline

/-- `later` is the second clock reading of the call. -/
def beginDrain (later : Time) (drainID : String) (deadline : Time) (forceAfterDeadline : Bool) :
    ServerSession × Except Err Drain :=
  if !s.welcome.capabilities.contains capabilityDrain then
    (s, .error (codeError .capabilityMissing .capabilityMissing false none))
  else match s.drain with
  | some drain =>
    if drain.drainID == drainID then (s, .ok drain)
    else (s, .error (codeError .sessionConflict .staleGeneration true none))
  | none =>
    if !s.hasActive || s.needsSnapshot || s.readyGeneration != s.active.generation || s.state != .ready then
      (s, .error (codeError .notReady .snapshotRejected true none))
    else
      let request := s.drainRequest drainID deadline forceAfterDeadline
      match request.validate later with
      | some err => (s, .error err)
      | none =>
        ({ s with
            drain := some request
            drainStatus := .accepted
            drainCode := .empty
            drainCompleted := false
            state := .draining }, .ok request)

def noteDrain (completed : Bool) : ServerSession :=
  { s with drainStatus := ack.status, drainCode := ack.code, drainCompleted := completed }

def recordDrainAck : ServerSession × Except Err Unit :=
  match ack.status with
  | .accepted | .progress => (s.noteDrain ack s.drainCompleted, .ok ())
  | .completed | .forced => (s.noteDrain ack true, .ok ())
  | .rejected =>
    (restoreState (s.noteDrain ack true), .error (codeError .drainRejected .snapshotRejected false none))
  | .other _ => (s.noteDrain ack s.drainCompleted, .error .invalidInput)

def handleDrainAck : ServerSession × Except Err Unit :=
  if !s.matchesIdentity ack.accountID ack.tunnelID ack.connectorID ack.sessionID ack.processGeneration then
    (s, .error (codeError .identityMismatch .authentication false none))
  else match s.drain.filter (fun drain => ack.drainID == drain.drainID) with
  | none => (s, .error (codeError .staleSession .staleGeneration false none))
  | some drain =>
    if ack.generation != drain.generation || ack.contentHash != drain.contentHash then
      (s, .error (codeError .contentHashMismatch .snapshotRejected false none))
    else if s.drainCompleted then
      if ack.status = s.drainStatus ∧ ack.code = s.drainCode then (s, .ok ())
      else (s, .error (codeError .staleGeneration .staleGeneration false none))
    else s.recordDrainAck ack

def renewalMatches (request : RenewalRequest) : Bool :=
  request.sessionID == s.ref.sessionID && request.accountID == s.auth.accountID &&
    request.tunnelID == s.ref.tunnelID && request.connectorID == s.ref.connectorID &&
    request.hostID == s.auth.hostID && request.identityKeyID == s.auth.identityKeyID &&
    request.identityKeyThumbprint == s.auth.identityKeyThumbprint &&
    request.processGeneration == s.ref.processGeneration && request.credentialGeneration == s.auth.credentialGeneration

/-- The first locked part of `Renew`. -/
def takeTicket (request : RenewalRequest) : ServerSession × Except Err RenewalTicket :=
  if s.renewalMatches request then (s, .ok ⟨request, now, s.auth, s.ref⟩)
  else (s, .error (codeError .identityMismatch .authentication false none))

/-- The second locked part of `Renew`. -/
def commitRenewal (ticket : RenewalTicket) (result : AuthResult) : ServerSession × Except Err AuthResult :=
  if s.auth ≠ ticket.expected ∨ s.ref ≠ ticket.ref then
    (s, .error (codeError .sessionConflict .staleGeneration true none))
  else
    let result := { result with sessionID := ticket.ref.sessionID }
    let configured := ticket.now.add s.server.leaseDuration
    ({ s with
        auth := result
        lease := { s.lease with
          expiresAt := if configured.before result.leaseExpiresAt then configured else result.leaseExpiresAt }
        lastHeartbeat := ticket.now }, .ok result)

def current : Snapshot × Bool × UInt64 :=
  if !s.hasActive then (.empty, false, 0)
  else (s.active, s.state == .ready && !s.needsSnapshot && s.readyGeneration == s.active.generation, s.readyGeneration)

end ServerSession

def RenewalTicket.admits (ticket : RenewalTicket) (result : AuthResult) : Bool :=
  result.accountID == ticket.expected.accountID && result.tunnelID == ticket.ref.tunnelID &&
    result.connectorID == ticket.ref.connectorID &&
    (result.sessionID == "" || result.sessionID == ticket.ref.sessionID) &&
    result.hostID == ticket.expected.hostID && result.identityKeyID == ticket.expected.identityKeyID &&
    result.identityKeyThumbprint == ticket.expected.identityKeyThumbprint &&
    result.processGeneration == ticket.ref.processGeneration &&
    decide (ticket.expected.credentialGeneration ≤ result.credentialGeneration)

namespace World

/-! ## The session in its world -/

variable (w : World) (now : Time)

def close (reason : DisconnectReason) : World :=
  if w.session.state = .closed then w
  else { w with session := w.session.closeWith reason, registry := (w.registry.disconnect w.session.ref reason).1 }

def ensureActive (w : World) (now : Time) : World × Option Err :=
  let s := w.session
  if s.state = .closed then (w, some (codeError .sessionClosed s.disconnectReason false none))
  else if w.registry.active s.ref.connectorID ≠ some s.ref then
    (w.close .sessionReplaced, some (codeError .staleSession .sessionReplaced false none))
  else if !s.auth.credentialExpiresAt.after now then
    (w.close .credentialExpired, some (codeError .credentialExpired .credentialExpired true none))
  else if !s.lease.expiresAt.after now then
    (w.close .leaseExpired, some (codeError .leaseExpired .leaseExpired true none))
  else if !s.lastHeartbeat.isZero && decide (now.sub s.lastHeartbeat >
      2 * (s.lease.heartbeatIntervalMS.toNat : Int) * Duration.millisecond) then
    (w.close .heartbeatTimeout, some (codeError .heartbeatTimeout .heartbeatTimeout true none))
  else (w, none)

/-- An operation under the lock, after `ensureActive`. -/
def locked {α : Type} (body : ServerSession → ServerSession × Except Err α) : World × Except Err α :=
  match w.ensureActive now with
  | (w', some err) => (w', .error err)
  | (_, none) => ({ w with session := (body w.session).1 }, (body w.session).2)

def call {α : Type} (w : World) (refusal : Option Err) (now : Time)
    (body : ServerSession → ServerSession × Except Err α) : World × Except Err α :=
  match refusal with
  | some err => (w, .error err)
  | none => w.locked now body

variable (rules : PayloadRules)

def canceled (ctx : Option Err) : Option Err := ctx.map fun err => codeError .canceled .canceled true (some err)

def handleAck (w : World) (now : Time) (ack : Ack) : World × Except Err Unit :=
  w.call ack.validate now.utc (·.handleAck ack)

def handleReadiness (w : World) (now : Time) (readiness : Readiness) : World × Except Err Ack :=
  w.call readiness.validate now.utc (·.handleReadiness readiness)

def offerSnapshot (w : World) (now : Time) (snapshot : Snapshot) : World × Except Err Unit :=
  w.call ((snapshot.validate rules).map fun err => codeError .snapshotRejected .snapshotRejected false (some err))
    now.utc (·.offerSnapshot snapshot)

def offerDelta (w : World) (now : Time) (delta : Delta) : World × Except Err Unit :=
  w.call ((delta.validate rules).map fun err => codeError .deltaRejected .generationGap false (some err))
    now.utc (·.offerDelta delta)

def handleHeartbeat (w : World) (now : Time) (heartbeat : Heartbeat) : World × Except Err HeartbeatAck :=
  w.call heartbeat.validate now.utc (·.handleHeartbeat now.utc heartbeat)

def beginDrain (w : World) (ctx : Option Err) (now later : Time) (drainID : String) (deadline : Time)
    (forceAfterDeadline : Bool) : World × Except Err Drain :=
  w.call (canceled ctx) now.utc (·.beginDrain later.utc drainID deadline forceAfterDeadline)

def handleDrainAck (w : World) (ctx : Option Err) (now : Time) (ack : DrainAck) : World × Except Err Unit :=
  w.call ((canceled ctx).or ack.validate) now.utc (·.handleDrainAck ack)

/-- `Renew` up to the call of the authenticator. -/
def renewBegin (request : RenewalRequest) : World × Except Err Unit :=
  match w.call (request.validateAt now.utc) now.utc (·.takeTicket now.utc request) with
  | (w', .error err) => (w', .error err)
  | (w', .ok ticket) => ({ w' with renewals := w'.renewals ++ [ticket] }, .ok ())

/-- `Renew` after the call of the authenticator, for one of the waiting calls. -/
def renewCommit (index : Nat) (now : Time) (answer : Except Err AuthResult) : World × Except Err AuthResult :=
  match w.renewals[index]? with
  | none => (w, .error (.text "no such call"))
  | some ticket =>
    let w := { w with renewals := w.renewals.eraseIdx index }
    match answer with
    | .error err => (w, .error (codeError .credentialExpired .credentialExpired true (some err)))
    | .ok result =>
      match result.validate ticket.now with
      | some err => (w, .error (codeError .authenticationFailed .authentication false (some err)))
      | none =>
        if !ticket.admits result then
          (w, .error (codeError .authenticationFailed .authentication false (some (.sentinel .identityMismatch))))
        else w.locked now.utc (·.commitRenewal ticket result)

def checkLease : World × Except Err Unit :=
  match w.ensureActive now with
  | (w', some err) => (w', .error err)
  | (w', none) => (w', .ok ())

def closeSession (reason : DisconnectReason) : World × Except Err Unit :=
  if !validDisconnectReason reason then (w, .error .invalidInput) else (w.close reason, .ok ())

end World

/-! ## Runs -/

/-- A call on the session, with what its environment answers, or a step of
another session on the shared registry. -/
inductive ServerOp where
  | handleAck (now : Time) (ack : Ack)
  | handleReadiness (now : Time) (readiness : Readiness)
  | offerSnapshot (now : Time) (snapshot : Snapshot)
  | offerDelta (now : Time) (delta : Delta)
  | handleHeartbeat (now : Time) (heartbeat : Heartbeat)
  | beginDrain (ctx : Option Err) (now later : Time) (drainID : String) (deadline : Time) (force : Bool)
  | handleDrainAck (ctx : Option Err) (now : Time) (ack : DrainAck)
  | renewBegin (now : Time) (request : RenewalRequest)
  | renewCommit (index : Nat) (now : Time) (answer : Except Err AuthResult)
  | checkLease (now : Time)
  | close (reason : DisconnectReason)
  | attach (ref : SessionRef)
  | disconnect (ref : SessionRef) (reason : DisconnectReason)

inductive Reply where
  | done
  | ack (ack : Ack)
  | heartbeat (ack : HeartbeatAck)
  | drain (request : Drain)
  | auth (result : AuthResult)
  | failed (err : Err)
  deriving DecidableEq

namespace Reply

def of {α : Type} (good : α → Reply) : Except Err α → Reply
  | .ok a => good a
  | .error err => .failed err

def isOk : Reply → Bool
  | .failed _ => false
  | _ => true

end Reply

def World.step (rules : PayloadRules) (w : World) : ServerOp → World × Reply
  | .handleAck now ack => (w.handleAck now ack).map id (.of fun _ => .done)
  | .handleReadiness now readiness => (w.handleReadiness now readiness).map id (.of .ack)
  | .offerSnapshot now snapshot => (w.offerSnapshot rules now snapshot).map id (.of fun _ => .done)
  | .offerDelta now delta => (w.offerDelta rules now delta).map id (.of fun _ => .done)
  | .handleHeartbeat now heartbeat => (w.handleHeartbeat now heartbeat).map id (.of .heartbeat)
  | .beginDrain ctx now later drainID deadline force =>
    (w.beginDrain ctx now later drainID deadline force).map id (.of .drain)
  | .handleDrainAck ctx now ack => (w.handleDrainAck ctx now ack).map id (.of fun _ => .done)
  | .renewBegin now request => (w.renewBegin now request).map id (.of fun _ => .done)
  | .renewCommit index now answer => (w.renewCommit index now answer).map id (.of .auth)
  | .checkLease now => (w.checkLease now).map id (.of fun _ => .done)
  | .close reason => (w.closeSession reason).map id (.of fun _ => .done)
  | .attach ref => ({ w with registry := (w.registry.attach ref).1 }, .done)
  | .disconnect ref reason => ({ w with registry := (w.registry.disconnect ref reason).1 }, .done)

end Paperboat.Connector

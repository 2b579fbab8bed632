import Paperboat.Connector.Server
/-!
# The connector's side of a session

A `ClientSession` stages configurations in two phases. `ApplySnapshot` and
`ApplyDelta` check an offer, let the applier prepare it and stage it as the
candidate; `MarkReadyContext` activates the candidate and promotes it. All
three hold the apply lock from start to end but give up the session lock while
the applier works, so each is two operations here: one up to the call of the
applier, which leaves the work in `busy`, and one with the applier's answer.
Heartbeats and lease checks run in between.

A prepared configuration is a handle of the applier.
-/

namespace Paperboat.Connector

open Lib

inductive Work where
  | snapshot (snapshot : Snapshot)
  | delta (delta : Delta)
  | activation (candidate : Snapshot) (readiness : Readiness)
  deriving DecidableEq

structure ClientSession where
  hello : Hello
  welcome : Welcome
  state : SessionState
  lease : Lease
  auth : AuthRequest
  active : Snapshot
  hasActive : Bool
  candidate : Snapshot
  hasCandidate : Bool
  prepared : Option Nat
  needsSnapshot : Bool
  readyGeneration : UInt64
  lastHeartbeatAck : Time
  disconnectReason : DisconnectReason
  busy : Option Work
  deriving DecidableEq

def Lease.empty : Lease := ⟨"", .zero, 0⟩

def Welcome.empty : Welcome := ⟨"", "", "", [], .empty, false, .zero⟩

def newClientSession (hello : Hello) (now : Time) : Except Err ClientSession :=
  match hello.validate now.utc with
  | some err => .error err
  | none => .ok
    { hello := hello, welcome := .empty, state := .new, lease := .empty, auth := hello.auth, active := .empty,
      hasActive := false, candidate := .empty, hasCandidate := false, prepared := none, needsSnapshot := false,
      readyGeneration := 0, lastHeartbeatAck := .zero, disconnectReason := .empty, busy := none }

/-- What came back from `PrepareSnapshot` or `PrepareDelta`, the contexts afterwards, and the result of `Abort` where
it is called. -/
structure PrepareOutcome where
  prepared : Option Nat
  (err prepareErr ctxErr abortErr : Option Err)

/-- What came back from `Activate`. -/
structure ActivateOutcome where
  (err ctxErr abortErr : Option Err)

inductive ApplyReply where
  | returned (ack : Option Ack) (err : Option Err)
  | working

/-- The result of a `MarkReadyContext` call. -/
inductive ReadyReply where
  | returned (readiness : Option Readiness) (err : Option Err)
  | working

def joinCleanup (primary cleanup : Option Err) : Option Err :=
  match primary, cleanup with
  | primary, none => primary
  | none, some cleanup => some (.wrap "abort prepared configuration" cleanup)
  | some primary, some cleanup => some (.join primary (.wrap "abort prepared configuration" cleanup))

def PrepareOutcome.failure (o : PrepareOutcome) (code : Code) : Option Err :=
  match o.err, o.prepareErr with
  | some err, _ =>
    -- an applier without a prepared configuration has nothing to abort
    let abortErr := if o.prepared.isSome then o.abortErr else none
    if o.ctxErr.isSome || o.prepareErr.isSome then
      some (codeError .canceled .canceled true (joinCleanup (o.ctxErr.or o.prepareErr) abortErr))
    else some (codeError code .snapshotRejected false (joinCleanup (some err) abortErr))
  | none, some prepareErr =>
    let abortErr := if o.prepared.isSome then o.abortErr else none
    some (codeError .canceled .canceled true (joinCleanup (some prepareErr) abortErr))
  | none, none =>
    if o.prepared.isNone then
      some (codeError code .snapshotRejected false (some (.text "applier returned nil prepared configuration")))
    else none

namespace ClientSession

variable (rules : PayloadRules) (c : ClientSession) (now : Time) (ctx : Option Err) (delta : Delta)

def makeAck (kind : AckKind) (status : AckStatus) (generation : UInt64) (contentHash : String)
    (code : Code) : Ack where
  accountID := c.hello.accountID
  tunnelID := c.hello.tunnelID
  connectorID := c.hello.connectorID
  sessionID := c.welcome.sessionID
  processGeneration := c.hello.processGeneration
  kind := kind
  status := status
  generation := generation
  contentHash := contentHash
  code := code

def rejectionAck (kind : AckKind) (generation : UInt64) (contentHash : String) (code : Code) : Ack :=
  c.makeAck kind .rejected generation contentHash code

def restoreState : ClientSession :=
  { c with
    state :=
      if c.hasActive && c.readyGeneration == c.active.generation && !c.needsSnapshot then .ready
      else if c.hasCandidate then .awaitingReady
      else .awaitingSnapshot }

def closeWith (reason : DisconnectReason) : ClientSession :=
  { c with state := .closed, disconnectReason := reason }

def ensureActive : ClientSession × Option Err :=
  if c.state = .closed then (c, some (codeError .sessionClosed c.disconnectReason false none))
  else if c.state = .new then (c, some (codeError .sessionConflict .protocolClosed false none))
  else if !c.lease.expiresAt.after now then
    (c.closeWith .leaseExpired, some (codeError .leaseExpired .leaseExpired true none))
  else if !c.lastHeartbeatAck.isZero && decide (now.sub c.lastHeartbeatAck >
      2 * (c.lease.heartbeatIntervalMS.toNat : Int) * Duration.millisecond) then
    (c.closeWith .heartbeatTimeout, some (codeError .heartbeatTimeout .heartbeatTimeout true none))
  else (c, none)

/-- `now` is read before and `later` after the welcome is checked. -/
def acceptWelcome (now later : Time) (welcome : Welcome) : ClientSession × Option Err :=
  match welcome.validate now.utc with
  | some err => (c, some err)
  | none =>
    if c.state ≠ .new then (c, some (codeError .sessionConflict .protocolClosed false none))
    else if welcome.version != protocolVersion || welcome.protocol != protocolName then
      (c, some (codeError .protocolIncompatible .protocolMismatch false none))
    else match negotiateVersion c.hello.minVersion c.hello.maxVersion with
    | .error err => (c, some err)
    | .ok _ =>
      match negotiateCapabilities c.hello.capabilities welcome.capabilities with
      | .error err => (c, some err)
      | .ok _ =>
        ({ c with
            welcome := welcome
            lease := welcome.lease
            state := .awaitingSnapshot
            lastHeartbeatAck := later.utc }, none)

def envelopeOk (accountID connectorID sessionID : String) (processGeneration : UInt64) : Bool :=
  accountID == c.hello.accountID && connectorID == c.hello.connectorID && sessionID == c.welcome.sessionID &&
    processGeneration == c.hello.processGeneration

def newest : Option Snapshot :=
  if c.hasCandidate then some c.candidate else if c.hasActive then some c.active else none

/-- `ApplySnapshot` up to the call of the applier. -/
def applySnapshotBegin (snapshot : Snapshot) : ClientSession × ApplyReply :=
  match snapshot.validate rules, c.ensureActive now.utc with
  | some err, _ => (c, .returned none (some (codeError .snapshotRejected .snapshotRejected false (some err))))
  | none, (c', some err) => (c', .returned none (some err))
  | none, (_, none) =>
    if snapshot.tunnelID != c.hello.tunnelID then
      (c, .returned none (some (codeError .identityMismatch .authentication false none)))
    else if (snapshot.validateBound rules).isSome ||
        !c.envelopeOk snapshot.accountID snapshot.connectorID snapshot.sessionID snapshot.processGeneration then
      (c, .returned none (some (codeError .identityMismatch .authentication false none)))
    else if c.newest.any fun current => snapshot.generation < current.generation then
      (c, .returned none (some (codeError .staleGeneration .staleGeneration false none)))
    else match c.newest.filter fun current => snapshot.generation == current.generation with
    | some current =>
      if snapshot.contentHash == current.contentHash then
        (c, .returned (some (c.makeAck .snapshot .duplicate snapshot.generation snapshot.contentHash .empty)) none)
      else (c, .returned none (some (codeError .contentHashMismatch .snapshotRejected false none)))
    | none =>
      match ctx with
      | some err => (c, .returned none (some (codeError .canceled .canceled true (some err))))
      | none => ({ c with busy := some (.snapshot snapshot) }, .working)

def deltaNeedsSnapshot (code : Code) : ApplyReply :=
  .returned (some (c.makeAck .delta .snapshotRequired delta.generation delta.contentHash .empty))
    (some (codeError code .generationGap true none))

/-- `ApplyDelta` up to the call of the applier. -/
def applyDeltaBegin : ClientSession × ApplyReply :=
  match delta.validate rules, c.ensureActive now.utc with
  | some err, _ => (c, .returned none (some (codeError .deltaRejected .generationGap false (some err))))
  | none, (c', some err) => (c', .returned none (some err))
  | none, (_, none) =>
    if (delta.validateBound rules).isSome || delta.tunnelID != c.hello.tunnelID ||
        !c.envelopeOk delta.accountID delta.connectorID delta.sessionID delta.processGeneration then
      (c, .returned none (some (codeError .identityMismatch .authentication false none)))
    else if !c.hasActive || c.needsSnapshot || c.hasCandidate then (c, c.deltaNeedsSnapshot delta .snapshotRequired)
    else if delta.previousGeneration == c.active.generation && delta.previousContentHash == c.active.contentHash then
      if delta.generation != c.active.generation + 1 then
        ({ c with needsSnapshot := true }, c.deltaNeedsSnapshot delta .generationGap)
      else
        match ctx with
        | some err => (c, .returned none (some (codeError .canceled .canceled true (some err))))
        | none => ({ c with busy := some (.delta delta) }, .working)
    else if delta.generation ≤ c.active.generation then
      (c, .returned none (some (codeError .staleGeneration .staleGeneration false none)))
    else ({ c with needsSnapshot := true }, c.deltaNeedsSnapshot delta .generationGap)

def deltaSnapshot : Snapshot where
  accountID := c.hello.accountID
  tunnelID := delta.tunnelID
  connectorID := c.hello.connectorID
  sessionID := c.welcome.sessionID
  processGeneration := c.hello.processGeneration
  generation := delta.generation
  contentHash := delta.contentHash
  payload := delta.payload

def stage (candidate : Snapshot) (prepared : Option Nat) (needsSnapshot : Bool) : ClientSession :=
  { c with
    candidate := candidate
    hasCandidate := true
    prepared := prepared
    needsSnapshot := needsSnapshot
    readyGeneration := 0
    state := .awaitingReady }

/-- The common end of both apply calls: the applier has answered, and the
session is locked again. -/
def finishApply (o : PrepareOutcome) (failureCode : Code) (kind : AckKind)
    (candidate : Snapshot) (needsSnapshot : Bool) : ClientSession × ApplyReply :=
  match o.failure failureCode, c.ensureActive now.utc with
  | some err, _ => (c, .returned none (some err))
  | none, (c', some err) => (c', .returned none (joinCleanup (some err) o.abortErr))
  | none, (_, none) =>
    if c.hasCandidate && c.prepared.isSome then
      (c, .returned none (joinCleanup (some (codeError .generationGap .generationGap true none)) o.abortErr))
    else
      (c.stage candidate o.prepared needsSnapshot,
        .returned (some (c.makeAck kind .applied candidate.generation candidate.contentHash .empty)) none)

/-- `ApplySnapshot` or `ApplyDelta` after the call of the applier. -/
def applyFinish (o : PrepareOutcome) : ClientSession × ApplyReply :=
  match c.busy with
  | some (.snapshot snapshot) =>
    { c with busy := none }.finishApply now o .snapshotRejected .snapshot
      (bindSnapshot snapshot c.hello.accountID c.hello.connectorID c.welcome.sessionID c.hello.processGeneration) false
  | some (.delta delta) =>
    { c with busy := none }.finishApply now o .deltaRejected .delta (c.deltaSnapshot delta) c.needsSnapshot
  | _ => (c, .returned none (some (.text "no apply call is waiting")))

/-- `MarkReadyContext` up to the call of `Activate`. -/
def markReadyBegin (edgeReady routeReady originReady : Bool) : ClientSession × ReadyReply :=
  match c.ensureActive now.utc with
  | (c', some err) => (c', .returned none (some err))
  | (_, none) =>
    if !c.hasCandidate then (c, .returned none (some (codeError .snapshotRequired .generationGap true none)))
    else
      let readiness : Readiness :=
        ⟨c.hello.accountID, c.welcome.sessionID, c.hello.tunnelID, c.hello.connectorID, c.hello.processGeneration,
          c.candidate.generation, c.candidate.contentHash, edgeReady, routeReady, originReady⟩
      if !edgeReady || !routeReady || !originReady then
        (c, .returned (some readiness) (some (codeError .notReady .snapshotRejected true none)))
      else match ctx, c.prepared with
      | some err, _ => (c, .returned (some readiness) (some (codeError .canceled .canceled true (some err))))
      | none, none => (c, .returned (some readiness) (some (codeError .snapshotRejected .snapshotRejected false
          (some (.text "missing prepared configuration")))))
      | none, some _ => ({ c with busy := some (.activation c.candidate readiness) }, .working)

def stillStaged (candidate : Snapshot) : Bool :=
  c.hasCandidate && c.candidate.generation == candidate.generation &&
    c.candidate.contentHash == candidate.contentHash

def dropCandidate : ClientSession :=
  restoreState { c with candidate := .empty, hasCandidate := false, prepared := none, needsSnapshot := true }

def promote : ClientSession :=
  { c with
    active := c.candidate
    hasActive := true
    candidate := .empty
    hasCandidate := false
    prepared := none
    needsSnapshot := false
    readyGeneration := c.candidate.generation
    state := .ready }

/-- The end of `MarkReadyContext` for the candidate it started with. -/
def finishReady (o : ActivateOutcome) (candidate : Snapshot) (readiness : Readiness) : ClientSession × ReadyReply :=
  match o.err, c.ensureActive now.utc with
  | some err, _ =>
    let code := if o.ctxErr.isSome then codeError .canceled .canceled true (joinCleanup (some err) o.abortErr)
      else codeError .snapshotRejected .snapshotRejected false (joinCleanup (some err) o.abortErr)
    (if c.stillStaged candidate then c.dropCandidate else c, .returned (some readiness) (some code))
  | none, (c', some err) => (c', .returned (some readiness) (some err))
  | none, (_, none) =>
    if !c.stillStaged candidate then
      (c, .returned (some readiness) (some (codeError .sessionConflict .staleGeneration true none)))
    else (c.promote, .returned (some readiness) none)

/-- `MarkReadyContext` after the call of `Activate`. -/
def markReadyFinish (o : ActivateOutcome) : ClientSession × ReadyReply :=
  match c.busy with
  | some (.activation candidate readiness) => { c with busy := none }.finishReady now o candidate readiness
  | _ => (c, .returned none (some (.text "no activation is waiting")))

/-- A zero `now` is replaced by the clock. -/
def heartbeat (now clock : Time) : ClientSession × Except Err Heartbeat :=
  let now := if now.isZero then clock.utc else now
  match c.ensureActive now with
  | (c', some err) => (c', .error err)
  | (_, none) =>
    match if c.hasActive then some c.active else if c.hasCandidate then some c.candidate else none with
    | none => (c, .error (codeError .snapshotRequired .generationGap true none))
    | some current => (c, .ok ⟨c.hello.accountID, c.welcome.sessionID, c.hello.tunnelID, c.hello.connectorID,
        c.hello.processGeneration, current.generation, current.contentHash, now⟩)

def acceptHeartbeatAck (ack : HeartbeatAck) : ClientSession × Option Err :=
  match ack.validate now.utc, c.ensureActive now.utc with
  | some err, _ => (c, some err)
  | none, (c', some err) => (c', some err)
  | none, (_, none) =>
    if !(ack.tunnelID == c.hello.tunnelID &&
        c.envelopeOk ack.accountID ack.connectorID ack.sessionID ack.processGeneration) then
      (c, some (codeError .identityMismatch .authentication false none))
    else ({ c with lease := { c.lease with expiresAt := ack.leaseExpiresAt }, lastHeartbeatAck := now.utc }, none)

/-- `Close` waits for the apply lock. -/
def close (reason : DisconnectReason) (abortErr : Option Err) : ClientSession × Option Err :=
  if !validDisconnectReason reason then (c, some .invalidInput)
  else if c.state = .closed then (c, none)
  else
    ({ c.closeWith reason with prepared := none, candidate := .empty, hasCandidate := false }, if c.prepared.isSome then
        abortErr.map fun err => codeError .snapshotRejected .snapshotRejected false (joinCleanup none (some err))
      else none)

end ClientSession

end Paperboat.Connector

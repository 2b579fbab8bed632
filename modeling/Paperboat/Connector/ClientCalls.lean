import Paperboat.Connector.Client
import Paperboat.Lib.Custody
/-!
# All calls of the connector's session

`Client` adds to a `ClientSession` what its other calls use: the drain it has
been asked for, and the local variables of calls that are under way. `HandleDrain`
gives up the lock while the runtime stops admitting streams, so it is two
operations, and unlike the apply calls it does not hold the apply lock meanwhile.

`step` is one operation of the session, and `calls` what it does to prepared
configurations: the applier returns one, it is activated, it is aborted.
-/

namespace Paperboat.Connector

open Lib Lib.Custody

structure ClientDrain where
  request : Option Drain
  status : DrainStatus
  code : Code
  completed : Bool
  activeStreams : UInt32

def ClientDrain.empty : ClientDrain := ⟨none, .other "", .empty, false, 0⟩

/-- A session with its drain, the `HandleDrain` call that waits for the
runtime, and the configuration `MarkReadyContext` is activating. -/
structure Client where
  session : ClientSession
  drain : ClientDrain
  stopping : Option Drain
  activating : Option Nat

def Client.new (session : ClientSession) : Client := ⟨session, .empty, none, none⟩

/-- The answers of the runtime to `StopNewStreams` and `ActiveStreams`. -/
structure DrainerAnswer where
  stopErr : Option Err
  streams : Except Err UInt32

inductive DrainReply where
  | returned (ack : Option DrainAck) (err : Option Err)
  | working

namespace ClientSession

variable (c : ClientSession) (now : Time) (result : AuthResult)

def renewalFits : Bool :=
  result.accountID == c.auth.accountID && result.tunnelID == c.auth.tunnelID &&
    result.connectorID == c.auth.connectorID && result.sessionID == c.welcome.sessionID &&
    result.hostID == c.auth.hostID && result.identityKeyID == c.auth.identityKeyID &&
    result.identityKeyThumbprint == c.auth.identityKeyThumbprint &&
    result.processGeneration == c.hello.processGeneration &&
    decide (c.auth.credentialGeneration ≤ result.credentialGeneration)

def renewedAuth : AuthRequest where
  accountID := result.accountID
  tunnelID := result.tunnelID
  connectorID := result.connectorID
  hostID := result.hostID
  identityKeyID := result.identityKeyID
  identityKeyThumbprint := result.identityKeyThumbprint
  processGeneration := result.processGeneration
  credentialGeneration := result.credentialGeneration
  nonce := ""
  signedProof := ""
  issuedAt := now
  expiresAt := result.credentialExpiresAt

def applyRenewal : ClientSession × Option Err :=
  match result.validateBound, c.ensureActive now.utc with
  | some err, _ => (c, some err)
  | none, (c', some err) => (c', some err)
  | none, (_, none) =>
    if !c.renewalFits result then (c, some (codeError .identityMismatch .authentication false none))
    else if result.credentialExpiresAt.before c.auth.expiresAt || result.leaseExpiresAt.before c.lease.expiresAt then
      (c, some (codeError .sessionConflict .authentication false none))
    else if result.credentialGeneration == c.auth.credentialGeneration &&
        result.credentialExpiresAt.equal c.auth.expiresAt && result.leaseExpiresAt.equal c.lease.expiresAt then
      (c, none)
    else
      ({ c with
          auth := renewedAuth now.utc result
          lease := { c.lease with expiresAt := result.leaseExpiresAt }
          lastHeartbeatAck := now.utc }, none)

def checkLease : ClientSession × Option Err := c.ensureActive now

def makeDrainAck (request : Drain) (status : DrainStatus) (activeStreams : UInt32)
    (forced : Bool) (code : Code) : DrainAck where
  accountID := c.hello.accountID
  tunnelID := c.hello.tunnelID
  connectorID := c.hello.connectorID
  sessionID := c.welcome.sessionID
  processGeneration := c.hello.processGeneration
  drainID := request.drainID
  generation := request.generation
  contentHash := request.contentHash
  status := status
  activeStreams := activeStreams
  forcedClose := forced
  code := code

end ClientSession

namespace Client

/-! ## Draining -/

variable (k : Client) (request : Drain)

def rejectDrain (activeStreams : UInt32) (err : Err) : DrainReply :=
  .returned (some (k.session.makeDrainAck request .rejected activeStreams false .drainRejected)) (some err)

/-- The recorded state of the drain, as an acknowledgement of `request`. -/
def drainState : DrainReply :=
  .returned (some (k.session.makeDrainAck request k.drain.status k.drain.activeStreams (k.drain.status == .forced)
    k.drain.code)) none

/-- `HandleDrain` up to the calls of the runtime. -/
def handleDrainBegin (now : Time) (ctx : Option Err) (request : Drain) : Client × DrainReply :=
  let c := k.session
  match ctx, request.validate now.utc, c.ensureActive now.utc with
  | some err, _, _ => (k, .returned none (some (codeError .canceled .canceled true (some err))))
  | none, some err, _ => (k, .returned none (some err))
  | none, none, (c', some err) => ({ k with session := c' }, .returned none (some err))
  | none, none, (_, none) =>
    if !c.welcome.capabilities.contains capabilityDrain then
      (k, .returned none (some (codeError .capabilityMissing .capabilityMissing false none)))
    else if request.tunnelID != c.hello.tunnelID ||
        !c.envelopeOk request.accountID request.connectorID request.sessionID request.processGeneration then
      (k, k.rejectDrain request 0 (codeError .identityMismatch .authentication false none))
    else match k.drain.request with
    | some drain =>
      if request.drainID != drain.drainID then
        (k, k.rejectDrain request k.drain.activeStreams (codeError .sessionConflict .staleGeneration true none))
      else if request.generation != drain.generation || request.contentHash != drain.contentHash then
        (k, k.rejectDrain request k.drain.activeStreams (codeError .contentHashMismatch .snapshotRejected false none))
      else (k, k.drainState request)
    | none =>
      if !c.hasActive || c.needsSnapshot || c.readyGeneration != c.active.generation then
        (k, k.rejectDrain request 0 (codeError .notReady .snapshotRejected true none))
      else if request.generation != c.active.generation || request.contentHash != c.active.contentHash then
        (k, k.rejectDrain request 0 (codeError .staleGeneration .staleGeneration true none))
      else
        ({ k with
            session := { c with state := .draining }
            drain := ⟨some request, .accepted, .empty, false, 0⟩
            stopping := some request }, .working)

def failDrain : Client :=
  if k.drain.request.any fun drain => drain.drainID == request.drainID then
    { k with
      session := k.session.restoreState
      drain := { k.drain with status := .rejected, code := .drainRejected, completed := true } }
  else k

/-- The end of `HandleDrain` for the request it started with. -/
def finishDrain (answer : DrainerAnswer) : Client × DrainReply :=
  match answer.stopErr, answer.streams with
  | some err, _ =>
    (k.failDrain request, (k.failDrain request).rejectDrain request k.drain.activeStreams
      (codeError .drainRejected .snapshotRejected true (some err)))
  | none, .error err =>
    (k.failDrain request, (k.failDrain request).rejectDrain request 0
      (codeError .drainRejected .snapshotRejected true (some err)))
  | none, .ok activeStreams =>
    if activeStreams > maxActiveStreams then
      (k.failDrain request, (k.failDrain request).rejectDrain request 0
        (codeError .drainRejected .snapshotRejected true (some .invalidInput)))
    else if !k.drain.request.any fun drain => drain.drainID == request.drainID then
      (k, k.rejectDrain request activeStreams (codeError .staleSession .staleGeneration false none))
    else
      ({ k with drain := { k.drain with activeStreams := activeStreams } },
        .returned (some (k.session.makeDrainAck request .accepted activeStreams false .empty)) none)

/-- `HandleDrain` after the calls of the runtime. -/
def handleDrainFinish (answer : DrainerAnswer) : Client × DrainReply :=
  match k.stopping with
  | some request => { k with stopping := none }.finishDrain request answer
  | none => (k, .returned none (some (.text "no drain is waiting")))

def noteDrain (status : DrainStatus) (code : Code) (completed : Bool) : Client × DrainReply :=
  ({ k with drain := { k.drain with status := status, code := code, completed := completed } },
    .returned (some (k.session.makeDrainAck request status k.drain.activeStreams (status == .forced) code)) none)

def drainProgress (k : Client) (now : Time) (ctx : Option Err) (activeStreams : UInt32) (forcedClose : Bool) :
    Client × DrainReply :=
  if activeStreams > maxActiveStreams then (k, .returned none (some .invalidInput))
  else match ctx, k.session.ensureActive now.utc with
  | some err, _ => (k, .returned none (some (codeError .canceled .canceled true (some err))))
  | none, (c', some err) => ({ k with session := c' }, .returned none (some err))
  | none, (_, none) =>
    match k.drain.request with
    | none => (k, .returned none (some (codeError .sessionConflict .staleGeneration false none)))
    | some drain =>
      let k := { k with drain := { k.drain with activeStreams := activeStreams } }
      if k.drain.completed then (k, k.drainState drain)
      else if forcedClose then
        if activeStreams != 0 then
          (k, .returned none (some (codeError .invalidInput .snapshotRejected false
            (some (.text "forced drain must have zero active streams")))))
        else k.noteDrain drain .forced .drainTimeout true
      else if activeStreams == 0 then k.noteDrain drain .completed .empty true
      else if !now.utc.before drain.deadline then
        (k, .returned (some (k.session.makeDrainAck drain .progress activeStreams false .empty))
          (some (codeError .drainTimeout .heartbeatTimeout true none)))
      else k.noteDrain drain .progress .empty k.drain.completed

/-- `answer` is the result of `ForceClose` or `ActiveStreams`. The call ends in `DrainProgress`; when other calls come
in between, the run is one with `drainProgress` in its place. -/
def completeDrain (now : Time) (ctx : Option Err) (force : Bool) (answer : Except Err UInt32) : Client × DrainReply :=
  match k.drain.request, answer with
  | none, _ => (k, .returned none (some (codeError .sessionConflict .staleGeneration false none)))
  | some drain, answer =>
    if k.drain.completed then (k, k.drainState drain)
    else match answer with
    | .error err => (k, .returned none (some (codeError .drainRejected .snapshotRejected true (some err))))
    | .ok activeStreams => k.drainProgress now ctx (if force then 0 else activeStreams) force

end Client

/-! ## Operations

`applySnapshot`, `applyDelta` and `markReady` start their calls; `prepared` and
`activated` end them with the answer of the applier. -/

inductive ClientOp where
  | acceptWelcome (now later : Time) (welcome : Welcome)
  | applySnapshot (now : Time) (ctx : Option Err) (snapshot : Snapshot)
  | applyDelta (now : Time) (ctx : Option Err) (delta : Delta)
  | prepared (now : Time) (outcome : PrepareOutcome)
  | markReady (now : Time) (ctx : Option Err) (edge route origin : Bool)
  | activated (now : Time) (outcome : ActivateOutcome)
  | heartbeat (now clock : Time)
  | acceptHeartbeatAck (now : Time) (ack : HeartbeatAck)
  | applyRenewal (now : Time) (result : AuthResult)
  | checkLease (now : Time)
  | handleDrain (now : Time) (ctx : Option Err) (request : Drain)
  | drainStopped (answer : DrainerAnswer)
  | drainProgress (now : Time) (ctx : Option Err) (activeStreams : UInt32) (forcedClose : Bool)
  | completeDrain (now : Time) (ctx : Option Err) (force : Bool) (answer : Except Err UInt32)
  | close (reason : DisconnectReason) (abortErr : Option Err)

inductive ClientReply where
  | waiting
  | done (err : Option Err)
  | apply (reply : ApplyReply)
  | ready (reply : ReadyReply)
  | heartbeat (reply : Except Err Heartbeat)
  | drain (reply : DrainReply)

/-- A call of `MarkReadyContext` has returned without an error. -/
def ClientReply.promoted : ClientReply → Bool
  | .ready (.returned _ none) => true
  | _ => false

namespace ClientSession

def free (c : ClientSession) : ClientSession := { c with busy := none }

def applyCalls (c : ClientSession) (now : Time) (o : PrepareOutcome) (failureCode : Code) : List (Event Nat) :=
  let aborted := o.prepared.toList.map .disposed
  match o.failure failureCode, c.ensureActive now.utc with
  | some _, _ => aborted
  | none, (_, some _) => aborted
  | none, (_, none) => if c.hasCandidate && c.prepared.isSome then aborted else []

end ClientSession

namespace Client

variable (rules : PayloadRules)

def locked (k : Client) (call : ClientSession → ClientSession × ClientReply) : Client × ClientReply :=
  if k.session.busy.isSome then (k, .waiting) else ({ k with session := (call k.session).1 }, (call k.session).2)

def step (k : Client) : ClientOp → Client × ClientReply
  | .acceptWelcome now later welcome =>
    let r := k.session.acceptWelcome now later welcome
    ({ k with session := r.1 }, .done r.2)
  | .applySnapshot now ctx snapshot =>
    k.locked fun c => (c.applySnapshotBegin rules now ctx snapshot).map id .apply
  | .applyDelta now ctx delta => k.locked fun c => (c.applyDeltaBegin rules now ctx delta).map id .apply
  | .prepared now outcome =>
    let r := k.session.applyFinish now outcome
    ({ k with session := r.1 }, .apply r.2)
  | .markReady now ctx edge route origin =>
    if k.session.busy.isSome then (k, .waiting)
    else
      let r := k.session.markReadyBegin now ctx edge route origin
      ({ k with session := r.1, activating := if r.1.busy.isSome then k.session.prepared else none }, .ready r.2)
  | .activated now outcome =>
    let r := k.session.markReadyFinish now outcome
    ({ k with session := r.1 }, .ready r.2)
  | .heartbeat now clock =>
    let r := k.session.heartbeat now clock
    ({ k with session := r.1 }, .heartbeat r.2)
  | .acceptHeartbeatAck now ack =>
    let r := k.session.acceptHeartbeatAck now ack
    ({ k with session := r.1 }, .done r.2)
  | .applyRenewal now result =>
    let r := k.session.applyRenewal now result
    ({ k with session := r.1 }, .done r.2)
  | .checkLease now =>
    let r := k.session.checkLease now
    ({ k with session := r.1 }, .done r.2)
  | .handleDrain now ctx request => (k.handleDrainBegin now ctx request).map id .drain
  | .drainStopped answer => (k.handleDrainFinish answer).map id .drain
  | .drainProgress now ctx activeStreams forcedClose =>
    (k.drainProgress now ctx activeStreams forcedClose).map id .drain
  | .completeDrain now ctx force answer => (k.completeDrain now ctx force answer).map id .drain
  | .close reason abortErr => k.locked fun c => (c.close reason abortErr).map id .done

def next (k : Client) (op : ClientOp) : Client := (k.step rules op).1

def calls (k : Client) : ClientOp → List (Event Nat)
  | .prepared now o =>
    match k.session.busy with
    | some (.snapshot _) => o.prepared.toList.map .acquired ++ k.session.free.applyCalls now o .snapshotRejected
    | some (.delta _) => o.prepared.toList.map .acquired ++ k.session.free.applyCalls now o .deltaRejected
    | _ => []
  | .activated _ o =>
    match k.session.busy with
    | some (.activation _ _) =>
      k.activating.toList.map fun config => if o.err.isSome then .disposed config else .committed config
    | _ => []
  | .close reason _ =>
    if k.session.busy.isSome || !validDisconnectReason reason || k.session.state = .closed then []
    else k.session.prepared.toList.map .disposed
  | _ => []

end Client

end Paperboat.Connector

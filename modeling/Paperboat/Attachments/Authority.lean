import Paperboat.Attachments.Contract
import Paperboat.Lib.Ranking
import Paperboat.Teams.Capacity
/-!
# Who may be attached, and where

`ServerAuthority`: the resolver reads the lease with its machine and the operation
that created it, the selector takes one edge node, and the issuer derives the names
of the carrier from the account, the machine and the node. All names are digests of
texts, so the same request gives the same names.
-/

namespace Paperboat.Attachments

open Lib
open Previews (OperationState)

/-! ## The registries -/

inductive MachineState where
  | pending | online | offline | disconnected | revoked | deleted
  deriving DecidableEq

/-- A row of `user_machines`. -/
structure Machine where
  (id userID : String)
  ownerTeamID : Option String
  configuredCapabilities : List String
  (installationGeneration workerGeneration : Nat)
  state : MachineState
  online : Bool
  (deletedAt revokedAt : Option Time)
  publicIdentityKey : Option String

inductive NodeState where
  | registered | ready | draining | offline | retired
  deriving DecidableEq

/-- A row of `control_tunnel_nodes`, with the checks on its carrier columns. -/
structure Node where
  (id processEpoch : String)
  state : NodeState
  ready : Bool
  carrierEndpointHost : Option String
  (carrierEndpointTCPPort carrierEndpointQUICPort : Option Int)
  (carrierServerSPKISHA256 carrierServerCertificateChainPEM : Option String)
  (lastHeartbeatAt drainDeadline : Option Time)
  spki_form : carrierServerSPKISHA256.all (sha256Text isLowerHex)
  chain_form : carrierServerCertificateChainPEM.all (fun v => 1 ≤ v.utf8ByteSize && v.utf8ByteSize ≤ 65536)
  deriving DecidableEq

def Node.inService (n : Node) (now : Time) : Bool :=
  n.lastHeartbeatAt.all (·.after (now.add (-(2 * Duration.minute)))) && n.drainDeadline.all (·.after now)

/-- The rows of `selectPreviewEdgeNodeSQL`. -/
def Node.eligible (n : Node) (now : Time) : Bool :=
  n.state == .ready && n.ready && n.carrierEndpointHost.isSome && n.carrierEndpointTCPPort.isSome &&
    n.carrierEndpointQUICPort.isSome && n.inService now

/-- A row of `team_machine_grants`; without an account it is for `all_members`. -/
structure MachineGrant where
  (teamID machineID : String)
  accountID : Option String
  capabilities : List String
  active : Bool

structure Registry where
  previews : Previews.Tables
  machines : Table Machine.id
  nodes : Table Node.id
  teams : Teams.Tables
  grants : List MachineGrant

/-! ## Who may use a machine -/

section
variable (w : Registry) (actor team machine capability : String)

def isMachineCapability : Bool :=
  ["terminal", "exec", "managed_ssh", "files", "preview_manage", "tunnel_manage"].contains capability

def Registry.teamMachineCapabilityAllowed : Bool :=
  isMachineCapability capability && w.teams.teams.any (fun t => t.1 == team && !t.2) && w.teams.member actor team &&
    (w.machines.find machine).any fun m => m.revokedAt.isNone && m.deletedAt.isNone &&
      w.teams.bindings.any (fun b => b.binds team .machine machine && b.active &&
        (m.ownerTeamID.isNone && b.ownerAccount == m.userID || m.ownerTeamID == some team)) &&
      w.grants.any fun g => g.teamID == team && g.machineID == machine && g.active && g.accountID.all (· == actor) &&
        g.capabilities.contains capability

def Registry.machineCapabilityAllowed : Bool :=
  isMachineCapability capability &&
    ((w.machines.find machine).any (fun m => m.userID == actor && m.ownerTeamID.isNone && m.revokedAt.isNone &&
        m.deletedAt.isNone) ||
      w.teams.bindings.any fun b => b.resourceKind == .machine && b.resourceID == machine &&
        w.teamMachineCapabilityAllowed actor b.teamID machine capability)

end

/-! ## The lease -/

def attachableOperation : OperationState → Bool
  | .pending | .running | .uncertain | .succeeded => true
  | _ => false

/-- A machine that serves: the part of `resolvePreviewLeaseSQL` on `user_machines`. -/
def Machine.serves (m : Machine) (installationGeneration : Nat) : Bool :=
  m.configuredCapabilities.contains "preview_launch" && m.installationGeneration == installationGeneration &&
    m.state == .online && m.online && m.deletedAt.isNone && m.revokedAt.isNone && m.publicIdentityKey.isSome

structure LeaseLookup where
  (userID machineID : String)
  installationGeneration : Nat
  (previewID operationID ownerSessionID : String)

variable (codec : Codec) (w : Registry)

/-- The row of `resolvePreviewLeaseSQL`: a lease with its machine. -/
def Registry.resolvedLease (i : LeaseLookup) (now : Time) : Option (Previews.Lease × Machine) := do
  let p ← w.previews.leases.find i.previewID
  let m ← w.machines.find p.ownerDeviceID
  let c ← w.previews.createOperations.find (p.accountID, p.id)
  let o ← w.previews.operations.find c.operationID
  if c.operationID = i.operationID ∧ o.accountID = c.accountID ∧ m.userID = i.userID ∧ p.actorID = p.accountID ∧
      w.machineCapabilityAllowed p.accountID m.id "preview_manage" ∧
      (p.accessMode = .publicAccess → m.ownerTeamID = none ∧ m.userID = p.accountID) ∧
      p.ownerDeviceID = i.machineID ∧ m.serves i.installationGeneration ∧ p.ownerSessionID = i.ownerSessionID ∧
      p.terminalState = .active ∧ p.leaseDeadline.after now ∧ attachableOperation o.state then
    some (p, m)
  else none

def leaseSnapshot (p : Previews.Lease) (m : Machine) (operationID publicKey thumbprint : String) : LeaseSnapshot where
  machineAccountID := m.userID
  accountID := p.accountID
  actorID := p.actorID
  previewID := p.id
  operationID
  ownerDeviceID := p.ownerDeviceID
  ownerSessionID := p.ownerSessionID
  endpoint := p.endpoint
  target := ⟨p.targetScheme, p.targetAddress⟩
  accessMode := p.accessMode
  generation := p.generation
  leaseDeadline := p.leaseDeadline
  state := p.terminalState
  machineIdentityPublicKey := publicKey
  machineIdentityThumbprint := thumbprint

def resolvePreviewLease (i : LeaseLookup) (now : Time) : Except Err LeaseSnapshot := do
  refuseIf (!validID i.userID || !validID i.machineID || !validID i.previewID || !validID i.operationID ||
    !validID i.ownerSessionID || i.installationGeneration == 0) .invalid
  match w.resolvedLease i now with
  | none => .error .unauthorized
  | some (p, m) =>
    let publicKey := m.publicIdentityKey.getD ""
    match machineIdentityThumbprint codec publicKey with
    | none => .error .unauthorized
    | some thumbprint => .ok (leaseSnapshot p m i.operationID publicKey thumbprint)

/-! ## The edge node -/

def Node.before (seed : String) (a b : Node) : Bool :=
  let rank (n : Node) := codec.md5 (n.id ++ ":" ++ seed)
  decide (rank a < rank b) || decide (rank a = rank b) && decide (a.id ≤ b.id)

def selectionSeed (ownerDeviceID : String) (installationGeneration : Nat) : String :=
  ownerDeviceID ++ ":" ++ toString installationGeneration

/-- `selectPreviewEdgeNodeSQL`: rows that another transaction holds are skipped. -/
def Registry.selectedNode (seed : String) (locked : Node → Bool) (now : Time) : Option Node :=
  firstBy (Node.before codec seed) (w.nodes.rows.filter fun n => n.eligible now && !locked n)

/-- `DBPreviewEdgeNodeSelector.SelectPreviewEdgeNode` for a lease and a machine. -/
def selectPreviewEdgeNode (locked : Node → Bool) (l : LeaseSnapshot) (installationGeneration : Nat)
    (now : Time) : Except Err String := do
  refuseIf (!validID l.accountID || !validID l.previewID || !validID l.operationID || !validID l.ownerDeviceID ||
    installationGeneration == 0) .invalid
  match w.selectedNode codec (selectionSeed l.ownerDeviceID installationGeneration) locked now with
  | none => .error .admissionUnavailable
  | some n => do
    refuseIf (!validID n.id) .conflict
    .ok n.id

/-! ## The carrier -/

/-- `strings.Join` with a null character. -/
def joined (parts : List String) : String := "\x00".intercalate parts

structure CarrierSeed where
  (accountID ownerDeviceID : String)
  installationGeneration : Nat
  (edgeNodeID previewID operationID requestHash : String)
  workerGeneration : Nat

structure CarrierIDs where
  (tunnelID connectorID sessionID routeID : String)

namespace CarrierSeed

variable (codec : Codec) (i : CarrierSeed)

def suffix (parts : List String) : String := String.ofList ((codec.sha256 (joined parts)).toList.take 32)

def identitySuffix : String :=
  suffix codec ["paperboat.preview-carrier.identity.v1", i.accountID, i.ownerDeviceID, toString i.installationGeneration,
    i.edgeNodeID]

def sessionSuffix : String :=
  suffix codec ["paperboat.preview-carrier.session.v1", i.identitySuffix codec, toString i.workerGeneration]

def routeSuffix : String :=
  suffix codec ["paperboat.preview-carrier.route.v1", i.accountID, i.previewID, i.operationID, i.requestHash]

/-- `previewCarrierIDs` -/
def ids : CarrierIDs where
  tunnelID := "pvc_tun_" ++ i.identitySuffix codec
  connectorID := "pvc_con_" ++ i.identitySuffix codec
  sessionID := "pvc_ses_" ++ i.sessionSuffix codec
  routeID := "pvc_rte_" ++ i.routeSuffix codec

/-- `previewCarrierConfigHash`: the session is part of the configuration. -/
def configHash : String :=
  "sha256:" ++ codec.sha256 (joined ["paperboat.preview-carrier-config.v1", i.accountID, i.ownerDeviceID,
    toString i.installationGeneration, i.edgeNodeID, (i.ids codec).tunnelID, (i.ids codec).connectorID, (i.ids codec).sessionID])

end CarrierSeed

variable (codec : Codec) (n : Node) (w : Registry)

/-- The rows of `getPreviewCarrierEdgeNodeSQL`. -/
def Registry.carrierRows (nodeID machineID machineAccountID : String) (installationGeneration : Nat) (now : Time) :
    Option (Node × Machine) := do
  let n ← w.nodes.find nodeID
  let m ← w.machines.find machineID
  if m.userID = machineAccountID ∧ n.eligible now ∧ n.carrierServerSPKISHA256.isSome ∧
      n.carrierServerCertificateChainPEM.isSome ∧ m.installationGeneration = installationGeneration ∧ m.state = .online ∧
      m.online ∧ m.deletedAt.isNone ∧ m.revokedAt.isNone ∧ m.publicIdentityKey.isSome ∧ 0 < m.workerGeneration then
    some (n, m)
  else none

/-- `previewCarrierEdgeNode.valid` beyond what its query asks for. -/
def Node.valid : Bool :=
  let host := n.carrierEndpointHost.getD ""
  let tcp := n.carrierEndpointTCPPort.getD 0
  let quic := n.carrierEndpointQUICPort.getD 0
  validID n.id && validOpaqueEpoch n.processEpoch && validCarrierServerSPKISHA256 (n.carrierServerSPKISHA256.getD "") &&
    host != "" && Connector.trimSpace host == host && !hasControl host &&
    !host.toList.any (fun c => ['/', ':', '@', '[', ']'].contains c) &&
    decide (1 ≤ tcp) && decide (tcp ≤ 65535) && decide (1 ≤ quic) && decide (quic ≤ 65535) && tcp != quic

/-- `net.JoinHostPort` for a host without a colon. -/
def joinHostPort (host : String) (port : Int) : String :=
  (if host.toList.contains '%' then "[" ++ host ++ "]" else host) ++ ":" ++ toString port

def Node.endpoints : List String :=
  let host := n.carrierEndpointHost.getD ""
  ["h2://" ++ joinHostPort host (n.carrierEndpointTCPPort.getD 0), "h3://" ++ joinHostPort host (n.carrierEndpointQUICPort.getD 0)]

structure CarrierRequest where
  proof : MachineProof
  request : Request
  lease : LeaseSnapshot
  (requestHash edgeNodeID : String)

def CarrierRequest.seed (i : CarrierRequest) (n : Node) (m : Machine) : CarrierSeed where
  accountID := i.lease.accountID
  ownerDeviceID := i.lease.ownerDeviceID
  installationGeneration := i.proof.installationGeneration
  edgeNodeID := n.id
  previewID := i.lease.previewID
  operationID := i.lease.operationID
  requestHash := i.requestHash
  workerGeneration := m.workerGeneration

def CarrierRequest.allocation (i : CarrierRequest) (codec : Codec) (n : Node) (m : Machine) : CarrierSnapshot × RouteSnapshot :=
  let ids := (i.seed n m).ids codec
  ({ accountID := i.lease.accountID
     hostID := i.lease.ownerDeviceID
     tunnelID := ids.tunnelID
     connectorID := ids.connectorID
     sessionID := ids.sessionID
     processGeneration := m.workerGeneration
     configGeneration := 1
     configContentHash := (i.seed n m).configHash codec
     leaseDeadline := i.lease.leaseDeadline
     edgeNodeID := n.id
     edgeProcessEpoch := n.processEpoch
     edgeCarrierServerSPKISHA256 := n.carrierServerSPKISHA256.getD ""
     edgeCarrierServerCertificateChainPEM := n.carrierServerCertificateChainPEM.getD ""
     machineIdentityPublicKey := i.lease.machineIdentityPublicKey
     machineIdentityThumbprint := i.lease.machineIdentityThumbprint
     edgeEndpoints := n.endpoints },
   { accountID := i.lease.accountID
     tunnelID := ids.tunnelID
     routeID := ids.routeID
     generation := 1
     protocol := "https"
     publicEndpoint := i.lease.endpoint })

def isDigest (v : String) : Bool := v.toList.length == 64 && v.toList.all isHex

def issuePreviewCarrier (i : CarrierRequest) (now : Time) : Except Err (CarrierSnapshot × RouteSnapshot) := do
  refuseIf (!i.proof.valid) .invalid
  refuseIf (!i.request.valid) .invalid
  refuseIf (!i.lease.target.valid) .invalid
  refuseIf (!validID i.edgeNodeID || i.lease.operationID != i.request.operationID ||
    i.lease.ownerDeviceID != i.proof.machineID || i.lease.machineAccountID != i.proof.userID) .unauthorized
  refuseIf (!isDigest i.requestHash) .invalid
  match w.carrierRows i.edgeNodeID i.lease.ownerDeviceID i.lease.machineAccountID i.proof.installationGeneration now with
  | none => .error .admissionUnavailable
  | some (n, m) => do
    refuseIf (!n.valid) .admissionUnavailable
    .ok (i.allocation codec n m)

def checkLease (now : Time) (lease : LeaseSnapshot) : Except Err Unit :=
  match validateResolution codec now
      ⟨lease, ⟨"", "", "", "", "", 0, 0, "", .zero, "", "", "", "", "", "", []⟩, ⟨"", "", "", 0, "", ""⟩⟩ with
  | .ok () => .ok ()
  | .error e =>
    refuseIf (!lease.named || lease.generation == 0 || lease.leaseDeadline.isZero || !lease.leaseDeadline.after now ||
      lease.state != .active) e

def allocatePreviewCarrier (locked : Node → Bool) (proof : MachineProof) (req : Request)
    (lease : LeaseSnapshot) (requestHash : String) (now : Time) : Except Err (CarrierSnapshot × RouteSnapshot) := do
  refuseIf (!proof.valid) .invalid
  refuseIf (!req.valid) .invalid
  checkLease codec now lease
  refuseIf (lease.machineAccountID != proof.userID || lease.ownerDeviceID != proof.machineID ||
    lease.ownerSessionID != req.ownerSessionID || lease.operationID != req.operationID) .unauthorized
  refuseIf (!isDigest requestHash) .invalid
  let edgeNodeID ← selectPreviewEdgeNode codec w locked lease proof.installationGeneration now
  refuseIf (!validID edgeNodeID) .conflict
  let allocation ← issuePreviewCarrier codec w ⟨proof, req, lease, requestHash, edgeNodeID⟩ now
  refuseIf (allocation.1.edgeNodeID != edgeNodeID) .staleBinding
  validateResolution codec now ⟨lease, allocation.1, allocation.2⟩
  .ok allocation

def resolvePreviewAttachment (locked : Node → Bool) (proof : MachineProof) (req : Request)
    (now : Time) : Except Err Resolution := do
  refuseIf (!proof.valid) .invalid
  refuseIf (!req.valid) .invalid
  refuseIf (proof.operationID != req.operationID || proof.operationID != req.idempotencyKey ||
    proof.machineID != req.ownerDeviceID) .unauthorized
  let lease ← resolvePreviewLease codec w
    ⟨proof.userID, proof.machineID, proof.installationGeneration, req.previewID, req.operationID, req.ownerSessionID⟩ now
  refuseIf (lease.machineAccountID != proof.userID || lease.ownerDeviceID != proof.machineID ||
    lease.ownerSessionID != req.ownerSessionID || lease.previewID != req.previewID || lease.operationID != proof.operationID)
    .unauthorized
  let hash ← req.hash codec lease.accountID
  let allocation ← allocatePreviewCarrier codec w locked proof req lease hash now
  .ok ⟨lease, allocation.1, allocation.2⟩

end Paperboat.Attachments

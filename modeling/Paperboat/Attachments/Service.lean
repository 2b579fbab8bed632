import Paperboat.Attachments.Repository
/-!
# The service

`Service`: every call by a machine resolves the current lease and carrier first, and
compares them with the attachment that is stored. The edge acknowledges admissions and
observes carriers on its own.
-/

namespace Paperboat.Attachments

open Lib

namespace World

variable (codec : Codec) (w : World) (locked : Node → Bool) (proof : MachineProof) (req : Request)

def resolve (now : Time) : Except Err Resolution := do
  validateRequestProof proof req
  let r ← resolvePreviewAttachment codec w.toRegistry locked proof req now
  validateResolution codec now r
  authorizeResolution proof req r
  .ok r

/-- The rest of `Service.Allocate`, once the stored attachment is read. -/
def reconcileAllocation (hash : String) (current pending : Attachment) (now : Time) :
    Except Err (Attachment × World) := do
  refuseIf (current.requestHash != hash) .idempotencyConflict
  refuseIf current.state.terminal .terminal
  refuseIf (!current.binding.logicalEqual pending.binding) .conflict
  refuseIf (current.attachmentGeneration == 0) .conflict
  if current.binding.carrierEqual pending.binding && current.expiresAt.equal pending.expiresAt then .ok (current, w)
  else w.renew codec current { pending with attachmentGeneration := current.attachmentGeneration } now

def allocate (now : Time) : Except Err (Attachment × World) := do
  let r ← w.resolve codec locked proof req now
  let hash ← req.hash codec r.lease.accountID
  let (current, w) ← w.createPending codec (attachmentFromResolution req hash r now) now
  w.reconcileAllocation codec hash current (attachmentFromResolution req hash r now) now

/-- `AdmissionRequest.Validate` for the request of an attachment. -/
def checkAdmissionRequest (a : Attachment) (now : Time) : Except Err Unit := do
  refuseIf (!a.binding.valid) .invalid
  refuseIf (a.idempotencyKey == "" || a.idempotencyKey != a.binding.operationID || a.attachmentGeneration == 0) .invalid
  refuseIf (!validContentHash a.configContentHash) .invalid
  codec.checkEdgeEndpoints a.edgeEndpoints
  refuseIf (!codec.validEndpoint a.endpoint) .invalid
  refuseIf (a.expiresAt.isZero || !now.isZero && !a.expiresAt.after now) .expired

/-- `OutboxAdmissionPublisher.PublishPreviewCarrierAdmission` accepts what the edge has acknowledged. -/
def published (a : Attachment) (now : Time) : Bool :=
  (checkAdmissionRequest codec a now).toBool &&
    (w.outbox.find (a.binding.accountID, a.binding.operationID, a.attachmentGeneration, .admission)).any (·.state == .delivered)

variable (binding : Binding) (generation : Nat)

/-- The reading part of `Service.Admit`: the attachment, and whether it is still to be prepared and published. -/
def admissionTarget (now : Time) : Except Err (Attachment × Bool) := do
  let r ← w.resolve codec locked proof req now
  refuseIf (!binding.carrierEqual r.binding) .staleBinding
  let current ← w.get codec r.binding.accountID req.operationID
  checkRecordRequest codec current req current.binding.accountID
  refuseIf (current.binding != binding) .staleBinding
  if current.attachmentGeneration = generation + 1 ∧ current.state = .admitted then .ok (current, false)
  else do
    refuseIf (current.attachmentGeneration != generation) .staleBinding
    refuseIf current.state.terminal .terminal
    .ok (current, current.state == .pending)

variable (current : Attachment) (now : Time)

/-- The end of `Service.Admit` -/
def publishAdmission : Except Err (Attachment × World) := do
  checkAdmissionRequest codec current .zero
  refuseIf (!w.published codec current now) .admissionUnavailable
  w.admitAttachment codec current now

/-- `PreparePreviewCarrierAdmission` -/
def prepareCurrent : Except Err World := do
  refuseIf (current.state != .pending) .conflict
  current.validate codec
  .ok (w.prepareAdmission current now)

def serviceObserveEdge : Except Err (Attachment × World) := do
  refuseIf (!req.valid) .invalid
  refuseIf (req.operationID != binding.operationID || req.previewID != binding.previewID ||
    req.ownerDeviceID != binding.ownerDeviceID || req.ownerSessionID != binding.ownerSessionID) .unauthorized
  let current ← w.get codec binding.accountID req.operationID
  checkRecordRequest codec current req binding.accountID
  refuseIf (current.binding != binding) .staleBinding
  if current.attachmentGeneration ≠ generation then do
    refuseIf (!(decide (generation < current.attachmentGeneration) && current.edgeReady)) .staleBinding
    .ok (current, w)
  else w.observeEdge codec current now

def serviceRenew : Except Err (Attachment × World) := do
  let r ← w.resolve codec locked proof req now
  let current ← w.get codec r.lease.accountID req.operationID
  checkRecordRequest codec current req current.binding.accountID
  if current.attachmentGeneration = generation + 1 ∧ current.binding = r.binding ∧ current.expiresAt.after now then
    .ok (current, w)
  else do
    refuseIf (current.attachmentGeneration != generation) .staleBinding
    refuseIf current.state.terminal .terminal
    w.renew codec current
      { attachmentFromResolution req current.requestHash r now with attachmentGeneration := current.attachmentGeneration } now

/-! ## Observations of the edge -/

def requestFromAttachment (a : Attachment) : Request where
  previewID := a.binding.previewID
  operationID := a.binding.operationID
  ownerDeviceID := a.binding.ownerDeviceID
  ownerSessionID := a.binding.ownerSessionID
  idempotencyKey := a.idempotencyKey
  requestID := a.requestID
  correlationID := a.correlationID

inductive ObservedState where
  | edgeReady | detached | expired

def checkObservedGeneration (generation : Nat) : Except Err Unit :=
  if current.state = .admitted then refuseIf (current.attachmentGeneration != generation + 1) .staleBinding
  else refuseIf (!current.edgeReady || decide (current.attachmentGeneration < generation + 1)) .admissionUnavailable

def observeOne (state : ObservedState) (now : Time) : Except Err World := do
  let current ← w.get codec binding.accountID binding.operationID
  refuseIf (current.binding != binding) .staleBinding
  match state with
  | .edgeReady => do
    checkObservedGeneration current generation
    let (_, w) ← w.serviceObserveEdge codec (requestFromAttachment current) current.binding current.attachmentGeneration now
    .ok w
  | .detached | .expired => do
    refuseIf (decide (current.attachmentGeneration < generation)) .staleBinding
    .ok w

end World

/-! ## A machine, a preview and two nodes -/

namespace Sample

/-- The SHA-256 of the texts that are hashed here, which the sums of their bytes tell apart. -/
def digests : List (Nat × String) :=
  [(1299, "ebbebc1ad20e88d9ba3657049b288f968cbc61c4d89a579059347dd9fb841e07"),
    (9242, "8b55db708eace0c59602d683f7abf3161d28f95f5a35f7dc992313c5e41ef116"),
    (5244, "b1b3651c36b4208aefce05667afd25ba61cce9e31fc96b017d4c8994e4ee37e0"),
    (5964, "3d86136da312a340ef177d031aa4ac22471fa2d33f52437756b22a8762f963f1"),
    (14354, "92c2d037e5ea89930fea171722f5e2991ea822bed7abafb4c4910b8a4187ebbe"),
    (5965, "4a47be21d16ab6f422302a2c12be2f5fe734cb741fd1df8c4d721f1c4075fe39"),
    (14452, "b6a6527d97496b4225a3dd3ab29f5eca664a81a4177113670ab1d25ac4169444"),
    (5245, "c91aa8da390e36784a22a592b85d3d38f5d40992be56b1450a9d5a221da2c8af"),
    (5839, "c5fb426d751ac5121437ea4b3444430e118a82c9b6cf84a75042774d1a7842ee"),
    (14070, "93f693049313429997fbc8025385cbcf84348df5990f20e49afecb0e1a2cf344")]

def byteSum (text : String) : Nat := text.toByteArray.data.toList.foldl (fun sum b => sum + b.toNat) 0

def digest (text : String) : String :=
  ((digests.find? (·.1 == byteSum text)).map (·.2)).getD (String.ofList (List.replicate 64 '0'))

theorem digest_hex (text : String) : (digest text).toList.length = 64 ∧ (digest text).toList.all isLowerHex := by
  have hall : digests.all (fun d => d.2.toList.length == 64 && d.2.toList.all isLowerHex) := by decide +kernel
  unfold digest
  cases hfind : digests.find? _ with
  | none => exact ⟨by decide +kernel, by decide +kernel⟩
  | some d => simpa using List.all_eq_true.1 hall d (List.mem_of_find?_eq_some hfind)

def key : String := "MCowBQYDK2VwAyEAMCowBQYDK2VwAyEAMCowBQYDK2A"

def codec : Codec where
  sha256 := digest
  sha256_hex := digest_hex
  marshal accountID req := joined [accountID, req.previewID, req.operationID]
  keyDigest _ := key
  keyDigest_form _ := by decide +kernel
  md5 text := if text == "edge_a:dev_1:1" then "e95f75faaf04e033c3959b06ae3f0bfd" else "c5621575e5943c09fc4a2cd0000f1e6e"
  validEndpoint text := text != ""
  endpointHost text := text
  checkEdgeEndpoints endpoints := refuseIf (endpoints.length != 2) .invalid

def at_ (minutes : Int) : Time := Previews.Sample.at_ minutes

def machine (worker : Nat) : Machine where
  id := "dev_1"
  userID := "acc_1"
  ownerTeamID := none
  configuredCapabilities := ["preview_launch"]
  installationGeneration := 1
  workerGeneration := worker
  state := .online
  online := true
  deletedAt := none
  revokedAt := none
  publicIdentityKey := some key

def node (id : String) : Node where
  id
  processEpoch := "epoch_00000001"
  state := .ready
  ready := true
  carrierEndpointHost := some "edge.example"
  carrierEndpointTCPPort := some 443
  carrierEndpointQUICPort := some 444
  carrierServerSPKISHA256 := some ("sha256:" ++ "0000000000000000000000000000000000000000000000000000000000000000")
  carrierServerCertificateChainPEM := some "chain"
  lastHeartbeatAt := none
  drainDeadline := none
  spki_form := by decide +kernel
  chain_form := by decide +kernel

def sharedMachine : Machine := { machine 1 with userID := "acc_2", ownerTeamID := some "team_1" }

def previews : Previews.Tables := Previews.Tables.initial.step Previews.Sample.create

def registry (m : Machine) (nodes : Table Node.id) : Registry where
  previews
  machines := ⟨[m], List.nodup_singleton _⟩
  nodes
  teams := ⟨[("team_1", false)], [⟨"team_1", "acc_1", true⟩], [⟨"team_1", .machine, "dev_1", "acc_2", true, none⟩]⟩
  grants := [⟨"team_1", "dev_1", none, ["preview_manage"], true⟩]

def oneNode : Table Node.id := ⟨[node "edge_a"], List.nodup_singleton _⟩

def twoNodes : Table Node.id := ⟨[node "edge_a", node "edge_b"], by decide⟩

def world : World := { registry (machine 1) oneNode with rows := .empty, outbox := .empty }

def unlocked : Node → Bool := fun _ => false

def proof (userID : String) : MachineProof := ⟨userID, "dev_1", "op_1", 1⟩

def request : Request := ⟨"pvw_1", "op_1", "dev_1", "ses_1", "op_1", "req_1", "cor_1"⟩

def lease : Previews.Lease := Previews.Sample.lease.row Previews.Sample.env.dbNow

structure Computed : Prop where
  operation : previews.operations.rows.any (fun o => o.id == "op_1" && o.accountID == "acc_1" && attachableOperation o.state)
  stored : previews.leases.find "pvw_1" = some lease
  created : previews.createOperations.find ("acc_1", "pvw_1") = some ⟨"acc_1", "pvw_1", "op_1"⟩
  lease : previews.lease? "acc_1" "pvw_1" = some lease
  checked : previews.leases.rows.all (·.checks)
  account : validID Sample.lease.accountID
  key : validMachineIdentityPublicKey key ∧ '\r' ∉ key.toList ∧ '\n' ∉ key.toList
  target : Target.valid ⟨Sample.lease.targetScheme, Sample.lease.targetAddress⟩
  endpoint : codec.validEndpoint Sample.lease.endpoint ∧ Sample.lease.endpoint ≠ ""
  request : request.valid
  trimmed : 1 ≤ trimmedLength Sample.request.idempotencyKey ∧ 3 ≤ trimmedLength Sample.request.requestID ∧
    3 ≤ trimmedLength Sample.request.correlationID
  proofs : (proof "acc_1").valid ∧ (proof "acc_2").valid
  selected : (registry (machine 1) oneNode).selectedNode codec (selectionSeed "dev_1" 1) unlocked (at_ 2) = some (node "edge_a")
  node : ((node "edge_a").valid && (node "edge_a").carrierServerSPKISHA256.isSome &&
    (node "edge_a").carrierServerCertificateChainPEM.isSome)
  named : (!validID "edge_a" || !validOpaqueEpoch "epoch_00000001") = false
  available : world.assertProcessEpoch "edge_a" "epoch_00000001" (at_ 2) = .ok ()
  other : decide (sharedMachine.userID = Sample.lease.accountID) = false

theorem computed : Computed := by
  constructor <;> decide +kernel

end Sample

end Paperboat.Attachments

import Paperboat.Attachments.Service
import Paperboat.Attachments.Names
/-!
# What the authority answers

One lemma for each function of the authority, and from them: a request is resolved
exactly when its lease, its machine and the node that is selected pass all checks,
and then the resolution is a function of the three.
-/

namespace Paperboat.Attachments

variable {n : Node} {locked : Node → Bool} {i : LeaseLookup} {l : LeaseSnapshot} {nodeID : String}
  {allocation : CarrierSnapshot × RouteSnapshot}

variable {r : Resolution}

open Lib Registry

variable {codec : Codec} {w : Registry} {now : Time}

/-! ## The lease -/

structure Registry.LeaseRows (w : Registry) (i : LeaseLookup) (now : Time) (p : Previews.Lease) (m : Machine) : Prop where
  lease : w.previews.leases.find i.previewID = some p
  machine : w.machines.find p.ownerDeviceID = some m
  operation : ∃ c o, w.previews.createOperations.find (p.accountID, p.id) = some c ∧ c.operationID = i.operationID ∧
    w.previews.operations.find i.operationID = some o ∧ o.accountID = p.accountID ∧ attachableOperation o.state
  user : m.userID = i.userID
  actor : p.actorID = p.accountID
  allowed : w.machineCapabilityAllowed p.accountID m.id "preview_manage"
  publicOwn : p.accessMode = .publicAccess → m.ownerTeamID = none ∧ m.userID = p.accountID
  device : p.ownerDeviceID = i.machineID
  serves : m.serves i.installationGeneration
  session : p.ownerSessionID = i.ownerSessionID
  active : p.terminalState = .active
  deadline : p.leaseDeadline.after now

theorem Registry.resolvedLease_eq_some {p : Previews.Lease} {m : Machine} :
    w.resolvedLease i now = some (p, m) ↔ w.LeaseRows i now p m := by
  simp only [resolvedLease, Option.bind_eq_bind, Option.bind_eq_some_iff]
  constructor
  · rintro ⟨p', hp, m', hm, c, hc, o, ho, h⟩
    split at h
    · next hcond =>
      cases h
      obtain ⟨hop, hoa, hu, hactor, hal, hpub, hdev, hsv, hses, hact, hdl, hst⟩ := hcond
      have hca := (Table.find_eq_some.1 hc).2
      simp only [Previews.CreateOperation.key, Prod.mk.injEq] at hca
      exact ⟨hp, hm, ⟨c, o, hc, hop, hop ▸ ho, hoa.trans hca.1, hst⟩, hu, hactor, hal, hpub, hdev, hsv, hses, hact, hdl⟩
    · cases h
  · intro h
    obtain ⟨c, o, hc, hop, ho, hoa, hst⟩ := h.operation
    have hca := (Table.find_eq_some.1 hc).2
    simp only [Previews.CreateOperation.key, Prod.mk.injEq] at hca
    refine ⟨p, h.lease, m, h.machine, c, hc, o, hop ▸ ho, if_pos ?_⟩
    exact ⟨hop, hoa.trans hca.1.symm, h.user, h.actor, h.allowed, h.publicOwn, h.device, h.serves, h.session, h.active,
      h.deadline, hst⟩

def LeaseLookup.named (i : LeaseLookup) : Bool :=
  validID i.userID && validID i.machineID && validID i.previewID && validID i.operationID && validID i.ownerSessionID &&
    i.installationGeneration != 0

theorem resolvePreviewLease_eq_ok : resolvePreviewLease codec w i now = .ok l ↔
      i.named ∧ ∃ p m, w.LeaseRows i now p m ∧ decodesTo32 m.key.toList ∧
        l = leaseSnapshot p m i.operationID m.key (m.thumbprint codec) := by
  unfold resolvePreviewLease
  rw [check_eq_ok, refuseIf_eq_ok]
  have hnm : (!validID i.userID || !validID i.machineID || !validID i.previewID || !validID i.operationID ||
      !validID i.ownerSessionID || i.installationGeneration == 0) = !i.named := by
    simp [LeaseLookup.named, bne]
  rw [hnm, Bool.not_eq_false']
  refine and_congr_right fun _ => ?_
  constructor
  · intro h
    split at h
    · cases h
    next p m hpm =>
    dsimp only at h
    split at h
    · cases h
    next thumbprint ht =>
    cases h
    unfold machineIdentityThumbprint at ht
    split at ht
    · next hdec =>
      cases ht
      exact ⟨p, m, resolvedLease_eq_some.1 hpm, hdec, rfl⟩
    · cases ht
  · rintro ⟨p, m, hrows, hdec, rfl⟩
    have ht : machineIdentityThumbprint codec (m.publicIdentityKey.getD "") = some (m.thumbprint codec) := if_pos hdec
    simp only [resolvedLease_eq_some.2 hrows, ht]
    rfl

/-! ## The node -/

section
variable {seed : String} {a b c : Node}

theorem Node.before_iff : a.before codec seed b ↔ codec.md5 (a.id ++ ":" ++ seed) < codec.md5 (b.id ++ ":" ++ seed) ∨
      codec.md5 (a.id ++ ":" ++ seed) = codec.md5 (b.id ++ ":" ++ seed) ∧ a.id ≤ b.id := by
  simp [before]

theorem Node.before_trans (hab : a.before codec seed b) (hbc : b.before codec seed c) :
    a.before codec seed c := by
  rw [before_iff] at hab hbc ⊢
  rcases hab with hab | ⟨hab, hids⟩ <;> rcases hbc with hbc | ⟨hbc, hids'⟩
  · exact .inl (String.lt_trans hab hbc)
  · exact .inl (hbc ▸ hab)
  · exact .inl (hab ▸ hbc)
  · exact .inr ⟨hab.trans hbc, String.le_trans hids hids'⟩

theorem Node.before_total (a b : Node) : (a.before codec seed b || b.before codec seed a) := by
  rw [Bool.or_eq_true, before_iff, before_iff]
  by_cases hlt : codec.md5 (a.id ++ ":" ++ seed) < codec.md5 (b.id ++ ":" ++ seed)
  · exact .inl (.inl hlt)
  by_cases hgt : codec.md5 (b.id ++ ":" ++ seed) < codec.md5 (a.id ++ ":" ++ seed)
  · exact .inr (.inl hgt)
  have heq := String.le_antisymm (String.not_lt.1 hgt) (String.not_lt.1 hlt)
  rcases String.le_total a.id b.id with hids | hids
  · exact .inl (.inr ⟨heq, hids⟩)
  · exact .inr (.inr ⟨heq.symm, hids⟩)

theorem Node.id_eq_of_before (hab : a.before codec seed b) (hba : b.before codec seed a) : a.id = b.id := by
  rw [before_iff] at hab hba
  rcases hab with hab | ⟨hab, hids⟩ <;> rcases hba with hba | ⟨hba, hids'⟩
  · exact absurd hba (String.lt_asymm hab)
  · exact absurd (hba ▸ hab) (String.lt_irrefl _)
  · exact absurd (hab ▸ hba) (String.lt_irrefl _)
  · exact String.le_antisymm hids hids'

def Registry.offers (w : Registry) (locked : Node → Bool) (now : Time) (n : Node) : Prop :=
  n ∈ w.nodes.rows ∧ n.eligible now ∧ locked n = false

theorem Registry.selectedNode_eq_some : w.selectedNode codec seed locked now = some n ↔
    w.offers locked now n ∧ ∀ m, w.offers locked now m → n.before codec seed m := by
  have hof : ∀ m, m ∈ w.nodes.rows.filter (fun n => n.eligible now && !locked n) ↔ w.offers locked now m := by
    intro m
    rw [List.mem_filter, Bool.and_eq_true, Bool.not_eq_true', offers]
  have htr : ∀ a b c : Node, a.before codec seed b → b.before codec seed c → a.before codec seed c :=
    fun _ _ _ => Node.before_trans
  unfold selectedNode
  rw [firstBy_eq_some htr Node.before_total]
  · simp only [hof]
  · intro a ha b hb hab hba
    have ha' := w.nodes.find_eq_some.2 ⟨((hof a).1 ha).1, rfl⟩
    have hb' := w.nodes.find_eq_some.2 ⟨((hof b).1 hb).1, rfl⟩
    rw [Node.id_eq_of_before hab hba, hb'] at ha'
    exact (Option.some.inj ha').symm

theorem selectPreviewEdgeNode_eq_ok {installationGeneration : Nat} :
    selectPreviewEdgeNode codec w locked l installationGeneration now = .ok nodeID ↔
      (validID l.accountID ∧ validID l.previewID ∧ validID l.operationID ∧
        validID l.ownerDeviceID ∧ installationGeneration ≠ 0) ∧
      ∃ n, w.selectedNode codec (selectionSeed l.ownerDeviceID installationGeneration) locked now = some n ∧
        validID n.id ∧ nodeID = n.id := by
  unfold selectPreviewEdgeNode
  rw [check_eq_ok, refuseIf_eq_ok]
  have hids : (!validID l.accountID || !validID l.previewID || !validID l.operationID || !validID l.ownerDeviceID ||
      installationGeneration == 0) = false ↔ validID l.accountID ∧ validID l.previewID ∧
        validID l.operationID ∧ validID l.ownerDeviceID ∧ installationGeneration ≠ 0 := by
    simp [and_assoc]
  refine and_congr hids ?_
  cases w.selectedNode codec (selectionSeed l.ownerDeviceID installationGeneration) locked now with
  | none => simp
  | some n =>
    rw [check_eq_ok, refuseIf_eq_ok, Bool.not_eq_false']
    constructor
    · rintro ⟨hn, h⟩
      exact ⟨n, rfl, hn, (Except.ok.inj h).symm⟩
    · rintro ⟨_, h, hn, rfl⟩
      cases h
      exact ⟨hn, rfl⟩

end

/-! ## The carrier -/

section
variable {m : Machine} {proof : MachineProof} {req : Request} {p : Previews.Lease}

theorem Registry.carrierRows_eq_some {machineID machineAccountID : String} {generation : Nat} :
    w.carrierRows nodeID machineID machineAccountID generation now = some (n, m) ↔
      w.nodes.find nodeID = some n ∧ w.machines.find machineID = some m ∧ m.userID = machineAccountID ∧
        n.eligible now ∧ n.carrierServerSPKISHA256.isSome ∧ n.carrierServerCertificateChainPEM.isSome ∧
        m.installationGeneration = generation ∧ m.state = .online ∧ m.online ∧ m.deletedAt.isNone ∧
        m.revokedAt.isNone ∧ m.publicIdentityKey.isSome ∧ 0 < m.workerGeneration := by
  simp only [carrierRows, Option.bind_eq_bind, Option.bind_eq_some_iff]
  constructor
  · rintro ⟨n', hn, m', hm, h⟩
    split at h
    · next hc =>
      cases h
      exact ⟨hn, hm, hc⟩
    · cases h
  · rintro ⟨hn, hm, hc⟩
    exact ⟨n, hn, m, hm, if_pos hc⟩

def carrierRequest (codec : Codec) (proof : MachineProof) (req : Request) (p : Previews.Lease) (m : Machine) (n : Node) :
    CarrierRequest where
  proof
  request := req
  lease := leaseSnapshot p m req.operationID m.key (m.thumbprint codec)
  requestHash := codec.sha256 (codec.marshal p.accountID req)
  edgeNodeID := n.id

def resolution (codec : Codec) (proof : MachineProof) (req : Request) (p : Previews.Lease) (m : Machine) (n : Node) : Resolution :=
  let i := carrierRequest codec proof req p m n
  ⟨i.lease, (i.allocation codec n m).1, (i.allocation codec n m).2⟩

/-- What `ResolvePreviewLease` is asked for. -/
def lookup (proof : MachineProof) (req : Request) : LeaseLookup where
  userID := proof.userID
  machineID := proof.machineID
  installationGeneration := proof.installationGeneration
  previewID := req.previewID
  operationID := req.operationID
  ownerSessionID := req.ownerSessionID

structure Authorised (codec : Codec) (w : Registry) (locked : Node → Bool) (proof : MachineProof) (req : Request) (now : Time)
    (p : Previews.Lease) (m : Machine) (n : Node) : Prop where
  proof_valid : proof.valid
  request_valid : req.valid
  operation : proof.operationID = req.operationID
  idempotencyKey : req.idempotencyKey = req.operationID
  device : proof.machineID = req.ownerDeviceID
  rows : w.LeaseRows (lookup proof req) now p m
  worker : 0 < m.workerGeneration
  selected : w.selectedNode codec (selectionSeed p.ownerDeviceID proof.installationGeneration) locked now = some n
  spki : n.carrierServerSPKISHA256.isSome
  chain : n.carrierServerCertificateChainPEM.isSome
  node_valid : n.valid
  resolved : validateResolution codec now (resolution codec proof req p m n) = .ok ()

theorem isDigest_sha256 (text : String) : isDigest (codec.sha256 text) := by
  obtain ⟨hlen, hhex⟩ := codec.sha256_hex text
  simp only [isDigest, hlen, beq_self_eq_true, Bool.true_and, List.all_eq_true]
  intro c hc
  rw [isHex, List.all_eq_true.1 hhex c hc, Bool.true_or]

theorem Request.hash_eq_ok {accountID hash : String} : req.hash codec accountID = .ok hash ↔
      validID accountID ∧ req.valid ∧ hash = codec.sha256 (codec.marshal accountID req) := by
  unfold Request.hash
  rw [check_eq_ok, check_eq_ok, refuseIf_eq_ok, refuseIf_eq_ok, Bool.not_eq_false', Bool.not_eq_false', Except.ok.injEq,
    eq_comm (b := hash)]

theorem issuePreviewCarrier_eq_ok {i : CarrierRequest} : issuePreviewCarrier codec w i now = .ok allocation ↔
      (i.proof.valid ∧ i.request.valid ∧ i.lease.target.valid) ∧
      (validID i.edgeNodeID ∧ i.lease.operationID = i.request.operationID ∧
        i.lease.ownerDeviceID = i.proof.machineID ∧ i.lease.machineAccountID = i.proof.userID) ∧
      isDigest i.requestHash ∧ ∃ n m,
        w.carrierRows i.edgeNodeID i.lease.ownerDeviceID i.lease.machineAccountID i.proof.installationGeneration now =
          some (n, m) ∧ n.valid ∧ allocation = i.allocation codec n m := by
  unfold issuePreviewCarrier
  simp only [check_eq_ok, refuseIf_eq_ok, Bool.not_eq_false', Bool.or_eq_false_iff, bne_eq_false_iff_eq, and_assoc]
  refine and_congr_right fun _ => and_congr_right fun _ => and_congr_right fun _ => and_congr_right fun _ =>
    and_congr_right fun _ => and_congr_right fun _ => and_congr_right fun _ => and_congr_right fun _ => ?_
  cases w.carrierRows i.edgeNodeID i.lease.ownerDeviceID i.lease.machineAccountID i.proof.installationGeneration now with
  | none => simp
  | some row =>
    obtain ⟨n, m⟩ := row
    rw [check_eq_ok, refuseIf_eq_ok, Bool.not_eq_false']
    constructor
    · rintro ⟨hn, h⟩
      exact ⟨n, m, rfl, hn, (Except.ok.inj h).symm⟩
    · rintro ⟨_, _, h, hn, rfl⟩
      cases h
      exact ⟨hn, rfl⟩

theorem validateResolution_lease (h : validateResolution codec now r = .ok ()) :
    r.lease.named ∧ validMachineIdentityPublicKey r.lease.machineIdentityPublicKey ∧
      r.lease.generation ≠ 0 ∧ r.lease.leaseDeadline.isZero = false ∧ r.lease.target.valid := by
  simp only [validateResolution, check_eq_ok, refuseIf_eq_ok, Bool.not_eq_false', Bool.or_eq_false_iff, beq_eq_false_iff_ne] at h
  obtain ⟨hnm, ⟨hkey, -⟩, ⟨⟨hgen, hdl⟩, -⟩, -, htg, -⟩ := h
  exact ⟨hnm, hkey, hgen, hdl, htg⟩

theorem checkLease_eq_ok (h : validateResolution codec now r = .ok ()) (hact : r.lease.state = .active)
    (hdl : r.lease.leaseDeadline.after now) : checkLease codec now r.lease = .ok () := by
  obtain ⟨hnm, -, hgen, hzero, -⟩ := validateResolution_lease h
  unfold checkLease
  split
  · rfl
  · simp [hnm, hgen, hzero, hact, hdl]

structure Publishable (codec : Codec) (p : Previews.Lease) (m : Machine) (n : Node) : Prop where
  account : validID p.accountID
  key : validMachineIdentityPublicKey m.key
  generation : p.generation ≠ 0
  deadline : p.leaseDeadline.isZero = false
  target : Target.valid ⟨p.targetScheme, p.targetAddress⟩
  endpoint : codec.validEndpoint p.endpoint
  endpointText : p.endpoint ≠ ""
  endpoints : codec.checkEdgeEndpoints n.endpoints = .ok ()

theorem Node.valid_names (h : n.valid) : validID n.id ∧ validOpaqueEpoch n.processEpoch ∧
    validCarrierServerSPKISHA256 (n.carrierServerSPKISHA256.getD "") := by
  simp only [valid, Bool.and_eq_true] at h
  obtain ⟨⟨⟨⟨⟨⟨⟨⟨⟨⟨⟨hid, hep⟩, hsp⟩, -⟩, -⟩, -⟩, -⟩, -⟩, -⟩, -⟩, -⟩, -⟩ := h
  exact ⟨hid, hep, hsp⟩

theorem Node.valid_id (h : n.valid) : validID n.id := (valid_names h).1

/-- The names of a resolution are derived and fit together; what is left to check are the texts that were read. -/
theorem resolved_iff (hpf : proof.valid) (hreq : req.valid) (hrows : w.LeaseRows (lookup proof req) now p m)
    (hwk : 0 < m.workerGeneration) (hn : n.valid) :
    validateResolution codec now (resolution codec proof req p m n) = .ok () ↔ Publishable codec p m n := by
  have hid : p.id = req.previewID := (Table.find_eq_some.1 hrows.lease).2
  have hdv : p.ownerDeviceID = proof.machineID := hrows.device
  have hss : p.ownerSessionID = req.ownerSessionID := hrows.session
  have haf := hrows.deadline
  simp only [MachineProof.valid, Request.valid, Bool.and_eq_true] at hpf hreq
  obtain ⟨hnodeID, hep, hsp⟩ := Node.valid_names hn
  obtain ⟨htn, hcn, hses, hrt⟩ := ((carrierRequest codec proof req p m n).seed n m).ids_valid codec
  have hhash := sha256Text_isHex (((carrierRequest codec proof req p m n).seed n m).configHash_form codec)
  simp only [validateResolution, check_eq_ok, refuseIf_eq_ok, Bool.not_eq_false', Bool.or_eq_false_iff, beq_eq_false_iff_ne,
    bne_eq_false_iff_eq, LeaseSnapshot.named, Bool.and_eq_true]
  constructor
  · rintro ⟨hnm, hkey, ⟨⟨hgen, hzero⟩, -⟩, -, htg, hept, -, -, -, heps, -, hpublic, -⟩
    exact ⟨hnm.1.1.1.1.1, hkey.1, hgen, hzero, htg, hept, hpublic.2, heps⟩
  · intro h
    have hst : (resolution codec proof req p m n).lease.state = .active := hrows.active
    have hactor : validID p.actorID := hrows.actor ▸ h.account
    have hpv : validID p.id := hid ▸ hreq.1.1.1.1.1.1
    have how : validID p.ownerDeviceID := hdv ▸ hpf.1.1.2
    have hsessionID : validID p.ownerSessionID := hss ▸ hreq.1.1.1.2
    have hprotocol : "https" ≠ "" := by decide
    refine ⟨⟨⟨⟨⟨⟨h.account, hactor⟩, hpv⟩, hreq.1.1.1.1.1.2⟩, how⟩, hsessionID⟩,
      ⟨h.key, m.thumbprint_valid⟩, ⟨⟨h.generation, h.deadline⟩, ?_⟩, ?_, h.target, h.endpoint, ?_, ⟨rfl, rfl⟩,
      ⟨h.key, m.thumbprint_valid⟩, h.endpoints, ⟨⟨h.deadline, haf⟩, ?_⟩, ?_, rfl⟩
    · have hafter' : (resolution codec proof req p m n).lease.leaseDeadline.after now := haf
      simp [hafter']
    · rw [hst]
      exact ⟨⟨Previews.TerminalState.noConfusion, Previews.TerminalState.noConfusion⟩, Previews.TerminalState.noConfusion⟩
    · exact ⟨⟨⟨⟨⟨⟨⟨⟨⟨⟨rfl, rfl⟩, htn⟩, hcn⟩, hses⟩, Nat.pos_iff_ne_zero.1 hwk⟩, Nat.one_ne_zero⟩, hhash⟩,
        hnodeID⟩, hep⟩, hsp⟩
    · exact (Time.after_eq_false _ _).2 le_rfl
    · exact ⟨⟨⟨⟨⟨rfl, rfl⟩, hrt⟩, Nat.one_ne_zero⟩, hprotocol⟩, h.endpointText⟩

theorem allocatePreviewCarrier_eq_ok {lease : LeaseSnapshot} {requestHash : String} :
    allocatePreviewCarrier codec w locked proof req lease requestHash now = .ok allocation ↔
      checkLease codec now lease = .ok () ∧ lease.ownerSessionID = req.ownerSessionID ∧
        (∃ nodeID, selectPreviewEdgeNode codec w locked lease proof.installationGeneration now = .ok nodeID ∧
          issuePreviewCarrier codec w ⟨proof, req, lease, requestHash, nodeID⟩ now = .ok allocation ∧
          allocation.1.edgeNodeID = nodeID) ∧
        validateResolution codec now ⟨lease, allocation.1, allocation.2⟩ = .ok () := by
  unfold allocatePreviewCarrier
  simp only [bind_eq_ok, Unique.exists_iff, refuseIf_eq_ok, Bool.not_eq_false', Bool.or_eq_false_iff, bne_eq_false_iff_eq]
  constructor
  · rintro ⟨-, -, hle, ⟨⟨⟨-, -⟩, hss⟩, -⟩, -, nodeID, hsel, -, allocation', his, hn, hv, h⟩
    cases h
    exact ⟨hle, hss, ⟨nodeID, hsel, his, hn⟩, hv⟩
  · rintro ⟨hle, hss, ⟨nodeID, hsel, his, hn⟩, hv⟩
    obtain ⟨⟨hpf, hreq, -⟩, ⟨hid, hop, hdv, hacc⟩, hdg, -⟩ := issuePreviewCarrier_eq_ok.1 his
    exact ⟨hpf, hreq, hle, ⟨⟨⟨hacc, hdv⟩, hss⟩, hop⟩, hdg, nodeID, hsel, hid, allocation, his, hn, hv, rfl⟩

namespace Authorised

variable (h : Authorised codec w locked proof req now p m n)
include h

theorem carrierRows : w.carrierRows n.id p.ownerDeviceID m.userID proof.installationGeneration now = some (n, m) := by
  obtain ⟨⟨hmem, hel, -⟩, -⟩ := selectedNode_eq_some.1 h.selected
  have hsv := h.rows.serves
  simp only [Machine.serves, Bool.and_eq_true, beq_iff_eq] at hsv
  obtain ⟨⟨⟨⟨⟨⟨-, hgen⟩, hst⟩, honline⟩, hdel⟩, hrv⟩, hkey⟩ := hsv
  exact carrierRows_eq_some.2 ⟨Table.find_eq_some.2 ⟨hmem, rfl⟩, h.rows.machine, rfl, hel, h.spki, h.chain,
    hgen, hst, honline, hdel, hrv, hkey, h.worker⟩

theorem selectPreviewEdgeNode :
    selectPreviewEdgeNode codec w locked (leaseSnapshot p m req.operationID m.key (m.thumbprint codec))
      proof.installationGeneration now = .ok n.id := by
  obtain ⟨hnm, -⟩ := validateResolution_lease h.resolved
  simp only [LeaseSnapshot.named, Bool.and_eq_true] at hnm
  obtain ⟨⟨⟨⟨⟨hacc, -⟩, hpv⟩, hop⟩, hdv⟩, -⟩ := hnm
  have hgen : proof.installationGeneration ≠ 0 := by
    have := h.proof_valid
    simp only [MachineProof.valid, Bool.and_eq_true, bne_iff_ne] at this
    exact this.2
  exact selectPreviewEdgeNode_eq_ok.2 ⟨⟨hacc, hpv, hop, hdv, hgen⟩, n, h.selected, Node.valid_id h.node_valid, rfl⟩

theorem issuePreviewCarrier : issuePreviewCarrier codec w (carrierRequest codec proof req p m n) now =
      .ok ((carrierRequest codec proof req p m n).allocation codec n m) := by
  obtain ⟨-, -, -, -, htg⟩ := validateResolution_lease h.resolved
  exact issuePreviewCarrier_eq_ok.2 ⟨⟨h.proof_valid, h.request_valid, htg⟩,
    ⟨Node.valid_id h.node_valid, rfl, h.rows.device, h.rows.user⟩, isDigest_sha256 _, n, m, h.carrierRows, h.node_valid, rfl⟩

theorem lookup_named : (lookup proof req).named := by
  have hpf := h.proof_valid
  have hreq := h.request_valid
  simp only [MachineProof.valid, Request.valid, Bool.and_eq_true] at hpf hreq
  simp only [LeaseLookup.named, lookup, Bool.and_eq_true]
  tauto

theorem resolvePreviewLease : resolvePreviewLease codec w (lookup proof req) now =
      .ok (leaseSnapshot p m req.operationID m.key (m.thumbprint codec)) := by
  obtain ⟨-, hkey, -⟩ := validateResolution_lease h.resolved
  simp only [validMachineIdentityPublicKey, Bool.and_eq_true] at hkey
  exact resolvePreviewLease_eq_ok.2 ⟨h.lookup_named, p, m, h.rows, hkey.2, rfl⟩

theorem allocatePreviewCarrier :
    allocatePreviewCarrier codec w locked proof req (leaseSnapshot p m req.operationID m.key (m.thumbprint codec))
      (codec.sha256 (codec.marshal p.accountID req)) now =
        .ok ((carrierRequest codec proof req p m n).allocation codec n m) := by
  have hle := checkLease_eq_ok h.resolved h.rows.active h.rows.deadline
  refine allocatePreviewCarrier_eq_ok.2 ⟨hle, h.rows.session, ⟨n.id, h.selectPreviewEdgeNode, ?_, rfl⟩, h.resolved⟩
  exact h.issuePreviewCarrier

end Authorised

theorem resolvePreviewAttachment_eq_ok : resolvePreviewAttachment codec w locked proof req now = .ok r ↔
      ∃ p m n, Authorised codec w locked proof req now p m n ∧ r = resolution codec proof req p m n := by
  unfold resolvePreviewAttachment
  simp only [bind_eq_ok, Unique.exists_iff, refuseIf_eq_ok, Bool.not_eq_false', Bool.or_eq_false_iff, bne_eq_false_iff_eq]
  constructor
  · rintro ⟨hpf, hreq, ⟨⟨hop, hkey⟩, hdv⟩, lease, hle, -, hash, hhash, allocation, halloc, h⟩
    obtain ⟨-, p, m, hrows, -, rfl⟩ := resolvePreviewLease_eq_ok.1 hle
    obtain ⟨-, -, rfl⟩ := Request.hash_eq_ok.1 hhash
    obtain ⟨-, -, ⟨nodeID, hselect, his, -⟩, hv⟩ := allocatePreviewCarrier_eq_ok.1 halloc
    obtain ⟨-, n, hsel, -, rfl⟩ := selectPreviewEdgeNode_eq_ok.1 hselect
    obtain ⟨-, -, -, n', m', hcr, hn, rfl⟩ := issuePreviewCarrier_eq_ok.1 his
    obtain ⟨hn', hm', -, -, hsp, hcn, -, -, -, -, -, -, hwk⟩ := carrierRows_eq_some.1 hcr
    -- The issuer reads the node that was selected and the machine of the lease once more.
    obtain ⟨⟨hmem, -, -⟩, -⟩ := selectedNode_eq_some.1 hsel
    obtain rfl : n = n' := Table.eq_of_find hn' hmem rfl
    obtain rfl : m = m' := Option.some.inj (hrows.machine.symm.trans hm')
    refine ⟨p, m, n, ⟨hpf, hreq, hop, hkey.symm.trans hop, hdv, hrows, hwk, hsel, hsp, hcn, hn, hv⟩, ?_⟩
    exact (Except.ok.inj h).symm
  · rintro ⟨p, m, n, h, rfl⟩
    obtain ⟨hnm, -⟩ := validateResolution_lease h.resolved
    simp only [LeaseSnapshot.named, Bool.and_eq_true] at hnm
    have hpv : p.id = req.previewID := (Table.find_eq_some.1 h.rows.lease).2
    refine ⟨h.proof_valid, h.request_valid, ⟨⟨h.operation, h.operation.trans h.idempotencyKey.symm⟩, h.device⟩, _,
      h.resolvePreviewLease, ⟨⟨⟨⟨h.rows.user, h.rows.device⟩, h.rows.session⟩, hpv⟩, h.operation.symm⟩, _,
      Request.hash_eq_ok.2 ⟨hnm.1.1.1.1.1, h.request_valid, rfl⟩, _, h.allocatePreviewCarrier, rfl⟩

theorem World.resolve_eq_ok {w : World} : w.resolve codec locked proof req now = .ok r ↔
      ∃ p m n, Authorised codec w.toRegistry locked proof req now p m n ∧ r = resolution codec proof req p m n := by
  unfold resolve
  simp only [bind_eq_ok, Unique.exists_iff, Except.ok.injEq]
  constructor
  · rintro ⟨-, r', hr, -, -, rfl⟩
    exact resolvePreviewAttachment_eq_ok.1 hr
  · rintro ⟨p, m, n, h, rfl⟩
    refine ⟨?_, _, resolvePreviewAttachment_eq_ok.2 ⟨p, m, n, h, rfl⟩, h.resolved, ?_, rfl⟩
    all_goals
      simp [validateRequestProof, authorizeResolution, check_eq_ok, refuseIf_eq_ok]
    · exact ⟨h.proof_valid, h.request_valid, ⟨h.operation, h.device⟩, h.operation.trans h.idempotencyKey.symm⟩
    · exact ⟨⟨⟨h.rows.user, h.rows.device⟩, h.operation.symm⟩, h.rows.session⟩

end

end Paperboat.Attachments

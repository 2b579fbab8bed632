import Paperboat.Attachments.Allocation
/-!
# What the table takes

The authority asks whether the machine may serve the preview, and the table asks
again: its checks and two triggers compare the row with the lease, the machine and the
node. They agree but for three points. The trigger wants the machine to belong to the
account of the lease, where the authority takes a machine that a team shares. The
checks count the characters of a text without the blanks around it. And the decoder
of a key passes over line breaks.
-/

namespace Paperboat.Attachments

variable {locked : Node → Bool} {m : Machine} {n : Node}

open Lib List

section
variable {codec : Codec} {w : Registry} {now : Time} {proof : MachineProof} {req : Request} {p : Previews.Lease}

theorem length_le_utf8ByteSize (v : String) : v.toList.length ≤ v.utf8ByteSize := by
  have hlen : ∀ cs : List Char, cs.length ≤ String.utf8Len cs := by
    intro cs
    induction cs with
    | nil => exact Nat.zero_le _
    | cons c =>
      have := c.utf8Size_pos
      rw [String.utf8Len_cons, length_cons]
      omega
  have := hlen v.toList
  rwa [← String.utf8ByteSize_ofList, String.ofList_toList] at this

theorem trimmedLength_le (v : String) : trimmedLength v ≤ v.utf8ByteSize := by
  refine le_trans ?_ (length_le_utf8ByteSize v)
  refine le_trans (dropWhile_suffix _).length_le ?_
  rw [length_reverse]
  exact (dropWhile_suffix _).length_le

theorem keyPattern_iff {cs : List Char} (h : decodesTo32 cs) : keyPattern cs ↔ '\r' ∉ cs ∧ '\n' ∉ cs := by
  simp only [decodesTo32, base64Of32, Bool.and_eq_true, all_eq_true, beq_iff_eq] at h
  obtain ⟨⟨hlen, hchs⟩, -⟩ := h
  simp only [keyPattern, Bool.and_eq_true, beq_iff_eq, all_eq_true]
  constructor
  · rintro ⟨-, hall⟩
    refine ⟨fun hmem => ?_, fun hmem => ?_⟩
    · exact absurd (hall _ hmem) (by decide)
    · exact absurd (hall _ hmem) (by decide)
  · rintro ⟨hr, hn⟩
    have hfilter : cs.filter (fun c => c != '\r' && c != '\n') = cs := by
      rw [filter_eq_self]
      intro c hc
      simp only [Bool.and_eq_true, bne_iff_ne]
      exact ⟨fun heq => hr (heq ▸ hc), fun heq => hn (heq ▸ hc)⟩
    rw [hfilter] at hlen hchs
    exact ⟨hlen, hchs⟩

/-- The three points on which the table asks for more than the authority. -/
structure Storable (l : LeaseSnapshot) (req : Request) : Prop where
  owner : l.machineAccountID = l.accountID
  idempotencyKey : 1 ≤ trimmedLength req.idempotencyKey
  requestID : 3 ≤ trimmedLength req.requestID
  correlationID : 3 ≤ trimmedLength req.correlationID
  key : '\r' ∉ l.machineIdentityPublicKey.toList ∧ '\n' ∉ l.machineIdentityPublicKey.toList

def pendingRow (req : Request) (requestHash : String) (l : LeaseSnapshot) (allocation : CarrierSnapshot × RouteSnapshot)
    (now : Time) : Row :=
  (attachmentFromResolution req requestHash ⟨l, allocation.1, allocation.2⟩ now).toRow

section
variable {l : LeaseSnapshot} {requestHash nodeID : String} {allocation : CarrierSnapshot × RouteSnapshot}

theorem keyPattern_thumbprint (m : Machine) : (sha256Rest (m.thumbprint codec)).any keyPattern := by
  have hform := codec.keyDigest_form m.key
  simp only [base64Of32, Bool.and_eq_true] at hform
  rw [Machine.thumbprint, sha256Rest_append, Option.any_some, keyPattern, hform.1.1, hform.1.2, Bool.and_self]

theorem validID_ne_empty {v : String} (h : validID v) : v ≠ "" := by
  rintro rfl
  exact absurd h (by decide +kernel)

theorem Node.certificate_forms (hsp : n.carrierServerSPKISHA256.isSome)
    (hcn : n.carrierServerCertificateChainPEM.isSome) :
    sha256Text isLowerHex (n.carrierServerSPKISHA256.getD "") ∧
      1 ≤ (n.carrierServerCertificateChainPEM.getD "").utf8ByteSize ∧
      (n.carrierServerCertificateChainPEM.getD "").utf8ByteSize ≤ 65536 := by
  obtain ⟨v, hv⟩ := Option.isSome_iff_exists.1 hsp
  obtain ⟨c, hc⟩ := Option.isSome_iff_exists.1 hcn
  have hspkiForm := n.spki_form
  have hchainForm := n.chain_form
  rw [hv] at hspkiForm
  rw [hc] at hchainForm
  simp only [Option.all_some, Bool.and_eq_true, decide_eq_true_eq] at hspkiForm hchainForm
  rw [hv, hc]
  exact ⟨hspkiForm, hchainForm⟩

theorem checks_pendingRow_iff (proof : MachineProof) (hck : p.checks) (haf : p.leaseDeadline.after now)
    (hdec : decodesTo32 m.key.toList) (hreq : req.valid) (hdg : isDigest requestHash)
    (hsp : n.carrierServerSPKISHA256.isSome) (hcn : n.carrierServerCertificateChainPEM.isSome)
    (hwk : 0 < m.workerGeneration) (hn : n.valid)
    (hl : l = leaseSnapshot p m req.operationID m.key (m.thumbprint codec)) :
    (pendingRow req requestHash l (CarrierRequest.allocation ⟨proof, req, l, requestHash, n.id⟩ codec n m) now).checks ↔
      1 ≤ trimmedLength req.idempotencyKey ∧ 3 ≤ trimmedLength req.requestID ∧ 3 ≤ trimmedLength req.correlationID ∧
        '\r' ∉ m.key.toList ∧ '\n' ∉ m.key.toList := by
  subst hl
  obtain ⟨hspkiForm, hchainLow, hchainHigh⟩ := n.certificate_forms hsp hcn
  have hhash := CarrierSeed.configHash_form
    (CarrierRequest.seed ⟨proof, req, leaseSnapshot p m req.operationID m.key (m.thumbprint codec), requestHash, n.id⟩ n m) codec
  have hid := validID_ne_empty (Node.valid_id hn)
  simp only [Node.valid, Bool.and_eq_true] at hn
  have hep : validOpaqueEpoch n.processEpoch := by tauto
  simp only [Previews.Lease.checks, Bool.and_eq_true, decide_eq_true_eq] at hck
  have hgen : p.generation ≠ 0 := by omega
  simp only [isDigest, Bool.and_eq_true, beq_iff_eq] at hdg
  simp only [Request.valid, validKey, validTrace, Bool.and_eq_true, decide_eq_true_eq] at hreq
  have hkeySize := le_trans (trimmedLength_le req.idempotencyKey) hreq.1.1.2.1.2
  have hrequestSize := le_trans (trimmedLength_le req.requestID) hreq.1.2.1.2
  have hcorrelationSize := le_trans (trimmedLength_le req.correlationID) hreq.2.1.2
  rw [← keyPattern_iff hdec]
  simp only [pendingRow, attachmentFromResolution, Resolution.binding, CarrierRequest.allocation, leaseSnapshot, Row.checks,
    Row.requestChecks, Row.carrierChecks, Row.stateChecks, minTime_self, Node.endpoints] at hhash ⊢
  simp [hdg.1, hkeySize, hrequestSize, hcorrelationSize, hid, keyPattern_thumbprint, hgen, hwk.ne', hhash, haf,
    hep, hspkiForm, hchainLow, hchainHigh, and_assoc]

/-- Of the rows that the authority allows, the first trigger passes those on a machine of the account. -/
theorem leaseGuard_pendingRow (requestHash : String) (n : Node) (hrows : w.LeaseRows (lookup proof req) now p m)
    (hl : l = leaseSnapshot p m req.operationID m.key (m.thumbprint codec)) :
    w.leaseGuard (pendingRow req requestHash l (CarrierRequest.allocation ⟨proof, req, l, requestHash, n.id⟩ codec n m) now) =
      decide (m.userID = p.accountID) := by
  subst hl
  obtain ⟨hmem, hid⟩ := Table.find_eq_some.1 hrows.lease
  have hle : w.previews.lease? p.accountID p.id = some p := Previews.Tables.lease?_eq_some.2 ⟨hmem, rfl, rfl⟩
  obtain ⟨c, -, hcreated, hop, -⟩ := hrows.operation
  have hsv := hrows.serves
  simp only [Machine.serves, Bool.and_eq_true] at hsv
  obtain ⟨⟨⟨-, hdel⟩, hrv⟩, hkey⟩ := hsv
  have hkey' : m.publicIdentityKey = some m.key := by
    obtain ⟨v, hv⟩ := Option.isSome_iff_exists.1 hkey
    rw [Machine.key, hv, Option.getD_some]
  have hop' : c.operationID = req.operationID := hop
  simp only [Registry.leaseGuard, pendingRow, attachmentFromResolution, Resolution.binding, CarrierRequest.allocation,
    leaseSnapshot, Row.live, State.terminal, hle, hrows.machine, hcreated]
  simp [hkey', hop', hrows.active, Option.isNone_iff_eq_none.1 hdel, Option.isNone_iff_eq_none.1 hrv, Bool.beq_eq_decide_eq]

theorem epochGuard_pendingRow (requestHash : String) (hn : w.nodes.find n.id = some n) :
    w.epochGuard (pendingRow req requestHash l (CarrierRequest.allocation ⟨proof, req, l, requestHash, n.id⟩ codec n m) now) =
      true := by
  simp [Registry.epochGuard, pendingRow, attachmentFromResolution, Resolution.binding, CarrierRequest.allocation, hn]

theorem accepts_pendingRow_iff (hck : p.checks) (hrows : w.LeaseRows (lookup proof req) now p m)
    (hdec : decodesTo32 m.key.toList) (hreq : req.valid) (hdg : isDigest requestHash)
    (hcr : w.carrierRows n.id p.ownerDeviceID m.userID proof.installationGeneration now = some (n, m)) (hnode : n.valid)
    (hl : l = leaseSnapshot p m req.operationID m.key (m.thumbprint codec)) :
    w.accepts (pendingRow req requestHash l (CarrierRequest.allocation ⟨proof, req, l, requestHash, n.id⟩ codec n m) now) ↔
      Storable l req := by
  obtain ⟨hn, -, -, -, hsp, hcn, -, -, -, -, -, -, hwk⟩ := Registry.carrierRows_eq_some.1 hcr
  have hrow := checks_pendingRow_iff proof hck hrows.deadline hdec hreq hdg hsp hcn hwk hnode hl
  rw [Registry.accepts, leaseGuard_pendingRow requestHash n hrows hl, epochGuard_pendingRow requestHash hn, Bool.and_true,
    Bool.and_eq_true, hrow, decide_eq_true_eq]
  subst hl
  constructor
  · rintro ⟨⟨hkey, hrq, hco, hbreaks⟩, how⟩
    exact ⟨how, hkey, hrq, hco, hbreaks⟩
  · intro h
    exact ⟨⟨h.idempotencyKey, h.requestID, h.correlationID, h.key⟩, h.owner⟩

/-- The table takes what the authority allows exactly when the machine belongs to the account of the lease, the
trimmed texts are long enough, and the key has no line break. -/
theorem table_accepts_iff (hchecked : ∀ p ∈ w.previews.leases.rows, p.checks)
    (hlease : resolvePreviewLease codec w (lookup proof req) now = .ok l)
    (hcarrier : issuePreviewCarrier codec w ⟨proof, req, l, requestHash, nodeID⟩ now = .ok allocation) :
    w.accepts (pendingRow req requestHash l allocation now) ↔ Storable l req := by
  obtain ⟨-, p, m, hrows, hdecodes, hl⟩ := resolvePreviewLease_eq_ok.1 hlease
  obtain ⟨⟨-, hreq, -⟩, -, hdigest, n, m', hjoined, hnode, rfl⟩ := issuePreviewCarrier_eq_ok.1 hcarrier
  obtain ⟨hn, hm, -⟩ := Registry.carrierRows_eq_some.1 hjoined
  obtain rfl : nodeID = n.id := (Table.find_eq_some.1 hn).2.symm
  obtain rfl : m = m' := by
    rw [hl] at hm
    exact Option.some.inj (hrows.machine.symm.trans hm)
  have hcarrier' : w.carrierRows n.id p.ownerDeviceID m.userID proof.installationGeneration now = some (n, m) := by
    rw [hl] at hjoined
    exact hjoined
  exact accepts_pendingRow_iff (hchecked p (Table.find_eq_some.1 hrows.lease).1) hrows hdecodes hreq hdigest hcarrier' hnode hl

end

theorem Authorised.accepts_iff (h : Authorised codec w locked proof req now p m n) (hck : p.checks) :
    w.accepts (pendingAttachment codec proof req p m n now).toRow ↔
      Storable (leaseSnapshot p m req.operationID m.key (m.thumbprint codec)) req := by
  obtain ⟨-, hkey, -⟩ := validateResolution_lease h.resolved
  simp only [validMachineIdentityPublicKey, Bool.and_eq_true] at hkey
  exact accepts_pendingRow_iff hck h.rows hkey.2 h.request_valid (isDigest_sha256 _) h.carrierRows h.node_valid rfl

theorem Authorised.leaseGuard (h : Authorised codec w locked proof req now p m n) :
    w.leaseGuard (pendingAttachment codec proof req p m n now).toRow = decide (m.userID = p.accountID) :=
  leaseGuard_pendingRow _ n h.rows rfl

end

namespace Sample

section
variable {nodes : Table Node.id}

theorem leaseRows (hid : m.id = "dev_1") (hsv : m.serves 1)
    (hal : (registry m nodes).machineCapabilityAllowed "acc_1" m.id "preview_manage") :
    (registry m nodes).LeaseRows (lookup (proof m.userID) request) (at_ 2) lease m := by
  obtain ⟨o, ho, hc⟩ := any_eq_true.1 (Computed.operation computed)
  simp only [Bool.and_eq_true, beq_iff_eq] at hc
  exact {
    lease := Computed.stored computed
    machine := Table.find_eq_some.2 ⟨mem_singleton_self _, hid⟩
    operation := ⟨_, o, Computed.created computed, rfl, Table.find_eq_some.2 ⟨ho, hc.1.1⟩, hc.1.2, hc.2⟩
    user := rfl
    actor := rfl
    allowed := hal
    publicOwn := fun h => by cases h
    device := rfl
    serves := hsv
    session := rfl
    active := rfl
    deadline := by decide }

theorem publishable (hkey : m.key = key) : Publishable codec lease m n where
  account := Computed.account computed
  key := hkey ▸ (Computed.key computed).1
  generation := by decide
  deadline := by decide
  target := Computed.target computed
  endpoint := (Computed.endpoint computed).1
  endpointText := (Computed.endpoint computed).2
  endpoints := rfl

theorem authorised (hid : m.id = "dev_1") (hsv : m.serves 1)
    (hal : (registry m nodes).machineCapabilityAllowed "acc_1" m.id "preview_manage") (hkey : m.key = key)
    (hwk : 0 < m.workerGeneration)
    (hpf : (proof m.userID).valid)
    (hsel : (registry m nodes).selectedNode codec (selectionSeed "dev_1" 1) locked (at_ 2) = some n)
    (hn : (n.valid && n.carrierServerSPKISHA256.isSome && n.carrierServerCertificateChainPEM.isSome)) :
    Authorised codec (registry m nodes) locked (proof m.userID) request (at_ 2) lease m n := by
  simp only [Bool.and_eq_true] at hn
  have hrq : request.valid := Computed.request computed
  have hrows : (registry m nodes).LeaseRows (lookup (proof m.userID) request) (at_ 2) lease m :=
    leaseRows hid hsv hal
  exact {
    proof_valid := hpf
    request_valid := hrq
    operation := rfl
    idempotencyKey := rfl
    device := rfl
    rows := hrows
    worker := hwk
    selected := hsel
    spki := hn.1.2
    chain := hn.2
    node_valid := hn.1.1
    resolved := (resolved_iff hpf hrq hrows hwk hn.1.1).2 (publishable hkey) }

end

theorem storable {m : Machine} (how : m.userID = "acc_1") (hkey : m.key = key) :
    Storable (leaseSnapshot lease m "op_1" m.key (m.thumbprint codec)) request where
  owner := how
  idempotencyKey := (Computed.trimmed computed).1
  requestID := (Computed.trimmed computed).2.1
  correlationID := (Computed.trimmed computed).2.2
  key := by
    rw [leaseSnapshot, hkey]
    exact (Computed.key computed).2

def attachment (worker : Nat) (n : Node) : Attachment :=
  pendingAttachment codec (proof "acc_1") request lease (machine worker) n (at_ 2)

theorem accepts_attachment {w : Registry} {locked : Node → Bool} {worker : Nat} {n : Node}
    (h : Authorised codec w locked (proof "acc_1") request (at_ 2) lease (machine worker) n) :
    w.accepts (attachment worker n).toRow :=
  (h.accepts_iff (by decide)).2 (storable rfl rfl)

def command (worker : Nat) (n : Node) : Command :=
  ⟨"acc_1", "op_1", 1, .admission, (attachment worker n).binding, (attachment worker n).configContentHash, n.endpoints,
    lease.endpoint, lease.accessMode, lease.leaseDeadline, .pending, at_ 2⟩

def allocated : World where
  toRegistry := world.toRegistry
  rows := ⟨[(attachment 1 (node "edge_a")).toRow], nodup_singleton _⟩
  outbox := ⟨[command 1 (node "edge_a")], nodup_singleton _⟩

theorem authorised_first :
    Authorised codec world.toRegistry unlocked (proof "acc_1") request (at_ 2) lease (machine 1) (node "edge_a") :=
  authorised rfl rfl rfl rfl (by decide) (Computed.proofs computed).1 (Computed.selected computed) (Computed.node computed)

theorem allocate_first :
    world.allocate codec unlocked (proof "acc_1") request (at_ 2) = .ok (attachment 1 (node "edge_a"), allocated) :=
  (Authorised.allocate_new authorised_first) (by decide) (accepts_attachment authorised_first) (fun _ h => by cases h) rfl

theorem scan_allocated {w : World} (hpreviews : w.previews = previews) (hrows : w.rows = allocated.rows) :
    w.scan codec "acc_1" "op_1" = .ok (attachment 1 (node "edge_a")) := by
  refine World.scan_eq_ok.2 ⟨(attachment 1 (node "edge_a")).toRow, lease, ?_, hpreviews ▸ (Computed.lease computed),
    (Authorised.pending_valid authorised_first) (by decide), rfl⟩
  rw [hrows]
  rfl

theorem authorised_shared :
    Authorised codec (registry sharedMachine oneNode) unlocked (proof "acc_2") request (at_ 2) lease sharedMachine (node "edge_a") :=
  authorised rfl rfl rfl rfl (by decide) (Computed.proofs computed).2 (Computed.selected computed) (Computed.node computed)

end Sample

open Sample

/-- A machine that a team shares with the account of a preview: the authority resolves its request, and the trigger
refuses the row. -/
theorem shared_machine_refused : ∃ l allocation, resolvePreviewLease codec (registry sharedMachine oneNode)
        (lookup (Sample.proof "acc_2") request) (at_ 2) = .ok l ∧
      issuePreviewCarrier codec (registry sharedMachine oneNode)
        ⟨Sample.proof "acc_2", request, l, digest (joined ["acc_1", "pvw_1", "op_1"]), "edge_a"⟩ (at_ 2) =
          .ok allocation ∧
      (l.machineAccountID, l.accountID) = ("acc_2", "acc_1") ∧
      (registry sharedMachine oneNode).leaseGuard
        (pendingRow request (digest (joined ["acc_1", "pvw_1", "op_1"])) l allocation (at_ 2)) = false ∧
      World.allocate codec { world with machines := ⟨[sharedMachine], nodup_singleton _⟩ } unlocked
        (Sample.proof "acc_2") request (at_ 2) = .error .conflict := by
  have h := authorised_shared
  have howner := Computed.other computed
  have hrefused : (registry sharedMachine oneNode).accepts (pendingAttachment codec
      (Sample.proof "acc_2") request lease sharedMachine (node "edge_a") (at_ 2)).toRow = false := by
    rw [Registry.accepts, h.leaseGuard, howner, Bool.and_false, Bool.false_and]
  exact ⟨_, _, h.resolvePreviewLease, h.issuePreviewCarrier, rfl, h.leaseGuard.trans howner,
    Authorised.allocate_refused h (by decide) hrefused⟩

theorem table_accepts_own_machine : previews.leases.rows.all (·.checks) ∧
      world.accepts (attachment 1 (node "edge_a")).toRow := by
  have hchecked := Computed.checked computed
  have h := authorised_first
  exact ⟨hchecked, (table_accepts_iff (all_eq_true.1 hchecked) h.resolvePreviewLease h.issuePreviewCarrier).2
    (storable rfl rfl)⟩

end Paperboat.Attachments

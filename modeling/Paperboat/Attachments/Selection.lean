import Paperboat.Attachments.Acceptance
/-!
# The node of an attachment

The node is part of what an attachment is: the names of its tunnel and connector are
digests that the node goes into, and a resolution on another node does not belong to
the attachment. The node is not read from the attachment, though, but selected anew by
every call, among the nodes that are on offer at that moment.
-/

namespace Paperboat.Attachments

variable {w : Registry}

open Lib

section
variable {codec : Codec} {now : Time} {locked : Node → Bool} {proof : MachineProof} {req : Request}
  {p : Previews.Lease} {m : Machine} {n : Node} {b : Binding} {generation : Nat} {requestHash : String}

/-- What the names of a binding are derived from; the worker is not part of them. -/
def Binding.seed (b : Binding) (installationGeneration : Nat) (requestHash : String) : CarrierSeed where
  accountID := b.accountID
  ownerDeviceID := b.ownerDeviceID
  installationGeneration
  edgeNodeID := b.edgeNodeID
  previewID := b.previewID
  operationID := b.operationID
  requestHash
  workerGeneration := b.processGeneration

structure Binding.Issued (codec : Codec) (b : Binding) (installationGeneration : Nat) (requestHash : String) : Prop where
  account : validID b.accountID
  preview : validID b.previewID
  operation : validID b.operationID
  device : validID b.ownerDeviceID
  node : validID b.edgeNodeID
  generation : installationGeneration ≠ 0
  host : b.hostID = b.ownerDeviceID
  tunnel : b.tunnelID = ((b.seed installationGeneration requestHash).ids codec).tunnelID
  connector : b.connectorID = ((b.seed installationGeneration requestHash).ids codec).connectorID
  route : b.routeID = ((b.seed installationGeneration requestHash).ids codec).routeID

theorem Authorised.issued (h : Authorised codec w locked proof req now p m n) :
    (resolution codec proof req p m n).binding.Issued codec proof.installationGeneration
      (codec.sha256 (codec.marshal p.accountID req)) := by
  obtain ⟨hnm, -⟩ := validateResolution_lease h.resolved
  simp only [LeaseSnapshot.named, Bool.and_eq_true] at hnm
  obtain ⟨⟨⟨⟨⟨hacc, -⟩, hpv⟩, hop⟩, hdv⟩, -⟩ := hnm
  have hpf := h.proof_valid
  simp only [MachineProof.valid, Bool.and_eq_true, bne_iff_ne] at hpf
  exact ⟨hacc, hpv, hop, hdv, Node.valid_id h.node_valid, hpf.2, rfl, rfl, rfl, rfl⟩

/-- A call of the machine for an attachment: it names the same preview, operation, installation and request, and the
lease is the one that the attachment was made for. -/
structure Binding.AskedBy (codec : Codec) (b : Binding) (installationGeneration : Nat) (requestHash : String) (w : Registry)
    (proof : MachineProof) (req : Request) : Prop where
  preview : req.previewID = b.previewID
  operation : req.operationID = b.operationID
  installation : proof.installationGeneration = installationGeneration
  hash : codec.sha256 (codec.marshal b.accountID req) = requestHash
  lease : ∀ p, w.previews.leases.find b.previewID = some p →
    p.accountID = b.accountID ∧ p.ownerDeviceID = b.ownerDeviceID ∧ p.ownerSessionID = b.ownerSessionID

theorem Binding.Issued.logicalEqual_of_node (hb : b.Issued codec generation requestHash)
    (hcall : b.AskedBy codec generation requestHash w proof req) (h : Authorised codec w locked proof req now p m n)
    (hn : n.id = b.edgeNodeID) : b.logicalEqual (resolution codec proof req p m n).binding := by
  have hid : p.id = b.previewID := (Table.find_eq_some.1 h.rows.lease).2.trans hcall.preview
  obtain ⟨hacc, hdv, hss⟩ := hcall.lease p (hcall.preview ▸ h.rows.lease)
  simp only [logicalEqual, Bool.and_eq_true, beq_iff_eq, hb.tunnel, hb.connector, hb.route, hb.host]
  simp [resolution, Resolution.binding, carrierRequest, CarrierRequest.allocation, CarrierRequest.seed, leaseSnapshot,
    seed, CarrierSeed.ids, CarrierSeed.identitySuffix, CarrierSeed.routeSuffix, hacc, hdv, hss, hid, hn,
    hcall.operation, hcall.installation, hcall.hash]

/-- The selection of a machine returns a node exactly when it comes before all others on offer. -/
theorem selects_iff_first {l : LeaseSnapshot} (hb : b.Issued codec generation requestHash)
    (hl : l.accountID = b.accountID ∧ l.previewID = b.previewID ∧ l.operationID = b.operationID ∧
      l.ownerDeviceID = b.ownerDeviceID)
    (hn : n ∈ w.nodes.rows) (hnode : n.id = b.edgeNodeID) (hel : n.eligible now) :
    selectPreviewEdgeNode codec w locked l generation now = .ok n.id ↔
      locked n = false ∧ ∀ m ∈ w.nodes.rows, m.eligible now → locked m = false →
        n.before codec (selectionSeed b.ownerDeviceID generation) m := by
  obtain ⟨hacc, hpv, hop, hdv⟩ := hl
  rw [selectPreviewEdgeNode_eq_ok, hdv, hacc, hpv, hop]
  constructor
  · rintro ⟨-, n', hsel, -, hid⟩
    obtain ⟨hof, hft⟩ := Registry.selectedNode_eq_some.1 hsel
    obtain rfl : n = n' := by
      have hn' := Table.find_eq_some.2 ⟨hof.1, rfl⟩
      rw [← hid, Table.find_eq_some.2 ⟨hn, rfl⟩] at hn'
      exact Option.some.inj hn'
    exact ⟨hof.2.2, fun m hm helig hlock => hft m ⟨hm, helig, hlock⟩⟩
  · rintro ⟨hlock, hft⟩
    refine ⟨⟨hb.account, hb.preview, hb.operation, hb.device, hb.generation⟩, n, ?_, hnode ▸ hb.node, rfl⟩
    exact Registry.selectedNode_eq_some.2 ⟨⟨hn, hel, hlock⟩, fun m hm => hft m hm.1 hm.2.1 hm.2.2⟩

/-- An attachment stays on its node exactly when the node is not locked and no node that is on offer comes before it.
-/
theorem stays_on_node_iff {w : World} {l : LeaseSnapshot} (hb : b.Issued codec generation requestHash)
    (hl : l.accountID = b.accountID ∧ l.previewID = b.previewID ∧ l.operationID = b.operationID ∧
      l.ownerDeviceID = b.ownerDeviceID)
    (hn : n ∈ w.nodes.rows) (hnode : n.id = b.edgeNodeID) (heligible : n.eligible now) :
    (selectPreviewEdgeNode codec w.toRegistry locked l generation now = .ok n.id ∧
      ∀ proof req r, b.AskedBy codec generation requestHash w.toRegistry proof req →
        w.resolve codec locked proof req now = .ok r → b.logicalEqual r.binding) ↔
      locked n = false ∧ ∀ m ∈ w.nodes.rows, m.eligible now → locked m = false →
        n.before codec (selectionSeed b.ownerDeviceID generation) m := by
  rw [selects_iff_first hb hl hn hnode heligible]
  refine and_iff_left_of_imp ?_
  rintro ⟨hlock, hfirst⟩ proof req r hcall hr
  obtain ⟨p, m, n', h, rfl⟩ := World.resolve_eq_ok.1 hr
  obtain ⟨-, hdevice, -⟩ := hcall.lease p (hcall.preview ▸ h.rows.lease)
  have hselected : w.selectedNode codec (selectionSeed b.ownerDeviceID generation) locked now = some n :=
    Registry.selectedNode_eq_some.2 ⟨⟨hn, heligible, hlock⟩, fun m hm => hfirst m hm.1 hm.2.1 hm.2.2⟩
  have hselected' := h.selected
  rw [hdevice, hcall.installation, hselected] at hselected'
  cases hselected'
  exact hb.logicalEqual_of_node hcall h hnode

end

namespace Sample

theorem authorised_joined :
    Authorised codec (registry (machine 1) twoNodes) unlocked (proof "acc_1") request (at_ 2) lease (machine 1) (node "edge_b") :=
  authorised rfl rfl rfl rfl (by decide) (Computed.proofs computed).1 (by decide +kernel) (by decide +kernel)

end Sample

open Sample

/-- A second node joins, and the machine whose attachment is on the first is turned away. -/
theorem joining_node_moves_preview :
    ∃ a w, world.allocate codec unlocked (Sample.proof "acc_1") request (at_ 2) = .ok (a, w) ∧
      a.binding.edgeNodeID = "edge_a" ∧ a.live ∧
      node "edge_a" ∈ twoNodes.rows ∧ (node "edge_a").eligible (at_ 2) ∧
      selectPreviewEdgeNode codec { w.toRegistry with nodes := twoNodes } unlocked
        (leaseSnapshot lease (machine 1) "op_1" key ("sha256:" ++ key)) 1 (at_ 2) = .ok "edge_b" ∧
      World.allocate codec { w with nodes := twoNodes } unlocked (Sample.proof "acc_1") request
        (at_ 2) = .error .conflict := by
  have h := authorised_joined
  refine ⟨_, _, allocate_first, rfl, rfl, List.mem_cons_self, by decide, h.selectPreviewEdgeNode, ?_⟩
  have hscan := scan_allocated (w := { allocated with nodes := twoNodes }) rfl rfl
  refine (Authorised.allocate_existing h (by decide) (accepts_attachment h) hscan rfl).trans ?_
  have hnodes : "edge_a" ≠ "edge_b" := by decide
  exact World.reconcileAllocation_other rfl (Bool.and_eq_false_iff.2 (.inr (beq_eq_false_iff_ne.2 hnodes)))

theorem stays_while_first_is_locked :
    (attachment 1 (node "edge_a")).binding.Issued codec 1 (digest (joined ["acc_1", "pvw_1", "op_1"])) ∧
      selectPreviewEdgeNode codec (registry (machine 1) twoNodes) (·.id == "edge_b")
        (leaseSnapshot lease (machine 1) "op_1" key ("sha256:" ++ key)) 1 (at_ 2) =
          .ok "edge_a" := by
  have hissued := Authorised.issued authorised_first
  have hfirst : (twoNodes.rows.all fun m => !m.eligible (at_ 2) || m.id == "edge_b" ||
      (node "edge_a").before codec (selectionSeed "dev_1" 1) m) := by decide +kernel
  refine ⟨hissued, ((stays_on_node_iff (w := { allocated with nodes := twoNodes }) hissued ⟨rfl, rfl, rfl, rfl⟩
    List.mem_cons_self rfl (by decide)).2 ⟨by decide, fun m hm heligible hlocked => ?_⟩).1⟩
  have hm' := List.all_eq_true.1 hfirst m hm
  rw [heligible, hlocked] at hm'
  exact hm'

end Paperboat.Attachments

import Paperboat.Attachments.Acceptance
import Paperboat.Attachments.Renewal
/-!
# Restarts of the worker

A worker that restarts has a new generation, and with it a new session. The session
goes into the digest of the configuration, but the issuer always gives the generation
of the configuration as one, and a renewal with an equal generation must have an equal
digest. So a restarted worker is let back in only if the two digests collide.
-/

namespace Paperboat.Attachments

open Lib Binding World

section
variable {codec : Codec} {w : World} {now : Time} {locked : Node → Bool} {proof : MachineProof} {req : Request}
  {p p₀ : Previews.Lease} {m m₀ : Machine} {n n₀ : Node} {r : Row}

def resolutionSeed (codec : Codec) (proof : MachineProof) (req : Request) (p : Previews.Lease) (m : Machine) (n : Node) :
    CarrierSeed :=
  (carrierRequest codec proof req p m n).seed n m

/-- A call of a machine for a live attachment of an earlier resolution of the same request: the lease has been renewed
at most, and the machine has the same key and a newer worker. -/
structure Restart (codec : Codec) (w : World) (locked : Node → Bool) (proof : MachineProof) (req : Request) (now : Time)
    (p : Previews.Lease) (m : Machine) (n : Node) (r : Row) (p₀ : Previews.Lease) (m₀ : Machine) (n₀ : Node) : Prop where
  authorised : Authorised codec w.toRegistry locked proof req now p m n
  clock : now.isZero = false
  owner : m.userID = p.accountID
  leaseChecks : p.checks
  row : w.rows.find (p.accountID, req.operationID) = some r
  checks : r.checks
  valid : (r.attached p).validate codec = .ok ()
  live : r.live
  unexpired : r.expiresAt.after now
  issuedAt : r.issuedAt.after now = false
  idempotencyKey : r.idempotencyKey = req.idempotencyKey
  requestID : r.requestID = req.requestID
  correlationID : r.correlationID = req.correlationID
  requestHash : r.requestHash = codec.sha256 (codec.marshal p.accountID req)
  binding : r.binding = (resolution codec proof req p₀ m₀ n₀).binding
  config : r.configContentHash = (resolution codec proof req p₀ m₀ n₀).carrier.configContentHash
  account : p₀.accountID = p.accountID
  preview : p₀.id = p.id
  device : p₀.ownerDeviceID = p.ownerDeviceID
  session : p₀.ownerSessionID = p.ownerSessionID
  generation : p₀.generation ≤ p.generation
  key : m₀.key = m.key
  node : n₀.id = n.id
  process : n₀.processEpoch = n.processEpoch
  worker : m₀.workerGeneration < m.workerGeneration
  unqueued : w.outbox.find (p.accountID, req.operationID, r.attachmentGeneration + 1, .admission) = none

theorem Restart.seed_eq (h : Restart codec w locked proof req now p m n r p₀ m₀ n₀) :
    resolutionSeed codec proof req p₀ m₀ n₀ =
      { resolutionSeed codec proof req p m n with workerGeneration := m₀.workerGeneration } := by
  simp only [resolutionSeed, carrierRequest, CarrierRequest.seed, leaseSnapshot, h.account, h.preview, h.device, h.node]

/-- Two workers have different sessions, and yet equal digests of their configurations. -/
structure Collides (codec : Codec) (seed : CarrierSeed) (worker : Nat) : Prop where
  session : (seed.ids codec).sessionID ≠ ((({ seed with workerGeneration := worker } : CarrierSeed)).ids codec).sessionID
  config : seed.configHash codec = ({ seed with workerGeneration := worker } : CarrierSeed).configHash codec

def nextAttachment (codec : Codec) (proof : MachineProof) (req : Request) (p : Previews.Lease) (m : Machine) (n : Node)
    (now : Time) (generation : Nat) : Attachment :=
  { pendingAttachment codec proof req p m n now with attachmentGeneration := generation }

abbrev Restart.next (_ : Restart codec w locked proof req now p m n r p₀ m₀ n₀) : Attachment :=
  nextAttachment codec proof req p m n now r.attachmentGeneration

theorem Restart.logicalEqual (h : Restart codec w locked proof req now p m n r p₀ m₀ n₀) :
    r.binding.logicalEqual (resolution codec proof req p m n).binding := by
  rw [h.binding]
  simp [Binding.logicalEqual, resolution, Resolution.binding, carrierRequest, CarrierRequest.allocation,
    CarrierRequest.seed, leaseSnapshot, CarrierSeed.ids, CarrierSeed.identitySuffix, CarrierSeed.routeSuffix,
    h.account, h.preview, h.device, h.session, h.node]

theorem World.renewable_iff_of_newer {current next : Attachment} (hlog : current.binding.logicalEqual next.binding)
    (hhash : current.requestHash = next.requestHash) (hzero : next.expiresAt.isZero = false)
    (hrt : next.binding.routeGeneration = current.binding.routeGeneration)
    (hle : current.binding.leaseGeneration ≤ next.binding.leaseGeneration)
    (hcf : next.binding.configGeneration = current.binding.configGeneration)
    (hnewer : current.binding.processGeneration < next.binding.processGeneration) : renewable current next ↔
      next.binding.sessionID ≠ current.binding.sessionID ∧ next.configContentHash = current.configContentHash := by
  have hnotOlder : decide (next.binding.processGeneration ≤ current.binding.processGeneration) = false :=
    decide_eq_false hnewer.not_ge
  have hproc : (next.binding.processGeneration != current.binding.processGeneration) := bne_iff_ne.2 hnewer.ne'
  simp only [renewable, hlog, hhash, hzero, hrt, hcf, hle, hnewer.le, hnotOlder, hproc, le_refl, decide_true,
    beq_self_eq_true, Bool.not_false, Bool.true_and, Bool.and_true, Bool.and_false, Bool.and_eq_true, Bool.not_eq_true',
    bne_eq_false_iff_eq, beq_eq_false_iff_ne]
  exact and_comm

theorem Restart.renewable_iff (h : Restart codec w locked proof req now p m n r p₀ m₀ n₀) :
    renewable (r.attached p) h.next ↔
      Collides codec (resolutionSeed codec proof req p m n) m₀.workerGeneration := by
  have hzero : h.next.expiresAt.isZero = false := by
    obtain ⟨-, -, -, hzero, -⟩ := validateResolution_lease h.authorised.resolved
    exact (congrArg Time.isZero (minTime_self _)).trans hzero
  have hle : r.binding.leaseGeneration ≤ p.generation := (congrArg leaseGeneration h.binding).trans_le h.generation
  have hwk : r.binding.processGeneration < m.workerGeneration :=
    (congrArg processGeneration h.binding).trans_lt h.worker
  have hrt : r.binding.routeGeneration = 1 := congrArg routeGeneration h.binding
  have hgen : r.binding.configGeneration = 1 := congrArg configGeneration h.binding
  have hlog : (r.attached p).binding.logicalEqual
      h.next.binding := h.logicalEqual
  have hss : (r.attached p).binding.sessionID = ((resolutionSeed codec proof req p₀ m₀ n₀).ids codec).sessionID :=
    congrArg sessionID h.binding
  have hcf : (r.attached p).configContentHash = (resolutionSeed codec proof req p₀ m₀ n₀).configHash codec := h.config
  have hnextSession : h.next.binding.sessionID = ((resolutionSeed codec proof req p m n).ids codec).sessionID := rfl
  have hnextConfig : h.next.configContentHash = (resolutionSeed codec proof req p m n).configHash codec := rfl
  rw [renewable_iff_of_newer hlog h.requestHash hzero hrt.symm hle hgen.symm hwk, hss, hcf,
    hnextSession, hnextConfig, h.seed_eq]
  exact ⟨fun ⟨hne, heq⟩ => ⟨hne, heq⟩, fun hcol => ⟨hcol.session, hcol.config⟩⟩

/-! ## The renewed row -/

namespace Restart

variable (h : Restart codec w locked proof req now p m n r p₀ m₀ n₀)
include h

theorem storable : Storable (leaseSnapshot p m req.operationID m.key (m.thumbprint codec)) req := by
  have hck := h.checks
  simp only [Row.checks, Row.requestChecks, Row.carrierChecks, Bool.and_eq_true, decide_eq_true_eq, h.idempotencyKey, h.requestID,
    h.correlationID] at hck
  obtain ⟨⟨⟨⟨⟨⟨⟨⟨⟨⟨-, hkey⟩, -⟩, hrq⟩, -⟩, hco⟩, -⟩, hcr⟩, -⟩, -⟩, -⟩ := hck
  have hpattern : keyPattern m.key.toList := by
    have hsd : r.binding.machineIdentityPublicKey = m.key := (congrArg machineIdentityPublicKey h.binding).trans h.key
    rw [hsd] at hcr
    tauto
  obtain ⟨-, hv, -⟩ := validateResolution_lease h.authorised.resolved
  simp only [validMachineIdentityPublicKey, Bool.and_eq_true] at hv
  exact ⟨h.owner, hkey, hrq, hco, (keyPattern_iff hv.2).1 hpattern⟩

theorem accepts_pending : w.accepts (pendingAttachment codec proof req p m n now).toRow :=
  (h.authorised.accepts_iff h.leaseChecks).2 h.storable

theorem generation_ne_zero : r.attachmentGeneration ≠ 0 := by
  have hck := h.checks
  simp only [Row.checks, Bool.and_eq_true, bne_iff_ne] at hck
  exact hck.1.2

theorem other_carrier : r.carrier ≠ h.next.toRow.carrier := by
  intro heq
  have hproc : r.binding.processGeneration = m.workerGeneration := congrArg Carrier.processGeneration heq
  have hold : r.binding.processGeneration = m₀.workerGeneration := congrArg processGeneration h.binding
  exact absurd (hold.symm.trans hproc) h.worker.ne

theorem renew_binding : r.binding.renew h.next.binding = h.next.binding := by
  have hrt : r.binding.routeGeneration = 1 := congrArg routeGeneration h.binding
  exact renew_eq h.logicalEqual hrt

theorem next_after : h.next.expiresAt.after now :=
  (congrArg (·.after now) (minTime_self p.leaseDeadline)).trans h.authorised.rows.deadline

theorem next_after_issued : h.next.expiresAt.after r.issuedAt := by
  have hnext := h.next_after
  have his := h.issuedAt
  rw [Time.after_iff] at hnext ⊢
  rw [Time.after_eq_false] at his
  omega

theorem releasedAt : r.releasedAt = none := by
  have hv := h.valid
  simp only [Attachment.validate, check_eq_ok, refuseIf_eq_ok, Bool.not_eq_false'] at hv
  exact Row.releasedAt_of_live h.live hv.2.2.2.2.2.2.2.2

theorem next_valid : h.next.validate codec = .ok () :=
  h.authorised.pending_valid_at h.clock h.generation_ne_zero

theorem next_checks : h.next.toRow.checks := by
  have hac := h.accepts_pending
  simp only [Registry.accepts, Row.checks, Bool.and_eq_true] at hac
  obtain ⟨⟨⟨⟨⟨⟨hrq, hcr⟩, hst⟩, -⟩, haf⟩, -⟩, -⟩ := hac
  simp only [Row.checks, Bool.and_eq_true]
  exact ⟨⟨⟨⟨hrq, hcr⟩, hst⟩, bne_iff_ne.2 h.generation_ne_zero⟩, haf⟩

theorem accepts_renewed : w.accepts (r.renew h.next.toRow) := by
  have hac := h.accepts_pending
  have hck := Row.checks_renew h.checks h.next_checks h.releasedAt h.renew_binding h.next_after_issued
  have hbd : (r.renew h.next.toRow).binding = (pendingAttachment codec proof req p m n now).binding := h.renew_binding
  have hlive : (r.renew h.next.toRow).live = (pendingAttachment codec proof req p m n now).live := by
    rw [Row.renew_of_other_carrier h.other_carrier]
    rfl
  rw [Registry.accepts, Bool.and_assoc, Bool.and_eq_true] at hac ⊢
  rw [Registry.guards_congr hbd hlive]
  exact ⟨hck, hac.2⟩

theorem key_eq : (r.attached p).key = (p.accountID, req.operationID) := (Table.find_eq_some.1 h.row).2

theorem lease : w.previews.lease? r.binding.accountID r.binding.previewID = some p := by
  have hacc : r.binding.accountID = p.accountID := (congrArg accountID h.binding).trans h.account
  have hpv : r.binding.previewID = p.id := (congrArg previewID h.binding).trans h.preview
  obtain ⟨hmem, -⟩ := Table.find_eq_some.1 h.authorised.rows.lease
  rw [hacc, hpv]
  exact Previews.Tables.lease?_eq_some.2 ⟨hmem, rfl, rfl⟩

theorem scan : w.scan codec p.accountID req.operationID = .ok (r.attached p) :=
  scan_eq_ok.2 ⟨r, p, h.row, h.lease, h.valid, rfl⟩

theorem repository_valid : validateRepositoryAttachment codec (r.attached p) = .ok () := by
  have hlive : r.state.terminal = false := by simpa [Row.live] using h.live
  exact check_eq_ok.2 ⟨refuseIf_eq_ok.2 hlive, h.valid⟩

end Restart

structure Rebound (codec : Codec) (seed : CarrierSeed) (a : Attachment) (w : World) : Prop where
  state : a.state = .pending
  session : a.binding.sessionID = (seed.ids codec).sessionID
  process : a.binding.processGeneration = seed.workerGeneration
  stored : w.rows.find a.key = some a.toRow
  queued : ∃ c, w.outbox.find (a.binding.accountID, a.binding.operationID, a.attachmentGeneration, .admission) = some c ∧
    c.binding = a.binding ∧ c.state = .pending

variable (h : Restart codec w locked proof req now p m n r p₀ m₀ n₀)
include h

theorem Restart.renews_iff {w1 : World} (hreg : w1.toRegistry = w.toRegistry) (hrows : w1.rows = w.rows)
    (hunqueued : w1.outbox.find (p.accountID, req.operationID, r.attachmentGeneration + 1, .admission) = none) :
    (∃ a w', w1.renew codec (r.attached p) h.next now = .ok (a, w') ∧
      Rebound codec (resolutionSeed codec proof req p m n) a w') ↔
      Collides codec (resolutionSeed codec proof req p m n) m₀.workerGeneration := by
  have hnext : validateRepositoryAttachment codec h.next = .ok () :=
    check_eq_ok.2 ⟨rfl, h.next_valid⟩
  rw [← h.renewable_iff]
  constructor
  · rintro ⟨a, w', hren, -⟩
    by_contra hnot
    rw [renew_refused h.repository_valid hnext (Bool.eq_false_iff.2 hnot)] at hren
    cases hren
  · intro hrn
    have hrow : w1.rows.find (r.attached p).key = some (r.attached p).toRow := by
      rw [hrows, h.key_eq]
      exact h.row
    have hac : w1.accepts (r.renew h.next.toRow) := by
      rw [hreg]
      exact h.accepts_renewed
    have hle : w1.previews.lease? r.binding.accountID r.binding.previewID = some p := by
      rw [hreg]
      exact h.lease
    have hv := Row.validate_renew h.valid h.next_valid h.live h.renew_binding h.next_after_issued
    have hren := renew_changed h.repository_valid hnext hrn h.next_after hrow h.live h.unexpired hac hle hv
    have hpd : (r.renew h.next.toRow).state = .pending := by
      rw [Row.renew_of_other_carrier h.other_carrier]
    have hbd : (r.renew h.next.toRow).binding = h.next.binding := h.renew_binding
    refine ⟨_, _, hren, hpd, congrArg sessionID hbd, congrArg processGeneration hbd, ?_, ?_⟩
    · rw [withAdmission_rows]
      exact find_renewRow hrow
    · refine withAdmission_queued hpd ?_
      have hkey := h.key_eq
      simp only [Row.key, Row.attached, Prod.mk.injEq] at hkey
      have hfree : w1.outbox.find (r.binding.accountID, r.binding.operationID, r.attachmentGeneration + 1, .admission) = none := by
        rwa [hkey.1, hkey.2]
      exact hfree

theorem Restart.live_state : r.state.terminal = false := by
  simpa [Row.live] using h.live

theorem Restart.allocate :
    w.allocate codec locked proof req now = (w.withAdmission (r.attached p) now).renew codec (r.attached p)
      h.next now := by
  -- The process is another, so the stored attachment is not the one that is asked for.
  have hmv : r.binding.carrierEqual (pendingAttachment codec proof req p m n now).binding = false := by
    rw [Bool.eq_false_iff]
    intro heq
    have hproc : r.binding.processGeneration = m.workerGeneration :=
      congrArg processGeneration (carrierEqual_iff.1 heq)
    have hold : r.binding.processGeneration = m₀.workerGeneration := congrArg processGeneration h.binding
    exact absurd (hold.symm.trans hproc) h.worker.ne
  rw [h.authorised.allocate_existing h.clock h.accepts_pending h.scan h.requestHash]
  refine reconcileAllocation_moved h.live_state h.logicalEqual h.generation_ne_zero ?_
  rw [Bool.and_eq_false_iff]
  exact .inl hmv

theorem Restart.serviceRenew :
    w.serviceRenew codec locked proof req r.attachmentGeneration now = w.renew codec (r.attached p)
      h.next now :=
  h.authorised.serviceRenew h.scan h.requestHash h.live_state

/-- A restarted worker moves its attachment to its session exactly when the digests of the two configurations collide. -/
theorem restart_rebinds_iff :
    ((∃ a w', w.allocate codec locked proof req now = .ok (a, w') ∧ Rebound codec (resolutionSeed codec proof req p m n) a w') ∧
      ∃ a w', w.serviceRenew codec locked proof req r.attachmentGeneration now = .ok (a, w') ∧
        Rebound codec (resolutionSeed codec proof req p m n) a w') ↔
      Collides codec (resolutionSeed codec proof req p m n) m₀.workerGeneration := by
  rw [h.allocate, h.serviceRenew, h.renews_iff withAdmission_toRegistry withAdmission_rows ?_,
    h.renews_iff rfl rfl h.unqueued, and_self]
  unfold withAdmission
  split
  · rw [prepareAdmission, find_queue, if_neg, Option.or_none]
    · exact h.unqueued
    · exact fun hkey => Nat.succ_ne_self _ (congrArg (fun k => k.2.2.1) hkey)
  · exact h.unqueued

theorem Restart.refused (hdigests : (resolutionSeed codec proof req p m n).configHash codec ≠
      ({ resolutionSeed codec proof req p m n with workerGeneration := m₀.workerGeneration } : CarrierSeed).configHash codec) :
    w.allocate codec locked proof req now = .error .conflict ∧
      w.serviceRenew codec locked proof req r.attachmentGeneration now = .error .conflict := by
  have hnext : validateRepositoryAttachment codec h.next = .ok () :=
    check_eq_ok.2 ⟨rfl, h.next_valid⟩
  have hnot : renewable (r.attached p) h.next = false := by
    rw [Bool.eq_false_iff, Ne, h.renewable_iff]
    exact fun hcol => hdigests hcol.config
  rw [h.allocate, h.serviceRenew]
  exact ⟨renew_refused h.repository_valid hnext hnot, renew_refused h.repository_valid hnext hnot⟩

end

namespace Sample

def restarted (worker : Nat) : World := { allocated with machines := ⟨[machine worker], List.nodup_singleton _⟩ }

theorem restart {worker : Nat} (hwk : 1 < worker) :
    Restart codec (restarted worker) unlocked (proof "acc_1") request (at_ 2) lease (machine worker) (node "edge_a")
      (attachment 1 (node "edge_a")).toRow lease (machine 1) (node "edge_a") := by
  have hac := accepts_attachment authorised_first
  simp only [Registry.accepts, Bool.and_eq_true] at hac
  have hauthorised : Authorised codec (registry (machine worker) oneNode) unlocked (proof "acc_1") request (at_ 2) lease
      (machine worker) (node "edge_a") :=
    authorised rfl rfl rfl rfl (Nat.lt_trans Nat.zero_lt_one hwk) (Computed.proofs computed).1 (Computed.selected computed)
      (Computed.node computed)
  exact {
    authorised := hauthorised
    clock := by decide
    owner := rfl
    leaseChecks := by decide
    row := rfl
    checks := hac.1.1
    valid := Authorised.pending_valid authorised_first (by decide)
    live := rfl
    unexpired := by decide
    issuedAt := by decide
    idempotencyKey := rfl
    requestID := rfl
    correlationID := rfl
    requestHash := rfl
    binding := rfl
    config := rfl
    account := rfl
    preview := rfl
    device := rfl
    session := rfl
    generation := le_rfl
    key := rfl
    node := rfl
    process := rfl
    worker := hwk
    unqueued := rfl }

end Sample

open Sample

theorem restarted_worker_turned_away :
    ∃ a w, world.allocate codec unlocked (Sample.proof "acc_1") request (at_ 2) = .ok (a, w) ∧
      a.live ∧ a.expiresAt.after (at_ 2) ∧
      allocate codec { w with machines := ⟨[machine 2], List.nodup_singleton _⟩ } unlocked
        (Sample.proof "acc_1") request (at_ 2) = .error .conflict ∧
      serviceRenew codec { w with machines := ⟨[machine 2], List.nodup_singleton _⟩ } unlocked
        (Sample.proof "acc_1") request a.attachmentGeneration (at_ 2) = .error .conflict := by
  have h := restart (show 1 < 2 by decide)
  have hdigests : (resolutionSeed codec (Sample.proof "acc_1") request lease (machine 2)
      (node "edge_a")).configHash codec ≠ ({ resolutionSeed codec (Sample.proof "acc_1") request
        lease (machine 2) (node "edge_a") with workerGeneration := 1 } : CarrierSeed).configHash codec := by
    decide +kernel
  exact ⟨_, _, allocate_first, rfl, by decide, h.refused hdigests⟩

theorem restart_rebinds_second_worker :
    let seed := resolutionSeed codec (Sample.proof "acc_1") request lease (machine 2) (node "edge_a")
    ¬Collides codec seed 1 ∧
      ¬((∃ a w, (restarted 2).allocate codec unlocked (Sample.proof "acc_1") request (at_ 2) = .ok (a, w) ∧ Rebound codec seed a w) ∧
        ∃ a w, (restarted 2).serviceRenew codec unlocked (Sample.proof "acc_1") request 1 (at_ 2) = .ok (a, w) ∧
          Rebound codec seed a w) := by
  intro seed
  have hnot : ¬Collides codec seed 1 := fun h => absurd h.config (by decide +kernel)
  exact ⟨hnot, (restart_rebinds_iff (restart (show 1 < 2 by decide))).not.2 hnot⟩

end Paperboat.Attachments

import Paperboat.Attachments.Latest
/-!
# Rows that are read

What the edge does with a row that is read by its key: it acknowledges the admission of
the row, and it observes the carrier. Each comes down to the trigger on the lease and
the machine.
-/

namespace Paperboat.Attachments

variable {q : Previews.Lease} {b : Binding} {g : Nat} {ad : Admission}

open Lib Row Binding

section
variable {codec : Codec} {w : World} {now : Time} {p : Previews.Lease} {r : Row}

theorem Row.attached_toRow : (r.attached p).toRow = r := rfl

theorem Row.validate_restated {r' : Row} (h : (r.attached p).validate codec = .ok ()) (hbd : r'.binding = r.binding)
    (hkey : r'.idempotencyKey = r.idempotencyKey) (hrq : r'.requestID = r.requestID)
    (hco : r'.correlationID = r.correlationID) (hhash : r'.requestHash = r.requestHash)
    (hcf : r'.configContentHash = r.configContentHash) (heps : r'.edgeEndpoints = r.edgeEndpoints)
    (hgen : r'.attachmentGeneration = r.attachmentGeneration + 1) (his : r'.issuedAt = r.issuedAt)
    (hex : r'.expiresAt = r.expiresAt) (hcs : r'.consistent) : (r'.attached p).validate codec = .ok () := by
  simp only [Attachment.validate, check_eq_ok, refuseIf_eq_ok, Bool.not_eq_false', Bool.or_eq_false_iff, attached] at h ⊢
  obtain ⟨hv, hkeys, hdg, htg, hept, hedge, hctn, ⟨⟨⟨-, hzero⟩, hezero⟩, haf⟩, -⟩ := h
  rw [hbd, hkey, hrq, hco, hhash, heps, hcf, his, hex, hgen]
  exact ⟨hv, hkeys, hdg, htg, hept, hedge, hctn, ⟨⟨⟨rfl, hzero⟩, hezero⟩, haf⟩, hcs⟩

theorem Row.consistent_of_valid (h : (r.attached p).validate codec = .ok ()) : r.consistent := by
  simp only [Attachment.validate, check_eq_ok, refuseIf_eq_ok, Bool.not_eq_false'] at h
  exact h.2.2.2.2.2.2.2.2

theorem Row.valid_markAdmitted (h : (r.attached p).validate codec = .ok ()) (hpd : r.state = .pending) :
    (r.markAdmitted.attached p).validate codec = .ok () := by
  refine validate_restated h rfl rfl rfl rfl rfl rfl rfl rfl rfl rfl ?_
  have hcs := consistent_of_valid h
  simp only [consistent, hpd, Bool.and_eq_true] at hcs
  simp [consistent, markAdmitted, hcs]

theorem Row.valid_observeEdge (h : (r.attached p).validate codec = .ok ()) (hadm : r.state = .admitted) :
    (r.observeEdge.attached p).validate codec = .ok () := by
  refine validate_restated h rfl rfl rfl rfl rfl rfl rfl rfl rfl rfl ?_
  have hcs := consistent_of_valid h
  simp only [consistent, hadm, Bool.and_eq_true] at hcs
  simp [consistent, observeEdge, hcs]

theorem Row.checks_markAdmitted (h : r.checks) (hpd : r.state = .pending) : r.markAdmitted.checks := by
  simp only [checks, Bool.and_eq_true] at h ⊢
  obtain ⟨⟨⟨⟨hrq, hcr⟩, hst⟩, -⟩, haf⟩ := h
  refine ⟨⟨⟨⟨hrq, hcr⟩, ?_⟩, rfl⟩, haf⟩
  simp only [stateChecks, hpd] at hst
  simp only [stateChecks, markAdmitted]
  revert hst
  cases r.edgeReady <;> cases r.originReady <;> cases r.releasedAt <;> simp

theorem Row.checks_observeEdge (h : r.checks) (hadm : r.state = .admitted) : r.observeEdge.checks := by
  simp only [checks, Bool.and_eq_true] at h ⊢
  obtain ⟨⟨⟨⟨hrq, hcr⟩, hst⟩, -⟩, haf⟩ := h
  refine ⟨⟨⟨⟨hrq, hcr⟩, ?_⟩, rfl⟩, haf⟩
  simp only [stateChecks, hadm] at hst
  simp only [stateChecks, observeEdge]
  revert hst
  cases r.releasedAt <;> simp

def Row.request (r : Row) : Request where
  previewID := r.binding.previewID
  operationID := r.binding.operationID
  ownerDeviceID := r.binding.ownerDeviceID
  ownerSessionID := r.binding.ownerSessionID
  idempotencyKey := r.idempotencyKey
  requestID := r.requestID
  correlationID := r.correlationID

def Row.Hashed (codec : Codec) (r : Row) : Prop := r.requestHash = codec.sha256 (codec.marshal r.binding.accountID r.request)

theorem Binding.valid_account (h : b.valid) : validID b.accountID ∧ validID b.operationID ∧
    validID b.previewID ∧ validID b.ownerDeviceID ∧ validID b.ownerSessionID := by
  simp only [valid, Bool.and_eq_true, List.all_cons] at h
  obtain ⟨⟨⟨⟨⟨⟨⟨⟨⟨⟨⟨⟨⟨hacc, hpv, hop, hdv, hss, -⟩, -⟩, -⟩, -⟩, -⟩, -⟩, -⟩, -⟩, -⟩, -⟩, -⟩, -⟩, -⟩ := h
  exact ⟨hacc, hop, hpv, hdv, hss⟩

theorem Row.binding_of_valid (h : (r.attached p).validate codec = .ok ()) : r.binding.valid := by
  simp only [Attachment.validate, check_eq_ok, refuseIf_eq_ok, Bool.not_eq_false'] at h
  exact h.1

theorem Row.request_of_valid (h : (r.attached p).validate codec = .ok ()) : r.request.valid := by
  obtain ⟨-, hop, hpv, hdv, hss⟩ := valid_account (binding_of_valid h)
  simp only [Attachment.validate, check_eq_ok, refuseIf_eq_ok, Bool.or_eq_false_iff, Bool.not_eq_false'] at h
  obtain ⟨-, ⟨⟨hkey, hrq⟩, hco⟩, -⟩ := h
  simp only [Request.valid, Bool.and_eq_true]
  exact ⟨⟨⟨⟨⟨⟨hpv, hop⟩, hdv⟩, hss⟩, hkey⟩, hrq⟩, hco⟩

structure World.Holds (codec : Codec) (w : World) (r : Row) (p : Previews.Lease) : Prop where
  row : w.rows.find r.key = some r
  lease : w.previews.lease? r.binding.accountID r.binding.previewID = some p
  valid : (r.attached p).validate codec = .ok ()
  checks : r.checks
  hashed : r.Hashed codec

namespace World.Holds

variable {generation : Nat} (h : w.Holds codec r p)
include h

theorem scan : w.scan codec r.binding.accountID r.binding.operationID = .ok (r.attached p) :=
  scan_eq_ok.2 ⟨r, p, h.row, h.lease, h.valid, rfl⟩

theorem get : w.get codec r.binding.accountID r.binding.operationID = .ok (r.attached p) := by
  obtain ⟨hacc, hop, -⟩ := valid_account (binding_of_valid h.valid)
  unfold World.get
  rw [check_eq_ok]
  refine ⟨?_, h.scan⟩
  rw [refuseIf_eq_ok, hacc, hop]
  rfl

theorem validateRepository (hlive : r.live) : validateRepositoryAttachment codec (r.attached p) = .ok () := by
  unfold validateRepositoryAttachment
  rw [check_eq_ok]
  refine ⟨?_, h.valid⟩
  rw [refuseIf_eq_ok]
  rwa [live, Bool.not_eq_true'] at hlive

theorem checkRecordRequest : checkRecordRequest codec (r.attached p) r.request r.binding.accountID = .ok () := by
  obtain ⟨hacc, -⟩ := valid_account (binding_of_valid h.valid)
  unfold Attachments.checkRecordRequest
  rw [bind_eq_ok]
  refine ⟨_, Request.hash_eq_ok.2 ⟨hacc, request_of_valid h.valid, rfl⟩, ?_⟩
  rw [refuseIf_eq_ok, bne_eq_false_iff_eq]
  exact h.hashed

theorem serviceObserveEdge :
    w.serviceObserveEdge codec (requestFromAttachment (r.attached p)) (r.attached p).binding (r.attached p).attachmentGeneration now =
      w.observeEdge codec (r.attached p) now := by
  have hrq : requestFromAttachment (r.attached p) = r.request := rfl
  have hget : w.get codec (r.attached p).binding.accountID r.request.operationID = .ok (r.attached p) := h.get
  have hrec : Attachments.checkRecordRequest codec (r.attached p) r.request (r.attached p).binding.accountID = .ok () :=
    h.checkRecordRequest
  have hv := request_of_valid h.valid
  have hnames : (r.request.operationID != (r.attached p).binding.operationID ||
      r.request.previewID != (r.attached p).binding.previewID ||
      r.request.ownerDeviceID != (r.attached p).binding.ownerDeviceID ||
      r.request.ownerSessionID != (r.attached p).binding.ownerSessionID) = false := by
    simp [request, attached]
  simp [World.serviceObserveEdge, hrq, hv, hnames, hget, hrec, refuseIf, bind, Except.bind]

omit h in
theorem accepts_restated {r' : Row} (hck : r'.checks) (hbd : r'.binding = r.binding) (hlive : r'.live = r.live)
    (hep : w.epochGuard r) : w.accepts r' = w.leaseGuard r := by
  have hguards := Registry.guards_congr (w := w.toRegistry) hbd hlive
  rw [Registry.accepts, hck, Bool.true_and, hguards, hep, Bool.and_true]

theorem observeEdge_admitted (hadm : r.state = .admitted) (hux : r.expiresAt.after now)
    (hep : w.epochGuard r) :
    (∃ result, w.observeEdge codec (r.attached p) now = .ok result) ↔ w.leaseGuard r := by
  have hlive : r.live := live_of hadm rfl
  have hac : w.accepts r.observeEdge = w.leaseGuard r :=
    accepts_restated (checks_observeEdge h.checks hadm) rfl (hlive ▸ rfl) hep
  have hfind : w.rows.find (r.attached p).key = some r := h.row
  have hmt : r.attachmentGeneration = (r.attached p).attachmentGeneration ∧ r.binding = (r.attached p).binding ∧
      (r.state == .admitted && r.expiresAt.after now) := by
    refine ⟨rfl, rfl, ?_⟩
    rw [hadm, hux]
    rfl
  unfold World.observeEdge
  rw [h.validateRepository hlive]
  simp only [bind, Except.bind, changeRow, hfind, if_pos hmt, hac]
  by_cases hg : w.leaseGuard r
  · -- The row that is read back is the observed one.
    have hsc : World.scan codec { w with rows := w.rows.update (·.key == (r.attached p).key) Row.observeEdge Row.observeEdge_key }
        (r.attached p).binding.accountID (r.attached p).binding.operationID = .ok (r.observeEdge.attached p) := by
      refine scan_eq_ok.2 ⟨r.observeEdge, p, ?_, h.lease, valid_observeEdge h.valid hadm, rfl⟩
      have hup := Table.find_update (t := w.rows) (·.key == r.key) Row.observeEdge Row.observeEdge_key r.key
      rw [h.row, Option.map_some, if_pos (beq_self_eq_true _)] at hup
      exact hup
    simp only [hg, if_true, settle, hsc, bind, Except.bind, Bool.not_true, Bool.false_and, refuseIf, Bool.false_eq_true,
      if_false, iff_true]
    exact ⟨_, rfl⟩
  · simp only [hg, if_false, Bool.false_eq_true, iff_false, not_exists]
    exact fun _ hrs => by cases hrs

theorem edgeReady (hrd : r.state = .edgeReady ∨ r.state = .ready) : r.edgeReady := by
  have hcs := consistent_of_valid h.valid
  rcases hrd with hst | hst <;> simp only [consistent, hst, Bool.and_eq_true] at hcs
  · exact hcs.1.1.1
  · exact hcs.1.1.1

theorem observeEdge_again (hrd : r.state = .edgeReady ∨ r.state = .ready) :
    w.observeEdge codec (r.attached p) now = .ok (r.attached p, w) := by
  have hlive : r.live := hrd.elim (live_of · rfl) (live_of · rfl)
  have hedge : (r.attached p).edgeReady := h.edgeReady hrd
  have hfind : w.rows.find (r.attached p).key = some r := h.row
  have hmt : ¬(r.attachmentGeneration = (r.attached p).attachmentGeneration ∧ r.binding = (r.attached p).binding ∧
      (r.state == .admitted && r.expiresAt.after now)) := by
    rintro ⟨-, -, hmt⟩
    rcases hrd with hst | hst <;> rw [hst] at hmt <;> cases hmt
  have hsc : w.scan codec (r.attached p).binding.accountID (r.attached p).binding.operationID = .ok (r.attached p) := h.scan
  unfold World.observeEdge
  rw [h.validateRepository hlive]
  simp only [bind, Except.bind, changeRow, hfind, if_neg hmt, settle, hsc, beq_self_eq_true, hedge, Bool.and_true, Bool.or_true,
    Bool.not_true, Bool.and_false, refuseIf, Bool.false_eq_true, if_false]

theorem observeOne : w.observeOne codec r.binding generation .edgeReady now =
    (checkObservedGeneration (r.attached p) generation).bind fun _ =>
      (w.observeEdge codec (r.attached p) now).bind fun result => .ok result.2 := by
  have hsame : ((r.attached p).binding != r.binding) = false := bne_self_eq_false _
  unfold World.observeOne
  rw [h.get]
  simp [bind, Except.bind, hsame, refuseIf, h.serviceObserveEdge]

theorem observeOne_admitted {g : Nat} (hadm : r.state = .admitted) (hux : r.expiresAt.after now)
    (hep : w.epochGuard r) : (∃ w', w.observeOne codec r.binding g .edgeReady now = .ok w') ↔
      r.attachmentGeneration = g + 1 ∧ w.leaseGuard r := by
  have hst : (r.attached p).state = .admitted := hadm
  have hgen : (r.attached p).attachmentGeneration = r.attachmentGeneration := rfl
  rw [h.observeOne, ← h.observeEdge_admitted hadm hux hep]
  simp only [checkObservedGeneration, if_pos hst, hgen, refuseIf]
  by_cases heq : r.attachmentGeneration = g + 1
  · simp only [heq, bne_self_eq_false, Bool.false_eq_true, if_false, Except.bind, true_and]
    cases w.observeEdge codec (r.attached p) now with
    | error | ok => simp
  · have hne : (r.attachmentGeneration != g + 1) := bne_iff_ne.2 heq
    simp [hne, heq, Except.bind]

theorem observeOne_again (hrd : r.state = .edgeReady ∨ r.state = .ready)
    (hgen : generation < r.attachmentGeneration) : w.observeOne codec r.binding generation .edgeReady now = .ok w := by
  have hedge : (r.attached p).edgeReady := h.edgeReady hrd
  have hst : (r.attached p).state ≠ .admitted := by
    intro hadm
    have hadmitted' : r.state = .admitted := hadm
    rcases hrd with hst | hst <;> rw [hst] at hadmitted' <;> cases hadmitted'
  have hle : ¬(r.attached p).attachmentGeneration < generation + 1 := Nat.not_lt.2 hgen
  rw [h.observeOne, h.observeEdge_again hrd]
  rw [checkObservedGeneration, if_neg hst, hedge, decide_eq_false hle]
  rfl

end World.Holds

/-! ## Acknowledging -/

theorem Binding.valid_edge (h : b.valid) :
    validID b.edgeNodeID ∧ validOpaqueEpoch b.edgeProcessEpoch := by
  simp only [valid, Bool.and_eq_true, List.all_cons] at h
  obtain ⟨⟨⟨⟨⟨⟨⟨⟨⟨⟨⟨⟨⟨-, -, -, -, -, -, -, -, -, -, hn, -⟩, -⟩, -⟩, -⟩, -⟩, -⟩, -⟩, hep⟩, -⟩, -⟩, -⟩, -⟩, -⟩ := h
  exact ⟨hn, hep⟩

theorem World.epochGuard_of_available
    (h : w.assertProcessEpoch r.binding.edgeNodeID r.binding.edgeProcessEpoch now = .ok ()) : w.epochGuard r := by
  unfold assertProcessEpoch at h
  split at h
  · cases h
  next n hn =>
  simp only [refuseIf_eq_ok, Bool.or_eq_false_iff, bne_eq_false_iff_eq] at h
  rw [Registry.epochGuard, hn, Option.any_some, h.1, beq_self_eq_true, Bool.or_true]

theorem World.acknowledge_eq (hv : r.binding.valid) (hg : g ≠ 0)
    (hav : w.assertProcessEpoch r.binding.edgeNodeID r.binding.edgeProcessEpoch now = .ok ()) :
    w.acknowledge codec r.binding.edgeNodeID r.binding.edgeProcessEpoch r.binding.accountID r.binding.operationID g .admission now =
      w.acknowledgeAdmission codec r.binding.edgeNodeID r.binding.edgeProcessEpoch r.binding.accountID r.binding.operationID g now := by
  obtain ⟨hacc, hop, -⟩ := valid_account hv
  obtain ⟨hn, hep⟩ := valid_edge hv
  simp [acknowledge, hn, hep, hacc, hop, beq_eq_false_iff_ne.2 hg, refuseIf, bind, Except.bind, hav]

theorem World.command_of_admission (h : w.admissions r.key g = some ad) (hbd : ad.binding = r.binding) :
    ∃ c, w.command? r.binding.edgeNodeID r.binding.edgeProcessEpoch r.binding.accountID r.binding.operationID g .admission =
      some c ∧ c.admission = ad ∧ c.key = (r.binding.accountID, r.binding.operationID, g, .admission) := by
  obtain ⟨c, hfind, rfl⟩ := Option.map_eq_some_iff.1 h
  have hc : c.binding = r.binding := hbd
  exact ⟨c, command_eq_some.2 ⟨hfind, congrArg edgeNodeID hc, congrArg edgeProcessEpoch hc⟩, rfl,
    (Table.find_eq_some.1 hfind).2⟩

theorem World.acknowledgeAdmission_none (h : w.admissions r.key g = none) :
    w.acknowledgeAdmission codec r.binding.edgeNodeID r.binding.edgeProcessEpoch r.binding.accountID r.binding.operationID g now =
      .error .notFound := by
  have hfind : w.outbox.find (r.binding.accountID, r.binding.operationID, g, .admission) = none := Option.map_eq_none_iff.1 h
  simp [acknowledgeAdmission, command?, hfind]

theorem World.acknowledgeAdmission_delivered (h : w.admissions r.key g = some ad)
    (hbd : ad.binding = r.binding) (hdv : ad.delivered) :
    w.acknowledgeAdmission codec r.binding.edgeNodeID r.binding.edgeProcessEpoch r.binding.accountID r.binding.operationID g now =
      .ok w := by
  obtain ⟨c, hcmd, rfl, -⟩ := command_of_admission h hbd
  have hst : c.state = .delivered := beq_iff_eq.1 hdv
  simp only [acknowledgeAdmission, hcmd, if_pos hst]

theorem World.checkItem_pending {c : Command} (hv : (r.attached q).validate codec = .ok ())
    (hc : c.admission = (r.attached q).admission)
    (hkey : c.key = (r.binding.accountID, r.binding.operationID, r.attachmentGeneration, .admission))
    (hux : r.expiresAt.after now) :
    checkItem codec c now r.binding.edgeNodeID r.binding.edgeProcessEpoch = .ok () := by
  have hbindingValid := binding_of_valid hv
  obtain ⟨hacc, hop, -⟩ := valid_account hbindingValid
  obtain ⟨-, hep⟩ := valid_edge hbindingValid
  have hbd : c.binding = r.binding := congrArg Admission.binding hc
  have hcf : c.configContentHash = r.configContentHash := congrArg Admission.configContentHash hc
  have heps : c.edgeEndpoints = r.edgeEndpoints := congrArg Admission.edgeEndpoints hc
  have hept : c.endpoint = q.endpoint := congrArg Admission.endpoint hc
  have hex : c.expiresAt = r.expiresAt := congrArg Admission.expiresAt hc
  have hca : c.accountID = r.binding.accountID := congrArg (·.1) hkey
  have hco : c.operationID = r.binding.operationID := congrArg (·.2.1) hkey
  have hcg : c.attachmentGeneration = r.attachmentGeneration := congrArg (·.2.2.1) hkey
  simp only [Attachment.validate, check_eq_ok, refuseIf_eq_ok, Bool.or_eq_false_iff, Bool.not_eq_false', attached] at hv
  obtain ⟨-, -, -, -, hurl, hedge, hctn, ⟨⟨⟨hgen, -⟩, hzero⟩, -⟩, -⟩ := hv
  simp only [checkItem, check_eq_ok, refuseIf_eq_ok, Bool.or_eq_false_iff, Bool.not_eq_false', hca, hco, hcg, hbd, hcf,
    heps, hept, hex, bne_self_eq_false, Bool.and_eq_false_iff, hux]
  exact ⟨⟨⟨hacc, hop⟩, hgen⟩, ⟨⟨trivial, trivial⟩, trivial⟩, ⟨hep, trivial⟩, hbindingValid, hctn, hedge,
    hurl, hzero, .inr trivial⟩

def World.acknowledged (w : World) (r : Row) (now : Time) : World :=
  deliverCommand { w with rows := w.rows.update (·.key == r.key) markAdmitted markAdmitted_key }
    r.binding.accountID r.binding.operationID r.attachmentGeneration .admission now

theorem World.Holds.acknowledgeAdmission_pending (h : w.Holds codec r p) (hpd : r.state = .pending)
    (had : w.admissions r.key r.attachmentGeneration = some (r.attached q).admission)
    (hv : (r.attached q).validate codec = .ok ()) (hux : r.expiresAt.after now) (hep : w.epochGuard r) :
    w.acknowledgeAdmission codec r.binding.edgeNodeID r.binding.edgeProcessEpoch r.binding.accountID r.binding.operationID
      r.attachmentGeneration now = if w.leaseGuard r then .ok (w.acknowledged r now) else .error .database := by
  obtain ⟨c, hcmd, hc, hkey⟩ := command_of_admission had rfl
  have hst : c.state ≠ .delivered := by
    intro hdv
    have hflag : (c.state == .delivered) = false := congrArg Admission.delivered hc
    rw [hdv] at hflag
    cases hflag
  have hca : c.accountID = r.binding.accountID := congrArg (·.1) hkey
  have hsc : w.scan codec c.accountID r.binding.operationID = .ok (r.attached p) := by
    rw [hca]
    exact h.scan
  have hsame : ((r.attached p).binding != c.binding) = false := by
    rw [bne_eq_false_iff_eq]
    exact (congrArg Admission.binding hc).symm
  have hmv : ¬(r.attachmentGeneration + 1 ≤ (r.attached p).attachmentGeneration ∧
      ((r.attached p).state = .admitted ∨ (r.attached p).state = .edgeReady ∨ (r.attached p).state = .ready)) :=
    fun hmv => absurd hmv.1 (Nat.not_succ_le_self _)
  have hcur : ((r.attached p).state != .pending || (r.attached p).attachmentGeneration != r.attachmentGeneration) = false := by
    have hstate' : (r.attached p).state = .pending := hpd
    rw [hstate']
    exact bne_self_eq_false _
  have hfind : w.rows.find (r.attached p).key = some r := h.row
  have hmt : r.attachmentGeneration = (r.attached p).attachmentGeneration ∧ r.binding = (r.attached p).binding ∧
      (r.state == .pending && r.expiresAt.after now) := by
    refine ⟨rfl, rfl, ?_⟩
    rw [hpd, hux]
    rfl
  have hlive : r.live := live_of hpd rfl
  have hac : w.accepts r.markAdmitted = w.leaseGuard r :=
    accepts_restated (checks_markAdmitted h.checks hpd) rfl (hlive ▸ rfl) hep
  simp only [acknowledgeAdmission, hcmd, if_neg hst, checkItem_pending hv hc hkey hux, hsc, hsame, if_neg hmv,
    hcur, changeRow, hfind, if_pos hmt, hac, refuseIf, bind, Except.bind, Bool.false_eq_true, if_false]
  cases w.leaseGuard r with
  | true | false => rfl

theorem World.Holds.acknowledged (h : w.Holds codec r p) (hpd : r.state = .pending) :
    (w.acknowledged r now).Holds codec r.markAdmitted p where
  row := by
    have hup := Table.find_update (t := w.rows) (·.key == r.key) markAdmitted markAdmitted_key r.key
    rw [h.row, Option.map_some, if_pos (beq_self_eq_true _)] at hup
    exact hup
  lease := h.lease
  valid := valid_markAdmitted h.valid hpd
  checks := checks_markAdmitted h.checks hpd
  hashed := h.hashed

end

end Paperboat.Attachments

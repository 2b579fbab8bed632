import Paperboat.Attachments.Authorised
import Paperboat.Previews.Effects
/-!
# Allocations

`Service.Allocate` for a request that the authority resolves: the pending attachment
that it makes is a valid one. Where the table takes it and there is none yet it is
stored, and its admission is queued. Otherwise the attachment of the operation is read
and, if need be, renewed.
-/

namespace Paperboat.Attachments

open Lib World Table

variable {current a : Attachment} {p : Previews.Lease} {w : World} {rows : Table Row.key}

section
variable {codec : Codec} {now : Time} {locked : Node → Bool} {proof : MachineProof} {req : Request} {m : Machine} {n : Node}

def pendingAttachment (codec : Codec) (proof : MachineProof) (req : Request) (p : Previews.Lease) (m : Machine) (n : Node)
    (now : Time) : Attachment :=
  attachmentFromResolution req (codec.sha256 (codec.marshal p.accountID req)) (resolution codec proof req p m n) now

abbrev Authorised.pending {w : Registry} (_ : Authorised codec w locked proof req now p m n) : Attachment :=
  pendingAttachment codec proof req p m n now

theorem validOpaqueEpoch_validID {v : String} (h : validOpaqueEpoch v) : validID v := by
  simp only [validOpaqueEpoch, Bool.and_eq_true, decide_eq_true_eq, List.all_eq_true] at h
  obtain ⟨⟨hlow, hhigh⟩, hchs⟩ := h
  simp only [validID, Bool.and_eq_true, decide_eq_true_eq, List.all_eq_true]
  refine ⟨⟨by omega, by omega⟩, fun c hc => ?_⟩
  have := hchs c hc
  simp only [Bool.or_eq_true, Bool.and_eq_true, decide_eq_true_eq, beq_iff_eq] at this
  rcases this with (((⟨h1, h2⟩ | ⟨h1, h2⟩) | ⟨h1, h2⟩) | rfl) | rfl
  · exact ⟨Char.le_trans (by decide) h1, Char.le_trans h2 (by decide)⟩
  · exact ⟨Char.le_trans (by decide) h1, Char.le_trans h2 (by decide)⟩
  · exact ⟨Char.le_trans (by decide) h1, Char.le_trans h2 (by decide)⟩
  · decide
  · decide

theorem minTime_self (t : Time) : minTime t t = t := ite_self t

section
variable {w : Registry}

theorem Authorised.binding_valid (h : Authorised codec w locked proof req now p m n) :
    (resolution codec proof req p m n).binding.valid := by
  have hvalid := h.resolved
  simp only [validateResolution, check_eq_ok, refuseIf_eq_ok, Bool.not_eq_false', Bool.or_eq_false_iff, beq_eq_false_iff_ne,
    bne_eq_false_iff_eq, LeaseSnapshot.named, Bool.and_eq_true] at hvalid
  obtain ⟨hnm, hkey, hgen, -, -, -, hcr, -, -, -, -, hrt, -⟩ := hvalid
  obtain ⟨⟨⟨⟨⟨hacc, -⟩, hpv⟩, hop⟩, hdv⟩, hss⟩ := hnm
  obtain ⟨⟨⟨⟨⟨⟨⟨⟨⟨⟨-, -⟩, htn⟩, hcn⟩, hses⟩, hproc⟩, hcf⟩, -⟩, hn⟩, hep⟩, hsp⟩ := hcr
  have hchain : decide (1 ≤ (n.carrierServerCertificateChainPEM.getD "").utf8ByteSize) ∧
      decide ((n.carrierServerCertificateChainPEM.getD "").utf8ByteSize ≤ 65536) := by
    obtain ⟨v, hv⟩ := Option.isSome_iff_exists.1 h.chain
    have hform := n.chain_form
    rw [hv] at hform ⊢
    exact Bool.and_eq_true_iff.1 hform
  have hnames : (resolution codec proof req p m n).binding.tunnelID ≠ (resolution codec proof req p m n).binding.connectorID := by
    intro heq
    have hlist := congrArg (fun s : String => s.toList[4]?) heq
    simp only [resolution, Resolution.binding, CarrierRequest.allocation, CarrierSeed.ids, String.toList_append] at hlist
    have htun : ("pvc_tun_".toList ++ (((carrierRequest codec proof req p m n).seed n m).identitySuffix codec).toList)[4]? =
      some 't' := rfl
    have hcon : ("pvc_con_".toList ++ (((carrierRequest codec proof req p m n).seed n m).identitySuffix codec).toList)[4]? =
      some 'c' := rfl
    rw [htun, hcon] at hlist
    cases hlist
  simp only [Binding.valid, Bool.and_eq_true, List.all_cons, List.all_nil, and_true, bne_iff_ne, beq_iff_eq]
  exact ⟨⟨⟨⟨⟨⟨⟨⟨⟨⟨⟨⟨⟨hacc, hpv, hop, hdv, hss, hdv, htn, hcn, hses,
    hrt.1.1.1.2, hn, validOpaqueEpoch_validID hep⟩, hgen.1.1⟩, hproc⟩, hcf⟩, Nat.one_ne_zero⟩, rfl⟩, hnames⟩,
    hep⟩, hsp⟩, hchain.1⟩, hchain.2⟩, hkey.1⟩, hkey.2⟩

theorem Authorised.pending_valid_at (h : Authorised codec w locked proof req now p m n) (hnow : now.isZero = false)
    {generation : Nat} (hgen : generation ≠ 0) :
    Attachment.validate { h.pending with attachmentGeneration := generation } codec = .ok () := by
  have hv := h.resolved
  simp only [validateResolution, check_eq_ok, refuseIf_eq_ok, Bool.not_eq_false', Bool.or_eq_false_iff] at hv
  obtain ⟨-, -, ⟨⟨-, hzero⟩, -⟩, -, htg, hept, hcr, -, -, heps, ⟨⟨-, haf⟩, -⟩, -, -⟩ := hv
  have hreq := h.request_valid
  simp only [Request.valid, Bool.and_eq_true] at hreq
  have hdg : isDigest (codec.sha256 (codec.marshal p.accountID req)) := isDigest_sha256 _
  simp only [isDigest, Bool.and_eq_true, beq_iff_eq] at hdg
  have hex : h.pending.expiresAt = p.leaseDeadline := minTime_self _
  simp only [Attachment.validate, check_eq_ok, refuseIf_eq_ok, Bool.not_eq_false', Bool.or_eq_false_iff]
  refine ⟨h.binding_valid, ⟨⟨hreq.1.1.2, hreq.1.2⟩, hreq.2⟩, ⟨bne_eq_false_iff_eq.2 hdg.1, hdg.2⟩, htg, hept,
    heps, hcr.1.1.1.2, ⟨⟨⟨beq_eq_false_iff_ne.2 hgen, hnow⟩, ?_⟩, ?_⟩, rfl⟩
  · rwa [hex]
  · rwa [hex]

theorem Authorised.pending_valid (h : Authorised codec w locked proof req now p m n) (hnow : now.isZero = false) :
    h.pending.validate codec = .ok () := h.pending_valid_at hnow Nat.one_ne_zero

end

/-! ## Reading and inserting -/

def Row.attached (r : Row) (p : Previews.Lease) : Attachment :=
  { r with endpoint := p.endpoint, target := ⟨p.targetScheme, p.targetAddress⟩, accessMode := p.accessMode }

namespace World

variable {w : World} {r : Row}

theorem scan_eq_ok {accountID operationID : String} : w.scan codec accountID operationID = .ok a ↔
    ∃ r p, w.rows.find (accountID, operationID) = some r ∧ w.previews.lease? r.binding.accountID r.binding.previewID = some p ∧
      (r.attached p).validate codec = .ok () ∧ a = r.attached p := by
  unfold scan
  constructor
  · intro h
    split at h
    · cases h
    next r hr =>
    split at h
    · cases h
    next p hp =>
    obtain ⟨hv, h⟩ := check_eq_ok.1 h
    exact ⟨r, p, hr, hp, hv, (Except.ok.inj h).symm⟩
  · rintro ⟨r, p, hr, hp, hv, rfl⟩
    simp only [hr, hp]
    exact check_eq_ok.2 ⟨hv, rfl⟩

def blocks (r o : Row) : Bool :=
  o.binding.accountID == r.binding.accountID &&
    (o.idempotencyKey == r.idempotencyKey || o.live && o.binding.previewID == r.binding.previewID)

theorem insertRow_taken (h : w.accepts r) (htk : (∃ o ∈ w.rows.rows, blocks r o) ∨ w.rows.insert r = none) :
    w.insertRow r = .ok (false, w) := by
  unfold insertRow
  rw [h, Bool.not_true, if_neg Bool.false_ne_true]
  split
  · rfl
  next hany =>
  rcases htk with ⟨o, ho, hbl⟩ | hnone
  · exact absurd (List.any_eq_true.2 ⟨o, ho, hbl⟩) hany
  · rw [hnone]

theorem insertRow_free (h : w.accepts r) (hfree : ∀ o ∈ w.rows.rows, blocks r o = false)
    (hrows : w.rows.insert r = some rows) : w.insertRow r = .ok (true, { w with rows }) := by
  unfold insertRow
  rw [h, Bool.not_true, if_neg Bool.false_ne_true, if_neg, hrows]
  rw [List.any_eq_true]
  rintro ⟨o, ho, hbl⟩
  exact absurd hbl (Bool.eq_false_iff.1 (hfree o ho))

theorem createPending_existing {e : Attachment} (hnew : a.state = .pending ∧ a.attachmentGeneration = 1 ∧ a.edgeReady = false ∧
    a.originReady = false) (hv : a.validate codec = .ok ()) (hins : w.insertRow a.toRow = .ok (false, w))
    (hsc : w.scan codec a.binding.accountID a.binding.operationID = .ok e) (hhash : e.requestHash = a.requestHash) :
    w.createPending codec a now = .ok (e, w.withAdmission e now) := by
  obtain ⟨hst, hgen, hedge, hor⟩ := hnew
  simp [createPending, hv, hins, hsc, hhash, hst, hgen, hedge, hor, refuseIf, bind, Except.bind]

theorem createPending_new {e : Attachment} (hnew : a.state = .pending ∧ a.attachmentGeneration = 1 ∧
    a.edgeReady = false ∧ a.originReady = false) (hv : a.validate codec = .ok ())
    (hins : w.insertRow a.toRow = .ok (true, { w with rows }))
    (hsc : scan codec { w with rows } a.binding.accountID a.binding.operationID = .ok e) :
    w.createPending codec a now = .ok (e, withAdmission { w with rows } e now) := by
  obtain ⟨hst, hgen, hedge, hor⟩ := hnew
  simp [createPending, hv, hins, hsc, hst, hgen, hedge, hor, refuseIf, bind, Except.bind]

theorem insertRow_of_find {o : Row} (h : w.accepts r) (ho : w.rows.find r.key = some o) : w.insertRow r = .ok (false, w) := by
  refine insertRow_taken h (.inr ?_)
  cases hins : w.rows.insert r with
  | none => rfl
  | some =>
    obtain ⟨hfree, -⟩ := insert_eq_some.1 hins
    obtain ⟨hmem, hkey⟩ := find_eq_some.1 ho
    exact absurd hkey (hfree o hmem)

end World

/-! ## Commands -/

namespace World

variable {w : World} {c : Command}

@[simp] theorem queue_toRegistry : (w.queue c).toRegistry = w.toRegistry := by
  unfold queue
  split <;> rfl

@[simp] theorem queue_rows : (w.queue c).rows = w.rows := by
  unfold queue
  split <;> rfl

theorem find_queue (k : String × String × Nat × Action) :
    (w.queue c).outbox.find k = (w.outbox.find k).or (if k = c.key then some c else none) := by
  cases hfind : w.outbox.find c.key with
  | none =>
    obtain ⟨outbox, hins⟩ := insert_of_find_none hfind
    have hq : (w.queue c).outbox = outbox := by simp [queue, hins]
    rw [hq, find_insert hins]
    by_cases hk : k = c.key
    · simp [hk, hfind]
    · simp [hk]
  | some c' =>
    have hq : w.queue c = w := by
      cases hins : w.outbox.insert c with
      | none => simp [queue, hins]
      | some =>
        obtain ⟨hmem, hkey⟩ := find_eq_some.1 hfind
        exact absurd hkey ((insert_eq_some.1 hins).1 c' hmem)
    rw [hq]
    by_cases hk : k = c.key
    · simp [hk, hfind]
    · simp [hk]

@[simp] theorem withAdmission_toRegistry : (w.withAdmission a now).toRegistry = w.toRegistry := by
  unfold withAdmission
  split
  · exact queue_toRegistry
  · rfl

@[simp] theorem withAdmission_rows : (w.withAdmission a now).rows = w.rows := by
  unfold withAdmission
  split
  · exact queue_rows
  · rfl

theorem withAdmission_queued (hst : a.state = .pending)
    (hnone : w.outbox.find (a.binding.accountID, a.binding.operationID, a.attachmentGeneration, .admission) = none) :
    ∃ c, (w.withAdmission a now).outbox.find (a.binding.accountID, a.binding.operationID, a.attachmentGeneration, .admission) =
      some c ∧ c.binding = a.binding ∧ c.state = .pending := by
  rw [withAdmission, if_pos hst, prepareAdmission, find_queue, hnone, Option.none_or]
  exact ⟨_, if_pos rfl, rfl, rfl⟩

end World

/-! ## Renewals -/

theorem World.renew_refused {next : Attachment}
    (hcur : validateRepositoryAttachment codec current = .ok ()) (hnext : validateRepositoryAttachment codec next = .ok ())
    (h : renewable current next = false) : w.renew codec current next now = .error .conflict := by
  simp [renew, hcur, hnext, h, refuseIf, bind, Except.bind]

section
variable {w : World} {next : Attachment}

def World.renewRow (w : World) (current : Attachment) (next : Row) : World :=
  { w with rows := w.rows.update (·.key == current.key) (·.renew next) next.renew_key }

theorem World.find_renewRow (hrow : w.rows.find current.key = some current.toRow) :
    (w.renewRow current next.toRow).rows.find current.key = some (current.toRow.renew next.toRow) := by
  rw [renewRow, find_update, hrow, Option.map_some, if_pos (beq_self_eq_true _)]

theorem World.renew_changed (hcur : validateRepositoryAttachment codec current = .ok ())
    (hnext : validateRepositoryAttachment codec next = .ok ())
    (hrn : renewable current next) (haf : next.expiresAt.after now)
    (hrow : w.rows.find current.key = some current.toRow) (hlive : current.live)
    (hux : current.expiresAt.after now) (hac : w.accepts (current.toRow.renew next.toRow))
    (hle : w.previews.lease? current.binding.accountID current.binding.previewID = some p)
    (hv : ((current.toRow.renew next.toRow).attached p).validate codec = .ok ()) :
    w.renew codec current next now = .ok ((current.toRow.renew next.toRow).attached p,
      (w.renewRow current next.toRow).withAdmission ((current.toRow.renew next.toRow).attached p) now) := by
  have hch : w.changeRow current (fun r => r.live && r.expiresAt.after now) (·.renew next.toRow) (Row.renew_key _) =
      .ok (true, w.renewRow current next.toRow) := by
    simp [changeRow, hrow, hlive, hux, hac, renewRow]
  have hsc : (w.renewRow current next.toRow).scan codec current.binding.accountID current.binding.operationID =
      .ok ((current.toRow.renew next.toRow).attached p) := scan_eq_ok.2 ⟨_, p, find_renewRow hrow, hle, hv, rfl⟩
  simp [renew, hcur, hnext, hrn, haf, hch, settle, hsc, refuseIf, bind, Except.bind]

end

theorem World.reconcileAllocation_other {pending : Attachment} (hlive : current.state.terminal = false)
    (hoth : current.binding.logicalEqual pending.binding = false) :
    w.reconcileAllocation codec current.requestHash current pending now = .error .conflict := by
  simp [reconcileAllocation, refuseIf, bind, Except.bind, hlive, hoth]

theorem World.reconcileAllocation_moved {pending : Attachment} (hlive : current.state.terminal = false)
    (hlog : current.binding.logicalEqual pending.binding) (hgen : current.attachmentGeneration ≠ 0)
    (hmv : (current.binding.carrierEqual pending.binding && current.expiresAt.equal pending.expiresAt) = false) :
    w.reconcileAllocation codec current.requestHash current pending now =
      w.renew codec current { pending with attachmentGeneration := current.attachmentGeneration } now := by
  have hpositive : (current.attachmentGeneration == 0) = false := beq_eq_false_iff_ne.2 hgen
  simp [reconcileAllocation, refuseIf, bind, Except.bind, hlive, hlog, hpositive, hmv]

/-! ## The call -/

section
variable {w : World}

theorem Authorised.account_valid {w : Registry} (h : Authorised codec w locked proof req now p m n) : validID p.accountID := by
  obtain ⟨hnm, -⟩ := validateResolution_lease h.resolved
  simp only [LeaseSnapshot.named, Bool.and_eq_true] at hnm
  exact hnm.1.1.1.1.1

variable (h : Authorised codec w.toRegistry locked proof req now p m n)
include h

theorem Authorised.allocate : w.allocate codec locked proof req now =
      (w.createPending codec h.pending now).bind fun current =>
        current.2.reconcileAllocation codec (codec.sha256 (codec.marshal p.accountID req)) current.1
          h.pending now := by
  have hres : w.resolve codec locked proof req now = .ok (resolution codec proof req p m n) :=
    resolve_eq_ok.2 ⟨p, m, n, h, rfl⟩
  have hhash : req.hash codec (resolution codec proof req p m n).lease.accountID =
      .ok (codec.sha256 (codec.marshal p.accountID req)) :=
    Request.hash_eq_ok.2 ⟨h.account_valid, h.request_valid, rfl⟩
  rw [World.allocate, hres]
  simp only [bind, Except.bind, hhash]
  rfl

theorem Authorised.allocate_refused (hnow : now.isZero = false) (hrf : w.accepts h.pending.toRow = false) :
    w.allocate codec locked proof req now = .error .conflict := by
  rw [h.allocate, createPending, h.pending_valid hnow]
  simp only [insertRow, hrf]
  rfl

theorem Authorised.allocate_existing (hnow : now.isZero = false) (hac : w.accepts h.pending.toRow)
    (hsc : w.scan codec p.accountID req.operationID = .ok a)
    (hhash : a.requestHash = codec.sha256 (codec.marshal p.accountID req)) : w.allocate codec locked proof req now =
      (w.withAdmission a now).reconcileAllocation codec a.requestHash a h.pending now := by
  obtain ⟨r, -, hr, -⟩ := scan_eq_ok.1 hsc
  rw [h.allocate, createPending_existing ⟨rfl, rfl, rfl, rfl⟩ (h.pending_valid hnow) (insertRow_of_find hac hr)
    hsc hhash, hhash]
  rfl

theorem Authorised.allocate_new (hnow : now.isZero = false) (hac : w.accepts h.pending.toRow)
    (hfree : ∀ o ∈ w.rows.rows, blocks h.pending.toRow o = false)
    (hrows : w.rows.insert h.pending.toRow = some rows) :
    w.allocate codec locked proof req now = .ok (h.pending, prepareAdmission { w with rows } h.pending now) := by
  have hle : w.previews.lease? p.accountID p.id = some p := by
    obtain ⟨hmem, -⟩ := find_eq_some.1 h.rows.lease
    exact Previews.Tables.lease?_eq_some.2 ⟨hmem, rfl, rfl⟩
  have hsc : scan codec { w with rows } h.pending.binding.accountID
      h.pending.binding.operationID = .ok h.pending := by
    refine scan_eq_ok.2 ⟨h.pending.toRow, p, ?_, hle, h.pending_valid hnow, rfl⟩
    exact (find_insert hrows _).trans (if_pos rfl)
  have heq : h.pending.binding.carrierEqual
      h.pending.binding := Binding.carrierEqual_iff.2 rfl
  have hlog : h.pending.binding.logicalEqual
      h.pending.binding := by simp [Binding.logicalEqual]
  have htime : h.pending.expiresAt.equal h.pending.expiresAt := by simp [Time.equal]
  rw [h.allocate, createPending_new ⟨rfl, rfl, rfl, rfl⟩ (h.pending_valid hnow) (insertRow_free hac hfree hrows)
    hsc]
  simp only [Except.bind, reconcileAllocation, heq, hlog, htime, Bool.and_self, if_true]
  simp [refuseIf, bind, Except.bind, pendingAttachment, attachmentFromResolution, State.terminal, withAdmission]

theorem Authorised.serviceRenew (hsc : w.scan codec p.accountID req.operationID = .ok a)
    (hhash : a.requestHash = codec.sha256 (codec.marshal p.accountID req)) (hlive : a.state.terminal = false) :
    w.serviceRenew codec locked proof req a.attachmentGeneration now =
      w.renew codec a { h.pending with attachmentGeneration := a.attachmentGeneration } now := by
  have hres : w.resolve codec locked proof req now = .ok (resolution codec proof req p m n) :=
    resolve_eq_ok.2 ⟨p, m, n, h, rfl⟩
  have hreq := h.request_valid
  simp only [Request.valid, Bool.and_eq_true] at hreq
  have hget : w.get codec (resolution codec proof req p m n).lease.accountID req.operationID = .ok a := by
    refine check_eq_ok.2 ⟨refuseIf_eq_ok.2 ?_, hsc⟩
    have hacc : validID (resolution codec proof req p m n).lease.accountID := h.account_valid
    rw [hacc, hreq.1.1.1.1.1.2]
    rfl
  have hkey : a.binding.accountID = p.accountID := by
    obtain ⟨r, p', hr, -, -, rfl⟩ := scan_eq_ok.1 hsc
    exact congrArg Prod.fst (find_eq_some.1 hr).2
  have hrec : checkRecordRequest codec a req a.binding.accountID = .ok () := by
    refine bind_eq_ok.2 ⟨_, Request.hash_eq_ok.2 ⟨hkey ▸ h.account_valid, h.request_valid, rfl⟩, ?_⟩
    rwa [refuseIf_eq_ok, bne_eq_false_iff_eq, hkey]
  have hnext : attachmentFromResolution req a.requestHash (resolution codec proof req p m n) now =
      h.pending := by rw [hhash, Authorised.pending, pendingAttachment]
  simp [World.serviceRenew, hres, hget, hrec, hnext, hlive, refuseIf, bind, Except.bind]

end

end

end Paperboat.Attachments

import Paperboat.Attachments.Acceptance
import Paperboat.Attachments.Held
/-!
# Completing an admission

An edge pulls a snapshot, acknowledges an item with the generation that it names, and
then observes the carrier. The generation is that of the last admission of the row's
binding, and of the row itself where there is none. A renewal that leaves the carrier
as it is queues no admission, though. Once it has changed the lease generation no
admission has the binding of the row; and once it has renewed an admitted row the
generation of the admission is no longer the one before that of the row.
-/

namespace Paperboat.Attachments

variable {g : Nat} {ad : Admission}

open Lib Traced World List

section
variable {codec : Codec} {w : World} {now : Time} {p : Previews.Lease} {r : Row}

/-! ## Items of a snapshot -/

/-- An admission of the row's binding is in the outbox, and the row can move on: while it is admitted the admission is
of the generation before, and until it is ready the lease and the machine are as the table wants them. -/
structure World.Completable (w : World) (r : Row) : Prop where
  admission : ∃ g ad, w.admissions r.key g = some ad ∧ ad.binding = r.binding ∧
    (r.state = .admitted → r.attachmentGeneration = g + 1)
  guard : r.state = .pending ∨ r.state = .admitted → w.leaseGuard r

theorem World.mem_outbox_of_admits {c : Command} (hc : c ∈ w.outbox.rows) (had : admits r c) :
    w.admissions r.key c.attachmentGeneration = some c.admission ∧ c.binding.leaseGeneration = r.binding.leaseGeneration := by
  simp only [admits, Bool.and_eq_true, beq_iff_eq] at had
  obtain ⟨⟨⟨hacc, hop⟩, ha⟩, hbd⟩ := had
  have hle := congrArg Binding.leaseGeneration hbd
  refine ⟨?_, hle⟩
  have hfind : w.outbox.find (r.key.1, r.key.2, c.attachmentGeneration, .admission) = some c := by
    refine Table.find_eq_some.2 ⟨hc, ?_⟩
    simp [Command.key, hacc, hop, ha, Row.key]
  exact congrArg (Option.map Command.admission) hfind

theorem Latest.commandGeneration (h : Latest codec (w.admissions r.key) r g ad)
    (hbd : ad.binding = r.binding) : w.commandGeneration r = g := by
  obtain ⟨c, hfind, rfl⟩ := Option.map_eq_some_iff.1 h.queued
  obtain ⟨hmem, hkey⟩ := Table.find_eq_some.1 hfind
  have hc : c.binding = r.binding := hbd
  have hcg : c.attachmentGeneration = g := congrArg (·.2.2.1) hkey
  have had : admits r c := by
    have hca : c.accountID = r.binding.accountID := congrArg (·.1) hkey
    have hco : c.operationID = r.binding.operationID := congrArg (·.2.1) hkey
    have ha : c.action = .admission := congrArg (·.2.2.2) hkey
    simp [admits, hca, hco, ha, hc]
  have hmax : ((w.outbox.rows.filter (admits r)).map (·.attachmentGeneration)).max? = some g := by
    rw [List.max?_eq_some_iff]
    refine ⟨mem_map.2 ⟨c, mem_filter.2 ⟨hmem, had⟩, hcg⟩, ?_⟩
    intro g' hg'
    obtain ⟨c', hc', rfl⟩ := mem_map.1 hg'
    obtain ⟨hmem', hadmits'⟩ := mem_filter.1 hc'
    exact (h.last _ _ (mem_outbox_of_admits hmem' hadmits').1).1
  rw [World.commandGeneration, hmax, Option.getD_some]

theorem Latest.commandGeneration_none (h : Latest codec (w.admissions r.key) r g ad)
    (hlease : ad.binding.leaseGeneration < r.binding.leaseGeneration) : w.commandGeneration r = r.attachmentGeneration := by
  have hnil : w.outbox.rows.filter (admits r) = [] := by
    rw [filter_eq_nil_iff]
    intro c hc hadmits
    obtain ⟨had, heq⟩ := mem_outbox_of_admits hc hadmits
    have hle := (h.last _ _ had).2
    have heq' : c.admission.binding.leaseGeneration = r.binding.leaseGeneration := heq
    omega
  rw [World.commandGeneration, hnil]
  rfl

theorem Latest.binding_eq_iff (h : Latest codec (w.admissions r.key) r g ad) :
    ad.binding = r.binding ↔ ¬ad.binding.leaseGeneration < r.binding.leaseGeneration := by
  constructor
  · intro heq
    rw [heq]
    exact lt_irrefl _
  · intro hlt
    have heq : r.binding.leaseGeneration = ad.binding.leaseGeneration := le_antisymm (Nat.le_of_not_lt hlt) h.lease
    have hbd := h.binding
    rw [heq] at hbd
    exact hbd

theorem Latest.completable_iff (h : Latest codec (w.admissions r.key) r g ad) :
    w.Completable r ↔ ad.binding = r.binding ∧ (r.state = .admitted → r.attachmentGeneration = g + 1) ∧
      (r.state = .pending ∨ r.state = .admitted → w.leaseGuard r) := by
  constructor
  · rintro ⟨⟨g', ad', had', hbd, hgen⟩, hg⟩
    obtain ⟨hle, hlease⟩ := h.last g' ad' had'
    have heq : ad.binding = r.binding := by
      rw [h.binding_eq_iff]
      rw [hbd] at hlease
      omega
    refine ⟨heq, fun hadm => ?_, hg⟩
    have hmv := (h.moved (by rw [hadm]; exact State.noConfusion)).1
    have := hgen hadm
    omega
  · rintro ⟨hbd, hgen, hg⟩
    exact ⟨⟨g, ad, h.queued, hbd, hgen⟩, hg⟩

theorem World.Holds.completes_iff {t₁ t₂ : Time} (h : w.Holds codec r p) (hlive : r.live)
    (hlatest : Latest codec (w.admissions r.key) r g ad) (hgen : w.commandGeneration r ≠ 0)
    (hav : w.assertProcessEpoch r.binding.edgeNodeID r.binding.edgeProcessEpoch t₁ = .ok ())
    (h₁ : r.expiresAt.after t₁) (h₂ : r.expiresAt.after t₂) :
    (∃ w₁ w₂, w.acknowledge codec r.binding.edgeNodeID r.binding.edgeProcessEpoch r.binding.accountID r.binding.operationID
        (w.commandGeneration r) .admission t₁ = .ok w₁ ∧
      w₁.observeOne codec r.binding (w.commandGeneration r) .edgeReady t₂ = .ok w₂) ↔ w.Completable r := by
  rw [hlatest.completable_iff, acknowledge_eq (Row.binding_of_valid h.valid) hgen hav]
  have hep := epochGuard_of_available hav
  by_cases hle : ad.binding.leaseGeneration < r.binding.leaseGeneration
  · -- No admission has the binding of the row, so there is none to acknowledge.
    have hbd : ad.binding ≠ r.binding := fun heq => hlatest.binding_eq_iff.1 heq hle
    have hmv : r.state ≠ .pending := by
      intro hpd
      obtain ⟨-, q, rfl, -⟩ := hlatest.pending hpd
      exact hbd rfl
    have hnone : w.admissions r.key r.attachmentGeneration = none := by
      rw [Option.eq_none_iff_forall_ne_some]
      intro ad' had'
      have := (hlatest.last _ ad' had').1
      have := (hlatest.moved hmv).1
      omega
    rw [hlatest.commandGeneration_none hle, acknowledgeAdmission_none hnone]
    simp [hbd]
  · have hbd := hlatest.binding_eq_iff.2 hle
    rw [hlatest.commandGeneration hbd]
    by_cases hpd : r.state = .pending
    · obtain ⟨rfl, q, rfl, hv⟩ := hlatest.pending hpd
      rw [h.acknowledgeAdmission_pending hpd hlatest.queued hv h₁ hep]
      have hheld : (w.acknowledged r t₁).Holds codec r.markAdmitted p := h.acknowledged hpd
      have hepoch' : w.epochGuard r.markAdmitted := epochGuard_of_available hav
      have hobserve := hheld.observeOne_admitted (g := r.attachmentGeneration) rfl h₂ hepoch'
      by_cases hg : w.leaseGuard r
      · have hguard' : (w.acknowledged r t₁).leaseGuard r.markAdmitted := by
          have hcongr : (w.leaseGuard r.markAdmitted && w.epochGuard r.markAdmitted) = (w.leaseGuard r && w.epochGuard r) :=
            Registry.guards_congr rfl (hlive ▸ rfl)
          rw [hg, hep, Bool.and_true, Bool.and_eq_true] at hcongr
          exact hcongr.1
        obtain ⟨w₂, hw2⟩ := hobserve.2 ⟨rfl, hguard'⟩
        refine iff_of_true ⟨_, w₂, if_pos hg, hw2⟩ ⟨hbd, fun hadm => ?_, fun _ => hg⟩
        rw [hpd] at hadm
        cases hadm
      · refine iff_of_false ?_ fun hcompletable => hg (hcompletable.2.2 (.inl hpd))
        rintro ⟨w₁, w₂, hrs, -⟩
        rw [if_neg hg] at hrs
        cases hrs
    · obtain ⟨hlt, hdv⟩ := hlatest.moved hpd
      rw [acknowledgeAdmission_delivered hlatest.queued hbd hdv]
      have hsplit : (∃ w₁ w₂, (Except.ok w : Except Err World) = .ok w₁ ∧ w₁.observeOne codec r.binding g .edgeReady t₂ = .ok w₂) ↔
          ∃ w₂, w.observeOne codec r.binding g .edgeReady t₂ = .ok w₂ := by
        constructor
        · rintro ⟨w₁, w₂, hw1, hw2⟩
          cases hw1
          exact ⟨w₂, hw2⟩
        · rintro ⟨w₂, hw2⟩
          exact ⟨w, w₂, rfl, hw2⟩
      rw [hsplit]
      by_cases hadm : r.state = .admitted
      · rw [h.observeOne_admitted hadm h₂ hep]
        simp [hbd, hadm]
      have hrd : r.state = .edgeReady ∨ r.state = .ready := by
        rw [Row.live] at hlive
        cases hst : r.state <;> simp_all [State.terminal]
      refine iff_of_true ⟨w, h.observeOne_again hrd hlt⟩ ⟨hbd, fun h => absurd h hadm, ?_⟩
      rintro (h | h)
      · exact absurd h hpd
      · exact absurd h hadm

/-! ## In every state reached -/

/-- An attachment is created for the request that its hash is of, as `Service.Allocate` does. -/
def Cmd.Requested (codec : Codec) (cmd : Cmd) : Prop := ∀ a, cmd = .createPending a → a.toRow.Hashed codec

theorem Authorised.hashed {m : Machine} {n : Node} {locked : Node → Bool} {proof : MachineProof} {req : Request} {v : Registry}
    (h : Authorised codec v locked proof req now p m n) : (pendingAttachment codec proof req p m n now).toRow.Hashed codec := by
  have hpv : p.id = req.previewID := (Table.find_eq_some.1 h.rows.lease).2
  have hdv : p.ownerDeviceID = req.ownerDeviceID := h.rows.device.trans h.device
  have hss : p.ownerSessionID = req.ownerSessionID := h.rows.session
  have hrq : (pendingAttachment codec proof req p m n now).toRow.request =
      ⟨p.id, req.operationID, p.ownerDeviceID, p.ownerSessionID, req.idempotencyKey, req.requestID, req.correlationID⟩ := rfl
  rw [Row.Hashed, hrq, hpv, hdv, hss]
  rfl

theorem Change.hashed {news : Row → Prop} {w' : World} {events : List Event} (h : Change codec news w w' events)
    (hnews : ∀ r, news r → r.Hashed codec) (hrows : ∀ r ∈ w.rows.rows, r.Hashed codec) : ∀ r ∈ w'.rows.rows, r.Hashed codec := by
  have hup {selected : Row → Bool} {change : Row → Row} {keeps : ∀ r, (change r).key = r.key}
      (hrows' : w'.rows = w.rows.update selected change keeps) (hch : ∀ r : Row, r.Hashed codec → (change r).Hashed codec) :
      ∀ r ∈ w'.rows.rows, r.Hashed codec := by
    intro r' hr'
    rw [hrows'] at hr'
    rcases Table.mem_update.1 hr' with ⟨r, hr, -, rfl⟩ | ⟨hr', -⟩
    · exact hch r (hrows r hr)
    · exact hrows r' hr'
  cases h with
  | kept rows | queued _ _ _ _ rows | late _ _ _ _ rows => exact rows ▸ hrows
  | inserted _ _ new _ _ _ _ _ rows =>
    intro r hr
    rw [rows, mem_append, mem_singleton] at hr
    rcases hr with hr | rfl
    · exact hrows r hr
    · exact hnews _ new
  | admitted _ _ _ _ _ _ _ rows | edgeReady _ _ _ _ rows | originReady _ _ _ _ _ _ rows
  | renewed _ _ _ _ _ _ _ _ rows | released _ _ _ _ _ rows | expired _ _ rows => exact hup rows fun _ h => h

theorem Traced.hashed {registry : Registry} {ops : List (Cmd × Time)} (hops : ∀ op ∈ ops, op.1.Requested codec) :
    let s := run (step codec) (initial registry) ops
    s.Sound codec ∧ ∀ r ∈ s.world.rows.rows, r.Hashed codec := by
  refine run_inv (I := fun s : Traced => s.Sound codec ∧ ∀ r ∈ s.world.rows.rows, r.Hashed codec)
    (P := fun _ op => op.1.Requested codec) ?_ ⟨sound_initial registry, fun _ hr => absurd hr not_mem_nil⟩
    (eachStep_of_forall hops _)
  rintro s op ⟨hs, hhashed⟩ hrequested
  have hch := step_change hs op
  refine ⟨hs.step op, hch.hashed ?_ hhashed⟩
  rintro r ⟨a, ha, rfl⟩
  exact hrequested a ha

theorem World.pullSnapshot_item {nodeID processEpoch : String} {items : List Item} {i : Item}
    (h : w.pullSnapshot codec nodeID processEpoch now = .ok items) (hi : i ∈ items) :
    ∃ r ∈ w.rows.rows, r.binding.edgeNodeID = nodeID ∧ r.binding.edgeProcessEpoch = processEpoch ∧ r.live ∧
      ∃ p, w.previews.lease? r.binding.accountID r.binding.previewID = some p ∧ (r.attached p).validate codec = .ok () ∧
        i = ⟨r.attached p, w.commandGeneration r⟩ ∧ w.commandGeneration r ≠ 0 := by
  unfold pullSnapshot at h
  simp only [check_eq_ok] at h
  obtain ⟨-, -, -, h⟩ := h
  obtain ⟨r, hr, hitem⟩ := (mapM_ok h).2 i hi
  obtain ⟨hmem, hdesired⟩ := mem_filter.1 hr
  simp only [desired, Bool.and_eq_true, beq_iff_eq] at hdesired
  obtain ⟨⟨⟨⟨hn, hep⟩, hlive⟩, -⟩, -⟩ := hdesired
  unfold snapshotItem at hitem
  obtain ⟨a, hsc, hitem⟩ := bind_eq_ok.1 hitem
  obtain ⟨hck, hrs⟩ := check_eq_ok.1 hitem
  cases hrs
  obtain ⟨r', p, hr', hle, hv, rfl⟩ := scan_eq_ok.1 hsc
  obtain rfl : r = r' := Table.eq_of_find hr' hmem rfl
  simp only [checkItem, check_eq_ok, refuseIf_eq_ok, Bool.or_eq_false_iff, beq_eq_false_iff_ne] at hck
  exact ⟨r, hmem, hn, hep, hlive, p, hle, hv, rfl, hck.1.2⟩

end

/-- For every item of a snapshot in a state that is reached, to an available process and before the item expires:
acknowledging it and then observing the carrier succeed exactly if the row is completable. -/
theorem admission_completes_iff {codec : Codec} {registry : Registry} {ops : List (Cmd × Time)}
    (hops : ∀ op ∈ ops, op.1.Requested codec) {nodeID processEpoch : String} {t₀ t₁ t₂ : Time} {items : List World.Item}
    {i : World.Item}
    (hpull : (run (step codec) (initial registry) ops).world.pullSnapshot codec nodeID processEpoch t₀ = .ok items)
    (hi : i ∈ items)
    (havailable : (run (step codec) (initial registry) ops).world.assertProcessEpoch nodeID processEpoch t₁ = .ok ())
    (h₁ : i.attachment.expiresAt.after t₁) (h₂ : i.attachment.expiresAt.after t₂) :
    (∃ w₁ w₂, (run (step codec) (initial registry) ops).world.acknowledge codec nodeID processEpoch
        i.attachment.binding.accountID i.attachment.binding.operationID i.generation .admission t₁ = .ok w₁ ∧
      w₁.observeOne codec i.attachment.binding i.generation .edgeReady t₂ = .ok w₂) ↔
      (run (step codec) (initial registry) ops).world.Completable i.attachment.toRow := by
  obtain ⟨hsound, hhashed⟩ := @hashed codec registry ops hops
  obtain ⟨r, hr, rfl, rfl, hlive, p, hlease, hvalid, rfl, hgeneration⟩ := pullSnapshot_item hpull hi
  obtain ⟨g, ad, hlatest⟩ := hsound.world.live r hr hlive
  have hholds : (run (step codec) (initial registry) ops).world.Holds codec r p :=
    ⟨Table.find_eq_some.2 ⟨hr, rfl⟩, hlease, hvalid, hsound.world.checks r hr, hhashed r hr⟩
  exact hholds.completes_iff hlive hlatest hgeneration havailable h₁ h₂

/-! ## A lease is renewed after the admission -/

deriving instance DecidableEq for World.Item

namespace Sample

def row : Row := (attachment 1 (node "edge_a")).toRow

def renewedLease : Previews.Lease := { lease with generation := 2 }

def renewedRegistry : Registry :=
  { world.toRegistry with previews := { previews with leases := ⟨[renewedLease], nodup_singleton _⟩ } }

def current : Attachment := row.markAdmitted.attached renewedLease

def next : Attachment := { current with binding := { current.binding with leaseGeneration := 2 } }

def ops : List (Cmd × Time) :=
  [(.createPending (attachment 1 (node "edge_a")), at_ 2),
    (.acknowledge row.binding.edgeNodeID row.binding.edgeProcessEpoch row.binding.accountID row.binding.operationID
      row.attachmentGeneration .admission, at_ 2),
    (.surroundings renewedRegistry, at_ 2), (.renew current next, at_ 2)]

def stalled (w : World) : Bool :=
  match w.pullSnapshot codec "edge_a" "epoch_00000001" (at_ 2) with
  | .ok [i] => decide (w.assertProcessEpoch "edge_a" "epoch_00000001" (at_ 2) = .ok ()) && i.attachment.expiresAt.after (at_ 2) &&
      decide ((w.acknowledge codec "edge_a" "epoch_00000001" i.attachment.binding.accountID i.attachment.binding.operationID
        i.generation .admission (at_ 2)).map (fun _ => ()) = .error .notFound)
  | _ => false

theorem run_first : (run (step codec) (initial world.toRegistry)
    [(.createPending (attachment 1 (node "edge_a")), at_ 2)]).world = allocated := by
  have hins : world.insertRow (attachment 1 (node "edge_a")).toRow = .ok (true, { world with rows := allocated.rows }) :=
    insertRow_free (accepts_attachment authorised_first) (fun _ h => by cases h) rfl
  have hcre : world.createPending codec (attachment 1 (node "edge_a")) (at_ 2) = .ok (attachment 1 (node "edge_a"), allocated) :=
    createPending_new ⟨rfl, rfl, rfl, rfl⟩ (Authorised.pending_valid authorised_first (by decide)) hins (scan_allocated rfl rfl)
  have hexec : (initial world.toRegistry).world.exec codec (initial world.toRegistry).admitting (at_ 2)
      (.createPending (attachment 1 (node "edge_a"))) =
        world.commit (world.createPending codec (attachment 1 (node "edge_a")) (at_ 2)) := rfl
  rw [run_cons, run_nil, step, hexec, hcre]
  rfl

open Sample

theorem allocated_guards : row.checks ∧ allocated.leaseGuard row := by
  have h := accepts_attachment authorised_first
  simp only [Registry.accepts, Bool.and_eq_true] at h
  exact ⟨h.1.1, h.1.2⟩

theorem allocated_holds : allocated.Holds codec row lease :=
  ⟨rfl, Computed.lease computed, Authorised.pending_valid authorised_first (by decide), allocated_guards.1,
    Authorised.hashed authorised_first⟩

theorem allocated_admission : allocated.admissions row.key 1 = some (row.attached lease).admission :=
  congrArg (Option.map Command.admission) (show allocated.outbox.find _ = some (command 1 (node "edge_a")) from
    Table.find_eq_some.2 ⟨mem_singleton_self _, rfl⟩)

theorem acknowledge_allocated : allocated.acknowledge codec row.binding.edgeNodeID row.binding.edgeProcessEpoch row.binding.accountID
    row.binding.operationID row.attachmentGeneration .admission (at_ 2) = .ok (allocated.acknowledged row (at_ 2)) := by
  have hav : allocated.assertProcessEpoch row.binding.edgeNodeID row.binding.edgeProcessEpoch (at_ 2) = .ok () :=
    Computed.available computed
  have hvalid := World.Holds.valid allocated_holds
  rw [acknowledge_eq (Row.binding_of_valid hvalid) (by decide) hav, World.Holds.acknowledgeAdmission_pending allocated_holds
    rfl allocated_admission hvalid (by decide) (epochGuard_of_available hav)]
  exact if_pos allocated_guards.2

def admitted : World := { allocated.acknowledged row (at_ 2) with toRegistry := renewedRegistry }

theorem renew_admitted : admitted.renew codec current next (at_ 2) =
    .ok ((current.toRow.renew next.toRow).attached renewedLease, admitted.renewRow current next.toRow) := by
  have hheld : (allocated.acknowledged row (at_ 2)).Holds codec row.markAdmitted lease :=
    World.Holds.acknowledged allocated_holds rfl
  have hvalid : current.validate codec = .ok () := hheld.valid
  have hnext : next.validate codec = .ok () := hvalid
  have hlease : renewedRegistry.previews.lease? "acc_1" "pvw_1" = some renewedLease := by decide +kernel
  have hcarrier : current.toRow.carrier = next.toRow.carrier := rfl
  have hrenewed : ((current.toRow.renew next.toRow).attached renewedLease).validate codec = .ok () ∧
      ((current.toRow.renew next.toRow).attached renewedLease).state ≠ .pending := by
    rw [Row.renew_of_same_carrier hcarrier]
    exact ⟨hvalid, State.noConfusion⟩
  have hrenew : admitted.renew codec current next (at_ 2) =
      .ok (_, (admitted.renewRow current next.toRow).withAdmission _ (at_ 2)) :=
    renew_changed (check_eq_ok.2 ⟨rfl, hvalid⟩) (check_eq_ok.2 ⟨rfl, hnext⟩) (by decide +kernel) (by decide) hheld.row rfl
      (by decide) (by decide +kernel) hlease hrenewed.1
  rw [withAdmission_of_ne hrenewed.2] at hrenew
  exact hrenew

theorem run_ops : (run (step codec) (initial world.toRegistry) ops).world = admitted.renewRow current next.toRow := by
  have hstep : ∀ s cmd t, (step codec s (cmd, t)).world = (s.world.exec codec s.admitting t cmd).2 := fun _ _ _ => rfl
  have hfirst : (step codec (initial world.toRegistry) (.createPending (attachment 1 (node "edge_a")), at_ 2)).world =
      allocated := run_first
  have hack : ∀ admitting, (allocated.exec codec admitting (at_ 2) (.acknowledge _ _ _ _ _ _)).2 = _ := fun _ =>
    congrArg (fun result => (allocated.commitWorld result).2) acknowledge_allocated
  rw [ops, run_cons, run_cons, run_cons, run_cons, run_nil, hstep, hstep, hstep, hfirst, hack]
  change (admitted.commit (admitted.renew codec current next (at_ 2))).2 = _
  rw [renew_admitted]
  rfl

end Sample

open Sample

/-- A preview's lease is renewed after the edge has admitted its attachment: the next snapshot names a generation that was
never queued. -/
theorem renewed_lease_stalls_admission :
    ∃ i, (run (step codec) (initial world.toRegistry) ops).world.pullSnapshot codec
        "edge_a" "epoch_00000001" (at_ 2) = .ok [i] ∧
      (run (step codec) (initial world.toRegistry) ops).world.assertProcessEpoch
        "edge_a" "epoch_00000001" (at_ 2) = .ok () ∧
      i.attachment.expiresAt.after (at_ 2) ∧
      (run (step codec) (initial world.toRegistry) ops).world.acknowledge codec
        "edge_a" "epoch_00000001" i.attachment.binding.accountID i.attachment.binding.operationID i.generation .admission
        (at_ 2) = .error .notFound := by
  rw [run_ops]
  have h : stalled (admitted.renewRow current next.toRow) := by decide +kernel
  unfold stalled at h
  split at h
  · rename_i i hpull
    simp only [Bool.and_eq_true, decide_eq_true_eq] at h
    exact ⟨i, hpull, h.1.1, h.1.2, map_error h.2⟩
  · cases h

theorem first_admission_completes : ∃ i, (run (step codec) (initial world.toRegistry)
        [(.createPending (attachment 1 (node "edge_a")), at_ 2)]).world.pullSnapshot codec
          "edge_a" "epoch_00000001" (at_ 2) = .ok [i] ∧
      ∃ w₁ w₂, (run (step codec) (initial world.toRegistry)
          [(.createPending (attachment 1 (node "edge_a")), at_ 2)]).world.acknowledge codec
          "edge_a" "epoch_00000001" i.attachment.binding.accountID i.attachment.binding.operationID i.generation .admission
          (at_ 2) = .ok w₁ ∧
        w₁.observeOne codec i.attachment.binding i.generation .edgeReady (at_ 2) = .ok w₂ := by
  have hops : ∀ op ∈ [(Cmd.createPending (attachment 1 (node "edge_a")), at_ 2)], op.1.Requested codec := by
    intro op hop
    obtain rfl := mem_singleton.1 hop
    rintro a ha
    cases ha
    exact Authorised.hashed authorised_first
  have hunexpired : row.expiresAt.after (at_ 2) := by decide
  have hitem : (run (step codec) (initial world.toRegistry)
      [(.createPending (attachment 1 (node "edge_a")), at_ 2)]).world.pullSnapshot codec
        "edge_a" "epoch_00000001" (at_ 2) = .ok [⟨row.attached lease, 1⟩] := by
    rw [run_first]
    decide +kernel
  refine ⟨_, hitem, (admission_completes_iff hops hitem (mem_singleton_self _) ?_ hunexpired hunexpired).2 ?_⟩
  · rw [run_first]
    exact Computed.available computed
  · rw [run_first, Row.attached_toRow]
    exact ⟨⟨_, _, allocated_admission, rfl, fun h => by cases h⟩, fun _ => allocated_guards.2⟩

end Paperboat.Attachments

import Paperboat.Previews.Machine
/-!
# What a step does

Every statement has a lemma that says what a success means. From them, each step
of the machine has one of a few effects on leases, domains and records, so that an
invariant is checked against the effects and not against the code.
-/

namespace Paperboat.Previews

open Lib Table
open Tunnel (StoredCertificate PreviewRow)

variable {s' s : Tables} {selected : StoredCertificate → Bool} {reason : String} {r v : StoredCertificate} {generation : Nat}
  {now : Time} {id : String}

namespace Tables

variable {accountID previewID : String} {l : Lease}

/-! ## Statements -/

theorem lease?_eq_some :
    s.lease? accountID previewID = some l ↔ l ∈ s.leases.rows ∧ l.id = previewID ∧ l.accountID = accountID := by
  simp only [lease?, Option.filter_eq_some_iff, find_eq_some, beq_iff_eq, and_assoc]

theorem getLease_eq_ok : s.getLease accountID previewID = .ok l ↔ s.lease? accountID previewID = some l := by
  unfold getLease
  cases s.lease? accountID previewID <;> simp

theorem setLease_eq_ok {id : String} {change : Lease → Lease} {keeps : ∀ l, (change l).id = l.id} :
    s.setLease id change keeps = .ok s' ↔ ((s.leases.find id).all fun l => (change l).checks) = true ∧
        s' = { s with leases := s.leases.update (·.id == id) change keeps } := by
  unfold setLease
  split
  · next h => simp [h, eq_comm]
  · next h => simp [h]

theorem updateDomains_eq_ok {selected : PreviewDomain → Bool} {change : PreviewDomain → PreviewDomain}
    {keeps : ∀ d, (change d).id = d.id} : s.updateDomains selected change keeps = .ok s' ↔
      (∀ d ∈ s.domains.rows, selected d → (change d).checks = true) ∧
        s' = { s with domains := s.domains.update selected change keeps } := by
  unfold updateDomains
  have hall : (s.domains.rows.all fun d => !selected d || (change d).checks) = true ↔
      ∀ d ∈ s.domains.rows, selected d → (change d).checks = true := by
    rw [List.all_eq_true]
    refine forall₂_congr fun d _ => ?_
    cases selected d <;> simp
  by_cases h : ∀ d ∈ s.domains.rows, selected d → (change d).checks = true
  · rw [if_pos (hall.2 h)]
    exact ⟨fun he => ⟨h, (Except.ok.inj he).symm⟩, fun he => congrArg Except.ok he.2.symm⟩
  · rw [if_neg (mt hall.1 h)]
    simp [h]

theorem insertDomain_ok {d : PreviewDomain} {claimed : Bool} {dbNow : Time} (h : s.insertDomain d claimed dbNow = .ok s') :
    d.checks ∧ ∃ domains, s.domains.insert d = some domains ∧ s' = { s with domains } := by
  unfold insertDomain at h
  split at h
  · cases h
  split at h
  · cases h
  next hc =>
  split at h
  · next domains hi => exact ⟨by simpa using hc, domains, hi, (Except.ok.inj h).symm⟩
  · cases h

end Tables

structure SameRows (s s' : Tables) : Prop where
  leases : s'.leases = s.leases
  domains : s'.domains = s.domains
  records : s'.records = s.records

theorem SameRows.refl (s : Tables) : SameRows s s := ⟨rfl, rfl, rfl⟩

theorem SameRows.trans {a b c : Tables} (h : SameRows a b) (h' : SameRows b c) : SameRows a c :=
  ⟨h'.leases.trans h.leases, h'.domains.trans h.domains, h'.records.trans h.records⟩

theorem SameRows.lease? (h : SameRows s s') (accountID previewID : String) :
    s'.lease? accountID previewID = s.lease? accountID previewID := by
  simp only [Tables.lease?, h.leases]

namespace Tables

variable {o : Operation}

theorem insertOperation_same (h : s.insertOperation o = .ok s') : SameRows s s' := by
  unfold insertOperation at h
  split at h
  · cases h
    exact ⟨rfl, rfl, rfl⟩
  · cases h

theorem relateCreate_same (s : Tables) (o : Operation) : SameRows s (s.relateCreate o) := by
  unfold relateCreate
  split
  · split
    · split <;> exact ⟨rfl, rfl, rfl⟩
    · exact .refl s
  · exact .refl s

theorem completeOperation_same {id resourceID : String} {state : OperationState}
    (h : s.completeOperation id resourceID state = .ok s') : SameRows s s' := by
  unfold completeOperation at h
  split at h
  · split at h
    · cases h
      have hr := relateCreate_same
        { s with operations := s.operations.update (·.id == id) (·.complete resourceID state) fun _ => rfl }
      exact ⟨(hr _).leases, (hr _).domains, (hr _).records⟩
    · cases h
  · cases h

theorem settleCreateOperation_same (s : Tables) (accountID previewID : String) (settles : OperationState → Bool)
    (state : OperationState) : SameRows s (s.settleCreateOperation accountID previewID settles state) := by
  unfold settleCreateOperation
  split <;> exact ⟨rfl, rfl, rfl⟩

theorem beginOperation_fresh (h : s.beginOperation o = .ok (.fresh s')) : SameRows s s' := by
  unfold beginOperation at h
  split at h
  · cases hi : s.insertOperation o with
    | ok s'' =>
      rw [hi] at h
      obtain rfl : s'' = s' := by simpa [Except.map] using h
      exact insertOperation_same hi
    | error =>
      rw [hi] at h
      cases h
  · split at h <;> simp at h

/-! ## Certificates -/

theorem previews_find {domainID : String} {p : PreviewRow} : s.previews.find domainID = some p ↔
      ∃ d l, s.domains.find domainID = some d ∧ s.lease? d.accountID d.previewID = some l ∧ p = d.joined l := by
  simp only [find_eq_some, previews, List.mem_filterMap, joined?, Option.map_eq_some_iff]
  constructor
  · rintro ⟨⟨d, hd, l, hl, rfl⟩, hid⟩
    exact ⟨d, l, ⟨hd, hid⟩, hl, rfl⟩
  · rintro ⟨d, l, ⟨hd, hid⟩, hl, rfl⟩
    exact ⟨⟨d, hd, l, hl, rfl⟩, hid⟩

end Tables

structure SameTarget (r r' : StoredCertificate) : Prop where
  domainID : r'.domainID = r.domainID
  accountID : r'.accountID = r.accountID
  targetKind : r'.targetKind = r.targetKind
  previewID : r'.previewID = r.previewID

theorem SameTarget.refl (r : StoredCertificate) : SameTarget r r := ⟨rfl, rfl, rfl, rfl⟩

def BoundToLive (s : Tables) (r : StoredCertificate) : Prop :=
  ∃ p now, s.previews.find r.domainID = some p ∧ p.live now ∧ p.accountID = r.accountID ∧ p.previewID = r.previewID ∧
    r.previewGeneration = p.previewGeneration

/-- Where a record comes from: it was there, with the same generation and in the same state or one that is no longer
live; or it is bound to a preview that runs; or it is not a preview's. -/
inductive Origin (s : Tables) (r' : StoredCertificate) : Prop where
  | kept (r : StoredCertificate) (hr : r ∈ s.records.rows) (htarget : SameTarget r r')
      (hgeneration : r'.previewGeneration = r.previewGeneration)
      (hstate : r'.state = r.state ∨ r'.state ≠ .staged ∧ r'.state ≠ .active)
  | bound (h : BoundToLive s r')
  | other (h : r'.targetKind ≠ .previewLease)

theorem Origin.self (h : r ∈ s.records.rows) : Origin s r :=
  .kept r h (.refl r) rfl (.inl rfl)

theorem Origin.ended (h : r ∈ s.records.rows) {state : Tunnel.State} (hs : state ≠ .staged)
    (ha : state ≠ .active) (failureCode : String) (now : Time) : Origin s (r.mark state failureCode now) :=
  .kept r h ⟨rfl, rfl, rfl, rfl⟩ rfl (.inr ⟨hs, ha⟩)

section Calls
variable {domains : Table Tunnel.DomainRow.id} {w' : Tunnel.Tables}

theorem origin_of_update {change : StoredCertificate → StoredCertificate}
    (keeps : ∀ r, (change r).id = r.id) (h : ∀ r ∈ s.records.rows, selected r = true → Origin s (change r)) :
    ∀ r' ∈ (s.records.update selected change keeps).rows, Origin s r' := by
  intro r' hr'
  rcases mem_update.1 hr' with ⟨r, hr, hs, rfl⟩ | ⟨hr, -⟩
  · exact h r hr hs
  · exact .self hr

theorem origin_supersede : ∀ r' ∈ (Tunnel.RecordTable.supersede s.records selected generation now).rows, Origin s r' :=
  origin_of_update (fun r => r.mark_id _ _ _) fun _ hr _ => .ended hr (by decide) (by decide) _ _

theorem sameAttempt_target (h : r.sameAttempt v) : SameTarget v r ∧ r.previewGeneration = v.previewGeneration := by
  simp only [StoredCertificate.sameAttempt, Bool.and_eq_true, beq_iff_eq] at h
  obtain ⟨⟨⟨⟨⟨⟨⟨⟨⟨⟨⟨⟨-, hd⟩, ha⟩, -⟩, hk⟩, -⟩, hp⟩, hg⟩, -⟩, -⟩, -⟩, -⟩, -⟩ := h
  exact ⟨⟨hd, ha, hk, hp⟩, hg⟩

theorem origin_insertRecord (h : (s.certificates domains).insertRecord v = .ok w')
    (hv : v.targetKind = .previewLease → BoundToLive s v) : ∀ r' ∈ w'.records.rows, Origin s r' := by
  unfold Tunnel.Tables.insertRecord at h
  split at h
  · cases h
  split at h
  · next r hr =>
    split at h
    · next hsame =>
      cases h
      obtain ⟨htg, hgen⟩ := sameAttempt_target hsame
      refine origin_of_update (fun r => r.mark_id _ _ _) fun x hx hsel => ?_
      -- The row staged again is the one that was found.
      obtain rfl : x = r := by
        have hx' := find_eq_some.2 ⟨hx, beq_iff_eq.1 hsel⟩
        exact Option.some.inj (hx'.symm.trans hr)
      by_cases hk : x.targetKind = .previewLease
      · obtain ⟨p, n, hp, hlive, ha, hpr, hg⟩ := hv (htg.targetKind.symm.trans hk)
        exact .bound ⟨p, n, htg.domainID ▸ hp, hlive, ha.trans htg.accountID.symm,
          hpr.trans htg.previewID.symm, hgen.trans hg⟩
      · exact .other hk
    · cases h
  · split at h
    · cases h
    split at h
    · next records hi =>
      cases h
      intro r' hr'
      rw [(insert_eq_some.1 hi).2, List.mem_append, List.mem_singleton] at hr'
      rcases hr' with hr' | rfl
      · exact .self hr'
      by_cases hk : r'.targetKind = .previewLease
      · exact .bound (hv hk)
      · exact .other hk
    · cases h

theorem origin_putStaged {names : Tunnel.Names}
    (h : (s.certificates domains).putStaged names v = .ok w') : ∀ r' ∈ w'.records.rows, Origin s r' := by
  obtain ⟨-, h⟩ := check_eq_ok.1 h
  split at h
  · split at h
    · next p hp =>
      split at h
      · next hc =>
        obtain ⟨ha, hpr, hg, -, hlive⟩ := hc
        exact origin_insertRecord h fun _ => ⟨p, v.updatedAt, hp, hlive, ha, hpr, hg.symm⟩
      · cases h
    · cases h
  · split at h
    · split at h
      · exact origin_insertRecord h fun hk => by cases hk
      · cases h
    · cases h

theorem origin_markFailed (h : (s.certificates domains).markFailed id reason now = .ok w') :
    ∀ r' ∈ w'.records.rows, Origin s r' := by
  unfold Tunnel.Tables.markFailed at h
  split at h
  · cases h
  split at h
  · split at h
    · cases h
      exact origin_of_update (fun r => r.mark_id _ _ _) fun _ hr _ => .ended hr (by decide) (by decide) _ _
    · cases h
  · cases h

theorem bound_of_activatable
    (h : (s.certificates domains).activatable r generation now) (hk : r.targetKind = .previewLease) :
    BoundToLive s r := by
  unfold Tunnel.Tables.activatable at h
  rw [hk] at h
  simp only at h
  split at h
  · next p hp =>
    obtain ⟨ha, hpr, -, hg, hlive⟩ := of_decide_eq_true h
    exact ⟨p, now, hp, hlive, ha, hpr, hg.symm⟩
  · cases h

theorem origin_activate
    (h : (s.certificates domains).activate id generation now = .ok (r, w')) : ∀ r' ∈ w'.records.rows, Origin s r' := by
  obtain ⟨-, h⟩ := check_eq_ok.1 h
  split at h
  · cases h
  next c hc =>
  obtain ⟨-, h⟩ := check_eq_ok.1 h
  split at h
  · cases h
  next older _ =>
  obtain ⟨hact, h⟩ := check_eq_ok.1 h
  obtain ⟨-, h⟩ := check_eq_ok.1 h
  simp only [refuseIf_eq_ok, Bool.not_eq_false', Bool.and_eq_true] at hact
  obtain ⟨-, rfl⟩ := h
  intro r' hr'
  rw [mem_update] at hr'
  rcases hr' with ⟨x, hx, hsel, rfl⟩ | ⟨hx, -⟩
  · -- The row is the one that was read, superseded or not.
    have hsame : SameTarget c x ∧ x.previewGeneration = c.previewGeneration := by
      unfold Tunnel.RecordTable.supersede at hx
      rw [mem_update] at hx
      rcases hx with ⟨y, hy, -, rfl⟩ | ⟨hy, -⟩
      · have hfd := find_eq_some.2 ⟨hy, beq_iff_eq.1 hsel⟩
        obtain rfl : y = c := Option.some.inj (hfd.symm.trans hc)
        exact ⟨⟨rfl, rfl, rfl, rfl⟩, rfl⟩
      · have hfd := find_eq_some.2 ⟨hy, beq_iff_eq.1 hsel⟩
        obtain rfl : x = c := Option.some.inj (hfd.symm.trans hc)
        exact ⟨.refl x, rfl⟩
    by_cases hk : x.targetKind = .previewLease
    · obtain ⟨p, n, hp, hlive, ha, hpr, hg⟩ := bound_of_activatable hact.2 (hsame.1.targetKind.symm.trans hk)
      exact .bound ⟨p, n, hsame.1.domainID ▸ hp, hlive, ha.trans hsame.1.accountID.symm,
        hpr.trans hsame.1.previewID.symm, hsame.2.trans hg⟩
    · exact .other hk
  · exact origin_supersede r' hx

theorem origin_rebind {certificateID accountID domainID previewID : String} {previous : Nat} {expiresAt : Time}
    (h : (s.certificates domains).rebindPreviewCertificateTarget certificateID accountID domainID previewID previous generation
      expiresAt now = .ok (r, w')) : ∀ r' ∈ w'.records.rows, Origin s r' := by
  obtain ⟨-, h⟩ := check_eq_ok.1 h
  split at h
  · next c p hc hp =>
    split at h
    · next hcond =>
      obtain ⟨hd, ha, -, hpr, -, -, hpa, hpp, hpg, hlive⟩ := hcond
      obtain ⟨-, rfl⟩ := h
      refine origin_of_update (fun r => r.rebind_id _ _ _) fun x hx hsel => ?_
      have hfd := find_eq_some.2 ⟨hx, beq_iff_eq.1 hsel⟩
      obtain rfl : x = c := Option.some.inj (hfd.symm.trans hc)
      exact .bound ⟨p, now, hd ▸ hp, hlive, hpa.trans ha.symm, hpp.trans hpr.symm, hpg.symm⟩
    · cases h
  · cases h

theorem origin_revoke (h : revokeRecord (s.certificates domains) id reason now = .ok w') :
    ∀ r' ∈ w'.records.rows, Origin s r' := by
  unfold revokeRecord at h
  split at h
  · cases h
  split at h
  · cases h
  split at h
  · cases h
    exact fun r' hr' => .self hr'
  · cases h
    exact origin_of_update (fun r => r.mark_id _ _ _) fun _ hr _ => .ended hr (by decide) (by decide) _ _

theorem map_snd_ok {α β ε : Type} {x : Except ε (α × β)} {b : β} (h : x.map (·.2) = .ok b) : ∃ a, x = .ok (a, b) := by
  cases x with
  | error => cases h
  | ok ab => exact ⟨ab.1, congrArg Except.ok (Prod.ext rfl (Except.ok.inj h))⟩

theorem origin_of_call {call : CertificateCall} (h : call.run (s.certificates domains) = .ok w') :
    ∀ r' ∈ w'.records.rows, Origin s r' := by
  cases call with
  | putStaged => exact origin_putStaged h
  | markFailed => exact origin_markFailed h
  | activate =>
    obtain ⟨r, hr⟩ := map_snd_ok h
    exact origin_activate hr
  | supersedeOlder =>
    simp only [CertificateCall.run, Tunnel.Tables.supersedeOlder] at h
    split at h
    · cases h
    · cases h
      exact origin_supersede
  | supersedeOlderForHostname =>
    simp only [CertificateCall.run, Tunnel.Tables.supersedeOlderForHostname] at h
    split at h
    · cases h
    split at h
    · cases h
      exact origin_supersede
    · cases h
  | rebind =>
    obtain ⟨r, hr⟩ := map_snd_ok h
    exact origin_rebind hr
  | revoke => exact origin_revoke h

end Calls

end Paperboat.Previews

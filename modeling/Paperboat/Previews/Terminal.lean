import Paperboat.Previews.Effects
/-!
# A preview that has ended

A lease moves to a higher generation with every change until it has ended, and then
it stays. Stopping a lease and reconciling leases withdraw what the lease owns; a
readiness mark with a failed allocation ends the lease and does not.
-/

namespace Paperboat.Previews

variable {r : Tunnel.StoredCertificate}

variable {l : Lease} {s s' : Tables} {selected : Lease → Bool} {change : Lease → Lease} {accountID previewID : String}

open Lib Tables Table List

def Lease.withinUserDeadline (l : Lease) : Bool := l.userDeadline.all fun t => !l.leaseDeadline.after t

structure LeaseMove (l l' : Lease) : Prop where
  id : l'.id = l.id
  accountID : l'.accountID = l.accountID
  moved : l' = l ∨ l.terminalState = .active ∧ l.generation < l'.generation
  deadline : l.withinUserDeadline → l'.withinUserDeadline

theorem LeaseMove.refl (l : Lease) : LeaseMove l l := ⟨rfl, rfl, .inl rfl, fun h => h⟩

theorem LeaseMove.trans {a b c : Lease} (h : LeaseMove a b) (h' : LeaseMove b c) : LeaseMove a c := by
  refine ⟨h'.id.trans h.id, h'.accountID.trans h.accountID, ?_, h'.deadline ∘ h.deadline⟩
  rcases h.moved with rfl | ⟨ha, hlt⟩
  · exact h'.moved
  rcases h'.moved with rfl | ⟨-, hlt'⟩
  · exact .inr ⟨ha, hlt⟩
  · exact .inr ⟨ha, hlt.trans hlt'⟩

theorem LeaseMove.generation_le {l' : Lease} (h : LeaseMove l l') : l.generation ≤ l'.generation := by
  rcases h.moved with rfl | ⟨-, hlt⟩
  · exact le_rfl
  · exact hlt.le

structure LeasesMove (s s' : Tables) : Prop where
  forward : ∀ l ∈ s.leases.rows, ∃ l' ∈ s'.leases.rows, LeaseMove l l'
  back : ∀ l' ∈ s'.leases.rows, (∃ l ∈ s.leases.rows, LeaseMove l l') ∨ l'.withinUserDeadline

theorem LeasesMove.of_eq (h : s'.leases = s.leases) : LeasesMove s s' where
  forward l hl := ⟨l, h ▸ hl, .refl l⟩
  back l hl := .inl ⟨l, h ▸ hl, .refl l⟩

theorem LeasesMove.trans {a b c : Tables} (h : LeasesMove a b) (h' : LeasesMove b c) : LeasesMove a c where
  forward l hl := by
    obtain ⟨l1, hl1, hm1⟩ := h.forward l hl
    obtain ⟨l2, hl2, hm2⟩ := h'.forward l1 hl1
    exact ⟨l2, hl2, hm1.trans hm2⟩
  back l hl := by
    rcases h'.back l hl with ⟨l1, hl1, hm1⟩ | hnew
    · rcases h.back l1 hl1 with ⟨l2, hl2, hm2⟩ | hnew
      · exact .inl ⟨l2, hl2, hm2.trans hm1⟩
      · exact .inr (hm1.deadline hnew)
    · exact .inr hnew

theorem leasesMove_update {keeps : ∀ l, (change l).id = l.id} (hs : s'.leases = s.leases.update selected change keeps)
    (h : ∀ l ∈ s.leases.rows, selected l → LeaseMove l (change l)) : LeasesMove s s' where
  forward l hl := by
    rw [hs]
    by_cases hsel : selected l
    · exact ⟨change l, mem_update_of_selected keeps hl hsel, h l hl hsel⟩
    · exact ⟨l, mem_update.2 (.inr ⟨hl, by simpa using hsel⟩), .refl l⟩
  back l' hl' := by
    rw [hs, mem_update] at hl'
    rcases hl' with ⟨l, hl, hsel, rfl⟩ | ⟨hl, -⟩
    · exact .inl ⟨l, hl, h l hl hsel⟩
    · exact .inl ⟨l', hl, .refl l'⟩

theorem leasesMove_ending (h : Ending s s') : LeasesMove s s' := by
  obtain ⟨now, selected, change, keeps, ended, hselected, hch, hw⟩ := h
  have hls : s'.leases = s.leases.update selected change keeps := hw.leases
  refine leasesMove_update hls fun l hl hsel =>
    ⟨keeps l, (hch l).accountID, .inr ⟨(hselected l hl hsel).1, ?_⟩, ?_⟩
  · rw [(hch l).generation]
    exact Nat.lt_succ_self _
  · intro hd
    rwa [Lease.withinUserDeadline, (hch l).userDeadline, (hch l).leaseDeadline]

theorem leasesMove_step (s : Tables) (op : Op) : LeasesMove s (s.step op) := by
  have he := s.effect_of_step op
  generalize s.step op = s' at he ⊢
  cases he with
  | kept hs => exact .of_eq hs.leases
  | created _ _ _ _ hdl _ hls =>
    refine ⟨fun x hx => ⟨x, hls ▸ mem_append_left _ hx, .refl x⟩, fun x hx => ?_⟩
    rcases mem_append.1 (hls ▸ hx) with hx | hx
    · exact .inl ⟨x, hx, .refl x⟩
    · rw [mem_singleton.1 hx]
      exact .inr hdl
  | @renewed _ _ _ _ _ hle hact _ huser _ hml _ hls _ _ =>
    refine leasesMove_update (hls.trans hml) fun x hx hsel => ?_
    obtain rfl := eq_of_id hle hx hsel
    exact ⟨rfl, rfl, .inr ⟨hact, Nat.lt_succ_self _⟩, fun _ => huser⟩
  | @marked _ _ _ hle hact _ hls _ _ =>
    refine leasesMove_update hls fun x hx hsel => ?_
    obtain rfl := eq_of_id hle hx hsel
    exact ⟨rfl, rfl, .inr ⟨hact, Nat.lt_succ_self _⟩, fun hd => hd⟩
  | ended _ h1 h2 =>
    rcases h2 with h2 | h2
    · exact (leasesMove_ending h1).trans (leasesMove_ending h2)
    · exact (leasesMove_ending h1).trans (.of_eq h2.leases)
  | domainAdded _ _ _ _ _ _ _ _ hls | domainsChanged _ _ _ _ _ hls | recorded hls => exact .of_eq hls

/-- In every run a lease stays, under its id and its account, and is changed only while it runs; each change counts its
generation up. -/
theorem leases_move_forward (s : Tables) (ops : List Op) : LeasesMove s (run Tables.step s ops) :=
  run_inv' (fun t op h => h.trans (leasesMove_step t op)) (.of_eq rfl) ops

/-! ## What a lease owns -/

def OwnsNothing (s : Tables) (l : Lease) : Prop :=
  (∀ d ∈ s.domains.rows, d.ofLease l.accountID l.id → d.live = false) ∧
    ∀ r ∈ s.records.rows, ownedRecord l.accountID l.id r = false

/-- A failed allocation is only reported of a lease that owns nothing. -/
def CleanFailure (s : Tables) : Op → Prop
  | .markReady i => i.allocationState = .failed → ∀ l, s.lease? i.accountID i.previewID = some l →
      l.terminalState = .active → l.generation = i.expectedGeneration → OwnsNothing s l
  | _ => True

structure Owned (s : Tables) : Prop where
  domains : ∀ d ∈ s.domains.rows, d.live →
    ∃ l, s.lease? d.accountID d.previewID = some l ∧ l.terminalState = .active ∧ d.previewGeneration ≤ l.generation
  records : ∀ l ∈ s.leases.rows, ∀ r ∈ s.records.rows, ownedRecord l.accountID l.id r → l.terminalState = .active
  deadlines : ∀ l ∈ s.leases.rows, l.withinUserDeadline

theorem lease?_kept (h : s.lease? accountID previewID = some l)
    (hmem : l ∈ s'.leases.rows) : s'.lease? accountID previewID = some l := by
  obtain ⟨-, hid, hacc⟩ := lease?_eq_some.1 h
  exact lease?_eq_some.2 ⟨hmem, hid, hacc⟩

theorem ofLease_iff {d : PreviewDomain} :
    d.ofLease accountID previewID ↔ d.previewID = previewID ∧ d.accountID = accountID := by
  simp [PreviewDomain.ofLease]

theorem owned_of_leasesMove (h : Owned s) (hm : LeasesMove s s') : ∀ l ∈ s'.leases.rows, l.withinUserDeadline := by
  intro l' hl'
  rcases hm.back l' hl' with ⟨l, hl, hmove⟩ | hnew
  · exact hmove.deadline (h.deadlines l hl)
  · exact hnew

structure GoOn (s s' : Tables) (selected : Lease → Bool) (change : Lease → Lease) : Prop where
  keeps : ∀ l, (change l).id = l.id
  leases : s'.leases = s.leases.update selected change keeps
  active : ∀ l ∈ s.leases.rows, selected l → LeaseMove l (change l) ∧ (change l).terminalState = .active

theorem GoOn.reached (h : GoOn s s' selected change) {generation : Nat}
    (hl : ∃ l, s.lease? accountID previewID = some l ∧ l.terminalState = .active ∧ generation ≤ l.generation) :
    ∃ l, s'.lease? accountID previewID = some l ∧ l.terminalState = .active ∧ generation ≤ l.generation := by
  obtain ⟨l, hlease, hact, hle⟩ := hl
  obtain ⟨hmem, hid, hacc⟩ := lease?_eq_some.1 hlease
  by_cases hsel : selected l
  · obtain ⟨hm, hstays⟩ := h.active l hmem hsel
    refine ⟨change l, lease?_eq_some.2 ⟨?_, hm.id.trans hid, hm.accountID.trans hacc⟩, hstays,
      hle.trans hm.generation_le⟩
    rw [h.leases]
    exact mem_update_of_selected h.keeps hmem hsel
  · refine ⟨l, lease?_kept hlease ?_, hact, hle⟩
    rw [h.leases]
    exact mem_update.2 (.inr ⟨hmem, by simpa using hsel⟩)

theorem GoOn.records (h : GoOn s s' selected change) (how : Owned s) (hl : l ∈ s'.leases.rows) (hr : r ∈ s.records.rows)
    (ho : ownedRecord l.accountID l.id r) : l.terminalState = .active := by
  rw [h.leases, mem_update] at hl
  rcases hl with ⟨x, hx, hsel, rfl⟩ | ⟨hl, -⟩
  · exact (h.active x hx hsel).2
  · exact how.records l hl r hr ho

theorem Owned.of_same (h : Owned s) (hs : SameRows s s') : Owned s' where
  domains d hd hlive := by
    rw [hs.lease?]
    exact h.domains d (hs.domains ▸ hd) hlive
  records l hl r hr := h.records l (hs.leases ▸ hl) r (hs.records ▸ hr)
  deadlines l hl := h.deadlines l (hs.leases ▸ hl)

theorem owned_ending (h : Owned s) (he : Ending s s') : Owned s' := by
  have hm := leasesMove_ending he
  obtain ⟨now, selected, change, keeps, ended, hselected, hch, hw⟩ := he
  have hls : s'.leases = s.leases.update selected change keeps := hw.leases
  refine ⟨?_, ?_, owned_of_leasesMove h hm⟩
  · intro d' hd' hlive
    obtain ⟨d, hd, hstep, hleft⟩ := forall₂_mem_right hw.domains hd'
    rcases hstep with rfl | ⟨-, rfl⟩
    · obtain ⟨l, hl, hact, hle⟩ := h.domains d' hd hlive
      obtain ⟨hmem, hid, hacc⟩ := lease?_eq_some.1 hl
      refine ⟨l, lease?_kept hl ?_, hact, hle⟩
      rw [hls]
      refine mem_update.2 (.inr ⟨hmem, Bool.eq_false_iff.2 fun hsel => ?_⟩)
      -- A domain of a lease that ends is at most at its generation, so it was withdrawn.
      have hlt := hleft hlive (change l) (hselected l hmem hsel).2
        (ofLease_iff.2 ⟨(hid.symm.trans (keeps l).symm), hacc.symm.trans (hch l).accountID.symm⟩)
      rw [(hch l).generation] at hlt
      omega
    · cases hlive
  · intro l' hl' r' hr' how
    obtain ⟨r, hr, hstep, hleft⟩ := forall₂_mem_right hw.records hr'
    rw [hls, mem_update] at hl'
    rcases hl' with ⟨l, hl, hsel, rfl⟩ | ⟨hl, -⟩
    · rw [hleft _ (hselected l hl hsel).2] at how
      cases how
    rcases hstep with rfl | rfl
    · exact h.records l' hl r' hr how
    · simp [ownedRecord, Tunnel.StoredCertificate.mark] at how

theorem ownedRecord_iff : ownedRecord accountID previewID r ↔
      r.accountID = accountID ∧ r.targetKind = .previewLease ∧ r.previewID = previewID ∧ (r.state = .staged ∨ r.state = .active) := by
  simp [ownedRecord, and_assoc]

theorem owned_origin (h : Owned s) (hl : l ∈ s.leases.rows) {r' : Tunnel.StoredCertificate}
    (hor : Origin s r') (how : ownedRecord l.accountID l.id r') : l.terminalState = .active := by
  obtain ⟨hacc, hkind, hpv, hlive⟩ := ownedRecord_iff.1 how
  cases hor with
  | kept r hr htg _ hst =>
    rcases hst with hst | ⟨hs, ha⟩
    · exact h.records l hl r hr (ownedRecord_iff.2 ⟨htg.accountID ▸ hacc, htg.targetKind ▸ hkind,
        htg.previewID ▸ hpv, hst ▸ hlive⟩)
    · exact absurd hlive (by simp [hs, ha])
  | bound hb =>
    obtain ⟨p, now, hp, hplive, hpa, hpp, -⟩ := hb
    obtain ⟨d, x, -, hx, rfl⟩ := previews_find.1 hp
    obtain ⟨hmem, hid, -⟩ := lease?_eq_some.1 hx
    have hxl : x = l := eq_of_key hmem hl (hid.trans (hpp.trans hpv))
    simp only [Tunnel.PreviewRow.live, PreviewDomain.joined, Bool.and_eq_true, beq_iff_eq] at hplive
    rw [← hxl]
    exact hplive.1.1.2
  | other hk => exact absurd hkind hk

theorem owned_step (s : Tables) (op : Op) (h : Owned s) (hcl : CleanFailure s op) : Owned (s.step op) := by
  have hm := leasesMove_step s op
  have he := s.effect_of_step op
  generalize s.step op = s' at he hm ⊢
  have hdl := owned_of_leasesMove h hm
  cases he with
  | kept hs => exact h.of_same hs
  | created l _ _ hact _ hds hls hdomains hrs =>
    refine ⟨fun d hd hlive => ?_, fun x hx r hr how => ?_, hdl⟩
    · rw [hdomains] at hd
      rcases mem_append.1 hd with hd | hd
      · obtain ⟨x, hx, hrest⟩ := h.domains d hd hlive
        exact ⟨x, lease?_kept hx (hls ▸ mem_append_left _ (lease?_eq_some.1 hx).1), hrest⟩
      obtain ⟨hof, -, hgen, -⟩ := hds d hd
      obtain ⟨hid, hacc⟩ := ofLease_iff.1 hof
      exact ⟨l, lease?_eq_some.2 ⟨hls ▸ by simp, hid.symm, hacc.symm⟩, hact, hgen.le⟩
    · rw [hls] at hx
      rcases mem_append.1 hx with hx | hx
      · exact h.records x hx r (hrs ▸ hr) how
      · rwa [mem_singleton.1 hx]
  | @renewed i _ _ l _ hle hact _ huser _ hml hmd hls hdomains hrs =>
    have hgo : GoOn s s' (·.id == i.previewID) fun l => (l.advance i.now).renew i.leaseDeadline i.now := by
      refine ⟨fun l => l.advance_id i.now, hls.trans hml, fun x hx hsel => ?_⟩
      obtain rfl := eq_of_id hle hx hsel
      exact ⟨⟨rfl, rfl, .inr ⟨hact, Nat.lt_succ_self _⟩, fun _ => huser⟩, hact⟩
    refine ⟨fun d' hd' hlive => ?_, fun x hx r' hr' how => ?_, hdl⟩
    · rw [hdomains, hmd, mem_update] at hd'
      rcases hd' with ⟨d, hd, hsel, rfl⟩ | ⟨hd', -⟩
      · obtain ⟨hmem, hid, hacc⟩ := lease?_eq_some.1 hle
        simp only [Bool.and_eq_true] at hsel
        obtain ⟨hdid, hdaccount⟩ := ofLease_iff.1 hsel.1.1
        refine ⟨(l.advance i.now).renew i.leaseDeadline i.now, lease?_eq_some.2 ⟨?_, hid.trans hdid.symm,
          hacc.trans hdaccount.symm⟩, hact, le_rfl⟩
        rw [hgo.leases]
        exact mem_update_of_selected hgo.keeps hmem (by simp [hid])
      · exact hgo.reached (h.domains d' hd' hlive)
    · rw [hrs, mem_update] at hr'
      rcases hr' with ⟨r, hr, -, rfl⟩ | ⟨hr', -⟩
      · exact hgo.records h hx hr how
      · exact hgo.records h hx hr' how
  | @marked i _ l hle hact hgen hls hdomains hrs =>
    by_cases hf : i.allocationState = .failed
    · obtain ⟨hnd, hnorecord⟩ := hcl hf l hle hact hgen
      refine ⟨fun d hd hlive => ?_, fun x hx r hr how => ?_, hdl⟩
      · rw [hdomains] at hd
        obtain ⟨x, hx, hrest⟩ := h.domains d hd hlive
        obtain ⟨hmem, hid, hacc⟩ := lease?_eq_some.1 hx
        refine ⟨x, lease?_kept hx ?_, hrest⟩
        rw [hls]
        refine mem_update.2 (.inr ⟨hmem, Bool.eq_false_iff.2 fun hsel => ?_⟩)
        obtain rfl := eq_of_id hle hmem hsel
        rw [hnd d hd (ofLease_iff.2 ⟨hid.symm, hacc.symm⟩)] at hlive
        cases hlive
      · rw [hrs] at hr
        rw [hls, mem_update] at hx
        rcases hx with ⟨y, hy, hsel, rfl⟩ | ⟨hx, -⟩
        · obtain rfl := eq_of_id hle hy hsel
          exact absurd how (Bool.eq_false_iff.1 (hnorecord r hr))
        · exact h.records x hx r hr how
    · have hgo : GoOn s s' (·.id == i.previewID)
          fun l => l.advanceReadiness.mark i.allocationState i.edgeState i.originState i.now := by
        refine ⟨fun l => l.advanceReadiness_id, hls, fun x hx hsel => ?_⟩
        obtain rfl := eq_of_id hle hx hsel
        exact ⟨⟨rfl, rfl, .inr ⟨hact, Nat.lt_succ_self _⟩, fun hd => hd⟩, by simp [Lease.mark, hf, Lease.advanceReadiness, hact]⟩
      exact ⟨fun d hd hlive => hgo.reached (h.domains d (hdomains ▸ hd) hlive),
        fun x hx r hr how => hgo.records h hx (hrs ▸ hr) how, hdl⟩
  | ended _ h1 h2 =>
    have hmid := owned_ending h h1
    rcases h2 with h2 | h2
    · exact owned_ending hmid h2
    · exact hmid.of_same h2
  | domainAdded _ l hle hact _ hgen _ _ hls hdomains hrs =>
    refine ⟨fun d hd hdlive => ?_, fun l hl r hr => h.records l (hls ▸ hl) r (hrs ▸ hr), hdl⟩
    simp only [lease?, hls]
    rw [hdomains] at hd
    rcases mem_append.1 hd with hd | hd
    · exact h.domains d hd hdlive
    · obtain rfl := mem_singleton.1 hd
      exact ⟨l, hle, hact, hgen.le⟩
  | domainsChanged _ _ _ hch _ hls hdomains hrs =>
    refine ⟨fun d hd hdlive => ?_, fun l hl r hr => h.records l (hls ▸ hl) r (hrs ▸ hr), hdl⟩
    simp only [lease?, hls]
    rw [hdomains, mem_update] at hd
    rcases hd with ⟨x, hx, -, rfl⟩ | ⟨hd, -⟩
    · obtain ⟨ha, hp, hg, hl⟩ := hch x
      rw [ha, hp, hg]
      exact h.domains x hx (hl hdlive)
    · exact h.domains d hd hdlive
  | recorded hls hdomains hor =>
    refine ⟨fun d hd hlive => ?_, fun l hl r hr how => ?_, hdl⟩
    · simp only [lease?, hls]
      exact h.domains d (hdomains ▸ hd) hlive
    · exact owned_origin h (hls ▸ hl) (hor r hr) how

theorem owned_initial : Owned initial where
  domains d hd := by cases hd
  records l hl := by cases hl
  deadlines l hl := by cases hl

theorem Owned.nothing (h : Owned s) (hl : l ∈ s.leases.rows) (hterm : l.terminalState ≠ .active) : OwnsNothing s l := by
  refine ⟨fun d hd hof => Bool.eq_false_iff.2 fun hlive => ?_, fun r hr => Bool.eq_false_iff.2 fun ho => ?_⟩
  · obtain ⟨x, hx, hact, -⟩ := h.domains d hd hlive
    obtain ⟨hid, -⟩ := ofLease_iff.1 hof
    obtain ⟨hmem, hxid, -⟩ := lease?_eq_some.1 hx
    have hxl : x = l := eq_of_key hmem hl (hxid.trans hid)
    exact hterm (hxl ▸ hact)
  · exact hterm (h.records l hl r hr ho)

/-! ## Runs -/

/-- A lease that has ended stays, one that runs moves to a higher generation with each change, and after the step a
lease that has ended owns nothing and one that runs ends in time. -/
def TerminalIsFinal (s s' : Tables) : Prop :=
  (∀ l ∈ s.leases.rows, l.terminalState ≠ .active → l ∈ s'.leases.rows) ∧
    (∀ l ∈ s.leases.rows, l.terminalState = .active →
      ∃ l' ∈ s'.leases.rows, l'.id = l.id ∧ (l' = l ∨ l.generation < l'.generation)) ∧
    ∀ l ∈ s'.leases.rows, (l.terminalState ≠ .active → OwnsNothing s' l) ∧
      (l.terminalState = .active → l.withinUserDeadline)

theorem terminalIsFinal_of_owned (hm : LeasesMove s s') (h' : Owned s') : TerminalIsFinal s s' := by
  refine ⟨fun l hl hterm => ?_, fun l hl _ => ?_, fun l hl => ⟨h'.nothing hl, fun _ => h'.deadlines l hl⟩⟩
  · obtain ⟨l', hl', hmove⟩ := hm.forward l hl
    rcases hmove.moved with rfl | ⟨hact, -⟩
    · exact hl'
    · exact absurd hact hterm
  · obtain ⟨l', hl', hmove⟩ := hm.forward l hl
    exact ⟨l', hl', hmove.id, hmove.moved.imp_right And.right⟩

/-- In a run in which failed allocations are only reported of leases that own nothing, a preview that has
ended is final and owns nothing. -/
theorem terminal_final_of_clean_failures (ops : List Op) (h : EachStep step CleanFailure initial ops) :
    EachStep step (fun s op => TerminalIsFinal s (s.step op)) initial ops := by
  refine eachStep_of_inv (I := Owned) (P := CleanFailure) (fun s op ho hc => ?_) owned_initial h
  have ho' := owned_step s op ho hc
  exact ⟨ho', terminalIsFinal_of_owned (leasesMove_step s op) ho'⟩

open Sample

/-- The allocation of a preview with a domain fails: the lease has ended and the domain lives on. -/
theorem failed_allocation_keeps_domain : ¬EachStep step (fun s op => TerminalIsFinal s (s.step op)) initial
      [create, .markReady (mark .failed 1)] := by
  rintro ⟨-, ⟨-, -, h⟩, -⟩
  have hleases : (((initial.step create).step (.markReady (mark .failed 1))).leases.rows.map
      fun l => (l.accountID, l.id, l.terminalState)) = [("acc_1", "pvw_1", .failed)] := by decide +kernel
  have hdomain : (((initial.step create).step (.markReady (mark .failed 1))).domains.rows.any
      fun d => d.ofLease "acc_1" "pvw_1" && d.live) := by decide +kernel
  obtain ⟨d, hd, hdl⟩ := any_eq_true.1 hdomain
  rw [Bool.and_eq_true] at hdl
  obtain ⟨l, hl, heq⟩ := mem_map.1 (hleases ▸ mem_singleton_self _)
  simp only [Prod.mk.injEq] at heq
  obtain ⟨ha, hid, hstate⟩ := heq
  obtain ⟨hnodomain, -⟩ := (h l hl).1 (by rw [hstate]; decide)
  rw [ha, hid] at hnodomain
  exact Bool.eq_false_iff.1 (hnodomain d hd hdl.1) hdl.2

theorem terminal_final_after_deletion : EachStep step CleanFailure initial
        [create, .mutateDomain deletion false, .markReady (mark .failed 1)] ∧
      EachStep step (fun s op => TerminalIsFinal s (s.step op)) initial
        [create, .mutateDomain deletion false, .markReady (mark .failed 1)] := by
  have hclean : EachStep step CleanFailure initial
      [create, .mutateDomain deletion false, .markReady (mark .failed 1)] := by
    refine ⟨trivial, trivial, fun _ l _ _ _ => ⟨fun d hd _ => ?_, fun r hr => ?_⟩, trivial⟩
    · have hdomains : (((initial.step create).step (.mutateDomain deletion false)).domains.rows.all
          fun d => !d.live) := by decide +kernel
      simpa using all_eq_true.1 hdomains d hd
    · have hrecords : ((initial.step create).step (.mutateDomain deletion false)).records.rows.isEmpty =
          true := by decide +kernel
      cases hr
  exact ⟨hclean, terminal_final_of_clean_failures _ hclean⟩

end Paperboat.Previews

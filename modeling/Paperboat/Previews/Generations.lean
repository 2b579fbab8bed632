import Paperboat.Previews.Effects
/-!
# Domains and the generation of their lease

A domain is bound to a generation of its lease, and so is its certificate. Renewing
a lease takes both along; a readiness mark counts the lease up alone, and a renewal
leaves the certificate of a domain that is not verified behind.
-/

namespace Paperboat.Previews

open Lib Tables Table
open Tunnel (StoredCertificate)

variable {d' d : PreviewDomain} {s s' : Tables} {l x : Lease} {expiresAt : Time} {r : StoredCertificate}

def ActiveRecord (r : StoredCertificate) : Prop := r.targetKind = .previewLease ∧ r.state = .active

def Current (s : Tables) (d : PreviewDomain) (generation : Nat) : Prop :=
  d.live → ∀ l ∈ s.leases.rows, d.ofLease l.accountID l.id → l.terminalState = .active → generation = l.generation

/-- What a step may not do: count a lease up that has live domains, or leave the certificate of one behind. -/
def KeepsUp (s : Tables) : Op → Prop
  | .markReady i => i.allocationState ≠ .failed → ∀ l, s.lease? i.accountID i.previewID = some l →
      l.terminalState = .active → l.generation = i.expectedGeneration →
      ∀ d ∈ s.domains.rows, d.ofLease i.accountID i.previewID → d.live = false
  | .renewLease i => ∀ d ∈ s.domains.rows, d.ofLease i.accountID i.previewID → d.live →
      (∃ r ∈ s.records.rows, ActiveRecord r ∧ r.domainID = d.id) → d.ownershipState = .verified ∧ d.conflictState = .clear
  | _ => True

section Current
variable {generation : Nat}

theorem Current.mono (h : Current s d generation) (hof : d'.accountID = d.accountID ∧ d'.previewID = d.previewID)
    (hlive : d'.live → d.live)
    (hl : ∀ l ∈ s'.leases.rows, d'.ofLease l.accountID l.id → l.terminalState = .active → l ∈ s.leases.rows) :
    Current s' d' generation := by
  intro hd' l hmem ho hact
  refine h (hlive hd') l (hl l hmem ho hact) ?_ hact
  rwa [PreviewDomain.ofLease, ← hof.1, ← hof.2]

theorem Current.same (h : Current s d generation) (hl : s'.leases = s.leases) : Current s' d generation :=
  h.mono ⟨rfl, rfl⟩ (fun h => h) fun _ hmem _ _ => hl ▸ hmem

end Current

structure Carried (s s' : Tables) (d d' : PreviewDomain) : Prop where
  id : d'.id = d.id
  accountID : d'.accountID = d.accountID
  previewID : d'.previewID = d.previewID
  previewGeneration : d'.previewGeneration = d.previewGeneration
  current : ∀ generation, Current s d generation → Current s' d' generation

theorem Carried.ofLease (h : Carried s s' d d') (accountID previewID : String) :
    d'.ofLease accountID previewID = d.ofLease accountID previewID := by
  rw [PreviewDomain.ofLease, PreviewDomain.ofLease, h.accountID, h.previewID]

def Certified (s : Tables) (r : StoredCertificate) : Prop :=
  ∃ d ∈ s.domains.rows, d.id = r.domainID ∧ d.ofLease r.accountID r.previewID ∧ Current s d r.previewGeneration

theorem Certified.carried {r' : StoredCertificate} (h : Certified s r) (ht : SameTarget r r')
    (hg : r'.previewGeneration = r.previewGeneration)
    (hc : ∀ d ∈ s.domains.rows, d.id = r.domainID → ∃ d' ∈ s'.domains.rows, Carried s s' d d') : Certified s' r' := by
  obtain ⟨d, hd, hid, hof, hcur⟩ := h
  obtain ⟨d', hd', hcrd⟩ := hc d hd hid
  refine ⟨d', hd', hcrd.id.trans (hid.trans ht.domainID.symm), ?_, ?_⟩
  · rwa [ht.accountID, ht.previewID, hcrd.ofLease]
  · rw [hg]
    exact hcrd.current _ hcur

structure Following (s : Tables) : Prop where
  leased : ∀ d ∈ s.domains.rows, ∃ l ∈ s.leases.rows, d.ofLease l.accountID l.id
  domains : ∀ d ∈ s.domains.rows, Current s d d.previewGeneration
  records : ∀ r ∈ s.records.rows, ActiveRecord r → Certified s r

def LeasesKept (s s' : Tables) : Prop := ∀ l ∈ s.leases.rows, ∃ l' ∈ s'.leases.rows, l'.id = l.id ∧ l'.accountID = l.accountID

theorem leasesKept_of_update {selected : Lease → Bool} {change : Lease → Lease}
    {keeps : ∀ l, (change l).id = l.id} (hs : s'.leases = s.leases.update selected change keeps)
    (ha : ∀ l, (change l).accountID = l.accountID) : LeasesKept s s' := by
  intro l hl
  rw [hs]
  by_cases hsel : selected l
  · exact ⟨change l, mem_update_of_selected keeps hl hsel, keeps l, ha l⟩
  · exact ⟨l, mem_update.2 (.inr ⟨hl, by simpa using hsel⟩), rfl, rfl⟩

theorem Following.carried (h : Following s) (hl : LeasesKept s s') (hd : d ∈ s.domains.rows) (hc : Carried s s' d d') :
    (∃ l ∈ s'.leases.rows, d'.ofLease l.accountID l.id) ∧ Current s' d' d'.previewGeneration := by
  constructor
  · obtain ⟨l, hmem, hof⟩ := h.leased d hd
    obtain ⟨l', hmem', hid, ha⟩ := hl l hmem
    refine ⟨l', hmem', ?_⟩
    rwa [hid, ha, hc.ofLease]
  · rw [hc.previewGeneration]
    exact hc.current _ (h.domains d hd)

theorem Following.of_carried (h : Following s) (hl : LeasesKept s s')
    (hds : ∀ d' ∈ s'.domains.rows, (∃ d ∈ s.domains.rows, Carried s s' d d') ∨
      (∃ l ∈ s'.leases.rows, d'.ofLease l.accountID l.id) ∧ Current s' d' d'.previewGeneration)
    (hrs : ∀ r' ∈ s'.records.rows, ActiveRecord r' → Certified s' r') : Following s' := by
  refine ⟨fun d' hd' => ?_, fun d' hd' => ?_, hrs⟩
  · rcases hds d' hd' with ⟨d, hd, hc⟩ | hnew
    · exact (h.carried hl hd hc).1
    · exact hnew.1
  · rcases hds d' hd' with ⟨d, hd, hc⟩ | hnew
    · exact (h.carried hl hd hc).2
    · exact hnew.2

theorem Carried.same (hl : s'.leases = s.leases) (d : PreviewDomain) : Carried s s' d d :=
  ⟨rfl, rfl, rfl, rfl, fun _ hc => hc.same hl⟩

theorem Following.of_same (h : Following s) (hl : s'.leases = s.leases) (hd : s'.domains = s.domains)
    (hr : s'.records = s.records) : Following s' := by
  refine h.of_carried (fun l hmem => ⟨l, hl ▸ hmem, rfl, rfl⟩)
    (fun d hmem => .inl ⟨d, hd ▸ hmem, .same hl d⟩) fun r hmem ha => ?_
  exact (h.records r (hr ▸ hmem) ha).carried (.refl r) rfl fun d hd' _ => ⟨d, hd ▸ hd', .same hl d⟩

theorem following_ending (h : Following s) (he : Ending s s') : Following s' := by
  obtain ⟨now, selected, change, keeps, ended, hsel, hch, hw⟩ := he
  have hls : s'.leases = s.leases.update selected change keeps := hw.leases
  -- A lease that runs afterwards is none of those that ended.
  have hold : ∀ l ∈ s'.leases.rows, l.terminalState = .active → l ∈ s.leases.rows := by
    intro l hl hact
    rw [hls, mem_update] at hl
    rcases hl with ⟨x, -, -, rfl⟩ | ⟨hl, -⟩
    · exact absurd hact (hch x).terminal
    · exact hl
  have hcrd : ∀ d d', DomainEnded ended now d d' → Carried s s' d d' := by
    rintro d d' ⟨rfl | ⟨-, rfl⟩, -⟩
    · exact ⟨rfl, rfl, rfl, rfl, fun _ hc => hc.mono ⟨rfl, rfl⟩ (fun h => h) fun l hl _ ha => hold l hl ha⟩
    · exact ⟨rfl, rfl, rfl, rfl, fun _ _ hlive => by cases hlive⟩
  refine h.of_carried (leasesKept_of_update hls fun l => (hch l).accountID) (fun d' hd' => ?_) fun r' hr' ha => ?_
  · obtain ⟨d, hd, hended⟩ := forall₂_mem_right hw.domains hd'
    exact .inl ⟨d, hd, hcrd d d' hended⟩
  · obtain ⟨r, hr, rfl | rfl, -⟩ := forall₂_mem_right hw.records hr'
    · refine (h.records r' hr ha).carried (.refl r') rfl fun d hd _ => ?_
      obtain ⟨d', hd', hended⟩ := forall₂_mem_right hw.domains.flip hd
      exact ⟨d', hd', hcrd d d' hended⟩
    · cases ha.2

theorem lease_unique (hl : l ∈ s.leases.rows) (hx : x ∈ s.leases.rows)
    (hdl : d.ofLease l.accountID l.id) (hdx : d.ofLease x.accountID x.id) : x = l := by
  simp only [PreviewDomain.ofLease, Bool.and_eq_true, beq_iff_eq] at hdl hdx
  exact eq_of_key hx hl (hdx.1.symm.trans hdl.1)

theorem certified_of_bound (h : BoundToLive s r) : Certified s r := by
  obtain ⟨p, now, hp, hlive, hpa, hpp, hpg⟩ := h
  obtain ⟨d, l, hd, hl, rfl⟩ := previews_find.1 hp
  obtain ⟨hmem, hid⟩ := find_eq_some.1 hd
  obtain ⟨hlmem, hlid, hla⟩ := lease?_eq_some.1 hl
  refine ⟨d, hmem, hid, by simp only [PreviewDomain.ofLease, Bool.and_eq_true, beq_iff_eq]; exact ⟨hpp, hpa⟩, ?_⟩
  intro _ x hx hof _
  obtain rfl := lease_unique hlmem hx (by simp [PreviewDomain.ofLease, hlid, hla]) hof
  simp only [Tunnel.PreviewRow.live, PreviewDomain.joined, Bool.and_eq_true, beq_iff_eq] at hlive hpg
  rw [hpg]
  exact hlive.1.1.1.2.symm

theorem following_recorded (h : Following s) (hls : s'.leases = s.leases) (hds : s'.domains = s.domains)
    (hor : ∀ r' ∈ s'.records.rows, Origin s r') : Following s' := by
  have hca : ∀ d ∈ s.domains.rows, ∃ d' ∈ s'.domains.rows, Carried s s' d d' :=
    fun d hd => ⟨d, hds ▸ hd, .same hls d⟩
  refine h.of_carried (fun l hmem => ⟨l, hls ▸ hmem, rfl, rfl⟩)
    (fun d hmem => .inl ⟨d, hds ▸ hmem, .same hls d⟩) fun r' hr' ha => ?_
  cases hor r' hr' with
  | kept r hr htg hgen hst =>
    rcases hst with hst | ⟨-, hnot⟩
    · exact (h.records r hr ⟨htg.targetKind ▸ ha.1, hst ▸ ha.2⟩).carried htg hgen fun d hd _ => hca d hd
    · exact absurd ha.2 hnot
  | bound hb => exact (certified_of_bound hb).carried (.refl r') rfl fun d hd _ => hca d hd
  | other hk => exact absurd ha.1 hk

theorem following_marked (h : Following s) {i : MarkReady} (hk : KeepsUp s (.markReady i))
    (hle : s.lease? i.accountID i.previewID = some l) (hact : l.terminalState = .active)
    (hgen : l.generation = i.expectedGeneration) (hls : s'.leases = s.leases.update (·.id == i.previewID)
      (fun l => l.advanceReadiness.mark i.allocationState i.edgeState i.originState i.now)
      fun l => (l.advanceReadiness.mark_id _ _ _ _).trans l.advanceReadiness_id)
    (hds : s'.domains = s.domains) (hrs : s'.records = s.records) : Following s' := by
  have hca : ∀ d ∈ s.domains.rows, Carried s s' d d := by
    refine fun d hd => ⟨rfl, rfl, rfl, rfl, fun generation hc hlive x hx hof hxa => ?_⟩
    rw [hls, mem_update] at hx
    rcases hx with ⟨y, hy, hsel, rfl⟩ | ⟨hx, -⟩
    · obtain rfl := eq_of_id hle hy hsel
      obtain ⟨-, hid, ha⟩ := lease?_eq_some.1 hle
      by_cases hf : i.allocationState = .failed
      · simp [Lease.mark, hf] at hxa
      have hdead := hk hf y hle hact hgen d hd (hid ▸ ha ▸ hof)
      rw [hdead] at hlive
      cases hlive
    · exact hc hlive x hx hof hxa
  refine h.of_carried (leasesKept_of_update hls fun l => rfl)
    (fun d hmem => .inl ⟨d, hds ▸ hmem, hca d (hds ▸ hmem)⟩) fun r hr ha => ?_
  exact (h.records r (hrs ▸ hr) ha).carried (.refl r) rfl fun d hd _ => ⟨d, hds ▸ hd, hca d hd⟩

theorem following_created (h : Following s) {ds : List PreviewDomain} (hfr : s.leases.find l.id = none)
    (hds : ∀ d ∈ ds, d.ofLease l.accountID l.id ∧ d.live ∧ d.previewGeneration = l.generation ∧ d.checks)
    (hls : s'.leases.rows = s.leases.rows ++ [l]) (hdomains : s'.domains.rows = s.domains.rows ++ ds)
    (hrs : s'.records = s.records) : Following s' := by
  have hl : l ∈ s'.leases.rows := by simp [hls]
  have hca : ∀ d ∈ s.domains.rows, Carried s s' d d := by
    refine fun d hd => ⟨rfl, rfl, rfl, rfl, fun _ hc => hc.mono ⟨rfl, rfl⟩ (fun h => h) fun x hx hof _ => ?_⟩
    rw [hls] at hx
    rcases List.mem_append.1 hx with hx | hx
    · exact hx
    -- The domain has had a lease, which is not the new one.
    obtain ⟨y, hy, hyof⟩ := h.leased d hd
    obtain rfl := List.mem_singleton.1 hx
    simp only [PreviewDomain.ofLease, Bool.and_eq_true, beq_iff_eq] at hof hyof
    have hne := List.find?_eq_none.1 hfr y hy
    simp [← hyof.1, hof.1] at hne
  refine h.of_carried (fun x hx => ⟨x, by simp [hls, hx], rfl, rfl⟩) (fun d hd => ?_) fun r hr ha => ?_
  · rw [hdomains] at hd
    rcases List.mem_append.1 hd with hd | hd
    · exact .inl ⟨d, hd, hca d hd⟩
    obtain ⟨hof, -, hgen, -⟩ := hds d hd
    refine .inr ⟨⟨l, hl, hof⟩, fun _ x hx hxof _ => ?_⟩
    obtain rfl := lease_unique hl hx hof hxof
    exact hgen
  · exact (h.records r (hrs ▸ hr) ha).carried (.refl r) rfl fun d hd _ => ⟨d, by simp [hdomains, hd], hca d hd⟩

/-! ## Renewal -/

section Renewal
variable {mid : Tables} {i : RenewLease}

structure Renewed (s mid : Tables) (i : RenewLease) (l : Lease) : Prop where
  lease : s.lease? i.accountID i.previewID = some l
  active : l.terminalState = .active
  after : i.leaseDeadline.after i.now
  user : l.userDeadline.all (fun t => !i.leaseDeadline.after t)
  leases : mid.leases = s.leases.update (·.id == i.previewID) (fun l => (l.advance i.now).renew i.leaseDeadline i.now)
    fun l => ((l.advance i.now).renew_id _ _).trans (l.advance_id i.now)
  domains : mid.domains = s.domains.update
    (fun d => d.ofLease i.accountID i.previewID && d.previewGeneration == l.generation && d.live)
    (·.advance (l.generation + 1) i.now) fun d => d.advance_id _ _

def RenewLease.result (i : RenewLease) (l : Lease) : Lease := (l.advance i.now).renew i.leaseDeadline i.now

theorem Renewed.result_mem (h : Renewed s mid i l) : i.result l ∈ mid.leases.rows := by
  obtain ⟨hmem, hid, -⟩ := lease?_eq_some.1 h.lease
  rw [h.leases]
  exact mem_update_of_selected (fun l => ((l.advance i.now).renew_id _ _).trans (l.advance_id i.now)) hmem (by simp [hid])

theorem Renewed.of_mem (h : Renewed s mid i l) (hx : x ∈ mid.leases.rows) :
    x = i.result l ∨ x ∈ s.leases.rows ∧ x.id ≠ i.previewID := by
  rw [h.leases, mem_update] at hx
  rcases hx with ⟨y, hy, hsel, rfl⟩ | ⟨hx, hsel⟩
  · obtain rfl := eq_of_id h.lease hy hsel
    exact .inl rfl
  · exact .inr ⟨hx, by simpa using hsel⟩

theorem Renewed.current_next (h : Renewed s mid i l) (hof : d.ofLease i.accountID i.previewID) :
    Current mid d (l.generation + 1) := by
  intro _ x hx hxof _
  rcases h.of_mem hx with rfl | ⟨-, hne⟩
  · rfl
  · simp only [PreviewDomain.ofLease, Bool.and_eq_true, beq_iff_eq] at hof hxof
    exact absurd (hxof.1.symm.trans hof.1) hne

theorem Renewed.carried (h : Renewed s mid i l) (hd : d ∈ s.domains.rows)
    (hoth : d.ofLease i.accountID i.previewID = false ∨ d.live = false) : d ∈ mid.domains.rows ∧ Carried s mid d d := by
  constructor
  · rw [h.domains]
    refine mem_update.2 (.inr ⟨hd, ?_⟩)
    rcases hoth with ho | ho <;> simp [ho]
  · refine ⟨rfl, rfl, rfl, rfl, fun _ hc hlive x hx hof ha => ?_⟩
    rcases h.of_mem hx with rfl | ⟨hx, -⟩
    · obtain ⟨-, hid, hacc⟩ := lease?_eq_some.1 h.lease
      have hof' : d.ofLease i.accountID i.previewID := hid ▸ hacc ▸ hof
      rcases hoth with ho | ho
      · rw [ho] at hof'
        cases hof'
      · rw [ho] at hlive
        cases hlive
    · exact hc hlive x hx hof ha

theorem Renewed.advanced (h : Renewed s mid i l) (hf : Following s) (hd : d ∈ s.domains.rows)
    (hof : d.ofLease i.accountID i.previewID) (hlive : d.live) :
    d.advance (l.generation + 1) i.now ∈ mid.domains.rows := by
  obtain ⟨hmem, hid, ha⟩ := lease?_eq_some.1 h.lease
  have hgen := hf.domains d hd hlive l hmem (hid ▸ ha ▸ hof) h.active
  rw [h.domains]
  exact mem_update_of_selected (fun d => d.advance_id _ _) hd (by simp [hof, hlive, hgen])

theorem Renewed.rebinds (h : Renewed s mid i l) (hf : Following s)
    (hd : d ∈ s.domains.rows) (hid : d.id = r.domainID) (hof : d.ofLease i.accountID i.previewID) (hlive : d.live)
    (hrof : d.ofLease r.accountID r.previewID) (ha : ActiveRecord r) (hg : r.previewGeneration = l.generation)
    (hvf : d.ownershipState = .verified) (hclear : d.conflictState = .clear) :
    mid.rebinds i.accountID i.previewID l.generation (l.generation + 1) i.now r := by
  obtain ⟨-, hlid, hla⟩ := lease?_eq_some.1 h.lease
  have hp : mid.previews.find r.domainID = some ((d.advance (l.generation + 1) i.now).joined (i.result l)) := by
    refine previews_find.2 ⟨_, _, find_eq_some.2 ⟨h.advanced hf hd hof hlive, hid⟩, ?_, rfl⟩
    simp only [PreviewDomain.ofLease, Bool.and_eq_true, beq_iff_eq] at hof
    exact lease?_eq_some.2 ⟨h.result_mem, hlid.trans hof.1.symm, hla.trans hof.2.symm⟩
  have huser : l.userDeadline.all (·.after i.now) := by
    have hu := h.user
    have hn := h.after
    cases hdl : l.userDeadline with
    | none => rfl
    | some =>
      rw [hdl] at hu
      simp only [Option.all_some, Bool.not_eq_true', Time.after_eq_false, Time.after_iff] at hu hn ⊢
      omega
  have hdeleted : d.deletedAt.isSome = false := by
    have hnone : d.deletedAt.isNone := hlive
    cases hdel : d.deletedAt with
    | none => rfl
    | some =>
      rw [hdel] at hnone
      cases hnone
  simp only [PreviewDomain.ofLease, Bool.and_eq_true, beq_iff_eq] at hof hrof
  simp only [Tables.rebinds, hp, Option.any_some, ha.1, ha.2, hg, Tunnel.PreviewRow.live, PreviewDomain.joined,
    PreviewDomain.advance, RenewLease.result, Lease.renew, Lease.advance, hvf, hclear, hdeleted, h.active, h.after, huser,
    hof.1, hof.2, ← hrof.1, ← hrof.2, Ownership.forCertificates]
  simp

theorem Renewed.certified (h : Renewed s mid i l) (hf : Following s) (hk : KeepsUp s (.renewLease i))
    (hr : r ∈ s.records.rows) (ha : ActiveRecord r)
    (hnot : mid.rebinds i.accountID i.previewID l.generation (l.generation + 1) i.now r = false) : Certified mid r := by
  obtain ⟨hmem, hlid, hla⟩ := lease?_eq_some.1 h.lease
  obtain ⟨d, hd, hid, hrof, hcur⟩ := hf.records r hr ha
  by_cases hoth : d.ofLease i.accountID i.previewID = false ∨ d.live = false
  · obtain ⟨hd', hcrd⟩ := h.carried hd hoth
    exact ⟨d, hd', hid, hrof, hcrd.current _ hcur⟩
  simp only [not_or, Bool.not_eq_false] at hoth
  obtain ⟨hof, hlive⟩ := hoth
  obtain ⟨hvf, hclear⟩ := hk d hd hof hlive ⟨r, hr, ha, hid.symm⟩
  have hg := hcur hlive l hmem (hlid ▸ hla ▸ hof) h.active
  rw [h.rebinds hf hd hid hof hlive hrof ha hg hvf hclear] at hnot
  cases hnot

theorem Renewed.certified_rebound (h : Renewed s mid i l)
    (hsel : mid.rebinds i.accountID i.previewID l.generation (l.generation + 1) i.now r) :
    Certified mid (r.rebind (l.generation + 1) expiresAt i.now) := by
  simp only [Tables.rebinds, Bool.and_eq_true, Option.any_eq_true, beq_iff_eq] at hsel
  obtain ⟨-, p, hp, ⟨⟨⟨⟨hra, hrp⟩, hpa⟩, hpp⟩, -⟩, -⟩ := hsel
  obtain ⟨d, x, hd, -, rfl⟩ := previews_find.1 hp
  obtain ⟨hmem, hid⟩ := find_eq_some.1 hd
  refine ⟨d, hmem, hid, ?_, h.current_next ?_⟩
  · simp only [PreviewDomain.ofLease, Bool.and_eq_true, beq_iff_eq]
    exact ⟨hrp, hra⟩
  · simp only [PreviewDomain.ofLease, Bool.and_eq_true, beq_iff_eq]
    exact ⟨hpp, hpa⟩

theorem following_renewed (h : Following s) (hr : Renewed s mid i l) (hk : KeepsUp s (.renewLease i))
    (hls : s'.leases = mid.leases) (hds : s'.domains = mid.domains) (hrs : s'.records = s.records.update
      (mid.rebinds i.accountID i.previewID l.generation (l.generation + 1) i.now)
      (·.rebind (l.generation + 1) expiresAt i.now) fun r => r.rebind_id _ _ _) : Following s' := by
  have hsame : ∀ d generation, Current mid d generation → Current s' d generation := fun d _ hc => hc.same hls
  refine h.of_carried (leasesKept_of_update (hls.trans hr.leases) fun l => rfl) (fun d' hd' => ?_) fun r' hr' ha => ?_
  · rw [hds, hr.domains, mem_update] at hd'
    rcases hd' with ⟨d, hd, hsel, rfl⟩ | ⟨hd, hsel⟩
    · simp only [Bool.and_eq_true] at hsel
      obtain ⟨-, hlid, hla⟩ := lease?_eq_some.1 hr.lease
      have hof : (d.advance (l.generation + 1) i.now).ofLease i.accountID i.previewID := hsel.1.1
      exact .inr ⟨⟨i.result l, hls ▸ hr.result_mem, hlid ▸ hla ▸ hof⟩, hsame _ _ (hr.current_next hof)⟩
    · -- A row that is not taken along is another lease's, or deleted.
      have hoth : d'.ofLease i.accountID i.previewID = false ∨ d'.live = false := by
        by_contra hboth
        simp only [not_or, Bool.not_eq_false] at hboth
        obtain ⟨hmem, hlid, hla⟩ := lease?_eq_some.1 hr.lease
        have hg := h.domains d' hd hboth.2 l hmem (hlid ▸ hla ▸ hboth.1) hr.active
        simp [hboth.1, hboth.2, hg] at hsel
      obtain ⟨-, hcrd⟩ := hr.carried hd hoth
      exact .inl ⟨d', hd, ⟨rfl, rfl, rfl, rfl, fun g hc => hsame _ _ (hcrd.current g hc)⟩⟩
  · have hcertified : Certified mid r' := by
      rw [hrs, mem_update] at hr'
      rcases hr' with ⟨r, -, hsel, rfl⟩ | ⟨hmem, hsel⟩
      · exact hr.certified_rebound hsel
      · exact hr.certified h hk hmem ha hsel
    exact hcertified.carried (.refl r') rfl fun d hd _ => ⟨d, hds ▸ hd, .same hls d⟩

end Renewal

theorem following_step (s : Tables) (op : Op) (h : Following s) (hk : KeepsUp s op) : Following (s.step op) := by
  have he := s.effect_of_step op
  generalize s.step op = s' at he ⊢
  cases he with
  | kept hs => exact h.of_same hs.leases hs.domains hs.records
  | created _ _ hfr _ _ hds hls hdomains hrs =>
    exact following_created h hfr hds hls hdomains hrs
  | renewed _ _ hle hact haf huser _ hml hmd hls hdomains hrs =>
    exact following_renewed h ⟨hle, hact, haf, huser, hml, hmd⟩ hk hls hdomains hrs
  | marked _ hle hact hgen hls hdomains hrs =>
    exact following_marked h hk hle hact hgen hls hdomains hrs
  | ended _ h1 h2 =>
    have hmid := following_ending h h1
    rcases h2 with h2 | h2
    · exact following_ending hmid h2
    · exact hmid.of_same h2.leases h2.domains h2.records
  | domainAdded _ l hle _ _ hgen _ _ hls hdomains hrs =>
    refine h.of_carried (fun l hmem => ⟨l, hls ▸ hmem, rfl, rfl⟩) (fun d hd => ?_) fun r hr ha => ?_
    · rw [hdomains] at hd
      rcases List.mem_append.1 hd with hd | hd
      · exact .inl ⟨d, hd, .same hls d⟩
      obtain rfl := List.mem_singleton.1 hd
      obtain ⟨hmem, hid, hacc⟩ := lease?_eq_some.1 hle
      have hof : d.ofLease l.accountID l.id := by simp [PreviewDomain.ofLease, hid, hacc]
      refine .inr ⟨⟨l, hls ▸ hmem, hof⟩, fun _ y hy hyof _ => ?_⟩
      obtain rfl := lease_unique hmem (hls ▸ hy) hof hyof
      exact hgen
    · exact (h.records r (hrs ▸ hr) ha).carried (.refl r) rfl
        fun d hd _ => ⟨d, by simp [hdomains, hd], .same hls d⟩
  | domainsChanged selected change keeps hch _ hls hdomains hrs =>
    have hca : ∀ d, Carried s s' d (change d) := fun d =>
      ⟨keeps d, (hch d).1, (hch d).2.1, (hch d).2.2.1, fun _ hc =>
        hc.mono ⟨(hch d).1, (hch d).2.1⟩ (hch d).2.2.2 fun _ hl _ _ => hls ▸ hl⟩
    refine h.of_carried (fun l hmem => ⟨l, hls ▸ hmem, rfl, rfl⟩) (fun d hd => ?_) fun r hr ha => ?_
    · rw [hdomains, mem_update] at hd
      rcases hd with ⟨x, hx, -, rfl⟩ | ⟨hd, -⟩
      · exact .inl ⟨x, hx, hca x⟩
      · exact .inl ⟨d, hd, .same hls d⟩
    · refine (h.records r (hrs ▸ hr) ha).carried (.refl r) rfl fun d hd _ => ?_
      rw [hdomains]
      by_cases hsel : selected d
      · exact ⟨change d, mem_update_of_selected keeps hd hsel, hca d⟩
      · exact ⟨d, mem_update.2 (.inr ⟨hd, by simpa using hsel⟩), .same hls d⟩
  | recorded hls hdomains hor => exact following_recorded h hls hdomains hor

theorem following_initial : Following initial where
  leased d hd := by cases hd
  domains d hd := by cases hd
  records r hr := by cases hr

/-! ## Runs -/

/-- A live domain of a lease that runs is at its generation, so are its active certificates, and the domain is
observed as soon as its time has come. -/
def Followed (s : Tables) : Prop :=
  ∀ l ∈ s.leases.rows, l.terminalState = .active → ∀ d ∈ s.domains.rows, d.ofLease l.accountID l.id → d.live →
    d.previewGeneration = l.generation ∧
      (∀ r ∈ s.records.rows, ActiveRecord r → r.domainID = d.id → r.previewGeneration = l.generation) ∧
      ∀ now, l.unexpired now → s.due now d = (!d.dnsNextCheckAt.after now &&
        (d.ownershipState == .pending || d.ownershipState == .failed || d.ownershipState == .verified))

theorem Following.followed (h : Following s) : Followed s := by
  intro l hl hact d hd hof hlive
  have hgen := h.domains d hd hlive l hl hof hact
  refine ⟨hgen, fun r hr ha hid => ?_, fun now hrun => ?_⟩
  · obtain ⟨x, hx, hxid, -, hcur⟩ := h.records r hr ha
    obtain rfl : x = d := eq_of_key hx hd (hxid.trans hid)
    exact hcur hlive l hl hof hact
  · have hle : s.lease? d.accountID d.previewID = some l := by
      simp only [PreviewDomain.ofLease, Bool.and_eq_true, beq_iff_eq] at hof
      exact lease?_eq_some.2 ⟨hl, hof.1.symm, hof.2.symm⟩
    simp [due, hlive, hle, hact, hgen, hrun]

/-- In a run in which readiness marks meet leases without live domains, and renewals leave no active
certificate behind, domains follow their lease. -/
theorem domains_follow_lease (ops : List Op) (h : EachStep step KeepsUp initial ops) :
    Throughout step Followed initial ops := by
  have hthrough : Throughout step Following initial ops :=
    throughout_of_inv (P := KeepsUp) following_step following_initial h
  exact hthrough.imp fun _ hf => hf.followed

open Sample

/-- A preview with a domain becomes ready: the domain stays at the first generation of the lease, and
nothing observes it any more. -/
theorem mark_leaves_domain_behind :
    ¬Throughout step Followed initial [create, .markReady (mark .ready 1)] := by
  intro h
  have hleases : (((initial.step create).step (.markReady (mark .ready 1))).leases.rows.map
      fun l => (l.accountID, l.id, l.terminalState, l.generation)) = [("acc_1", "pvw_1", .active, 2)] := by decide +kernel
  have hdomain : (((initial.step create).step (.markReady (mark .ready 1))).domains.rows.any
      fun d => d.ofLease "acc_1" "pvw_1" && d.live && d.previewGeneration == 1) := by decide +kernel
  obtain ⟨d, hd, hdl⟩ := List.any_eq_true.1 hdomain
  simp only [Bool.and_eq_true, beq_iff_eq] at hdl
  obtain ⟨l, hl, heq⟩ := List.mem_map.1 (hleases ▸ List.mem_singleton_self _)
  simp only [Prod.mk.injEq] at heq
  obtain ⟨ha, hid, hstate, hgeneration⟩ := heq
  have hfollows := (h.last l hl hstate d hd (ha ▸ hid ▸ hdl.1.1) hdl.1.2).1
  rw [hdl.2, hgeneration] at hfollows
  cases hfollows

theorem domains_follow_renewal : EachStep step KeepsUp initial [create, .renewLease renewal] ∧
      Throughout step Followed initial [create, .renewLease renewal] ∧
      (run step initial [create, .renewLease renewal]).domains.rows.map (·.previewGeneration) = [2] := by
  have hkeeps : EachStep step KeepsUp initial [create, .renewLease renewal] := by
    refine ⟨trivial, fun d _ _ _ hr => ?_, trivial⟩
    obtain ⟨r, hr, -⟩ := hr
    have hrecords : (initial.step create).records.rows.isEmpty := by decide +kernel
    cases hr
  exact ⟨hkeeps, domains_follow_lease _ hkeeps, by decide +kernel⟩

end Paperboat.Previews

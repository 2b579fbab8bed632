import Paperboat.Previews.Steps
/-!
# The effects of a step

A step keeps the rows, adds a lease with its domains, renews or marks one lease,
ends some, adds or changes one domain, releases quarantines, or moves records. The
case analysis over the code is made here once.
-/

namespace Paperboat.Previews

open Lib List Table
open Tunnel (StoredCertificate)

variable {s s' : Tables} {now : Time} {l : Lease} {accountID previewID : String} {ended ended' : List Lease}

/-! ## The end of leases -/

/-- A domain when the leases `ended` have ended: none of theirs is live, up to their generation. -/
def DomainEnded (ended : List Lease) (now : Time) (d d' : PreviewDomain) : Prop :=
  (d' = d ∨ d.live ∧ d' = d.withdraw .expired (now.add quarantine) now) ∧
    (d'.live → ∀ l ∈ ended, d.ofLease l.accountID l.id → l.generation < d.previewGeneration)

/-- A record when the leases `ended` have ended: none of theirs is live. -/
def RecordEnded (ended : List Lease) (now : Time) (r r' : StoredCertificate) : Prop :=
  (r' = r ∨ r' = r.mark .revoked "preview_lease_terminal" now) ∧
    ∀ l ∈ ended, Tables.ownedRecord l.accountID l.id r' = false

theorem domainEnded_trans {d d1 d2 : PreviewDomain} (h : DomainEnded ended now d d1)
    (h' : DomainEnded ended' now d1 d2) : DomainEnded (ended ++ ended') now d d2 := by
  obtain ⟨hstep, hleft⟩ := h
  obtain ⟨hstep', hleft'⟩ := h'
  rcases hstep' with rfl | ⟨hlive, rfl⟩
  · refine ⟨hstep, fun hl l hmem hof => ?_⟩
    rcases mem_append.1 hmem with hmem | hmem
    · exact hleft hl l hmem hof
    rcases hstep with rfl | ⟨-, rfl⟩
    · exact hleft' hl l hmem hof
    · cases hl
  · rcases hstep with rfl | ⟨-, rfl⟩
    · exact ⟨.inr ⟨hlive, rfl⟩, fun hl => by cases hl⟩
    · cases hlive

theorem recordEnded_trans {r r1 r2 : StoredCertificate}
    (h : RecordEnded ended now r r1) (h' : RecordEnded ended' now r1 r2) : RecordEnded (ended ++ ended') now r r2 := by
  obtain ⟨hstep, hgone⟩ := h
  obtain ⟨hstep', hgone'⟩ := h'
  rcases hstep' with rfl | rfl
  · refine ⟨hstep, fun l hmem => ?_⟩
    rcases mem_append.1 hmem with hmem | hmem
    · exact hgone l hmem
    · exact hgone' l hmem
  · refine ⟨.inr ?_, fun l hmem => by simp [Tables.ownedRecord, StoredCertificate.mark]⟩
    rcases hstep with rfl | rfl <;> rfl

/-- Domains and records when the leases `ended` have ended. -/
structure Withdrawn (ended : List Lease) (now : Time) (s s' : Tables) : Prop where
  leases : s'.leases = s.leases
  domains : List.Forall₂ (DomainEnded ended now) s.domains.rows s'.domains.rows
  records : List.Forall₂ (RecordEnded ended now) s.records.rows s'.records.rows
  checks : ∀ d' ∈ s'.domains.rows, d'.checks ∨ d' ∈ s.domains.rows

theorem Withdrawn.trans {s1 s2 : Tables} (h : Withdrawn ended now s s1)
    (h' : Withdrawn ended' now s1 s2) : Withdrawn (ended ++ ended') now s s2 where
  leases := h'.leases.trans h.leases
  domains := (forall₂_comp h.domains h'.domains).imp fun _ _ ⟨_, ha, hb⟩ => domainEnded_trans ha hb
  records := (forall₂_comp h.records h'.records).imp fun _ _ ⟨_, ha, hb⟩ => recordEnded_trans ha hb
  checks d' hd' := (h'.checks d' hd').elim .inl (h.checks d')

namespace Tables

theorem withdrawAll_withdrawn {l : Lease} (h : s.withdrawAll l now = .ok s') : Withdrawn [l] now s s' := by
  obtain ⟨s1, hd, hr⟩ := bind_eq_ok.1 h
  obtain ⟨hck, rfl⟩ := updateDomains_eq_ok.1 hd
  unfold revokeCertificates at hr
  split at hr
  · cases hr
  cases hr
  refine ⟨rfl, ?_, ?_, ?_⟩
  · refine forall₂_update (fun d => d.withdraw_id _ _ _) fun d _ => ?_
    split
    · next hsel =>
      simp only [Bool.and_eq_true] at hsel
      exact ⟨.inr ⟨hsel.2, rfl⟩, fun hl => by cases hl⟩
    · next hsel =>
      refine ⟨.inl rfl, fun hlive x hx hof => ?_⟩
      obtain rfl := mem_singleton.1 hx
      simp only [hof, hlive, Bool.true_and, Bool.and_true, decide_eq_true_eq] at hsel
      omega
  · refine forall₂_update (fun r => r.mark_id _ _ _) fun r _ => ?_
    split
    · exact ⟨.inr rfl, fun l _ => by simp [ownedRecord, StoredCertificate.mark]⟩
    next hsel =>
    refine ⟨.inl rfl, fun x hx => ?_⟩
    obtain rfl := mem_singleton.1 hx
    simpa using hsel
  · intro d' hd'
    rw [mem_update] at hd'
    rcases hd' with ⟨d, hd, hsel, rfl⟩ | ⟨hd, -⟩
    · exact .inl (hck d hd hsel)
    · exact .inr hd

theorem withdraw_fold {ids : List String} (h : ids.foldlM (fun (s : Tables) id => match s.leases.find id with
      | some l => s.withdrawAll l now
      | none => .error .notFound) s = .ok s') : Withdrawn (ids.filterMap s.leases.find) now s s' := by
  induction ids generalizing s with
  | nil =>
    cases h
    refine ⟨rfl, forall₂_same.2 fun d _ => ⟨.inl rfl, fun _ l hl => by cases hl⟩,
      forall₂_same.2 fun r _ => ⟨.inl rfl, fun l hl => by cases hl⟩, fun d' hd' => .inr hd'⟩
  | cons _ _ ih =>
    rw [foldlM_cons] at h
    obtain ⟨s1, hone, hrest⟩ := bind_eq_ok.1 h
    split at hone
    · next l hl =>
      have hw := withdrawAll_withdrawn hone
      have := ih hrest
      rw [hw.leases] at this
      rw [filterMap_cons_some hl]
      exact hw.trans this
    · cases hone

end Tables

structure LeaseEnded (l l' : Lease) : Prop where
  terminal : l'.terminalState ≠ .active
  accountID : l'.accountID = l.accountID
  generation : l'.generation = l.generation + 1
  leaseDeadline : l'.leaseDeadline = l.leaseDeadline
  userDeadline : l'.userDeadline = l.userDeadline

inductive Ending (s s' : Tables) : Prop where
  | intro (now : Time) (selected : Lease → Bool) (change : Lease → Lease) (keeps : ∀ l, (change l).id = l.id)
      (ended : List Lease) (hselected : ∀ l ∈ s.leases.rows, selected l → l.terminalState = .active ∧ change l ∈ ended)
      (hchange : ∀ l, LeaseEnded l (change l))
      (hwithdrawn : Withdrawn ended now { s with leases := s.leases.update selected change keeps } s')

namespace Tables

theorem terminateLeases_ending {ids : List String} {state : TerminalState} (hst : state ≠ .active)
    (hids : ∀ l ∈ s.leases.rows, ids.contains l.id → l.terminalState = .active)
    (h : s.terminateLeases ids state now = .ok s') : Ending s s' := by
  obtain ⟨-, h⟩ := check_eq_ok.1 h
  refine .intro now (fun l => ids.contains l.id) (·.terminate state now) (fun l => l.terminate_id _ _) _ ?_ ?_ (withdraw_fold h)
  · intro l hl hsel
    refine ⟨hids l hl hsel, mem_filterMap.2 ⟨l.id, by simpa using hsel, ?_⟩⟩
    rw [find_update, find_eq_some.2 ⟨hl, rfl⟩, Option.map_some, if_pos hsel]
  · exact fun l => ⟨hst, rfl, rfl, rfl, rfl⟩

theorem mem_candidates {rows : List Lease} {selected : Lease → Bool} {before : Lease → Lease → Bool} {limit : Nat}
    (hkeys : (rows.map Lease.id).Nodup) (hl : l ∈ rows)
    (h : ((((rows.filter selected).mergeSort before).take limit).map (·.id)).contains l.id) : selected l := by
  obtain ⟨x, hx, hid⟩ := mem_map.1 (contains_iff_mem.1 h)
  have hsel := mem_filter.1 ((mergeSort_perm _ _).mem_iff.1 (mem_of_mem_take hx))
  rw [← inj_on_of_nodup_map hkeys hsel.1 hl hid]
  exact hsel.2

theorem reconcileLeases_ending {i : ReconcileLeases} {inactive : Lease → Bool} (h : s.reconcileLeases i inactive = .ok s') :
    ∃ mid, Ending s mid ∧ Ending mid s' := by
  obtain ⟨-, h⟩ := check_eq_ok.1 h
  obtain ⟨mid, hexp, hlost⟩ := bind_eq_ok.1 h
  refine ⟨mid, terminateLeases_ending (by decide) (fun l hl hc => ?_) hexp,
    terminateLeases_ending (by decide) (fun l hl hc => ?_) hlost⟩
  · have := mem_candidates s.leases.keys hl hc
    simp only [expiredRow, Bool.and_eq_true, beq_iff_eq] at this
    exact this.1
  · have := mem_candidates mid.leases.keys hl hc
    simp only [lostRow, Bool.and_eq_true, beq_iff_eq] at this
    exact this.1.1

theorem advanceLifecycle_eq_ok {device session : String} {expected : Nat} {seenAt : Time}
    (h : s.advanceLifecycle accountID previewID device session expected seenAt = .ok s') :
    ∃ l, s.lease? accountID previewID = some l ∧ l.ownerDeviceID = device ∧ l.ownerSessionID = session ∧
      l.terminalState = .active ∧ l.generation = expected ∧
      s' = { s with leases := s.leases.update (·.id == previewID) (·.advance seenAt) fun l => l.advance_id _ } := by
  unfold advanceLifecycle at h
  split at h
  · next l hl =>
    split at h
    · next hc => exact ⟨l, hl, hc.1, hc.2.1, hc.2.2.1, hc.2.2.2, (setLease_eq_ok.1 h).2⟩
    · cases h
  · cases h

theorem lease?_update (change : Lease → Lease) (keeps : ∀ l, (change l).id = l.id)
    (hacc : (change l).accountID = l.accountID) (h : s.lease? accountID previewID = some l) :
    Tables.lease? { s with leases := s.leases.update (·.id == previewID) change keeps } accountID previewID = some (change l) := by
  obtain ⟨hl, rfl, rfl⟩ := lease?_eq_some.1 h
  exact lease?_eq_some.2 ⟨mem_update_of_selected keeps hl (by simp), keeps l, hacc⟩

theorem stopRow_eq_ok (hl : s.lease? accountID previewID = some l)
    (hact : l.terminalState = .active) (h : s.stopRow accountID previewID now = .ok s') :
    s' = { s with leases := s.leases.update (·.id == previewID) (·.stop now) fun l => l.stop_id _ } := by
  unfold stopRow at h
  rw [hl] at h
  simp only [hact, if_true] at h
  exact (setLease_eq_ok.1 h).2

theorem update_lease_twice (s : Tables) (id : String) (change change' : Lease → Lease) (keeps : ∀ l, (change l).id = l.id)
    (keeps' : ∀ l, (change' l).id = l.id) : (s.leases.update (·.id == id) change keeps).update (·.id == id) change' keeps' =
      s.leases.update (·.id == id) (fun l => change' (change l)) fun l => (keeps' _).trans (keeps l) :=
  update_update fun l => by rw [keeps]

end Tables

theorem eq_of_id {accountID previewID : String} {l x : Lease} (h : s.lease? accountID previewID = some l)
    (hx : x ∈ s.leases.rows) (hid : (x.id == previewID)) : x = l := by
  obtain ⟨hl, hlid, -⟩ := Tables.lease?_eq_some.1 h
  exact eq_of_key hx hl ((beq_iff_eq.1 hid).trans hlid.symm)

/-! ## Effects -/

inductive Effect (s : Tables) : Op → Tables → Prop where
  | kept {op : Op} {s' : Tables} (h : SameRows s s') : Effect s op s'
  /-- A lease that was not there, with its domains. -/
  | created {hosts : Hosts} {i : CreateLease} {shared : Option Bool} {env : Surroundings} {s' : Tables} (l : Lease)
      (ds : List PreviewDomain) (hfresh : s.leases.find l.id = none) (hactive : l.terminalState = .active)
      (hdeadline : l.userDeadline.all (fun t => !l.leaseDeadline.after t))
      (hds : ∀ d ∈ ds, d.ofLease l.accountID l.id ∧ d.live ∧ d.previewGeneration = l.generation ∧ d.checks)
      (hleases : s'.leases.rows = s.leases.rows ++ [l]) (hdomains : s'.domains.rows = s.domains.rows ++ ds)
      (hrecords : s'.records = s.records) (hscope : validScope l.accountID l.id) (hfew : ds.length ≤ maxDomains) :
      Effect s (.createLease hosts i shared env) s'
  /-- A lease at its next generation, with its domains and those certificates that `mid` rebinds. -/
  | renewed {i : RenewLease} {s' mid : Tables} (l : Lease) (expiresAt : Time)
      (hlease : s.lease? i.accountID i.previewID = some l) (hactive : l.terminalState = .active)
      (hafter : i.leaseDeadline.after i.now) (huser : l.userDeadline.all (fun t => !i.leaseDeadline.after t))
      (hchecks : ∀ d' ∈ mid.domains.rows, d'.checks ∨ d' ∈ s.domains.rows)
      (hmidLeases : mid.leases = s.leases.update (·.id == i.previewID) (fun l => (l.advance i.now).renew i.leaseDeadline i.now)
        fun l => ((l.advance i.now).renew_id _ _).trans (l.advance_id i.now))
      (hmidDomains : mid.domains = s.domains.update
        (fun d => d.ofLease i.accountID i.previewID && d.previewGeneration == l.generation && d.live)
        (·.advance (l.generation + 1) i.now) fun d => d.advance_id _ _)
      (hleases : s'.leases = mid.leases) (hdomains : s'.domains = mid.domains)
      (hrecords : s'.records = s.records.update
        (mid.rebinds i.accountID i.previewID l.generation (l.generation + 1) i.now)
        (·.rebind (l.generation + 1) expiresAt i.now) fun r => r.rebind_id _ _ _) :
      Effect s (.renewLease i) s'
  /-- A lease at its next generation, and nothing else. -/
  | marked {i : MarkReady} {s' : Tables} (l : Lease) (hlease : s.lease? i.accountID i.previewID = some l)
      (hactive : l.terminalState = .active) (hgeneration : l.generation = i.expectedGeneration)
      (hleases : s'.leases = s.leases.update (·.id == i.previewID)
        (fun l => l.advanceReadiness.mark i.allocationState i.edgeState i.originState i.now)
        fun l => (l.advanceReadiness.mark_id _ _ _ _).trans l.advanceReadiness_id)
      (hdomains : s'.domains = s.domains) (hrecords : s'.records = s.records) : Effect s (.markReady i) s'
  | ended {op : Op} {s' : Tables} (mid : Tables) (h : Ending s mid) (h' : Ending mid s' ∨ SameRows mid s') : Effect s op s'
  /-- A domain under a lease that runs. -/
  | domainAdded {i : CreateDomain} {env : Surroundings} {s' : Tables} (d : PreviewDomain) (l : Lease)
      (hlease : s.lease? d.accountID d.previewID = some l)
      (hactive : l.terminalState = .active) (hlive : d.live) (hgeneration : d.previewGeneration = l.generation)
      (hchecks : d.checks) (hfresh : s.domains.find d.id = none) (hleases : s'.leases = s.leases)
      (hdomains : s'.domains.rows = s.domains.rows ++ [d]) (hrecords : s'.records = s.records)
      (hplace : (d.accountID, d.previewID) = (i.accountID, i.previewID)) : Effect s (.createDomain i env) s'
  /-- Domains that stay bound to their lease and its generation. -/
  | domainsChanged {op : Op} {s' : Tables} (selected : PreviewDomain → Bool) (change : PreviewDomain → PreviewDomain)
      (keeps : ∀ d, (change d).id = d.id)
      (hchange : ∀ d, (change d).accountID = d.accountID ∧ (change d).previewID = d.previewID ∧
        (change d).previewGeneration = d.previewGeneration ∧ ((change d).live = true → d.live = true))
      (hchecks : ∀ d ∈ s.domains.rows, selected d → (change d).checks = true) (hleases : s'.leases = s.leases)
      (hdomains : s'.domains = s.domains.update selected change keeps) (hrecords : s'.records = s.records) : Effect s op s'
  | recorded {op : Op} {s' : Tables} (hleases : s'.leases = s.leases) (hdomains : s'.domains = s.domains)
      (horigin : ∀ r' ∈ s'.records.rows, Origin s r') : Effect s op s'

namespace Tables

variable {a : Tables} {generation : Nat} {requests : List DomainRequest} {i : CreateLease} {hosts : Hosts}

variable {op : Op} {env : Surroundings} {replayed : Bool}

theorem effect_same {b : Tables} (hs : SameRows s a) (hb : SameRows b s') (h : Effect a op b) : Effect s op s' := by
  obtain ⟨leases, domains, records, _, _⟩ := s
  obtain ⟨leases', domains', records', _, _⟩ := s'
  obtain ⟨⟨⟩, ⟨⟩, ⟨⟩⟩ := hs
  obtain ⟨⟨⟩, ⟨⟩, ⟨⟩⟩ := hb
  -- Nothing that an effect says of the tables is about the operations.
  cases h with
  | kept h => exact .kept ⟨h.leases, h.domains, h.records⟩
  | created l ds hfr hact hdl hds hls hdomains hrs hscope hfew =>
    exact .created l ds hfr hact hdl hds hls hdomains hrs hscope hfew
  | renewed l expiresAt hle hact haf huser hck hml hmd hls hdomains hrs =>
    exact .renewed l expiresAt hle hact haf huser hck hml hmd hls hdomains hrs
  | marked l hle hact hgen hls hdomains hrs => exact .marked l hle hact hgen hls hdomains hrs
  | ended mid h h' =>
    obtain ⟨now, selected, change, keeps, ended, hsel, hch, hw⟩ := h
    refine .ended mid (.intro now selected change keeps ended hsel hch ⟨hw.leases, hw.domains, hw.records, hw.checks⟩) ?_
    rcases h' with ⟨now, selected, change, keeps, ended, hsel, hch, hw⟩ | h'
    · exact .inl (.intro now selected change keeps ended hsel hch ⟨hw.leases, hw.domains, hw.records, hw.checks⟩)
    · exact .inr ⟨h'.leases, h'.domains, h'.records⟩
  | domainAdded d l hle hact hlive hgen hck hfr hls hdomains hrs hplace =>
    exact .domainAdded d l hle hact hlive hgen hck hfr hls hdomains hrs hplace
  | domainsChanged selected change keeps hch hck hls hdomains hrs =>
    exact .domainsChanged selected change keeps hch hck hls hdomains hrs
  | recorded hls hdomains hor =>
    refine .recorded hls hdomains fun r' hr' => ?_
    cases hor r' hr' with
    | kept r hmem htg hgen hst => exact .kept r hmem htg hgen hst
    | bound h => exact .bound h
    | other h => exact .other h

theorem effect_changeDomain {domainID : String} {expected : Nat} {also : PreviewDomain → Bool}
    {change : PreviewDomain → PreviewDomain} {keeps : ∀ d, (change d).id = d.id}
    (h : s.changeDomain accountID previewID domainID expected also change keeps = .ok s')
    (hch : ∀ d, (change d).accountID = d.accountID ∧ (change d).previewID = d.previewID ∧
      (change d).previewGeneration = d.previewGeneration ∧ ((change d).live = true → d.live = true)) : Effect s op s' := by
  unfold changeDomain at h
  simp only at h
  split at h
  · obtain ⟨hck, rfl⟩ := updateDomains_eq_ok.1 h
    exact .domainsChanged _ change keeps hch hck rfl rfl rfl
  · cases h

/-! ## Operation by operation -/

theorem insertLease_ok (h : s.insertLease l = .ok s') :
    ∃ leases, s.leases.insert l = some leases ∧ s' = { s with leases } := by
  unfold insertLease at h
  split at h
  · cases h
  split at h
  · cases h
  split at h
  · cases h
  split at h
  · next leases hi => exact ⟨leases, hi, (Except.ok.inj h).symm⟩
  · cases h

def AddsDomains (accountID previewID : String) (generation : Nat) (requests : List DomainRequest) (s s' : Tables) : Prop :=
  s'.leases = s.leases ∧ s'.records = s.records ∧ ∃ ds, ds.length = requests.length ∧ s'.domains.rows = s.domains.rows ++ ds ∧
    ∀ d ∈ ds, d.ofLease accountID previewID ∧ d.live ∧ d.previewGeneration = generation ∧ d.checks

theorem insertDomains_ok {target : String}
    (h : requests.foldlM (fun (s : Tables) r => s.insertDomain (r.row accountID previewID generation target now)
      (env.claimed r.hostname) env.dbNow) s = .ok s') : AddsDomains accountID previewID generation requests s s' := by
  induction requests generalizing s with
  | nil =>
    cases h
    exact ⟨rfl, rfl, [], rfl, by simp, by simp⟩
  | cons r _ ih =>
    obtain ⟨s1, hone, hrest⟩ := bind_eq_ok.1 h
    obtain ⟨hck, domains, hi, rfl⟩ := insertDomain_ok hone
    obtain ⟨hl, hr, ds, hlen, hds, hall⟩ := ih hrest
    refine ⟨hl, hr, r.row accountID previewID generation target now :: ds, congrArg (· + 1) hlen, ?_, ?_⟩
    · rw [hds, (insert_eq_some.1 hi).2, append_assoc, singleton_append]
    · intro d hd
      rcases mem_cons.1 hd with rfl | hd
      · exact ⟨by simp [PreviewDomain.ofLease, DomainRequest.row], rfl, rfl, hck⟩
      · exact hall d hd

theorem createDomains_ok {target : Option String}
    (h : s.createDomains accountID previewID generation target requests now env = .ok s') :
    AddsDomains accountID previewID generation requests s s' := by
  obtain ⟨-, h⟩ := check_eq_ok.1 h
  obtain ⟨lease, -, h⟩ := bind_eq_ok.1 h
  obtain ⟨-, h⟩ := check_eq_ok.1 h
  obtain ⟨-, h⟩ := check_eq_ok.1 h
  split at h
  · cases h
  · obtain ⟨-, h⟩ := check_eq_ok.1 h
    exact insertDomains_ok h

theorem CreateLease.deadline_of_valid (h : i.valid hosts) :
    i.userDeadline.all (fun t => !i.leaseDeadline.after t) := by
  simp only [CreateLease.valid, Bool.and_eq_true] at h
  have hu := h.1.2
  cases hd : i.userDeadline with
  | none => rfl
  | some =>
    rw [hd] at hu
    simp only [Option.all_some, Bool.and_eq_true] at hu
    exact hu.2

theorem effect_createLease {shared : Option Bool} (h : s.createLease hosts i shared env = .ok (l, replayed, s')) :
    Effect s (.createLease hosts i shared env) s' := by
  obtain ⟨hv, h⟩ := check_eq_ok.1 h
  obtain ⟨-, h⟩ := check_eq_ok.1 h
  split at h
  · obtain ⟨-, h⟩ := check_eq_ok.1 h
    split at h
    · cases h
    obtain ⟨lease, -, h⟩ := bind_eq_ok.1 h
    cases h
    exact .kept (.refl s)
  · simp only [bind_eq_ok] at h
    obtain ⟨s1, hop, s2, hins, lease, hget, s3, hdoms, s4, hdn, h⟩ := h
    cases h
    refine effect_same (insertOperation_same hop) (completeOperation_same hdn) ?_
    obtain ⟨leases, hi, rfl⟩ := insertLease_ok hins
    obtain ⟨hfree, hrows⟩ := insert_eq_some.1 hi
    -- The lease that is read back is the one that was inserted.
    obtain ⟨hmem, hid, -⟩ := lease?_eq_some.1 (getLease_eq_ok.1 hget)
    have hgen : l.generation = 1 := by
      have hmem' : l ∈ s1.leases.rows ++ [i.row env.dbNow] := hrows ▸ hmem
      rcases mem_append.1 hmem' with hold | hnew
      · exact absurd hid (hfree l hold)
      · rw [mem_singleton.1 hnew]
        rfl
    obtain ⟨hl, hr, ds, hlen, hds, hall⟩ : AddsDomains i.accountID i.leaseID 1 i.domains { s1 with leases } s3 := by
      unfold createLeaseDomains at hdoms
      split at hdoms
      · next hnone =>
        cases hdoms
        exact ⟨rfl, rfl, [], by simp_all, by simp, by simp⟩
      · exact hgen ▸ createDomains_ok hdoms
    have hv : i.valid hosts := by simpa using hv
    refine .created (i.row env.dbNow) ds ?_ rfl (CreateLease.deadline_of_valid hv) hall (hl ▸ hrows) hds hr ?_ ?_
    · refine List.find?_eq_none.2 fun l hl => ?_
      simpa using hfree l hl
    all_goals simp only [CreateLease.valid, all_cons, Bool.and_eq_true, decide_eq_true_eq] at hv
    · simp [validScope, CreateLease.row, hv]
    · exact hlen.trans_le hv.2

theorem effect_renewLease {i : RenewLease} (h : s.renewLease i = .ok (l, replayed, s')) : Effect s (.renewLease i) s' := by
  obtain ⟨-, h⟩ := check_eq_ok.1 h
  obtain ⟨begun, hbg, h⟩ := bind_eq_ok.1 h
  cases begun with
  | replayed =>
    obtain ⟨lease, -, h⟩ := bind_eq_ok.1 h
    cases h
    exact .kept (.refl s)
  | fresh s1 =>
    obtain ⟨current, hcur, h⟩ := bind_eq_ok.1 h
    obtain ⟨hact, h⟩ := check_eq_ok.1 h
    obtain ⟨hgen, h⟩ := check_eq_ok.1 h
    obtain ⟨haf, h⟩ := check_eq_ok.1 h
    obtain ⟨huser, h⟩ := check_eq_ok.1 h
    obtain ⟨s2, hadvance, h⟩ := bind_eq_ok.1 h
    obtain ⟨s3, hext, h⟩ := bind_eq_ok.1 h
    obtain ⟨lease, hle, h⟩ := bind_eq_ok.1 h
    obtain ⟨s4, hds, h⟩ := bind_eq_ok.1 h
    obtain ⟨s5, hrb, h⟩ := bind_eq_ok.1 h
    obtain ⟨s6, hdn, h⟩ := bind_eq_ok.1 h
    cases h
    refine effect_same (beginOperation_fresh hbg) (completeOperation_same hdn) ?_
    have hfd := getLease_eq_ok.1 hcur
    simp only [refuseIf_eq_ok, bne_eq_false_iff_eq, Bool.not_eq_false'] at hact haf
    have huser' : current.userDeadline.all (fun t => !i.leaseDeadline.after t) := by
      cases hd : current.userDeadline with
      | none => rfl
      | some =>
        rw [hd] at huser
        simpa using huser
    obtain ⟨l', hl', -, -, -, -, rfl⟩ := advanceLifecycle_eq_ok hadvance
    have hadv := lease?_update (·.advance i.now) (fun l => l.advance_id _) rfl hfd
    unfold extendLease at hext
    rw [hadv] at hext
    simp only at hext
    rw [if_pos ⟨hact, huser'⟩] at hext
    obtain ⟨-, rfl⟩ := setLease_eq_ok.1 hext
    have hextended := lease?_update (·.renew i.leaseDeadline i.now) (fun l => l.renew_id _ _) rfl hadv
    have hread := Option.some.inj (hextended.symm.trans (getLease_eq_ok.1 hle))
    subst hread
    obtain ⟨hck, rfl⟩ := updateDomains_eq_ok.1 hds
    unfold rebindCertificates at hrb
    split at hrb
    · cases hrb
    cases hrb
    refine .renewed current _ hfd hact haf huser' ?_
      (update_lease_twice s1 _ (·.advance i.now) (·.renew i.leaseDeadline i.now) (fun l => l.advance_id _) fun l => l.renew_id _ _)
      rfl rfl rfl rfl
    intro d' hd'
    rw [mem_update] at hd'
    rcases hd' with ⟨d, hd, hsel, rfl⟩ | ⟨hd, -⟩
    · exact .inl (hck d hd hsel)
    · exact .inr hd

theorem effect_stopLease {i : StopLease} {allowed : Bool}
    (h : s.stopLease i allowed = .ok (l, replayed, s')) : Effect s op s' := by
  obtain ⟨-, h⟩ := check_eq_ok.1 h
  obtain ⟨-, h⟩ := check_eq_ok.1 h
  obtain ⟨begun, hbg, h⟩ := bind_eq_ok.1 h
  cases begun with
  | replayed =>
    obtain ⟨lease, -, h⟩ := bind_eq_ok.1 h
    cases h
    exact .kept (.refl s)
  | fresh s1 =>
    have hsame := beginOperation_fresh hbg
    obtain ⟨current, hcur, h⟩ := bind_eq_ok.1 h
    split at h
    · obtain ⟨s2, hdn, h⟩ := bind_eq_ok.1 h
      cases h
      exact .kept (hsame.trans (completeOperation_same hdn))
    · next hact =>
      have hact := not_not.1 hact
      obtain ⟨-, h⟩ := check_eq_ok.1 h
      obtain ⟨s2, hadvance, h⟩ := bind_eq_ok.1 h
      obtain ⟨s3, hstop, h⟩ := bind_eq_ok.1 h
      obtain ⟨stopped, hstopped, h⟩ := bind_eq_ok.1 h
      obtain ⟨s4, hwithdraw, h⟩ := bind_eq_ok.1 h
      obtain ⟨s5, hdn, h⟩ := bind_eq_ok.1 h
      cases h
      refine effect_same hsame (completeOperation_same hdn) (.ended s4 ?_ (.inr (.refl s4)))
      have hfd := getLease_eq_ok.1 hcur
      obtain ⟨-, -, -, -, -, -, rfl⟩ := advanceLifecycle_eq_ok hadvance
      have hadv := lease?_update (·.advance current.ownerLastSeenAt) (fun l => l.advance_id _) rfl hfd
      obtain rfl := stopRow_eq_ok hadv hact hstop
      have hread := Option.some.inj ((lease?_update (·.stop i.now) (fun l => l.stop_id _) rfl hadv).symm.trans
        (getLease_eq_ok.1 hstopped))
      subst hread
      have hw := withdrawAll_withdrawn hwithdraw
      rw [update_lease_twice s1 _ (·.advance current.ownerLastSeenAt) (·.stop i.now) (fun l => l.advance_id _)
        fun l => l.stop_id _] at hw
      refine .intro i.now _ (fun l => (l.advance current.ownerLastSeenAt).stop i.now) _ _ ?_
        (fun l => ⟨?_, rfl, rfl, rfl, rfl⟩) hw
      · intro x hx hsel
        obtain ⟨hmem, hid, -⟩ := lease?_eq_some.1 hfd
        obtain rfl : x = current := eq_of_key hx hmem ((beq_iff_eq.1 hsel).trans hid.symm)
        exact ⟨hact, mem_singleton.2 rfl⟩
      · intro hterm
        cases hterm

theorem effect_markReady {i : MarkReady} (h : s.markReady i = .ok (l, s')) : Effect s (.markReady i) s' := by
  obtain ⟨-, h⟩ := check_eq_ok.1 h
  obtain ⟨current, hcur, h⟩ := bind_eq_ok.1 h
  split at h
  · cases h
    exact .kept (.refl s)
  next hact =>
  obtain ⟨hgen, h⟩ := check_eq_ok.1 h
  obtain ⟨s1, hmark, h⟩ := bind_eq_ok.1 h
  obtain ⟨updated, -, h⟩ := bind_eq_ok.1 h
  simp only [Except.ok.injEq, Prod.mk.injEq] at h
  obtain ⟨-, rfl⟩ := h
  have hsame : SameRows s1
      (if updated.allocationState = .failed then s1.settleCreateOperation i.accountID i.previewID (·.open) .failed
      else if updated.allocationState = .ready ∧ updated.edgeState = .ready ∧ updated.originState = .ready then
        s1.settleCreateOperation i.accountID i.previewID (·.open) .succeeded
      else s1) := by
    split
    · exact settleCreateOperation_same _ _ _ _ _
    split
    · exact settleCreateOperation_same _ _ _ _ _
    · exact .refl s1
  refine effect_same (.refl s) hsame ?_
  obtain ⟨s2, hadv, hset⟩ := bind_eq_ok.1 hmark
  obtain ⟨-, rfl⟩ := setLease_eq_ok.1 hadv
  obtain ⟨-, rfl⟩ := setLease_eq_ok.1 hset
  exact .marked current (getLease_eq_ok.1 hcur) (not_not.1 hact) (by simpa using hgen)
    (update_lease_twice s _ (·.advanceReadiness) (·.mark i.allocationState i.edgeState i.originState i.now)
      (fun l => l.advanceReadiness_id) fun l => l.mark_id _ _ _ _) rfl rfl

theorem effect_createDomain {i : CreateDomain} (h : s.createDomain i env = .ok s') : Effect s (.createDomain i env) s' := by
  obtain ⟨-, h⟩ := check_eq_ok.1 h
  obtain ⟨-, h⟩ := check_eq_ok.1 h
  obtain ⟨lease, hle, h⟩ := bind_eq_ok.1 h
  obtain ⟨hact, h⟩ := check_eq_ok.1 h
  obtain ⟨hgen, h⟩ := check_eq_ok.1 h
  obtain ⟨begun, hbg, h⟩ := bind_eq_ok.1 h
  cases begun with
  | replayed =>
    simp only at h
    split at h
    · cases h
      exact .kept (.refl s)
    · cases h
  | fresh =>
    have hsame := beginOperation_fresh hbg
    obtain ⟨s2, hins, hdn⟩ := bind_eq_ok.1 h
    refine effect_same hsame (completeOperation_same hdn) ?_
    obtain ⟨hck, domains, hi, rfl⟩ := insertDomain_ok hins
    obtain ⟨hfree, hrows⟩ := insert_eq_some.1 hi
    simp only [requireActiveLease, refuseIf_eq_ok, Bool.or_eq_false_iff, bne_eq_false_iff_eq] at hact hgen
    refine .domainAdded _ lease ?_ hact.1 rfl hgen hck ?_ rfl hrows rfl rfl
    · exact (hsame.lease? _ _).trans (getLease_eq_ok.1 hle)
    · refine List.find?_eq_none.2 fun d hd => ?_
      simpa using hfree d hd

theorem effect_mutateDomain {i : ChangeDomain} {verify : Bool} (h : s.mutateDomain i verify = .ok s') : Effect s op s' := by
  obtain ⟨-, h⟩ := check_eq_ok.1 h
  obtain ⟨lease, -, h⟩ := bind_eq_ok.1 h
  obtain ⟨-, h⟩ := check_eq_ok.1 h
  obtain ⟨begun, hbg, h⟩ := bind_eq_ok.1 h
  split at h
  · cases h
  cases begun with
  | replayed =>
    cases h
    exact .kept (.refl s)
  | fresh =>
    simp only [check_eq_ok] at h
    obtain ⟨-, -, -, h⟩ := h
    have hsame := beginOperation_fresh hbg
    split at h
    all_goals
      obtain ⟨s2, hch, hdn⟩ := bind_eq_ok.1 h
      refine effect_same hsame (completeOperation_same hdn) (effect_changeDomain hch fun d => ⟨rfl, rfl, rfl, fun hl => ?_⟩)
    · exact hl
    · cases hl

theorem effect_applyObservation {o : Observation} (h : s.applyObservation o = .ok s') : Effect s op s' := by
  obtain ⟨-, h⟩ := check_eq_ok.1 h
  obtain ⟨-, h⟩ := check_eq_ok.1 h
  obtain ⟨lease, -, h⟩ := bind_eq_ok.1 h
  obtain ⟨-, h⟩ := check_eq_ok.1 h
  obtain ⟨s1, hch, h⟩ := bind_eq_ok.1 h
  cases h
  refine effect_same (.refl s) ?_ (effect_changeDomain hch fun d => ⟨rfl, rfl, rfl, id⟩)
  split
  · exact ⟨rfl, rfl, rfl⟩
  · exact .refl s1

theorem effect_release (h : s.releaseExpiredQuarantines now = .ok s') : Effect s op s' := by
  obtain ⟨-, h⟩ := check_eq_ok.1 h
  obtain ⟨hck, rfl⟩ := updateDomains_eq_ok.1 h
  exact .domainsChanged _ _ (fun d => d.release_id _) (fun d => ⟨rfl, rfl, rfl, id⟩) hck rfl rfl rfl

theorem effect_of_exec (h : s.exec op = .ok s') : Effect s op s' := by
  cases op with
  | createLease =>
    obtain ⟨⟨l, replayed, s1⟩, hr, rfl⟩ := map_ok h
    exact effect_createLease hr
  | renewLease =>
    obtain ⟨⟨l, replayed, s1⟩, hr, rfl⟩ := map_ok h
    exact effect_renewLease hr
  | stopLease =>
    obtain ⟨⟨l, replayed, s1⟩, hr, rfl⟩ := map_ok h
    exact effect_stopLease hr
  | markReady =>
    obtain ⟨⟨l, s1⟩, hr, rfl⟩ := map_ok h
    exact effect_markReady hr
  | markUncertain =>
    obtain ⟨-, h⟩ := check_eq_ok.1 h
    split at h
    · cases h
      exact .kept (.refl s)
    split at h
    · cases h
    · cases h
      exact .kept (.refl s)
  | reconcileLeases =>
    obtain ⟨mid, h1, h2⟩ := reconcileLeases_ending h
    exact .ended mid h1 (.inl h2)
  | createDomain => exact effect_createDomain h
  | mutateDomain => exact effect_mutateDomain h
  | applyObservation => exact effect_applyObservation h
  | releaseQuarantines => exact effect_release h
  | commitCertificate =>
    obtain ⟨-, h⟩ := check_eq_ok.1 h
    exact effect_changeDomain h fun d => ⟨rfl, rfl, rfl, id⟩
  | certificate =>
    simp only [exec] at h
    split at h
    · next w hw =>
      cases h
      exact .recorded rfl rfl (origin_of_call hw)
    · cases h

theorem effect_of_step (s : Tables) (op : Op) : Effect s op (s.step op) := by
  unfold step
  split
  · next s' h => exact effect_of_exec h
  · exact .kept (.refl s)

end Tables

end Paperboat.Previews

import Paperboat.Attachments.Changes
/-!
# The latest admission of a row

In every state reached a live row has a latest admission. It is for the carrier of the
row and, until the edge acknowledges it, for the row as it is. Then the row moves on:
its generation is a later one, and at most the generation of its lease and its time
have been renewed since.
-/

namespace Paperboat.Attachments

open Lib Table

variable {r : Row} {g : Nat} {ad : Admission} {codec : Codec}

structure Latest (codec : Codec) (ads : Nat → Option Admission) (r : Row) (g : Nat) (ad : Admission) : Prop where
  queued : ads g = some ad
  last : ∀ g' ad', ads g' = some ad' → g' ≤ g ∧ ad'.binding.leaseGeneration ≤ ad.binding.leaseGeneration
  lease : ad.binding.leaseGeneration ≤ r.binding.leaseGeneration
  binding : { ad.binding with leaseGeneration := r.binding.leaseGeneration } = r.binding
  config : ad.configContentHash = r.configContentHash
  /-- It asks for the row as it is. -/
  pending : r.state = .pending → g = r.attachmentGeneration ∧
    ∃ p, ad = (r.attached p).admission ∧ (r.attached p).validate codec = .ok ()
  moved : r.state ≠ .pending → g < r.attachmentGeneration ∧ ad.delivered

namespace Latest

variable {ads : Nat → Option Admission} {r' : Row}

theorem fresh {p : Previews.Lease} (hold : ∀ g ad, ads g = some ad → g < r.attachmentGeneration ∧
      ad.binding.leaseGeneration ≤ r.binding.leaseGeneration) (hpd : r.state = .pending)
    (hv : (r.attached p).validate codec = .ok ()) :
    Latest codec (fun g => (ads g).or (if g = r.attachmentGeneration then some (r.attached p).admission else none)) r
      r.attachmentGeneration (r.attached p).admission where
  queued := by
    have hnone : ads r.attachmentGeneration = none := by
      rw [Option.eq_none_iff_forall_ne_some]
      exact fun ad had => absurd (hold _ ad had).1 (lt_irrefl _)
    simp [hnone]
  last := by
    intro g' ad' had'
    rcases Option.or_eq_some_iff.1 had' with hads | ⟨-, hnew⟩
    · exact ⟨(hold g' ad' hads).1.le, (hold g' ad' hads).2⟩
    split at hnew
    · next heq =>
      rw [← Option.some.inj hnew]
      exact ⟨heq.le, le_refl _⟩
    · cases hnew
  lease := le_refl _
  binding := rfl
  config := rfl
  pending := fun _ => ⟨rfl, p, rfl, hv⟩
  moved := fun h => absurd hpd h

theorem keep (h : Latest codec ads r g ad) (hmv : r.state ≠ .pending) (hmoved' : r'.state ≠ .pending)
    (hgen : r.attachmentGeneration ≤ r'.attachmentGeneration)
    (hbd : r'.binding = { r.binding with leaseGeneration := r'.binding.leaseGeneration })
    (hle : r.binding.leaseGeneration ≤ r'.binding.leaseGeneration) (hcf : r'.configContentHash = r.configContentHash) :
    Latest codec ads r' g ad where
  queued := h.queued
  last := h.last
  lease := h.lease.trans hle
  binding := by
    rw [hbd, ← h.binding]
  config := h.config.trans hcf.symm
  pending := fun hp => absurd hp hmoved'
  moved := fun _ => ⟨(h.moved hmv).1.trans_le hgen, (h.moved hmv).2⟩

def acknowledgedAt (generation : Nat) (ads : Nat → Option Admission) : Nat → Option Admission := fun g =>
  if g = generation then (ads g).map fun ad => { ad with delivered := true } else ads g

theorem acknowledgedAt_last {generation : Nat} (h : Latest codec ads r g ad) :
    ∀ g' ad', acknowledgedAt generation ads g' = some ad' →
      g' ≤ g ∧ ad'.binding.leaseGeneration ≤ ad.binding.leaseGeneration := by
  intro g' ad' had'
  unfold acknowledgedAt at had'
  split at had'
  · obtain ⟨ad0, had0, rfl⟩ := Option.map_eq_some_iff.1 had'
    exact h.last g' ad0 had0
  · exact h.last g' ad' had'

theorem acknowledge (h : Latest codec ads r g ad) (hpd : r.state = .pending) :
    Latest codec (acknowledgedAt r.attachmentGeneration ads) r.markAdmitted g { ad with delivered := true } where
  queued := by
    rw [acknowledgedAt, if_pos (h.pending hpd).1, h.queued]
    rfl
  last := h.acknowledgedAt_last
  lease := h.lease
  binding := h.binding
  config := h.config
  pending := fun hp => State.noConfusion hp
  moved := fun _ => ⟨Nat.lt_succ_of_le (h.pending hpd).1.le, rfl⟩

theorem acknowledge_late (h : Latest codec ads r g ad) (hmv : r.state ≠ .pending) (generation : Nat) :
    Latest codec (acknowledgedAt generation ads) r g ad where
  queued := by
    unfold acknowledgedAt
    split
    · rw [h.queued, Option.map_some, ← (h.moved hmv).2]
    · exact h.queued
  last := h.acknowledgedAt_last
  lease := h.lease
  binding := h.binding
  config := h.config
  pending := h.pending
  moved := h.moved

end Latest

/-! ## Every state reached -/

structure World.Sound (codec : Codec) (w : World) : Prop where
  checks : ∀ r ∈ w.rows.rows, r.checks
  owned : ∀ key g ad, w.admissions key g = some ad → ∃ r ∈ w.rows.rows, r.key = key ∧ g ≤ r.attachmentGeneration
  live : ∀ r ∈ w.rows.rows, r.live → ∃ g ad, Latest codec (w.admissions r.key) r g ad

namespace World.Sound

variable {key' : String × String} {generation : Nat} {p : Previews.Lease}

variable {ads : Admissions} {key : String × String}

variable {w w' : World}

theorem pending_admission (h : w.Sound codec) (hr : r ∈ w.rows.rows) (hpd : r.state = .pending) :
    ∃ p, w.admissions r.key r.attachmentGeneration = some (r.attached p).admission := by
  obtain ⟨g, ad, hlt⟩ := h.live r hr (Row.live_of hpd rfl)
  obtain ⟨rfl, p, rfl, -⟩ := hlt.pending hpd
  exact ⟨p, hlt.queued⟩

theorem undelivered (h : w.Sound codec) : w.Undelivered := by
  intro r hr hpd ad had
  obtain ⟨p, hqueued⟩ := h.pending_admission hr hpd
  rw [Option.some.inj (had.symm.trans hqueued)]
  rfl

theorem owned_le (h : w.Sound codec) (hr : w.rows.find r.key = some r)
    (had : w.admissions r.key g = some ad) : g ≤ r.attachmentGeneration := by
  obtain ⟨r', hr', hkey, hle⟩ := h.owned r.key g ad had
  rwa [← eq_of_find hr hr' hkey]

theorem latest (h : w.Sound codec) (hr : w.rows.find r.key = some r) (hlive : r.live) :
    ∃ g ad, Latest codec (w.admissions r.key) r g ad := h.live r (find_eq_some.1 hr).1 hlive

theorem focus (h : w.Sound codec) (hrows : ∀ o, o ∈ w'.rows.rows ↔ o = r ∨ o ∈ w.rows.rows ∧ o.key ≠ r.key)
    (hads : ∀ key, key ≠ r.key → w'.admissions key = w.admissions key) (hck : r.checks)
    (how : ∀ g ad, w'.admissions r.key g = some ad → g ≤ r.attachmentGeneration)
    (hlive : r.live → ∃ g ad, Latest codec (w'.admissions r.key) r g ad) : w'.Sound codec where
  checks := by
    intro o ho
    rcases (hrows o).1 ho with rfl | ⟨ho, -⟩
    · exact hck
    · exact h.checks o ho
  owned := by
    intro key g ad had
    by_cases hkey : key = r.key
    · subst hkey
      exact ⟨r, (hrows r).2 (.inl rfl), rfl, how g ad had⟩
    rw [hads key hkey] at had
    obtain ⟨o, ho, rfl, hle⟩ := h.owned key g ad had
    exact ⟨o, (hrows o).2 (.inr ⟨ho, hkey⟩), rfl, hle⟩
  live := by
    intro o ho holive
    rcases (hrows o).1 ho with rfl | ⟨ho, hkey⟩
    · exact hlive holive
    · rw [hads _ hkey]
      exact h.live o ho holive

theorem change {change : Row → Row} {keeps : ∀ r, (change r).key = r.key} (h : w.Sound codec) (hr : w.rows.find r.key = some r)
    (hrows : w'.rows = w.rows.update (·.key == r.key) change keeps)
    (hads : ∀ key, key ≠ r.key → w'.admissions key = w.admissions key) (hck : (change r).checks = true)
    (how : ∀ g ad, w'.admissions r.key g = some ad → g ≤ (change r).attachmentGeneration)
    (hlive : (change r).live = true → ∃ g ad, Latest codec (w'.admissions r.key) (change r) g ad) : w'.Sound codec := by
  have hkey := keeps r
  refine h.focus (r := change r) ?_ ?_ hck ?_ ?_
  · intro o
    rw [hrows, hkey]
    exact mem_update_key hr fun o => beq_iff_eq
  · rwa [hkey]
  · rwa [hkey]
  · rwa [hkey]

theorem pending_queued (h : w.Sound codec) (hr : w.rows.find r.key = some r) (hpd : r.state = .pending) :
    (w.admissions r.key r.attachmentGeneration).isSome := by
  obtain ⟨p, hqueued⟩ := h.pending_admission (find_eq_some.1 hr).1 hpd
  rw [hqueued]
  rfl

theorem queued_of_ne (h : key' ≠ key) : ads.queued key g ad key' = ads key' := by
  funext g'
  rw [Admissions.queued, if_neg fun heq => h heq.1, Option.or_none]

theorem acknowledged_of_ne (h : key' ≠ key) : ads.acknowledged key g key' = ads key' := by
  funext g'
  rw [Admissions.acknowledged, if_neg fun heq => h heq.1]

theorem queued_key : ads.queued key g ad key = fun g' => (ads key g').or (if g' = g then some ad else none) := by
  funext g'
  simp [Admissions.queued]

theorem acknowledged_key : ads.acknowledged key g key = Latest.acknowledgedAt g (ads key) := by
  funext g'
  simp [Admissions.acknowledged, Latest.acknowledgedAt]

theorem acknowledgedAt_le {ads : Nat → Option Admission} {n : Nat}
    (h : ∀ g ad, ads g = some ad → g ≤ n) (had : Latest.acknowledgedAt generation ads g = some ad) : g ≤ n := by
  unfold Latest.acknowledgedAt at had
  split at had
  · obtain ⟨ad0, had0, -⟩ := Option.map_eq_some_iff.1 had
    exact h g ad0 had0
  · exact h g ad had

theorem of_eq (h : w.Sound codec) (hrows : w'.rows = w.rows) (hads : w'.admissions = w.admissions) : w'.Sound codec where
  checks := hrows ▸ h.checks
  owned := by
    rw [hrows, hads]
    exact h.owned
  live := by
    rw [hrows, hads]
    exact h.live

theorem late (h : w.Sound codec) (hr : w.rows.find r.key = some r) (hmv : r.state ≠ .pending)
    (hrows : w'.rows = w.rows) (hads : w'.admissions = w.admissions.acknowledged r.key generation) : w'.Sound codec := by
  refine h.focus (r := r) ?_ ?_ (h.checks r (find_eq_some.1 hr).1) ?_ ?_
  · intro o
    rw [hrows]
    constructor
    · intro ho
      by_cases hkey : o.key = r.key
      · exact .inl (eq_of_find hr ho hkey)
      · exact .inr ⟨ho, hkey⟩
    · rintro (rfl | ⟨ho, -⟩)
      · exact (find_eq_some.1 hr).1
      · exact ho
  · intro key hkey
    rw [hads, acknowledged_of_ne hkey]
  · intro g ad had
    rw [hads, acknowledged_key] at had
    exact acknowledgedAt_le (fun g ad => h.owned_le hr) had
  · intro hlive
    obtain ⟨g, ad, hlt⟩ := h.latest hr hlive
    rw [hads, acknowledged_key]
    exact ⟨g, ad, hlt.acknowledge_late hmv generation⟩

theorem inserted (h : w.Sound codec) {a : Attachment} (hpd : a.state = .pending)
    (hgen : a.attachmentGeneration = 1) (hck : a.toRow.checks)
    (hv : (a.toRow.attached p).validate codec = .ok ()) (hfree : ∀ o ∈ w.rows.rows, o.key ≠ a.key)
    (hrows : w'.rows.rows = w.rows.rows ++ [a.toRow])
    (hads : w'.admissions = w.admissions.queued a.key 1 (a.toRow.attached p).admission) : w'.Sound codec := by
  -- There is no row of the key yet, and so no admission.
  have hnone : ∀ g ad, w.admissions a.key g ≠ some ad := by
    intro g ad had
    obtain ⟨o, ho, hkey, -⟩ := h.owned a.key g ad had
    exact hfree o ho hkey
  have hfr := Latest.fresh (r := a.toRow) (p := p) (fun g ad had => absurd had (hnone g ad)) hpd hv
  refine h.focus (r := a.toRow) ?_ ?_ hck ?_ ?_
  · intro o
    rw [hrows, List.mem_append, List.mem_singleton, or_comm]
    exact or_congr_right ⟨fun ho => ⟨ho, hfree o ho⟩, fun ho => ho.1⟩
  · intro key hkey
    rw [hads, queued_of_ne hkey]
  · intro g ad had
    rw [hads, queued_key, ← hgen] at had
    exact (hfr.last g ad had).1
  · intro _
    rw [hads, queued_key, ← hgen]
    exact ⟨_, _, hfr⟩

theorem admitted (h : w.Sound codec) (hr : w.rows.find r.key = some r) (hpd : r.state = .pending)
    (hck : r.markAdmitted.checks)
    (hrows : w'.rows = w.rows.update (·.key == r.key) Row.markAdmitted Row.markAdmitted_key)
    (hads : w'.admissions = w.admissions.acknowledged r.key r.attachmentGeneration) : w'.Sound codec := by
  refine h.change hr hrows ?_ hck ?_ ?_
  · intro key hkey
    rw [hads, acknowledged_of_ne hkey]
  · intro g ad had
    rw [hads, acknowledged_key] at had
    exact (acknowledgedAt_le (fun g ad => h.owned_le hr) had).trans (Nat.le_succ _)
  · intro _
    obtain ⟨g, ad, hlt⟩ := h.latest hr (Row.live_of hpd rfl)
    rw [hads, acknowledged_key]
    exact ⟨g, _, hlt.acknowledge hpd⟩

theorem moved (change : Row → Row) {keeps : ∀ r, (change r).key = r.key} (h : w.Sound codec) (hr : w.rows.find r.key = some r)
    (hlive : r.live) (hmv : r.state ≠ .pending) (hmoved' : (change r).state ≠ .pending)
    (hgen : r.attachmentGeneration ≤ (change r).attachmentGeneration)
    (hbd : (change r).binding = { r.binding with leaseGeneration := (change r).binding.leaseGeneration })
    (hle : r.binding.leaseGeneration ≤ (change r).binding.leaseGeneration)
    (hcf : (change r).configContentHash = r.configContentHash) (hck : (change r).checks = true)
    (hrows : w'.rows = w.rows.update (·.key == r.key) change keeps) (hads : w'.admissions = w.admissions) : w'.Sound codec := by
  refine h.change hr hrows ?_ hck ?_ ?_
  · intro key _
    rw [hads]
  · intro g ad had
    rw [hads] at had
    exact (h.owned_le hr had).trans hgen
  · intro _
    obtain ⟨g, ad, hlt⟩ := h.latest hr hlive
    rw [hads]
    exact ⟨g, ad, hlt.keep hmv hmoved' hgen hbd hle hcf⟩

theorem renewed (h : w.Sound codec) {next : Row} (hr : w.rows.find r.key = some r) (hlive : r.live)
    (hto : r.RenewableTo next) (hck : (r.renew next).checks)
    (hv : ((r.renew next).attached p).validate codec = .ok ())
    (hrows : w'.rows = w.rows.update (·.key == r.key) (·.renew next) (Row.renew_key _))
    (hads : w'.admissions = if (r.renew next).state = .pending then
      w.admissions.queued r.key (r.attachmentGeneration + 1) ((r.renew next).attached p).admission else w.admissions) :
    w'.Sound codec := by
  obtain ⟨g, ad, hlt⟩ := h.latest hr hlive
  by_cases hpd : (r.renew next).state = .pending
  · -- The row has to be admitted again.
    have hold : ∀ g' ad', w.admissions r.key g' = some ad' → g' < (r.renew next).attachmentGeneration ∧
        ad'.binding.leaseGeneration ≤ (r.renew next).binding.leaseGeneration := fun g' ad' had' =>
      ⟨Nat.lt_succ_of_le (h.owned_le hr had'), ((hlt.last g' ad' had').2.trans hlt.lease).trans hto.lease⟩
    have hfr := Latest.fresh (p := p) hold hpd hv
    rw [if_pos hpd] at hads
    refine h.change hr hrows ?_ hck ?_ ?_
    · intro key hkey
      rw [hads, queued_of_ne hkey]
    · intro g' ad' had'
      rw [hads, queued_key] at had'
      exact (hfr.last g' ad' had').1
    · intro _
      rw [hads, queued_key]
      exact ⟨_, _, hfr⟩
  · have hcr : r.carrier = next.carrier := by
      by_contra hoth
      rw [Row.renew_of_other_carrier hoth] at hpd
      exact hpd rfl
    have hren := Row.renew_of_same_carrier hcr
    have hst : (r.renew next).state = r.state := by rw [hren]
    rw [if_neg hpd] at hads
    have hbd : (r.renew next).binding = { r.binding with leaseGeneration := (r.renew next).binding.leaseGeneration } := by
      rw [hren]
    have hcf : (r.renew next).configContentHash = r.configContentHash := by rw [hren]
    exact moved (·.renew next) h hr hlive (hst ▸ hpd) hpd (Nat.le_succ _) hbd hto.lease hcf hck hrows hads

theorem expired (h : w.Sound codec) {now : Time}
    (hck : ∀ r ∈ w.rows.rows, World.overdue now r → r.expire.checks)
    (hrows : w'.rows = w.rows.update (World.overdue now) Row.expire Row.expire_key) (hads : w'.admissions = w.admissions) :
    w'.Sound codec where
  checks := by
    intro r hr
    rw [hrows] at hr
    rcases mem_update.1 hr with ⟨r0, hr0, hov, rfl⟩ | ⟨hr, -⟩
    · exact hck r0 hr0 hov
    · exact h.checks r hr
  owned := by
    intro key g ad had
    rw [hads] at had
    obtain ⟨r, hr, rfl, hle⟩ := h.owned key g ad had
    rw [hrows]
    by_cases hov : World.overdue now r
    · exact ⟨r.expire, mem_update_of_selected _ hr hov, rfl, hle.trans (Nat.le_succ _)⟩
    · exact ⟨r, mem_update.2 (.inr ⟨hr, Bool.eq_false_iff.2 hov⟩), rfl, hle⟩
  live := by
    intro r hr hlive
    rw [hrows] at hr
    rw [hads]
    rcases mem_update.1 hr with ⟨r, -, -, rfl⟩ | ⟨hr, -⟩
    · cases hlive
    · exact h.live r hr hlive

end World.Sound

theorem Change.sound {news : Row → Prop} {w w' : World} {events : List Event} (h : Change codec news w w' events) (hs : w.Sound codec) :
    w'.Sound codec := by
  cases h with
  | kept rows admissions => exact hs.of_eq rows admissions
  | queued _ _ row pending rows admissions =>
    exact hs.of_eq rows (admissions.trans (Admissions.queued_of_isSome (hs.pending_queued row pending)))
  | late _ _ row moved rows admissions => exact hs.late row moved rows admissions
  | inserted _ _ _ pending generation checks valid free rows admissions =>
    exact hs.inserted pending generation checks valid (fun o ho => (free o ho).2) rows admissions
  | admitted _ _ row pending _ _ checks rows admissions => exact hs.admitted row pending checks rows admissions
  | edgeReady _ row admitted checks rows admissions =>
    refine hs.moved Row.observeEdge row ?_ ?_ ?_ (Nat.le_succ _) rfl (le_refl _) rfl checks rows admissions
    · exact Row.live_of admitted rfl
    · rw [admitted]
      exact State.noConfusion
    · exact State.noConfusion
  | originReady _ originReady now row ready checks rows admissions =>
    refine hs.moved (·.observeOrigin originReady now) row ?_ ?_ ?_ (Nat.le_succ _) rfl (le_refl _) rfl checks rows admissions
    · exact ready.elim (Row.live_of · rfl) (Row.live_of · rfl)
    · rcases ready with hst | hst <;> rw [hst] <;> exact State.noConfusion
    · cases originReady <;> exact State.noConfusion
  | renewed _ _ _ row live renewable checks valid rows admissions =>
    exact hs.renewed row live renewable checks valid rows admissions
  | released _ _ row _ checks rows admissions =>
    refine hs.change row rows (fun key _ => by rw [admissions]) checks ?_ (fun hlive => Bool.noConfusion hlive)
    intro g ad had
    rw [admissions] at had
    exact (hs.owned_le row had).trans (Nat.le_succ _)
  | expired _ checks rows admissions => exact hs.expired checks rows admissions

theorem Change.admissions_stay {news : Row → Prop} {w w' : World} {events : List Event} (h : Change codec news w w' events)
    {key : String × String} {g : Nat} (hq : (w.admissions key g).isSome) : (w'.admissions key g).isSome := by
  cases h with
  | kept _ admissions | edgeReady _ _ _ _ _ admissions | originReady _ _ _ _ _ _ _ admissions
  | released _ _ _ _ _ _ admissions | expired _ _ _ admissions => rwa [admissions]
  | queued _ _ _ _ _ admissions | inserted _ _ _ _ _ _ _ _ _ admissions =>
    rw [admissions]
    exact Admissions.isSome_queued hq
  | late _ _ _ _ _ admissions | admitted _ _ _ _ _ _ _ _ admissions =>
    rw [admissions]
    exact Admissions.isSome_acknowledged hq
  | renewed _ _ _ _ _ _ _ _ _ admissions =>
    rw [admissions]
    split
    · exact Admissions.isSome_queued hq
    · exact hq

namespace Traced

/-- What is being admitted was queued when it was read. -/
structure Sound (codec : Codec) (s : Traced) : Prop where
  world : s.world.Sound codec
  admitting : ∀ a ∈ s.admitting, (s.world.admissions a.key a.attachmentGeneration).isSome

variable {s : Traced}

theorem step_change (h : s.Sound codec) (op : Cmd × Time) :
    Change codec op.1.news s.world (s.step codec op).world
      (if (s.world.exec codec s.admitting op.2 op.1).1.toBool then s.world.report op.1 else []) :=
  World.exec_change h.world.undelivered h.admitting op.1

theorem reads_queued (h : s.world.Sound codec) {now : Time} {cmd : Cmd} {a : Attachment} (ha : a ∈ s.world.reads codec now cmd) :
    (s.world.admissions a.key a.attachmentGeneration).isSome := by
  unfold World.reads at ha
  split at ha
  · split at ha
    · next htarget =>
      obtain rfl := List.mem_singleton.1 ha
      obtain ⟨accountID, operationID, hscan, hpd⟩ := World.admissionTarget_eq_ok htarget
      obtain ⟨r, p, hr, -, -, rfl⟩ := World.scan_eq_ok.1 hscan
      rw [← (Table.find_eq_some.1 hr).2] at hr
      exact h.pending_queued hr (hpd rfl)
    · exact absurd ha List.not_mem_nil
  · exact absurd ha List.not_mem_nil

theorem Sound.step (h : s.Sound codec) (op : Cmd × Time) : (s.step codec op).Sound codec where
  world := (step_change h op).sound h.world
  admitting := by
    intro a ha
    refine (step_change h op).admissions_stay ?_
    rcases List.mem_append.1 ha with ha | ha
    · exact h.admitting a ha
    · exact reads_queued h.world ha

theorem sound_initial (registry : Registry) : (initial registry).Sound codec where
  world := {
    checks := fun _ hr => absurd hr List.not_mem_nil
    owned := by
      intro key g ad had
      cases had
    live := fun _ hr => absurd hr List.not_mem_nil }
  admitting := fun _ ha => absurd ha List.not_mem_nil

end Traced

end Paperboat.Attachments

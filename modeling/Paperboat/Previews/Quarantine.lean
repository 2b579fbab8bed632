import Paperboat.Previews.Effects
/-!
# Quarantines that ran out

A deleted domain is quarantined, and the table demands it. The first statement of a
pass of the reconciler takes the quarantine of a deleted domain away when it ran
out, which the table refuses: from then on no pass observes anything.
-/

namespace Paperboat.Previews

open Lib Reconciler Tables

variable {now : Time} {s : Tables} {d : PreviewDomain}

def Checked (s : Tables) : Prop := ∀ d ∈ s.domains.rows, d.checks

theorem checked_ending {s' : Tables} (h : Checked s) (he : Ending s s') : Checked s' := by
  obtain ⟨_, _, _, _, _, _, _, hw⟩ := he
  intro d' hd'
  rcases hw.checks d' hd' with hc | hold
  · exact hc
  · exact h d' hold

theorem checked_step (s : Tables) (op : Op) (h : Checked s) : Checked (s.step op) := by
  have he := s.effect_of_step op
  generalize s.step op = s' at he ⊢
  intro d hd
  cases he with
  | kept hs => exact h d (hs.domains ▸ hd)
  | created _ _ _ _ _ hds _ hdomains =>
    rw [hdomains] at hd
    rcases List.mem_append.1 hd with hd | hd
    · exact h d hd
    · exact (hds d hd).2.2.2
  | renewed _ _ _ _ _ _ hck _ _ _ hdomains =>
    rcases hck d (hdomains ▸ hd) with hc | hold
    · exact hc
    · exact h d hold
  | marked _ _ _ _ _ hdomains | recorded _ hdomains => exact h d (hdomains ▸ hd)
  | ended _ h1 h2 =>
    have hmid := checked_ending h h1
    rcases h2 with h2 | h2
    · exact checked_ending hmid h2 d hd
    · exact hmid d (h2.domains ▸ hd)
  | domainAdded _ _ _ _ _ _ hck _ _ hdomains =>
    rw [hdomains] at hd
    rcases List.mem_append.1 hd with hd | hd
    · exact h d hd
    · rwa [List.mem_singleton.1 hd]
  | domainsChanged _ _ _ _ hck _ hdomains =>
    rw [hdomains, Table.mem_update] at hd
    rcases hd with ⟨x, hx, hsel, rfl⟩ | ⟨hd, -⟩
    · exact hck x hx hsel
    · exact h d hd

theorem checked_run (ops : List Op) : Checked (run step initial ops) :=
  run_inv' checked_step (fun _ hd => by cases hd) ops

/-! ## The release -/

def overdue (now : Time) (d : PreviewDomain) : Bool := !d.live && d.quarantineUntil.any fun t => !t.after now

theorem release_refused (d : PreviewDomain) (now : Time) (h : d.live = false) : (d.release now).checks = false := by
  have hd : d.deletedAt.isNone = false := h
  simp [PreviewDomain.checks, PreviewDomain.release, hd]

theorem quarantined_of_checks (h : d.checks) (hdel : d.live = false) : d.conflictState = .quarantined := by
  simp only [PreviewDomain.checks, Bool.and_eq_true, Bool.or_eq_true, beq_iff_eq] at h
  have hd : d.deletedAt.isNone = false := hdel
  rw [hd] at h
  exact (h.2.resolve_left (by decide)).1

namespace Tables

def released (s : Tables) (now : Time) : Table PreviewDomain.id :=
  s.domains.update (fun d => !d.live && d.conflictState == .quarantined && d.quarantineUntil.any fun t => !t.after now)
    (·.release now) fun d => d.release_id _

theorem release_selects (h : d.checks) :
    (!d.live && d.conflictState == .quarantined && d.quarantineUntil.any fun t => !t.after now) = overdue now d := by
  unfold overdue
  cases hl : d.live with
  | true => rfl
  | false => simp [quarantined_of_checks h hl]

theorem released_eq (h : Checked s) (hnone : ∀ d ∈ s.domains.rows, overdue now d = false) : s.released now = s.domains := by
  refine Table.update_of_unselected (fun d => d.release_id _) fun d hd => ?_
  rw [release_selects (h d hd), hnone d hd]

theorem releaseExpired_of_none (hnow : now.isZero = false) (h : Checked s)
    (hnone : ∀ d ∈ s.domains.rows, overdue now d = false) : s.releaseExpiredQuarantines now = .ok s := by
  refine check_eq_ok.2 ⟨by simpa using hnow, updateDomains_eq_ok.2 ⟨fun d hd hsel => ?_, ?_⟩⟩
  · rw [release_selects (h d hd), hnone d hd] at hsel
    cases hsel
  · have := released_eq h hnone
    unfold released at this
    rw [this]

end Tables

theorem unchecked_of_overdue (h : Checked s) (hd : d ∈ s.domains.rows)
    (hover : overdue now d) : ∃ d' ∈ (s.released now).rows, d'.checks = false := by
  refine ⟨d.release now, Table.mem_update_of_selected (fun d => d.release_id _) hd ?_, ?_⟩
  · rw [release_selects (h d hd), hover]
  · simp only [overdue, Bool.and_eq_true, Bool.not_eq_true'] at hover
    exact release_refused d now hover.1

theorem reconcile_of_overdue (hnow : now.isZero = false) (h : Checked s)
    (hd : d ∈ s.domains.rows) (hover : overdue now d) {limit : Int} (hlow : 1 ≤ limit)
    (hhigh : limit ≤ maximumBatch) (answers : PreviewDomain → Reconciler.Answer) (grace : Nat) :
    reconcile s limit answers grace now = (.error .checkViolation, s) := by
  have hrelease : s.releaseExpiredQuarantines now = .error .checkViolation := by
    simp only [overdue, Bool.and_eq_true, Bool.not_eq_true'] at hover
    simp only [releaseExpiredQuarantines, hnow]
    refine if_neg fun hall => ?_
    simpa [hover.1, hover.2, quarantined_of_checks (h d hd) hover.1, release_refused d now hover.1] using
      List.all_eq_true.1 hall d hd
  have hlim : (decide (limit < 1) || decide (maximumBatch < limit)) = false := by
    simp only [Bool.or_eq_false_iff, decide_eq_false_iff_not]
    omega
  have hprp : prepare s limit now = .error .checkViolation := by
    simp only [prepare, hlim, hnow, hrelease]
    rfl
  simp only [reconcile, hprp]

/-- A pass of the reconciler gets to the domains that are due, and its first statement leaves rows that
pass their checks, exactly when no quarantine is over. -/
theorem reconciles_iff_no_quarantine_over (ops : List Op) (now : Time) (hnow : now.isZero = false) :
    ((∀ d ∈ ((run step initial ops).released now).rows, d.checks) ∧
      ∀ limit answers grace, 1 ≤ limit → limit ≤ maximumBatch →
        reconcile (run step initial ops) limit answers grace now =
          observeAll answers grace now (run step initial ops) 0
            ((run step initial ops).listDue now limit.toNat)) ↔
      ∀ d ∈ (run step initial ops).domains.rows, overdue now d = false := by
  have hchecked := checked_run ops
  generalize run step initial ops = s at hchecked ⊢
  constructor
  · intro h d hd
    cases hover : overdue now d with
    | false => rfl
    | true =>
      obtain ⟨d', hd', hc⟩ := unchecked_of_overdue hchecked hd hover
      rw [h.1 d' hd'] at hc
      cases hc
  · intro hnone
    refine ⟨?_, fun limit answers grace hlow hhigh => ?_⟩
    · rwa [released_eq hchecked hnone]
    · have hprepare : prepare s limit now = .ok (s.listDue now limit.toNat, s) := by
        refine check_eq_ok.2 ⟨?_, check_eq_ok.2 ⟨by simpa using hnow, ?_⟩⟩
        · simp only [refuseIf_eq_ok, Bool.or_eq_false_iff, decide_eq_false_iff_not]
          omega
        · rw [releaseExpired_of_none hnow hchecked hnone]
          rfl
      simp only [reconcile, hprepare]

open Sample

theorem deleted_domain_stops_reconciliation :
    let s := run step initial [create, .mutateDomain deletion false]
    s.domains.rows.map (fun d => (d.id, d.live, d.checks)) = [("pdom_1", false, true)] ∧
      (∃ d' ∈ (s.released (at_ (8 * 1440))).rows, d'.checks = false) ∧
      ∀ limit answers grace, 1 ≤ limit → limit ≤ maximumBatch →
        reconcile s limit answers grace (at_ (8 * 1440)) = (.error .checkViolation, s) := by
  intro s
  have hchecked : Checked s := checked_run _
  have hrows : s.domains.rows.any (overdue (at_ (8 * 1440))) := by decide +kernel
  obtain ⟨d, hd, hover⟩ := List.any_eq_true.1 hrows
  refine ⟨by decide +kernel, unchecked_of_overdue hchecked hd hover, fun limit answers grace hlow hhigh => ?_⟩
  exact reconcile_of_overdue (by decide) hchecked hd hover hlow hhigh answers grace

theorem reconciles_day_after_deletion : (at_ 1440).isZero = false ∧
      ∀ limit answers grace, 1 ≤ limit → limit ≤ maximumBatch →
        let s := run step initial [create, .mutateDomain deletion false]
        reconcile s limit answers grace (at_ 1440) =
          observeAll answers grace (at_ 1440) s 0 (s.listDue (at_ 1440) limit.toNat) := by
  refine ⟨by decide, ((reconciles_iff_no_quarantine_over _ (at_ 1440) (by decide)).2 ?_).2⟩
  have hrows : ((run step initial [create, .mutateDomain deletion false]).domains.rows.all
      fun d => !overdue (at_ 1440) d) := by decide +kernel
  intro d hd
  simpa using List.all_eq_true.1 hrows d hd

end Paperboat.Previews

import Paperboat.Billing.Webhook
/-!
# Prorated plan switches

A switch of the plan inside a billing period grants the difference of the two plans'
credits for the share of the period that is left, with six places. An instant before or
after the period counts as its start or its end.
-/

namespace Paperboat.Billing

open Lib Connector Decimal

structure CreditsText where
  text : String
  value : ℚ
  reads : setString (trimSpace text) = some value

structure BillingPeriod where
  (start finish : Time)
  ordered : finish.after start

namespace BillingPeriod

variable (p : BillingPeriod) (effectiveAt : Time)

def within : Time :=
  let effectiveAt := if effectiveAt.before p.start then p.start else effectiveAt
  if effectiveAt.after p.finish then p.finish else effectiveAt

def share : ℚ := (p.finish.sub (p.within effectiveAt) : ℚ) / p.finish.sub p.start

/-- The difference of two plans' credits for what is left of the period, with six places. -/
def delta (old new : CreditsText) : ℚ := credits (scaled 6 ((new.value - old.value) * p.share effectiveAt))

def chained : CreditsText → List CreditsText → ℚ
  | _, [] => 0
  | old, new :: plans => p.delta effectiveAt old new + chained new plans

variable {p effectiveAt}

theorem total_pos : 0 < p.finish.sub p.start := by
  have h := p.ordered
  simp only [Time.after_iff] at h
  unfold Time.sub Duration.max Duration.min
  split_ifs <;> omega

theorem left_le {t u : Time} (h : t ≤ u) : 0 ≤ p.finish.sub (p.within u) ∧
    p.finish.sub (p.within u) ≤ p.finish.sub (p.within t) ∧ p.finish.sub (p.within t) ≤ p.finish.sub p.start := by
  have ho := p.ordered
  have hle : t.ns ≤ u.ns := h
  simp only [Time.after_iff] at ho
  simp only [within, Time.after, Time.before, Time.sub, Duration.max, Duration.min, decide_eq_true_eq]
  grind

theorem share_anti {t u : Time} (h : t ≤ u) : 0 ≤ p.share u ∧ p.share u ≤ p.share t ∧ p.share t ≤ 1 := by
  obtain ⟨h0, h1, h2⟩ := left_le (p := p) h
  have hpos : (0 : ℚ) < p.finish.sub p.start := by exact_mod_cast total_pos
  unfold share
  refine ⟨div_nonneg (by exact_mod_cast h0) hpos.le, div_le_div_of_nonneg_right (by exact_mod_cast h1) hpos.le, ?_⟩
  rw [div_le_one hpos]
  exact_mod_cast h2

variable {old new : CreditsText}

theorem delta_swap : p.delta effectiveAt old new = -p.delta effectiveAt new old := by
  rw [delta, delta, ← credits_neg, ← scaled_neg]
  congr 2
  ring

theorem abs_delta_le : |p.delta effectiveAt old new| ≤ credits (scaled 6 |new.value - old.value|) := by
  obtain ⟨h0, -, h1⟩ := share_anti (p := p) (le_refl effectiveAt)
  have hle : |(new.value - old.value) * p.share effectiveAt| ≤ |new.value - old.value| := by
    rw [abs_mul, abs_of_nonneg h0]
    exact mul_le_of_le_one_right (abs_nonneg _) h1
  obtain ⟨hl, hu⟩ := abs_le.1 hle
  rw [abs_le, delta, ← credits_neg, ← scaled_neg]
  exact ⟨value_le_value.2 (scaled_mono hl), value_le_value.2 (scaled_mono hu)⟩

theorem delta_anti (hv : old.value ≤ new.value) {later : Time} (h : effectiveAt ≤ later) :
    p.delta later old new ≤ p.delta effectiveAt old new := by
  refine value_le_value.2 (scaled_mono ?_)
  exact mul_le_mul_of_nonneg_left (share_anti h).2.1 (sub_nonneg.2 hv)

variable (p effectiveAt) in
theorem abs_chained_sub_le (plans : List CreditsText) (old : CreditsText) : |p.chained effectiveAt old plans -
    ((plans.getLastD old).value - old.value) * p.share effectiveAt| ≤ plans.length / 2 / 10 ^ 6 := by
  induction plans generalizing old with
  | nil => simp [chained]
  | cons new plans ih =>
    have hone := abs_value_scaled_sub_le 6 ((new.value - old.value) * p.share effectiveAt)
    have hrest := ih new
    rw [List.getLastD_cons, chained, List.length_cons]
    rw [abs_le] at hone hrest ⊢
    push_cast
    simp only [delta, credits]
    constructor <;> linarith

/-- The prorated difference of two plans changes its sign with them, is no larger than their difference, and gets no
larger in time; switches at one time are worth the one from the first plan to the last, up to half a millionth for
each rounding. -/
theorem prorated_credit_deltas (p : BillingPeriod) (effectiveAt : Time) (old new : CreditsText) :
    (∃ text, proratedCreditDelta old.text new.text p.start p.finish effectiveAt = .ok text ∧
      setString text = some (p.delta effectiveAt old new)) ∧ p.delta effectiveAt old new = -p.delta effectiveAt new old ∧
    |p.delta effectiveAt old new| ≤ credits (scaled 6 |new.value - old.value|) ∧
    (old.value ≤ new.value → ∀ later, effectiveAt ≤ later → p.delta later old new ≤ p.delta effectiveAt old new) ∧
    ∀ plans : List CreditsText, |p.chained effectiveAt old plans - p.delta effectiveAt old (plans.getLastD old)| ≤
      (plans.length + 1) / 2 / 10 ^ 6 := by
  refine ⟨⟨_, ?_, setString_floatString _⟩, delta_swap, abs_delta_le, fun hv later h => delta_anti hv h, fun plans => ?_⟩
  · simp [proratedCreditDelta, old.reads, new.reads, p.ordered, share, within]
  · have hsum := abs_chained_sub_le p effectiveAt plans old
    have hone := abs_value_scaled_sub_le 6 (((plans.getLastD old).value - old.value) * p.share effectiveAt)
    rw [abs_le] at hsum hone ⊢
    simp only [delta, credits]
    constructor <;> linarith

end BillingPeriod

end Paperboat.Billing

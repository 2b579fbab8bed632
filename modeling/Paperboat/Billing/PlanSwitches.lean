import Paperboat.Billing.LedgerKeys
import Paperboat.Billing.Proration
/-!
# Switching plans back and forth

What the switches of a plan have added, less what they have removed, is worth the
difference between the plan now and the first one, for what is left of the period. That
is nothing once the first plan is back, unless time was spent on a larger plan, or a
removal was cut to what was left on the account.
-/

namespace Paperboat.Billing

open Lib Connector Decimal Ledger

def Ledger.posted (l : Ledger) : ℤ := (l.entries.rows.map (·.change)).sum

/-- A ledger and a plan, with the time of the last switch, the number of switches and what they have added, less what
they have removed. -/
structure Switching where
  ledger : Ledger
  plan : CreditsText
  last : Time
  switches : ℕ
  moved : ℤ

inductive SwitchOp where
  | credit (op : LedgerOp)
  | switch (caller : Caller) (key subscriptionID : String) (new : CreditsText) (effectiveAt : Time)

section Ledger
variable {l l' l₁ : Ledger} {caller : Caller} {key subscriptionID : String} {account : CreditAccount} {delta : ℚ}

theorem Ledger.Moved.posted {e : LedgerEntry} (ho : l.Opened caller account l₁) (h : l₁.Moved account e delta l') :
    l'.posted = l.posted + e.change := by
  simp [Ledger.posted, h.entries, ho.entries]

theorem planSwitch_posted (h : l.applyPlanSwitchCreditDeltaTx caller key subscriptionID (floatString delta) = .ok l')
    (hkey : l.entries.find key = none) (hcov : -scaled 6 delta ≤ max 0 (l.balanceOf caller.userID)) :
    l'.posted ≤ l.posted + scaled 6 delta := by
  rw [applyPlanSwitchCreditDeltaTx, trimSpace_floatString, setString_floatString] at h
  simp only at h
  split_ifs at h with hzero hpos
  · cases h
    rw [← credits_zero, credits_inj] at hzero
    omega
  · rw [credits_pos] at hpos
    obtain ⟨account, l₁, ho, rfl | ⟨q, hq, -, -, hm⟩⟩ := grantCreditsTx_ok h
    · simp only [Ledger.posted, ho.entries]
      omega
    · rw [castNumeric_floatString] at hq
      cases hq
      simp [hm.posted ho, LedgerEntry.change, Entry.row]
  · rw [credits_pos] at hpos
    simp only [bind_eq_ok] at h
    obtain ⟨⟨l₁, accountID⟩, hen, available, hav, h⟩ := h
    obtain ⟨account, ho, rfl⟩ := ensureCreditAccount_ok hen
    obtain rfl := getCreditBalanceForUpdate_ok hav ho.mem rfl
    have hneg : scaled 6 delta < 0 := lt_of_le_of_ne (not_lt.1 hpos) fun hm => hzero (by rw [hm, credits_zero])
    rw [← ho.balance_eq] at hcov
    have habs : |credits (scaled 6 delta)| = credits (-scaled 6 delta) := by
      rw [credits_neg, abs_of_neg (lt_of_le_of_ne (not_lt.1 fun hc => hpos (credits_pos.1 hc)) hzero)]
    have hle : credits (-scaled 6 delta) ≤ credits account.balance := value_le_value.2 (by omega)
    rw [if_neg (by omega)] at h
    obtain ⟨q, hq, hm⟩ := insertCreditLedger_fresh ho.mem (by rwa [ho.entries]) h
    rw [castNumeric_applied, habs, scaled_credits, min_eq_left hle] at hq
    cases hq
    simp [hm.posted ho, LedgerEntry.change, Entry.row]

end Ledger

namespace Switching

variable (p : BillingPeriod)

def step (s : Switching) : SwitchOp → Switching
  | .credit op => { s with ledger := s.ledger.step op }
  | .switch caller key subscriptionID new effectiveAt =>
    match proratedCreditDelta s.plan.text new.text p.start p.finish effectiveAt >>=
      s.ledger.applyPlanSwitchCreditDeltaTx caller key subscriptionID with
    | .error _ => s
    | .ok ledger => ⟨ledger, new, effectiveAt, s.switches + 1, s.moved + (ledger.posted - s.ledger.posted)⟩

/-- The switch of a run is the one a plan event makes within a period. -/
theorem step_eq_applyPlanCredits (s : Switching) {r : Reads} {event : WebhookEvent} {payload : Json} {userID : String}
    {product : Product} {plan : PlanVersion} {previous : PreviousSubscription} {e : PlanEvent} {new : CreditsText}
    (hmid : midPeriodSwitch (some previous) plan (periodCreditsApplied s.ledger r.times event userID e) e =
      some (previous, p.start, p.finish))
    (hold : s.plan.text = creditsText previous.includedCredits) (hnew : new.text = creditsText plan.includedCredits) :
    let paid := webhookEffectiveTime r.times payload
    let effectiveAt := if paid.isZero then r.now else paid
    s.step p (.switch (r.ids.caller userID) (periodKey r.times event e ++ ":plan-switch:" ++ event.id) e.subscriptionID new
        effectiveAt) =
      match applyPlanCredits r event payload userID product plan (some previous) e s.ledger with
      | .error _ => s
      | .ok ledger => ⟨ledger, new, effectiveAt, s.switches + 1, s.moved + (ledger.posted - s.ledger.posted)⟩ := by
  simp only [applyPlanCredits, hmid, step, hold, hnew]

/-- The switches come in their order and under keys of their own. None comes after time on a plan with more credits than the
first, and the account holds what it removes. -/
def Covered (first : ℚ) (s : Switching) : SwitchOp → Prop
  | .credit _ => True
  | .switch caller key _ new effectiveAt =>
    s.last ≤ effectiveAt ∧ s.ledger.entries.find key = none ∧ (s.plan.value ≤ first ∨ effectiveAt ≤ s.last) ∧
      -p.delta effectiveAt s.plan new ≤ credits (max 0 (s.ledger.balanceOf caller.userID))

variable {p} {first : ℚ} {s : Switching}

/-- What was moved is worth what is left of the difference between the plan and the first one. -/
def Worth (p : BillingPeriod) (first : ℚ) (s : Switching) : Prop :=
  credits s.moved ≤ (s.plan.value - first) * p.share s.last + s.switches / 2 / 10 ^ 6

theorem Worth.step (h : s.Worth p first) {op : SwitchOp} (hop : s.Covered p first op) : (s.step p op).Worth p first := by
  cases op with
  | credit op => exact h
  | switch caller key subscriptionID new effectiveAt =>
    obtain ⟨hlast, hkey, htime, hcov⟩ := hop
    simp only [Switching.step]
    split
    · exact h
    rename_i ledger hok
    obtain ⟨text, htext, hok⟩ := bind_eq_ok.1 hok
    have hdelta : text = floatString ((new.value - s.plan.value) * p.share effectiveAt) := by
      simpa [proratedCreditDelta, s.plan.reads, new.reads, p.ordered, BillingPeriod.share, BillingPeriod.within] using htext.symm
    rw [hdelta] at hok
    rw [BillingPeriod.delta, ← credits_neg] at hcov
    have hmoved : credits (ledger.posted - s.ledger.posted) ≤ p.delta effectiveAt s.plan new :=
      value_le_value.2 (sub_le_iff_le_add'.2 (planSwitch_posted hok hkey (value_le_value.1 hcov)))
    have hround : p.delta effectiveAt s.plan new - (new.value - s.plan.value) * p.share effectiveAt ≤ 1 / 2 / 10 ^ 6 :=
      (abs_le.1 (abs_value_scaled_sub_le 6 _)).2
    have hstay : (s.plan.value - first) * p.share s.last ≤ (s.plan.value - first) * p.share effectiveAt := by
      rcases htime with hle | hle
      · exact mul_le_mul_of_nonpos_left (BillingPeriod.share_anti hlast).2.1 (sub_nonpos.2 hle)
      · exact (congrArg _ (le_antisymm (BillingPeriod.share_anti hle).2.1 (BillingPeriod.share_anti hlast).2.1)).le
    unfold Worth at h ⊢
    rw [credits, ← value_add]
    rw [credits] at h hmoved
    push_cast
    linarith

variable (p) in
/-- Once the first plan is back, what the switches have added is what they have removed, up to half a millionth for
each, in every run whose switches are covered. -/
theorem switching_makes_no_credits (l : Ledger) (plan : CreditsText) (ops : List SwitchOp)
    (h : EachStep (step p) (Covered p plan.value) ⟨l, plan, p.start, 0, 0⟩ ops) :
    let s := run (step p) ⟨l, plan, p.start, 0, 0⟩ ops
    s.plan.value = plan.value → credits s.moved ≤ s.switches / 2 / 10 ^ 6 := by
  intro s hback
  have hinv : s.Worth p plan.value := run_inv (fun _ _ hs hop => hs.step hop) (by simp [Worth, credits_zero]) h
  simpa [Worth, hback] using hinv

end Switching

namespace Sample

def small : CreditsText := ⟨"100", 100, by decide +kernel⟩

def large : CreditsText := ⟨"200", 200, by decide +kernel⟩

def period : BillingPeriod := ⟨.zero, ⟨1000, 0⟩, by decide⟩

def switch (key : String) (new : CreditsText) (ns : Int) : SwitchOp := .switch ⟨"user_1", "cred_1", key⟩ key "sub_1" new ⟨ns, 0⟩

end Sample

open Sample Switching

theorem switching_makes_no_credits_at_once :
    let s := run (step period) ⟨.empty, large, period.start, 0, 0⟩ [.credit (call "cled_1" "paid" (.grant "polar_event" "evt_0" "200")),
      switch "evt_1" small 500, switch "evt_2" large 500]
    s.plan.value = large.value ∧ s.switches = 2 ∧ credits s.moved ≤ s.switches / 2 / 10 ^ 6 := by
  refine ⟨by decide +kernel, by decide +kernel, switching_makes_no_credits period .empty large _ ?_ (by decide +kernel)⟩
  refine ⟨trivial, ⟨?_, ?_, .inl ?_, ?_⟩, ⟨?_, ?_, .inr ?_, ?_⟩, trivial⟩
  all_goals decide +kernel

/-- The credits of the larger plan are spent before it is given back, at the same instant. -/
theorem switching_makes_credits :
    let s := run (step period) ⟨.empty, small, period.start, 0, 0⟩
      [switch "evt_1" large 0, .credit (call "cled_1" "runtime" (.debit "metering" "chk_1" "100")), switch "evt_2" small 0]
    s.plan.value = small.value ∧ s.switches = 2 ∧ credits s.moved = 100 := by
  decide +kernel

end Paperboat.Billing

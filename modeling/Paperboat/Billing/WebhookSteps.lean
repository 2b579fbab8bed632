import Paperboat.Billing.Webhook
import Paperboat.Billing.LedgerSteps
/-!
# What a plan event does

A plan event that is handled overwrites the row of its subscription. If it leaves
the subscription active or in its trial, it also posts to the credit ledger; the
storage tables have no part in either.
-/

namespace Paperboat.Billing

open Lib Connector

variable {s s' : Store} {r : Reads} {event : WebhookEvent} {payload : Json} {userID : String} {product : Product}

/-! ## Storage -/

def Store.SameBooks (s s' : Store) : Prop := s'.subscriptions = s.subscriptions ∧ s'.ledger = s.ledger

namespace Store.SameBooks

variable {accountID entryType sourceType sourceID key : String} {entry : StorageEntry} {gb : ℤ}

theorem trans {s'' : Store} (h : s.SameBooks s') (h' : s'.SameBooks s'') : s.SameBooks s'' :=
  ⟨h'.1.trans h.1, h'.2.trans h.2⟩

theorem ensureStorageAccount {newID : String} (h : s.ensureStorageAccount newID userID = .ok (s', accountID)) :
    s.SameBooks s' := by
  unfold Store.ensureStorageAccount at h
  split at h
  · cases h
    exact ⟨rfl, rfl⟩
  split at h
  · cases h
    exact ⟨rfl, rfl⟩
  · cases h

theorem insertStorageLedgerIdempotent (h : s.insertStorageLedgerIdempotent entry = .ok s') : s.SameBooks s' := by
  unfold Store.insertStorageLedgerIdempotent at h
  split at h
  · cases h
    exact ⟨rfl, rfl⟩
  split at h
  · cases h
  split at h
  · cases h
    exact ⟨rfl, rfl⟩
  · cases h

theorem insertStorageLedger (h : s.insertStorageLedger entry = .ok s') : s.SameBooks s' := by
  unfold Store.insertStorageLedger at h
  split at h
  · cases h
    exact ⟨rfl, rfl⟩
  · cases h

theorem setIncludedStorageTx
    (h : s.setIncludedStorageTx accountID entryType gb sourceType sourceID key = .ok s') : s.SameBooks s' := by
  unfold Store.setIncludedStorageTx at h
  split at h
  · cases h
  obtain ⟨-, -, h⟩ := (check_eq_ok.trans (and_congr_right' check_eq_ok)).1 h
  have hbk := insertStorageLedgerIdempotent h
  exact ⟨hbk.1, hbk.2⟩

theorem setPurchasedStorageTx
    (h : s.setPurchasedStorageTx accountID entryType gb sourceType sourceID key = .ok s') : s.SameBooks s' := by
  unfold Store.setPurchasedStorageTx at h
  split at h
  · cases h
    exact ⟨rfl, rfl⟩
  split at h
  · cases h
  obtain ⟨-, -, h⟩ := (check_eq_ok.trans (and_congr_right' check_eq_ok)).1 h
  have hbk := insertStorageLedger h
  exact ⟨hbk.1, hbk.2⟩

theorem applyPlanStorage {plan : PlanVersion} {units : ℤ} {p : PlanEvent}
    (h : s.applyPlanStorage r event userID product plan units p = .ok s') : s.SameBooks s' := by
  simp only [Store.applyPlanStorage, bind_eq_ok] at h
  obtain ⟨⟨s1, accountID⟩, hen, s2, hinc, hpurchased⟩ := h
  exact ((ensureStorageAccount hen).trans (setIncludedStorageTx hinc)).trans (setPurchasedStorageTx hpurchased)

end Store.SameBooks

/-! ## Plan events -/

structure Store.PlanApplied (s : Store) (r : Reads) (event : WebhookEvent) (payload : Json) (userID : String) (product : Product)
    (plan : PlanVersion) (s' : Store) : Prop where
  subscriptions : ∃ units, s'.subscriptions = clearAppliedPendingSubscriptionPlan
    (upsertPolarSubscription s.subscriptions ((PlanEvent.read r.times event payload).row userID plan units))
    (PlanEvent.read r.times event payload).subscriptionID
  ledger : s'.ledger = s.ledger ∨ ∃ previous,
    applyPlanCredits r event payload userID product plan previous (PlanEvent.read r.times event payload) s.ledger = .ok s'.ledger

theorem Store.applyPlanWebhook_none (hplan : r.catalog.planVersion product (PlanEvent.read r.times event payload).state = none) :
    s.applyPlanWebhook r event payload userID product = .ok s := by
  simp only [Store.applyPlanWebhook, hplan]

theorem Store.applyPlanWebhook_ok {plan : PlanVersion}
    (hplan : r.catalog.planVersion product (PlanEvent.read r.times event payload).state = some plan)
    (h : s.applyPlanWebhook r event payload userID product = .ok s') :
    s.PlanApplied r event payload userID product plan s' := by
  simp only [Store.applyPlanWebhook, hplan, bind_eq_ok] at h
  obtain ⟨previous, _, _, _, h⟩ := h
  split_ifs at h with hact
  · obtain ⟨ledger, hlg, h⟩ := bind_eq_ok.1 h
    obtain ⟨hsub, hled⟩ := Store.SameBooks.applyPlanStorage h
    exact ⟨⟨_, hsub⟩, .inr ⟨previous, hled ▸ hlg⟩⟩
  · cases h
    exact ⟨⟨_, rfl⟩, .inl rfl⟩

end Paperboat.Billing

import Paperboat.Billing.DeliveryOrder
/-!
# The credits of a period

Before a plan event grants the plan's credits it looks for any entry of the same
subscription and period, by the start of their keys. That start is made from the
beginning of the period, so events that all give it are granted the credits once,
whatever plans they are for. An event that does not give it is keyed by itself, and
nothing is found for it.
-/

namespace Paperboat.Billing

variable {event : WebhookEvent} {s : Store} {key : String}

open Lib Connector List Store

variable {l l' : Ledger} {times : TimeFormat} {userID subscriptionID : String} {start : Time}

/-! ## Events of a period -/

structure Arrival extends Delivery where
  catalog : Catalog

namespace Arrival

variable (times : TimeFormat) (a : Arrival)

def reads : Reads := a.toDelivery.reads times a.catalog

def product : Option Product := planProduct a.catalog a.event

def planEvent : PlanEvent := a.event.plan times

def planVersion : Option PlanVersion := a.product.bind fun product => a.catalog.planVersion product (a.planEvent times).state

def grantKey : Option String :=
  a.product.map fun product => periodKey times a.event (a.planEvent times) ++ ":plan-credits:" ++ product.code

/-- A plan event of the user's subscription, active or in its trial. Where it gives
the start of the period, it is this one. -/
def OfPeriod (userID subscriptionID : String) (start : Time) : Prop :=
  a.product.isSome ∧ firstString (webhookPayload a.event) userIDPaths = userID ∧
    (a.planEvent times).subscriptionID = subscriptionID ∧
    ((a.planEvent times).state = .active ∨ (a.planEvent times).state = .trialing) ∧
    (a.planEvent times).periodStart.all (·.equal start)

instance (userID subscriptionID : String) (start : Time) : Decidable (a.OfPeriod times userID subscriptionID start) :=
  inferInstanceAs (Decidable (_ ∧ _ ∧ _ ∧ _ ∧ _))

end Arrival

def Store.handle (times : TimeFormat) (s : Store) (a : Arrival) : Store :=
  match s.processWebhookEvent (a.reads times) a.event with
  | .ok s' => s'
  | .error _ => s

def isPlanGrant (times : TimeFormat) (arrivals : List Arrival) (e : LedgerEntry) : Bool :=
  decide (some e.idempotencyKey ∈ arrivals.map (Arrival.grantKey times))

def planGrants (times : TimeFormat) (arrivals : List Arrival) (s s' : Store) : List LedgerEntry :=
  (s'.ledger.entries.rows.drop s.ledger.entries.rows.length).filter (isPlanGrant times arrivals)

structure TimeFormat.Utc (times : TimeFormat) : Prop where
  format_eq : ∀ t u : Time, t.ns = u.ns → times.format t = times.format u
  no_backslash : ∀ t, '\\' ∉ (times.format t).toList

/-! ## Keys -/

def keyOfPeriod (times : TimeFormat) (subscriptionID : String) (start : Time) : String :=
  if subscriptionID != "" then "subscription:" ++ subscriptionID ++ ":period:" ++ times.format start else ""

theorem no_backslash_keyOfPeriod (htimes : times.Utc) (hsub : '\\' ∉ subscriptionID.toList) :
    '\\' ∉ (keyOfPeriod times subscriptionID start).toList := by
  unfold keyOfPeriod
  split
  · simp only [String.toList_append, mem_append, not_or]
    exact ⟨⟨⟨by decide, hsub⟩, by decide⟩, htimes.no_backslash start⟩
  · exact not_mem_nil

theorem id_eq_of_subscriptionID (h : (event.plan times).subscriptionID = "") : event.id = "" := by
  simp only [WebhookEvent.plan, PlanEvent.read] at h
  split at h
  · exact h
  · rename_i hne
    exact absurd (beq_iff_eq.2 h) hne

theorem ledgerSourceID_eq {t : Time} (ht : (event.plan times).periodStart = some t) :
    ledgerSourceID event (event.plan times) = (event.plan times).subscriptionID := by
  unfold ledgerSourceID
  rw [ht, Option.isSome_some, Bool.and_true]
  split
  · rfl
  rename_i hid
  have hid' : (event.plan times).subscriptionID = "" := by simpa using hid
  rw [hid', id_eq_of_subscriptionID hid']

theorem planCredits_starts (key code : String) : (key ++ ":").toList <+: (key ++ ":plan-credits:" ++ code).toList := by
  refine ⟨("plan-credits:" ++ code).toList, ?_⟩
  simp only [String.toList_append, append_assoc, append_cancel_left_eq]
  rfl

/-! ## Entries of a period -/

theorem Ledger.Grows.hasSubscriptionPeriodCredits (h : l.Grows l') {start : String}
    (hfd : l.hasSubscriptionPeriodCredits userID subscriptionID start) :
    l'.hasSubscriptionPeriodCredits userID subscriptionID start := by
  simp only [Ledger.hasSubscriptionPeriodCredits, any_eq_true, Bool.and_eq_true, beq_iff_eq] at hfd ⊢
  obtain ⟨e, he, ⟨⟨⟨a, ha, hid, huser⟩, htype⟩, hsrc⟩, hkey⟩ := hfd
  obtain ⟨a', ha', hid', huser'⟩ := h.accounts a ha
  exact ⟨e, h.entries e he, ⟨⟨⟨a', ha', hid'.trans hid, huser'.trans huser⟩, htype⟩, hsrc⟩, hkey⟩

theorem hasSubscriptionPeriodCredits_of_mem (hkey : '\\' ∉ key.toList) {e : LedgerEntry} (he : e ∈ l.entries.rows)
    {a : CreditAccount} (ha : a ∈ l.accounts.rows) (hid : a.id = e.accountID) (huser : a.userID = userID)
    (htype : e.sourceType = "polar_subscription") (hsrc : e.sourceID = subscriptionID)
    (hstarts : (key ++ ":").toList <+: e.idempotencyKey.toList) :
    l.hasSubscriptionPeriodCredits userID subscriptionID (key ++ ":") := by
  have hescape : sqlLike.escape ∉ (key ++ ":").toList := by
    rw [String.toList_append, mem_append, not_or]
    exact ⟨hkey, by decide⟩
  have hac : sqlLike.accepts ((key ++ ":").toList ++ ['%']) e.idempotencyKey.toList := by
    obtain ⟨rest, hrest⟩ := hstarts
    rw [← hrest]
    exact Like.accepts_append hescape rest
  simp only [Ledger.hasSubscriptionPeriodCredits, any_eq_true, Bool.and_eq_true, beq_iff_eq]
  exact ⟨e, he, ⟨⟨⟨a, ha, hid, huser⟩, htype⟩, hsrc⟩, hac⟩

section Credits
variable {r : Reads} {payload : Json} {product : Product} {plan : PlanVersion} {previous : Option PreviousSubscription}
  {p : PlanEvent}

theorem planSwitch_rows {caller : Caller} {text : String}
    (h : l.applyPlanSwitchCreditDeltaTx caller key subscriptionID text = .ok l') :
    l.Grows l' ∧ (l'.entries.rows = l.entries.rows ∨
      ∃ e : LedgerEntry, l'.entries.rows = l.entries.rows ++ [e] ∧ e.idempotencyKey = key) := by
  have hpo : ∀ {entry : Entry} {amount add}, l.Posted caller entry amount add l' → l'.entries.rows = l.entries.rows ∨
      ∃ e : LedgerEntry, l'.entries.rows = l.entries.rows ++ [e] ∧ e.idempotencyKey = entry.idempotencyKey := by
    intro entry amount add h
    rcases h.rows with hsame | ⟨a, _, _, q, _, hrows⟩
    · exact .inl hsame
    · exact .inr ⟨_, hrows, rfl⟩
  rcases Ledger.applyPlanSwitchCreditDeltaTx_ok h with rfl | hgr | ⟨q, hdb⟩
  · exact ⟨.refl _, .inl rfl⟩
  · exact ⟨hgr.grows, hpo hgr⟩
  · exact ⟨hdb.grows, hpo hdb⟩

structure LedgerEntry.IsPlanGrant (e : LedgerEntry) (sourceID key : String) (plan : PlanVersion) : Prop where
  sourceType : e.sourceType = "polar_subscription"
  sourceID : e.sourceID = sourceID
  key : e.idempotencyKey = key
  amount : e.amount = plan.includedCredits

theorem planGrant_rows {caller : Caller} {sourceID : String}
    (h : l.grantCreditsTx caller key "polar_subscription" sourceID (creditsText plan.includedCredits) = .ok l') :
    l.Grows l' ∧ (l'.entries.rows = l.entries.rows ∨
      ∃ a ∈ l'.accounts.rows, a.userID = caller.userID ∧ ∃ e : LedgerEntry, l'.entries.rows = l.entries.rows ++ [e] ∧
        e.accountID = a.id ∧ e.IsPlanGrant sourceID key plan) := by
  have hpo := Ledger.grantCreditsTx_ok h
  refine ⟨hpo.grows, ?_⟩
  rcases hpo.rows with hsame | ⟨a, ha, huser, q, hq, hrows⟩
  · exact .inl hsame
  rw [creditsText, castNumeric_floatString, scaled_credits] at hq
  cases hq
  exact .inr ⟨a, ha, huser, _, hrows, rfl, rfl, rfl, rfl, scaled_credits _⟩

/-- A plan event adds no entry, the difference of a plan switch, or the credits of its
plan; these only if no entry of the period is found. -/
theorem applyPlanCredits_ok (h : applyPlanCredits r event payload userID product plan previous p l = .ok l') :
    l.Grows l' ∧ (l'.entries.rows = l.entries.rows ∨ (∃ e : LedgerEntry, l'.entries.rows = l.entries.rows ++ [e] ∧
          e.idempotencyKey = periodKey r.times event p ++ ":plan-switch:" ++ event.id) ∨
        periodCreditsApplied l r.times event userID p = false ∧
          ∃ a ∈ l'.accounts.rows, a.userID = userID ∧ ∃ e : LedgerEntry, l'.entries.rows = l.entries.rows ++ [e] ∧
            e.accountID = a.id ∧
              e.IsPlanGrant (ledgerSourceID event p) (periodKey r.times event p ++ ":plan-credits:" ++ product.code) plan) := by
  unfold applyPlanCredits at h
  dsimp only at h
  split at h
  · -- the plan changed within a period that has its credits
    obtain ⟨delta, _, h⟩ := bind_eq_ok.1 h
    obtain ⟨hgw, hsame | hswitch⟩ := planSwitch_rows h
    · exact ⟨hgw, .inl hsame⟩
    · exact ⟨hgw, .inr (.inl hswitch)⟩
  · split at h
    · cases h
      exact ⟨.refl _, .inl rfl⟩
    rename_i happ
    obtain ⟨hgw, hsame | hgr⟩ := planGrant_rows h
    · exact ⟨hgw, .inl hsame⟩
    · exact ⟨hgw, .inr (.inr ⟨by simpa using happ, hgr⟩)⟩

end Credits

/-! ## Runs -/

theorem processWebhookEvent_ledger {s s' : Store} {r : Reads} {product : Product}
    (hpr : planProduct r.catalog event = some product) (h : s.processWebhookEvent r event = .ok s') :
    s'.ledger = s.ledger ∨ ∃ plan previous, r.catalog.planVersion product (event.plan r.times).state = some plan ∧
      applyPlanCredits r event (webhookPayload event) (firstString (webhookPayload event) userIDPaths) product plan previous
        (event.plan r.times) s.ledger = .ok s'.ledger := by
  rw [processWebhookEvent_plan hpr] at h
  cases hplan : r.catalog.planVersion product (event.plan r.times).state with
  | none =>
    rw [applyPlanWebhook_none hplan] at h
    cases h
    exact .inl rfl
  | some plan =>
    rcases (applyPlanWebhook_ok hplan h).ledger with hsame | ⟨previous, hcd⟩
    · exact .inl hsame
    · exact .inr ⟨plan, previous, rfl, hcd⟩

section Arrivals
variable {a : Arrival}

theorem Arrival.OfPeriod.keyed (htimes : times.Utc) (h : a.OfPeriod times userID subscriptionID start)
    (hstart : (a.planEvent times).periodStart.isSome) :
    periodKey times a.event (a.planEvent times) = keyOfPeriod times subscriptionID start ∧
      ledgerSourceID a.event (a.planEvent times) = subscriptionID := by
  obtain ⟨_, _, hsub, _, hperiod⟩ := h
  obtain ⟨t, ht⟩ := Option.isSome_iff_exists.1 hstart
  rw [ht] at hperiod
  have hns : t.ns = start.ns := beq_iff_eq.1 hperiod
  rw [← hsub]
  refine ⟨?_, ledgerSourceID_eq ht⟩
  unfold periodKey keyOfPeriod
  rw [ht, ← htimes.format_eq t start hns]
  dsimp only
  split
  · rfl
  · rename_i hid
    rw [bne_iff_ne, not_not] at hid
    exact id_eq_of_subscriptionID hid

theorem Arrival.times_reads (a : Arrival) : (a.reads times).times = times := rfl

theorem Arrival.planProduct_reads (a : Arrival) : planProduct (a.reads times).catalog a.event = a.product := rfl

theorem Arrival.plan_reads (a : Arrival) : a.event.plan (a.reads times).times = a.planEvent times := rfl

theorem Arrival.planVersion_reads {product : Product} (hpr : a.product = some product) :
    (a.reads times).catalog.planVersion product (a.planEvent times).state = a.planVersion times := by
  rw [Arrival.planVersion, hpr]
  rfl

theorem Store.handle_rows (htimes : times.Utc) (h : a.OfPeriod times userID subscriptionID start)
    (hstart : (a.planEvent times).periodStart.isSome) :
    s.ledger.Grows (s.handle times a).ledger ∧ ((s.handle times a).ledger.entries.rows = s.ledger.entries.rows ∨
        (∃ e : LedgerEntry, (s.handle times a).ledger.entries.rows = s.ledger.entries.rows ++ [e] ∧
          e.idempotencyKey = keyOfPeriod times subscriptionID start ++ ":plan-switch:" ++ a.event.id) ∨
        s.ledger.hasSubscriptionPeriodCredits userID subscriptionID (keyOfPeriod times subscriptionID start ++ ":") = false ∧
          ∃ account ∈ (s.handle times a).ledger.accounts.rows, account.userID = userID ∧
            ∃ e : LedgerEntry, (s.handle times a).ledger.entries.rows = s.ledger.entries.rows ++ [e] ∧ e.accountID = account.id ∧
              a.grantKey times = some e.idempotencyKey ∧ ∃ plan code, a.planVersion times = some plan ∧
                e.IsPlanGrant subscriptionID (keyOfPeriod times subscriptionID start ++ ":plan-credits:" ++ code) plan) := by
  obtain ⟨hkey, hsrc⟩ := h.keyed htimes hstart
  obtain ⟨hpr, huser, hsub, _, _⟩ := h
  obtain ⟨product, hpr⟩ := Option.isSome_iff_exists.1 hpr
  unfold handle
  split
  · rename_i s' hok
    rw [← a.planProduct_reads] at hpr
    rcases processWebhookEvent_ledger hpr hok with hsame | ⟨plan, previous, hplan, hcd⟩
    · exact ⟨hsame ▸ .refl _, .inl (by rw [hsame])⟩
    rw [a.plan_reads] at hplan hcd
    rw [a.planVersion_reads hpr] at hplan
    obtain ⟨hgw, hrows⟩ := applyPlanCredits_ok hcd
    rw [a.times_reads, periodCreditsApplied, hstart, Bool.true_and, hsub, huser, hkey, hsrc] at hrows
    refine ⟨hgw, hrows.imp_right (Or.imp_right ?_)⟩
    rintro ⟨hnone, account, hacc, hu, e, hrows, hid, hgr⟩
    refine ⟨hnone, account, hacc, hu, e, hrows, hid, ?_, plan, product.code, hplan, hgr⟩
    rw [Arrival.grantKey, ← a.planProduct_reads, hpr, Option.map_some, hkey, hgr.key]
  · exact ⟨.refl _, .inl rfl⟩

end Arrivals

section Runs
variable {arrivals : List Arrival} {a : Arrival}

def Ledger.GrantedOnce (times : TimeFormat) (arrivals : List Arrival) (userID subscriptionID : String) (start : Time)
    (l l' : Ledger) : Prop :=
  ∃ new, l'.entries.rows = l.entries.rows ++ new ∧ (new.filter (isPlanGrant times arrivals) = [] ∨
      l'.hasSubscriptionPeriodCredits userID subscriptionID (keyOfPeriod times subscriptionID start ++ ":") ∧
        ∃ a ∈ arrivals, ∃ plan, a.planVersion times = some plan ∧
          (new.filter (isPlanGrant times arrivals)).map (·.amount) = [plan.includedCredits])

namespace Ledger.GrantedOnce

theorem refl (l : Ledger) : l.GrantedOnce times arrivals userID subscriptionID start l :=
  ⟨[], (append_nil _).symm, .inl rfl⟩

variable (htimes : times.Utc) (hsub : '\\' ∉ subscriptionID.toList)
  (hperiod : ∀ a ∈ arrivals, a.OfPeriod times userID subscriptionID start)
  (hstart : ∀ a ∈ arrivals, (a.planEvent times).periodStart.isSome)
include htimes hsub hperiod hstart

omit hsub in
theorem isPlanGrant_planSwitch {e : LedgerEntry} {eventID : String}
    (hkey : e.idempotencyKey = keyOfPeriod times subscriptionID start ++ ":plan-switch:" ++ eventID) :
    isPlanGrant times arrivals e = false := by
  rw [isPlanGrant, decide_eq_false_iff_not, mem_map]
  rintro ⟨a, ha, hgr⟩
  obtain ⟨product, hpr⟩ := Option.isSome_iff_exists.1 (hperiod a ha).1
  rw [Arrival.grantKey, hpr, Option.map_some, ((hperiod a ha).keyed htimes (hstart a ha)).1] at hgr
  have hlist := congrArg String.toList (hkey.symm.trans (Option.some.inj hgr).symm)
  simp only [String.toList_append, append_assoc, append_cancel_left_eq] at hlist
  exact absurd (congrArg (·.take 7) hlist) (by simp)

theorem step {l : Ledger} (h : l.GrantedOnce times arrivals userID subscriptionID start s.ledger) (ha : a ∈ arrivals) :
    l.GrantedOnce times arrivals userID subscriptionID start (s.handle times a).ledger := by
  obtain ⟨new, hnew, hgd⟩ := h
  obtain ⟨hgw, hrows⟩ := s.handle_rows htimes (hperiod a ha) (hstart a ha)
  rcases hrows with hsame | ⟨e, hap, hkey⟩ | ⟨hnone, account, hacc, huser, e, hap, hid, hkey, plan, code, hplan, hgr⟩
  · exact ⟨new, by rw [hsame, hnew], hgd.imp_right fun h => ⟨hgw.hasSubscriptionPeriodCredits h.1, h.2⟩⟩
  · refine ⟨new ++ [e], by rw [hap, hnew, append_assoc], ?_⟩
    rw [filter_append, filter_cons_of_neg (by simp [isPlanGrant_planSwitch htimes hperiod hstart hkey]), filter_nil,
      append_nil]
    exact hgd.imp_right fun h => ⟨hgw.hasSubscriptionPeriodCredits h.1, h.2⟩
  · -- nothing of the period was found, so nothing was granted before
    rcases hgd with hnil | ⟨hfd, _⟩
    · refine ⟨new ++ [e], by rw [hap, hnew, append_assoc], .inr ⟨?_, a, ha, plan, hplan, ?_⟩⟩
      · exact hasSubscriptionPeriodCredits_of_mem (no_backslash_keyOfPeriod htimes hsub) (by simp [hap]) hacc hid.symm huser
          hgr.sourceType hgr.sourceID (hgr.key ▸ planCredits_starts _ code)
      · have hfull : isPlanGrant times arrivals e := decide_eq_true (mem_map.2 ⟨a, ha, hkey⟩)
        rw [filter_append, hnil, filter_cons_of_pos hfull, filter_nil, nil_append, map_singleton, hgr.amount]
    · rw [hnone] at hfd
      cases hfd

theorem run (s : Store) :
    s.ledger.GrantedOnce times arrivals userID subscriptionID start (Lib.run (handle times) s arrivals).ledger := by
  have hstep : ∀ (s' : Store) (a : Arrival), s.ledger.GrantedOnce times arrivals userID subscriptionID start s'.ledger → a ∈ arrivals →
      s.ledger.GrantedOnce times arrivals userID subscriptionID start (s'.handle times a).ledger :=
    fun s' a h ha => step htimes hsub hperiod hstart h ha
  exact run_inv (P := fun _ a => a ∈ arrivals) hstep (refl _) (eachStep_of_forall (fun _ h => h) _)

end Ledger.GrantedOnce

/-- Events of one period that all give its start grant the credits of at most one plan,
once. -/
theorem plan_credits_granted_once (htimes : times.Utc) (hsub : '\\' ∉ subscriptionID.toList) (s : Store) (arrivals : List Arrival)
    (hperiod : ∀ a ∈ arrivals, a.OfPeriod times userID subscriptionID start)
    (hstart : ∀ a ∈ arrivals, (a.planEvent times).periodStart.isSome) :
    planGrants times arrivals s (run (handle times) s arrivals) = [] ∨
      ∃ a ∈ arrivals, ∃ plan, a.planVersion times = some plan ∧
        (planGrants times arrivals s (run (handle times) s arrivals)).map (·.amount) = [plan.includedCredits] := by
  obtain ⟨new, hnew, hgranted⟩ := Ledger.GrantedOnce.run htimes hsub hperiod hstart s
  rw [planGrants, hnew, drop_left]
  exact hgranted.imp_right And.right

end Runs

/-! ## Events without a start -/

namespace Sample

theorem times_utc : Sample.times.Utc where
  format_eq t u h := by simp only [Sample.times, h]
  no_backslash t := by
    simp only [Sample.times]
    split_ifs <;> decide

def arrival (event : WebhookEvent) : Arrival := ⟨delivery event, catalog⟩

def dated : List Arrival :=
  [arrival updated.event, arrival (planEvent "evt_3" "subscription.active" "active"
    [("current_period_start", .string "2026-01-01T00:00:00Z"), ("current_period_end", .string "2026-02-01T00:00:00Z")])]

def undated : List Arrival :=
  [arrival (planEvent "evt_1" "subscription.updated" "active" []), arrival (planEvent "evt_3" "subscription.active" "active" [])]

end Sample

open Sample

theorem plan_credits_granted_once_dated :
    ((planGrants Sample.times dated store (run (handle Sample.times) store dated)).map (·.amount) =
      [100000000]) ∧ (planGrants Sample.times dated store (run (handle Sample.times) store dated) = [] ∨
      ∃ a ∈ dated, ∃ plan, a.planVersion Sample.times = some plan ∧
        (planGrants Sample.times dated store (run (handle Sample.times) store dated)).map (·.amount) =
          [plan.includedCredits]) :=
  ⟨by decide +kernel, plan_credits_granted_once times_utc (by decide) store dated
    (show ∀ a ∈ dated, a.OfPeriod Sample.times "user_1" "sub_1" (unixTime 1767225600) by decide +kernel) (by decide +kernel)⟩

theorem plan_credits_granted_twice : (undated.map (·.event.id)).Nodup ∧
    (∀ a ∈ undated, a.OfPeriod Sample.times "user_1" "sub_1" (unixTime 1767225600)) ∧
    (planGrants Sample.times undated store (run (handle Sample.times) store undated)).map (·.amount) =
      [100000000, 100000000] ∧ ∀ a ∈ undated, (a.planVersion Sample.times).map (·.includedCredits) = some 100000000 := by
  refine ⟨by decide +kernel, by decide +kernel, by decide +kernel, by decide +kernel⟩

end Paperboat.Billing

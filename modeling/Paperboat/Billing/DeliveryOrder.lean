import Paperboat.Billing.WebhookSteps
/-!
# The order of deliveries

The row of a subscription is overwritten by every plan event, whatever the times in
the events and in the row. So the event that is handled last decides what the row
says, and that is what the latest event says only if the two agree.
-/

namespace Paperboat.Billing

open Lib Connector

variable {s s' : Store} {r : Reads} {event : WebhookEvent}

/-! ## What an event says -/

structure RowView where
  state : SubscriptionState
  planVersionID : Option String
  (periodStart periodEnd : Option Time)
  deriving DecidableEq

variable {v : RowView}

def Subscription.view (row : Subscription) : RowView :=
  ⟨row.state, row.activePlanVersionID, row.currentPeriodStart, row.currentPeriodEnd⟩

def WebhookEvent.plan (event : WebhookEvent) (times : TimeFormat) : PlanEvent := PlanEvent.read times event (webhookPayload event)

/-- The product an event is about, if it is one that `applyPlanWebhook` handles. -/
def planProduct (catalog : Catalog) (event : WebhookEvent) : Option Product :=
  let payload := webhookPayload event
  let productID := firstString payload productIDPaths
  if billingRelevantEvent event.eventType && !refundLikeEvent event.eventType && firstString payload userIDPaths != "" &&
      trimSpace productID != "" then
    (catalog.productByProviderID productID).filter (·.catalogType == .plan)
  else none

def PlanEvent.view (p : PlanEvent) (plan : PlanVersion) : RowView :=
  ⟨p.state, some plan.id, p.periodStart.map Time.stored, p.periodEnd.map Time.stored⟩

theorem PlanEvent.row_view (p : PlanEvent) (userID : String) (plan : PlanVersion) (units : ℤ) :
    (p.row userID plan units).view = p.view plan := rfl

def planView (times : TimeFormat) (catalog : Catalog) (event : WebhookEvent) : Option RowView :=
  (planProduct catalog event).bind fun product =>
    (catalog.planVersion product (event.plan times).state).map (event.plan times).view

def modifiedAt (times : TimeFormat) (event : WebhookEvent) : Option Time := firstTime times (webhookPayload event) [["modified_at"]]

theorem processWebhookEvent_plan {product : Product} (h : planProduct r.catalog event = some product) :
    s.processWebhookEvent r event =
      s.applyPlanWebhook r event (webhookPayload event) (firstString (webhookPayload event) userIDPaths) product := by
  unfold planProduct at h
  simp only at h
  split at h
  · rename_i hc
    simp only [Bool.and_eq_true, Bool.not_eq_true', bne_iff_ne, ne_eq] at hc
    obtain ⟨⟨⟨hrelevant, hrefund⟩, huser⟩, hpr⟩ := hc
    obtain ⟨hfind, htype⟩ := Option.filter_eq_some_iff.1 h
    simp [Store.processWebhookEvent, hrelevant, hrefund, huser, hpr, hfind, eq_of_beq htype]
  · cases h

/-! ## The row -/

section Row
variable {t : Table Subscription.providerSubscriptionID}

theorem find_upsertPolarSubscription (new : Subscription) :
    ∃ row, (upsertPolarSubscription t new).find new.providerSubscriptionID = some row ∧ row.view = new.view := by
  unfold upsertPolarSubscription
  cases hins : t.insert new with
  | some =>
    obtain ⟨_, hrows⟩ := Table.insert_eq_some.1 hins
    exact ⟨new, Table.find_eq_some.2 ⟨by simp [hrows], rfl⟩, rfl⟩
  | none =>
    cases hfind : t.find new.providerSubscriptionID with
    | none =>
      obtain ⟨t', ht'⟩ := Table.insert_of_find_none hfind
      rw [hins] at ht'
      cases ht'
    | some old =>
      obtain ⟨_, hkey⟩ := Table.find_eq_some.1 hfind
      refine ⟨new.overwrite old, ?_, rfl⟩
      simp [Table.find_update, hfind, hkey]

theorem find_clearAppliedPendingSubscriptionPlan (subscriptionID : String) {row : Subscription} {key : String}
    (h : t.find key = some row) :
    ∃ row', (clearAppliedPendingSubscriptionPlan t subscriptionID).find key = some row' ∧ row'.view = row.view := by
  unfold clearAppliedPendingSubscriptionPlan
  rw [Table.find_update, h]
  refine ⟨_, rfl, ?_⟩
  dsimp only
  split <;> rfl

end Row

theorem processWebhookEvent_view {times : TimeFormat} {catalog : Catalog}
    (h : s.processWebhookEvent r event = .ok s') (ht : r.times = times) (hc : r.catalog = catalog)
    (hv : planView times catalog event = some v) :
    ∃ row, s'.subscriptions.find (event.plan times).subscriptionID = some row ∧ row.view = v := by
  subst ht hc
  obtain ⟨product, hpr, hv⟩ := Option.bind_eq_some_iff.1 hv
  obtain ⟨plan, hplan, rfl⟩ := Option.map_eq_some_iff.1 hv
  rw [processWebhookEvent_plan hpr] at h
  obtain ⟨units, hsub⟩ := (Store.applyPlanWebhook_ok hplan h).subscriptions
  rw [hsub]
  obtain ⟨row, hrow, hview⟩ := find_upsertPolarSubscription (t := s.subscriptions)
    ((event.plan r.times).row (firstString (webhookPayload event) userIDPaths) plan units)
  obtain ⟨row', hrow', hview'⟩ := find_clearAppliedPendingSubscriptionPlan (event.plan r.times).subscriptionID hrow
  exact ⟨row', hrow', by rw [hview', hview, PlanEvent.row_view]⟩

/-! ## Deliveries -/

structure Delivery where
  event : WebhookEvent
  ids : NewIDs
  now : Time
  userMachines : Except Err Unit

def Delivery.reads (times : TimeFormat) (catalog : Catalog) (d : Delivery) : Reads := ⟨times, catalog, d.ids, d.now, d.userMachines⟩

def Store.handleAll (times : TimeFormat) (catalog : Catalog) (s : Store) (deliveries : List Delivery) : Except Err Store :=
  deliveries.foldlM (fun s d => s.processWebhookEvent (d.reads times catalog) d.event) s

def Delivery.PlanOf (times : TimeFormat) (catalog : Catalog) (subscriptionID : String) (d : Delivery) : Prop :=
  (planView times catalog d.event).isSome ∧ (d.event.plan times).subscriptionID = subscriptionID ∧
    (modifiedAt times d.event).isSome

instance (times : TimeFormat) (catalog : Catalog) (subscriptionID : String) :
    DecidablePred (Delivery.PlanOf times catalog subscriptionID) :=
  fun d => inferInstanceAs (Decidable ((planView times catalog d.event).isSome ∧
    (d.event.plan times).subscriptionID = subscriptionID ∧ (modifiedAt times d.event).isSome))

def Delivery.modifiedNs (times : TimeFormat) (d : Delivery) : ℤ := (modifiedAt times d.event).elim 0 (·.ns)

def Delivery.later (times : TimeFormat) (d d' : Delivery) : Delivery := if d.modifiedNs times < d'.modifiedNs times then d' else d

def Delivery.latest (times : TimeFormat) : List Delivery → Option Delivery
  | [] => none
  | d :: ds => some (ds.foldl (Delivery.later times) d)

/-- What the event with the latest `modified_at` says. -/
def latestView (times : TimeFormat) (catalog : Catalog) (deliveries : List Delivery) : Option RowView :=
  (Delivery.latest times deliveries).bind fun d => planView times catalog d.event

section Deliveries
variable {times : TimeFormat} {catalog : Catalog} {subscriptionID : String}

theorem handleAll_last {deliveries : List Delivery} {last : Delivery}
    (hv : planView times catalog last.event = some v) (hid : (last.event.plan times).subscriptionID = subscriptionID)
    (h : s.handleAll times catalog (deliveries ++ [last]) = .ok s') :
    ∃ row, s'.subscriptions.find subscriptionID = some row ∧ row.view = v := by
  rw [Store.handleAll, List.foldlM_append] at h
  obtain ⟨s1, -, h⟩ := bind_eq_ok.1 h
  obtain ⟨s2, hlast, hs'⟩ := bind_eq_ok.1 h
  cases hs'
  subst hid
  exact processWebhookEvent_view hlast rfl rfl hv

/-- The events of a subscription leave its row with the state, plan version and period of the latest one if and only
if the event handled last says the same. -/
theorem row_of_latest_iff (s s' : Store) (deliveries : List Delivery) (last : Delivery)
    (hplan : ∀ d ∈ deliveries ++ [last], d.PlanOf times catalog subscriptionID)
    (hok : s.handleAll times catalog (deliveries ++ [last]) = .ok s') :
    (∃ row, s'.subscriptions.find subscriptionID = some row ∧ some row.view = latestView times catalog (deliveries ++ [last])) ↔
      planView times catalog last.event = latestView times catalog (deliveries ++ [last]) := by
  obtain ⟨hsome, hid, -⟩ := hplan last (by simp)
  obtain ⟨v, hv⟩ := Option.isSome_iff_exists.1 hsome
  obtain ⟨row, hrow, hview⟩ := handleAll_last hv hid hok
  rw [hv]
  constructor
  · rintro ⟨row', hrow', hlatest⟩
    obtain rfl := Option.some.inj (hrow.symm.trans hrow')
    rw [← hlatest, hview]
  · intro hlatest
    exact ⟨row, hrow, by rw [← hlatest, hview]⟩

end Deliveries

/-! ## A cancellation that arrives first -/

namespace Sample

def times : TimeFormat where
  parse value :=
    [("2026-01-01T00:00:00Z", unixTime 1767225600), ("2026-01-10T00:00:00Z", unixTime 1768003200),
      ("2026-01-11T00:00:00Z", unixTime 1768089600), ("2026-02-01T00:00:00Z", unixTime 1769904000)].lookup value
  format t :=
    if t.ns = (unixTime 1767225600).ns then "2026-01-01T00:00:00Z"
    else if t.ns = (unixTime 1768003200).ns then "2026-01-10T00:00:00Z"
    else if t.ns = (unixTime 1768089600).ns then "2026-01-11T00:00:00Z"
    else "2026-02-01T00:00:00Z"

def catalog : Catalog where
  productByProviderID productID := if productID = "prod_1" then some ⟨"pro", .plan, "pro"⟩ else none
  activePlanVersion code := if code = "pro" then some ⟨"pro-v1", 100000000, 10, 5, 1⟩ else none
  convertedTrialPlanVersion _ := none
  includedCredits planVersionID := if planVersionID = "pro-v1" then some 100000000 else none

def store : Store := ⟨.empty, ⟨[], List.nodup_nil⟩, ⟨[], List.nodup_nil⟩, ⟨[], List.nodup_nil⟩⟩

def planEvent (id eventType status : String) (fields : List (String × Json)) : WebhookEvent :=
  ⟨id, eventType, .object
    ([("id", .string "sub_1"), ("status", .string status), ("product_id", .string "prod_1"),
      ("customer", .object [("external_id", .string "user_1")])] ++ fields)⟩

def delivery (event : WebhookEvent) : Delivery := ⟨event, ⟨"cred_1", "cled_" ++ event.id, "stor_1"⟩, unixTime 1768176000, .ok ()⟩

def updated : Delivery := delivery (planEvent "evt_1" "subscription.updated" "active"
  [("current_period_start", .string "2026-01-01T00:00:00Z"), ("current_period_end", .string "2026-02-01T00:00:00Z"),
    ("modified_at", .string "2026-01-10T00:00:00Z")])

def canceled : Delivery := delivery (planEvent "evt_2" "subscription.canceled" "canceled"
  [("current_period_start", .string "2026-01-01T00:00:00Z"), ("current_period_end", .string "2026-02-01T00:00:00Z"),
    ("modified_at", .string "2026-01-11T00:00:00Z")])

end Sample

open Sample

theorem row_of_latest_iff_in_order : ∃ s', store.handleAll times catalog [updated, canceled] = .ok s' ∧
    ∃ row, s'.subscriptions.find "sub_1" = some row ∧
      some row.view = latestView times catalog [updated, canceled] := by
  obtain ⟨s', hs'⟩ := toBool_eq_true.1
    (show (store.handleAll times catalog [updated, canceled]).toBool = true by decide +kernel)
  exact ⟨s', hs', (row_of_latest_iff store s' [updated] canceled (by decide +kernel) hs').2 (by decide +kernel)⟩

theorem canceled_row_left_active : ([canceled, updated].map (·.event.id)).Nodup ∧
    ([canceled, updated].map (Delivery.modifiedNs times)).Nodup ∧
    (∀ d ∈ [canceled, updated], d.PlanOf times catalog "sub_1") ∧
    ∃ s', store.handleAll times catalog [canceled, updated] = .ok s' ∧
      ((s'.subscriptions.find "sub_1").map (·.state) = some .active ∧
        (latestView times catalog [canceled, updated]).map (·.state) = some .canceled) := by
  refine ⟨by decide +kernel, by decide +kernel, by decide +kernel, ?_⟩
  obtain ⟨s', hs'⟩ := toBool_eq_true.1
    (show (store.handleAll times catalog [canceled, updated]).toBool = true by decide +kernel)
  have hstate : (store.handleAll times catalog [canceled, updated]).toOption.bind
      (fun s' => (s'.subscriptions.find "sub_1").map (·.state)) = some .active := by decide +kernel
  rw [hs'] at hstate
  exact ⟨s', hs', hstate, by decide +kernel⟩

end Paperboat.Billing

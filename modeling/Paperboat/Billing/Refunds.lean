import Mathlib.Algebra.Order.BigOperators.Group.List
import Paperboat.Billing.PeriodCredits
/-!
# Refunds

A refund of a plan writes the state that the type of the event names, and a type that
names none is read as active. A refund of a credit top-up is keyed by its own event, so
nothing relates it to the grant of the order or to other refunds of it.
-/

namespace Paperboat.Billing

open Lib Connector List

/-! ## Plans -/

def SubscriptionState.entitled (state : SubscriptionState) : Bool := state == .active || state == .trialing

def Subscription.RefundedBy (row : Subscription) (payload : Json) (userID : String) : Prop :=
  row.providerSubscriptionID ≠ "" ∧
    row.providerSubscriptionID = firstString payload [["subscription_id"], ["subscription", "id"], ["id"]] ∧ row.userID = userID

instance (row : Subscription) (payload : Json) (userID : String) : Decidable (row.RefundedBy payload userID) :=
  inferInstanceAs (Decidable (_ ∧ _ ∧ _))

/-- What in the type of an event says that the subscription has ended or is not paid. -/
def endings : List String := ["cancel", "past_due", "pause", "revok", "unpaid", "incomplete", "expire"]

variable (s : Store) (r : Reads) (event : WebhookEvent) (payload : Json) (userID code ref : String)

theorem entitled_subscriptionState (eventType : String) : (subscriptionState "" eventType).entitled = false ↔
    contains (toLower eventType) "trial" = false ∧ ∃ ending ∈ endings, contains (toLower eventType) ending := by
  have hstatus : toLower (trimSpace "") = "" := by decide
  simp only [subscriptionState, hstatus, endings, mem_cons, not_mem_nil, or_false, exists_eq_or_imp, exists_eq_left]
  split_ifs <;> simp_all [SubscriptionState.entitled]

theorem applyRefundWebhook_plan : ∃ s', s.applyRefundWebhook r event payload userID ⟨code, .plan, ref⟩ = .ok s' ∧
    s'.subscriptions.rows = s.subscriptions.rows.map fun row =>
      if row.RefundedBy payload userID then row.setState (subscriptionState "" event.eventType) else row := by
  simp only [Store.applyRefundWebhook, beq_iff_eq]
  split_ifs with hid
  · refine ⟨s, rfl, ((map_congr_left fun row _ => if_neg ?_).trans (map_id' _)).symm⟩
    exact fun h => h.1 (h.2.1.trans hid)
  · refine ⟨_, rfl, map_congr_left fun row _ => if_congr ?_ rfl rfl⟩
    simp only [Subscription.RefundedBy, Bool.and_eq_true, beq_iff_eq]
    exact ⟨fun h => ⟨fun hempty => hid (h.1.symm.trans hempty), h⟩, And.right⟩

/-- A refund leaves no subscription it updates entitled, and entitles none that had ended, exactly if it updates none,
or the type of the event names an ending and no trial. -/
theorem refund_entitles_none_iff : ∃ s', s.applyRefundWebhook r event payload userID ⟨code, .plan, ref⟩ = .ok s' ∧
    ((∀ row ∈ s.subscriptions.rows, ∀ row' ∈ s'.subscriptions.rows, row'.providerSubscriptionID = row.providerSubscriptionID →
      (row.RefundedBy payload userID → row'.state.entitled = false) ∧
      (row.state ∈ [.canceled, .revoked, .expired] → row'.state.entitled = false)) ↔
    (∀ row ∈ s.subscriptions.rows, ¬row.RefundedBy payload userID) ∨ contains (toLower event.eventType) "trial" = false ∧
      ∃ ending ∈ endings, contains (toLower event.eventType) ending) := by
  obtain ⟨s', hs', hrows⟩ := applyRefundWebhook_plan s r event payload userID code ref
  rw [← entitled_subscriptionState]
  generalize subscriptionState "" event.eventType = state at hrows
  refine ⟨s', hs', fun h => or_iff_not_imp_left.2 fun hsome => ?_, fun h row hrow row' hrow' hkey => ?_⟩
  · push Not at hsome
    obtain ⟨row, hrow, hby⟩ := hsome
    refine (h row hrow (row.setState state) ?_ rfl).1 hby
    rw [hrows]
    exact mem_map.2 ⟨row, hrow, if_pos hby⟩
  · rw [hrows] at hrow'
    obtain ⟨old, hold, rfl⟩ := mem_map.1 hrow'
    obtain rfl : old = row := Table.eq_of_key hold hrow (by rw [← hkey]; split <;> rfl)
    have hended : ∀ state ∈ [SubscriptionState.canceled, .revoked, .expired], state.entitled = false := by decide
    by_cases hby : old.RefundedBy payload userID
    · have hstate := h.resolve_left fun hnone => hnone old hold hby
      rw [if_pos hby]
      exact ⟨fun _ => hstate, fun _ => hstate⟩
    · rw [if_neg hby]
      exact ⟨fun h => absurd h hby, hended _⟩

/-! ## Credit top-ups -/

def topupSeats (payload : Json) : String := firstString payload [["seats"], ["order", "seats"], ["subscription", "seats"]]

theorem creditTopupAmount_congr {payload payload' : Json} (h : topupSeats payload = topupSeats payload') (unit : String) :
    creditTopupAmount payload unit = creditTopupAmount payload' unit := by
  simp only [topupSeats] at h
  simp only [creditTopupAmount, h]

structure TopupOrder where
  product : Product
  topup : product.catalogType = .creditTopup
  paid : Arrival
  refunds : List Arrival
  found : ∀ a ∈ paid :: refunds,
    a.catalog.productByProviderID (firstString (webhookPayload a.event) productIDPaths) = some product
  paid_type : refundLikeEvent paid.event.eventType = false
  refund_type : ∀ a ∈ refunds, refundLikeEvent a.event.eventType
  distinct : ((paid :: refunds).map (·.event.id)).Nodup

namespace TopupOrder

variable (o : TopupOrder) {l l' : Ledger} {a : Arrival} {times : TimeFormat} {s : Store}

def eventIDs : List String := (o.paid :: o.refunds).map (·.event.id)

def posts (entryType : EntryType) (e : LedgerEntry) : Bool := decide (e.entryType = entryType ∧ e.sourceID ∈ o.eventIDs)

def total (entryType : EntryType) (l : Ledger) : ℤ := ((l.entries.rows.filter (o.posts entryType)).map (·.amount)).sum

def Refundable (a : Arrival) (l : Ledger) : Prop :=
  (∃ e ∈ l.entries.rows, o.posts .grant e) ∧ (∀ e ∈ l.entries.rows, o.posts .refund e = false) ∧
    topupSeats (webhookPayload a.event) = topupSeats (webhookPayload o.paid.event)

def amount : String := creditTopupAmount (webhookPayload o.paid.event) o.product.catalogRef

structure Balanced (l : Ledger) : Prop where
  covered : o.total .refund l ≤ o.total .grant l
  grants : ∀ e ∈ l.entries.rows, o.posts .grant e →
    ∃ q, castNumeric o.amount = .ok q ∧ 0 ≤ q ∧ e.amount = Decimal.scaled 6 q

variable {o}

theorem handle_posts (ha : a ∈ o.paid :: o.refunds) : (s.handle times a).ledger = s.ledger ∨ ∃ caller entry add,
    s.ledger.Posted caller entry (creditTopupAmount (webhookPayload a.event) o.product.catalogRef) add (s.handle times a).ledger ∧
      (a = o.paid ∧ entry.entryType = .grant ∨ a ∈ o.refunds ∧ entry.entryType = .refund) := by
  unfold Store.handle
  cases hp : s.processWebhookEvent (a.reads times) a.event with
  | error => exact .inl rfl
  | ok s' =>
    have hfind : (a.reads times).catalog.productByProviderID _ = _ := o.found a ha
    simp only [Store.processWebhookEvent, hfind] at hp
    split at hp
    · exact .inl (Except.ok.inj hp ▸ rfl)
    split at hp
    · cases hp
    rename_i product hpr
    split_ifs at hpr
    cases hpr
    split_ifs at hp with huser href
    · simp only [Store.applyRefundWebhook, o.topup, bind_eq_ok] at hp
      obtain ⟨ledger, hlg, hp⟩ := hp
      cases hp
      have hmem : a ∈ o.refunds := (mem_cons.1 ha).resolve_left fun h => by simp [h, o.paid_type] at href
      exact .inr ⟨_, _, _, Ledger.debitCreditsTx_ok hlg, .inr ⟨hmem, rfl⟩⟩
    · simp only [o.topup, bind_eq_ok] at hp
      obtain ⟨ledger, hlg, hp⟩ := hp
      cases hp
      have hpaid : a = o.paid := (mem_cons.1 ha).resolve_right fun h => href (o.refund_type a h)
      exact .inr ⟨_, _, _, Ledger.grantCreditsTx_ok hlg, .inl ⟨hpaid, rfl⟩⟩

theorem total_append {entryType : EntryType} {e : LedgerEntry} (h : l'.entries.rows = l.entries.rows ++ [e]) :
    o.total entryType l' = o.total entryType l + if o.posts entryType e then e.amount else 0 := by
  split <;> simp_all [total]

theorem total_eq_zero {entryType : EntryType} (h : ∀ e ∈ l.entries.rows, o.posts entryType e = false) :
    o.total entryType l = 0 := by
  rw [total, filter_eq_nil_iff.2 fun e he => by simp [h e he], map_nil, sum_nil]

theorem Balanced.grant_le (h : o.Balanced l) {e : LedgerEntry} (he : e ∈ l.entries.rows) (hp : o.posts .grant e) :
    e.amount ≤ o.total .grant l := by
  refine single_le_sum (fun x hx => ?_) _ (mem_map_of_mem (mem_filter.2 ⟨he, hp⟩))
  obtain ⟨e', he', rfl⟩ := mem_map.1 hx
  obtain ⟨q, -, hnn, hamount⟩ := h.grants e' (mem_filter.1 he').1 (mem_filter.1 he').2
  exact hamount ▸ Decimal.halfAway_nonneg (by positivity)

theorem Balanced.handle (h : o.Balanced s.ledger) (ha : a = o.paid ∨ a ∈ o.refunds ∧ o.Refundable a s.ledger) :
    o.Balanced (s.handle times a).ledger := by
  have hposts : (s.handle times a).ledger = s.ledger ∨ _ := handle_posts (mem_cons.2 (ha.imp_right And.left))
  rcases hposts with hsame | ⟨caller, entry, add, ⟨account, l1, ho, hrest⟩, hkind⟩
  · rwa [hsame]
  generalize (s.handle times a).ledger = l' at *
  rcases hrest with rfl | ⟨q, hq, hnn, -, hm⟩
  · exact ⟨by simpa only [total, ho.entries] using h.covered, ho.entries ▸ h.grants⟩
  have hrows := hm.entries
  rw [ho.entries] at hrows
  have hpos : 0 ≤ Decimal.scaled 6 q := Decimal.halfAway_nonneg (by positivity)
  have hcov := h.covered
  refine ⟨?_, fun e he hp => ?_⟩
  · rw [total_append hrows, total_append hrows]
    rcases hkind with ⟨-, hentry⟩ | ⟨hmem, hentry⟩
    · simp only [posts, Entry.row, hentry]
      grind
    · have hne : a ≠ o.paid := fun h => by simpa [h, o.paid_type] using o.refund_type a hmem
      obtain ⟨⟨e, he, hgrant⟩, hnone, hseats⟩ := (ha.resolve_left hne).2
      have hamount : e.amount = Decimal.scaled 6 q := by
        obtain ⟨q', hq', -, hamount⟩ := h.grants e he hgrant
        rw [amount, ← creditTopupAmount_congr hseats, hq] at hq'
        rw [hamount, Except.ok.inj hq']
      have hle := h.grant_le he hgrant
      rw [total_eq_zero hnone]
      simp only [posts, Entry.row, hentry]
      grind
  · rw [hrows] at he
    rcases mem_append.1 he with he | he
    · exact h.grants e he hp
    obtain rfl := mem_singleton.1 he
    rcases hkind with ⟨rfl, -⟩ | ⟨-, hentry⟩
    · exact ⟨q, hq, hnn, rfl⟩
    · simp [posts, Entry.row, hentry] at hp

end TopupOrder

/-- What the refunds of a top-up order take never exceeds what it granted, in every run in which it is refunded only
when paid, once, and for as many seats as were paid. -/
theorem refunded_at_most_granted (o : TopupOrder) (times : TimeFormat) (s : Store)
    (hnew : ∀ e ∈ s.ledger.entries.rows, e.sourceID ∉ o.eventIDs) (arrivals : List Arrival)
    (h : EachStep (Store.handle times) (fun s a => a = o.paid ∨ a ∈ o.refunds ∧ o.Refundable a s.ledger) s arrivals) :
    Throughout (Store.handle times) (fun s => o.total .refund s.ledger ≤ o.total .grant s.ledger) s arrivals := by
  have hnone : ∀ entryType, ∀ e ∈ s.ledger.entries.rows, o.posts entryType e = false := fun _ e he =>
    decide_eq_false fun h => hnew e he h.2
  have h0 : o.Balanced s.ledger := by
    refine ⟨?_, fun e he hp => absurd hp (by simp [hnone _ e he])⟩
    rw [TopupOrder.total_eq_zero (hnone _), TopupOrder.total_eq_zero (hnone _)]
  exact (throughout_of_inv (I := fun s => o.Balanced s.ledger) (fun s a hs ha => hs.handle ha) h0 h).imp fun s hs => hs.covered

namespace Sample

def subscribed : Store :=
  { store with subscriptions := ⟨[⟨"user_1", "sub_1", .revoked, none, none, none, none, 1, none⟩], nodup_singleton _⟩ }

def topup (id eventType : String) : Arrival :=
  ⟨delivery (planEvent id eventType "" []), { catalog with productByProviderID _ := some ⟨"c10", .creditTopup, "10"⟩ }⟩

def order : TopupOrder where
  product := ⟨"c10", .creditTopup, "10"⟩
  topup := rfl
  paid := topup "evt_2" "order.paid"
  refunds := [topup "evt_3" "order.refunded", topup "evt_4" "order.disputed"]
  found _ ha := by
    simp only [mem_cons, not_mem_nil, or_false] at ha
    rcases ha with rfl | rfl | rfl <;> rfl
  paid_type := by decide +kernel
  refund_type _ ha := by
    simp only [mem_cons, not_mem_nil, or_false] at ha
    rcases ha with rfl | rfl <;> decide +kernel
  distinct := by decide +kernel

def prepaid : Store := Store.handle Sample.times store (topup "evt_1" "order.paid")

end Sample

open Sample

theorem refund_entitles_revoked : refundLikeEvent "order.refunded" ∧ ∃ s', subscribed.applyRefundWebhook
    ((arrival updated.event).reads Sample.times) ⟨"evt_1", "order.refunded", .null⟩ (.object [("id", .string "sub_1")]) "user_1"
      ⟨"pro", .plan, "pro"⟩ = .ok s' ∧ s'.subscriptions.rows.map (·.state) = [.active] :=
  ⟨by decide +kernel, _, rfl, by decide +kernel⟩

theorem refunded_at_most_granted_once : Throughout (Store.handle Sample.times)
    (fun s => order.total .refund s.ledger ≤ order.total .grant s.ledger) prepaid [order.paid, topup "evt_3" "order.refunded"] :=
  refunded_at_most_granted order Sample.times prepaid (by decide +kernel) _
    ⟨.inl rfl, .inr ⟨.head _, by decide +kernel, by decide +kernel, by decide +kernel⟩, trivial⟩

theorem order_refunded_twice :
    let s := run (Store.handle Sample.times) prepaid (order.paid :: order.refunds)
    order.total .grant s.ledger = 10000000 ∧ order.total .refund s.ledger = 20000000 := by
  refine ⟨by decide +kernel, by decide +kernel⟩

end Paperboat.Billing

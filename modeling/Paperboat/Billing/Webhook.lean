import Paperboat.Billing.Ledger
import Paperboat.Billing.Payload
import Paperboat.Lib.Like
/-!
# Webhook events

`Service.processWebhookEvent`: what an event of the payment provider does to the
subscriptions, the credit ledger and the storage accounts. It runs in one
serializable transaction, which a failure rolls back. The event's product decides
what it is about; a plan event writes the subscription's row, grants the plan's
credits for the period or their prorated difference, and sets the storage.

The catalog of products and plans is read only, and is a parameter of the call. The
tables of machine subscriptions are not modelled: their two products only succeed
or fail.
-/

namespace Paperboat.Billing

open Lib Connector

/-! ## The catalog -/

inductive CatalogType where
  | plan | creditTopup | extraStorage | userMachineSubscription | userMachineBandwidthTopup | other
  deriving DecidableEq

structure Product where
  code : String
  catalogType : CatalogType
  catalogRef : String

/-- A row of `plan_versions`; the credits are in millionths. -/
structure PlanVersion where
  id : String
  (includedCredits includedStorageGB storageUnitGB storageSeatOffset : ℤ)

/-- `included_credits::text` -/
def creditsText (includedCredits : ℤ) : String := floatString (credits includedCredits)

structure Catalog where
  /-- `GetBillingProductByProviderIDs` -/
  productByProviderID : String → Option Product
  /-- `GetActivePlanVersionForWebhook`, by the code of the plan -/
  activePlanVersion : String → Option PlanVersion
  /-- `GetConvertedTrialPlanVersionForWebhook`, by the code of the trial plan -/
  convertedTrialPlanVersion : String → Option PlanVersion
  /-- The credits of any plan version, by its id -/
  includedCredits : String → Option ℤ

/-! ## Tables -/

/-- A row of `subscriptions`. -/
structure Subscription where
  (userID providerSubscriptionID : String)
  state : SubscriptionState
  (activePlanVersionID pendingPlanVersionID : Option String)
  (currentPeriodStart currentPeriodEnd : Option Time)
  storageUnits : ℤ
  pendingStorageUnits : Option ℤ

structure StorageAccount where
  (id userID : String)
  (includedGB purchasedGB allocatedGB : ℤ)

structure StorageEntry where
  (accountID entryType : String)
  amountGB : ℤ
  (sourceType sourceID idempotencyKey : String)
  deriving DecidableEq

structure Store where
  ledger : Ledger
  subscriptions : Table Subscription.providerSubscriptionID
  storageAccounts : Table StorageAccount.id
  storageEntries : Table StorageEntry.idempotencyKey

structure NewIDs where
  (creditAccount creditEntry storageAccount : String)

def NewIDs.caller (ids : NewIDs) (userID : String) : Caller := ⟨userID, ids.creditAccount, ids.creditEntry⟩

structure Reads where
  times : TimeFormat
  catalog : Catalog
  ids : NewIDs
  /-- `time.Now().UTC()` -/
  now : Time
  /-- What the tables of machine subscriptions answer. -/
  userMachines : Except Err Unit

/-! ## Subscriptions -/

/-- What `GetPolarSubscriptionForUpdate` returns of a row. -/
structure PreviousSubscription where
  activePlanVersionID : String
  includedCredits : ℤ
  (currentPeriodStart currentPeriodEnd : Option Time)
  storageUnits : ℤ

/-- `GetPolarSubscriptionForUpdate`. The credits come from a left join and are read as a
text, so a row without a plan version makes the query fail. -/
def Store.getPolarSubscriptionForUpdate (s : Store) (catalog : Catalog) (subscriptionID userID : String) :
    Except Err (Option PreviousSubscription) :=
  match (s.subscriptions.find subscriptionID).filter (·.userID == userID) with
  | none => .ok none
  | some row =>
    match row.activePlanVersionID with
    | none => .error .unexpectedNull
    | some planVersionID =>
      match catalog.includedCredits planVersionID with
      | none => .error .unexpectedNull
      | some includedCredits =>
        .ok (some
          { activePlanVersionID := planVersionID
            includedCredits
            currentPeriodStart := row.currentPeriodStart
            currentPeriodEnd := row.currentPeriodEnd
            storageUnits := row.storageUnits })

def Subscription.overwrite (new old : Subscription) : Subscription :=
  { new with providerSubscriptionID := old.providerSubscriptionID, pendingPlanVersionID := old.pendingPlanVersionID }

theorem Subscription.overwrite_key (new old : Subscription) :
    (new.overwrite old).providerSubscriptionID = old.providerSubscriptionID := rfl

variable (t : Table Subscription.providerSubscriptionID)

/-- `UpsertPolarSubscription`: the row is inserted, or every value of it is overwritten. -/
def upsertPolarSubscription (new : Subscription) : Table Subscription.providerSubscriptionID :=
  match t.insert new with
  | some t => t
  | none => t.update (·.providerSubscriptionID == new.providerSubscriptionID) new.overwrite new.overwrite_key

def Subscription.clearPendingPlan (row : Subscription) : Subscription := { row with pendingPlanVersionID := none }

theorem Subscription.clearPendingPlan_key (row : Subscription) :
    row.clearPendingPlan.providerSubscriptionID = row.providerSubscriptionID := rfl

def clearAppliedPendingSubscriptionPlan (subscriptionID : String) : Table Subscription.providerSubscriptionID :=
  t.update
    (fun row => row.providerSubscriptionID == subscriptionID && row.pendingPlanVersionID.isSome &&
      row.pendingPlanVersionID == row.activePlanVersionID)
    Subscription.clearPendingPlan Subscription.clearPendingPlan_key

def Subscription.setState (state : SubscriptionState) (row : Subscription) : Subscription := { row with state }

def updateRefundedSubscription (subscriptionID userID : String)
    (state : SubscriptionState) : Table Subscription.providerSubscriptionID :=
  t.update (fun row => row.providerSubscriptionID == subscriptionID && row.userID == userID)
    (Subscription.setState state) fun _ => rfl

/-! ## Storage -/

/-- `int32(i)` -/
def toInt32 (i : ℤ) : ℤ := (i + 2147483648) % 4294967296 - 2147483648

/-- The checks on `storage_accounts`, whose sum is an `integer` too. -/
def StorageAccount.valid (a : StorageAccount) : Bool :=
  decide (0 ≤ a.includedGB ∧ 0 ≤ a.purchasedGB ∧ 0 ≤ a.allocatedGB ∧ a.allocatedGB ≤ a.includedGB + a.purchasedGB ∧
    a.includedGB + a.purchasedGB ≤ 2147483647)

namespace Store

def ensureStorageAccount (s : Store) (newID userID : String) : Except Err (Store × String) :=
  match s.storageAccounts.rows.find? (·.userID == userID) with
  | some account => .ok (s, account.id)
  | none =>
    match s.storageAccounts.insert ⟨newID, userID, 0, 0, 0⟩ with
    | some storageAccounts => .ok ({ s with storageAccounts }, newID)
    | none => .error .uniqueViolation

def setIncluded (includedGB : ℤ) (account : StorageAccount) : StorageAccount :=
  { account with includedGB := toInt32 includedGB }

def setPurchased (purchasedGB : ℤ) (account : StorageAccount) : StorageAccount :=
  { account with purchasedGB := toInt32 purchasedGB }

/-- `insertStorageLedgerIdempotent`: an entry under the key has to be the same. -/
def insertStorageLedgerIdempotent (s : Store) (entry : StorageEntry) : Except Err Store :=
  match s.storageEntries.insert { entry with amountGB := toInt32 entry.amountGB } with
  | some storageEntries => .ok { s with storageEntries }
  | none =>
    match s.storageEntries.find entry.idempotencyKey with
    | none => .error .noRows
    | some existing => if existing = entry then .ok s else .error .storageConflict

def insertStorageLedger (s : Store) (entry : StorageEntry) : Except Err Store :=
  match s.storageEntries.insert { entry with amountGB := toInt32 entry.amountGB } with
  | some storageEntries => .ok { s with storageEntries }
  | none => .error .uniqueViolation

def setIncludedStorageTx (s : Store) (accountID entryType : String) (includedGB : ℤ) (sourceType sourceID idempotencyKey : String) :
    Except Err Store :=
  match s.storageAccounts.find accountID with
  | none => .error .noRows
  | some usage => do
    refuseIf (decide (usage.allocatedGB > includedGB + usage.purchasedGB)) .insufficientStorage
    refuseIf (!(setIncluded includedGB usage).valid) .checkViolation
    let s := { s with
      storageAccounts := s.storageAccounts.update (·.id == accountID) (setIncluded includedGB) fun _ => rfl }
    s.insertStorageLedgerIdempotent ⟨accountID, entryType, includedGB, sourceType, sourceID, idempotencyKey⟩

def setPurchasedStorageTx (s : Store) (accountID entryType : String) (purchasedGB : ℤ) (sourceType sourceID idempotencyKey : String) :
    Except Err Store :=
  if s.storageEntries.rows.any (·.idempotencyKey == idempotencyKey) then .ok s
  else
    match s.storageAccounts.find accountID with
    | none => .error .noRows
    | some usage => do
      refuseIf (decide (usage.allocatedGB > usage.includedGB + purchasedGB)) .insufficientStorage
      refuseIf (!(setPurchased purchasedGB usage).valid) .checkViolation
      let s := { s with
        storageAccounts := s.storageAccounts.update (·.id == accountID) (setPurchased purchasedGB) fun _ => rfl }
      s.insertStorageLedger ⟨accountID, entryType, purchasedGB, sourceType, sourceID, idempotencyKey⟩

end Store

/-! ## Plan events -/

/-- What `applyPlanWebhook` reads of an event. -/
structure PlanEvent where
  state : SubscriptionState
  subscriptionID : String
  (periodStart periodEnd : Option Time)
  storageValue : String
  pendingStorage : Option ℤ

def nullableInt32String (value : String) : Option ℤ :=
  match parseInt (trimSpace value) with
  | none => none
  | some i => if i < 0 then none else some (toInt32 i)

variable (times : TimeFormat) (s : Store) (r : Reads) (event : WebhookEvent) (p : PlanEvent) (payload : Json)
  (userID : String) (product : Product) (plan : PlanVersion)

def PlanEvent.read : PlanEvent where
  state := subscriptionState (firstString payload [["subscription", "status"], ["status"], ["state"]]) event.eventType
  subscriptionID :=
    let subscriptionID := firstString payload [["subscription_id"], ["subscription", "id"], ["id"]]
    if subscriptionID == "" then event.id else subscriptionID
  periodStart := firstTime times payload [["subscription", "current_period_start"], ["current_period_start"], ["period_start"]]
  periodEnd := firstTime times payload [["subscription", "current_period_end"], ["current_period_end"], ["period_end"], ["ends_at"]]
  storageValue := firstString payload [["subscription", "seats"], ["seats"]]
  pendingStorage := nullableInt32String
    (firstString payload [["subscription", "pending_update", "seats"], ["pending_update", "seats"]])

def Catalog.planVersion (catalog : Catalog) (product : Product) (state : SubscriptionState) : Option PlanVersion :=
  (catalog.activePlanVersion product.catalogRef).map fun plan =>
    if state = .active then (catalog.convertedTrialPlanVersion product.catalogRef).getD plan else plan

def storageUnits (p : PlanEvent) (previous : Option PreviousSubscription) : ℤ :=
  match parseInt p.storageValue, previous with
  | some units, _ => units
  | none, some previous => previous.storageUnits
  | none, none => atoi p.storageValue

/-- The row `applyPlanWebhook` writes. -/
def PlanEvent.row (units : ℤ) : Subscription where
  userID
  providerSubscriptionID := p.subscriptionID
  state := p.state
  activePlanVersionID := some plan.id
  pendingPlanVersionID := none
  currentPeriodStart := p.periodStart.map Time.stored
  currentPeriodEnd := p.periodEnd.map Time.stored
  storageUnits := units
  pendingStorageUnits := p.pendingStorage

/-! ## Credits of a period -/

def periodKey : String :=
  match p.periodStart with
  | some start =>
    if p.subscriptionID != "" then "subscription:" ++ p.subscriptionID ++ ":period:" ++ times.format start else event.id
  | none => event.id

def ledgerSourceID : String :=
  if p.subscriptionID != "" && p.periodStart.isSome then p.subscriptionID else event.id

def sqlLike : Like Char := ⟨'%', '_', '\\'⟩

def Ledger.hasSubscriptionPeriodCredits (l : Ledger) (userID subscriptionID periodKeyPrefix : String) : Bool :=
  l.entries.rows.any fun e =>
    (l.accounts.rows.any fun ca => ca.id == e.accountID && ca.userID == userID) &&
      e.sourceType == "polar_subscription" && e.sourceID == subscriptionID &&
      sqlLike.accepts (periodKeyPrefix.toList ++ ['%']) e.idempotencyKey.toList

def sameBillingPeriod (previousStart previousEnd : Option Time) (start finish : Time) : Bool :=
  previousStart.any (·.equal start) && previousEnd.any (·.equal finish)

def proratedCreditDelta (oldCredits newCredits : String) (periodStart periodEnd effectiveAt : Time) : Except Err String :=
  match setString (trimSpace oldCredits), setString (trimSpace newCredits) with
  | some oldValue, some newValue =>
    if !periodEnd.after periodStart then .error .invalidPeriod
    else
      let effectiveAt := if effectiveAt.before periodStart then periodStart else effectiveAt
      let effectiveAt := if effectiveAt.after periodEnd then periodEnd else effectiveAt
      let total := periodEnd.sub periodStart
      let remaining := periodEnd.sub effectiveAt
      .ok (floatString ((newValue - oldValue) * (remaining / total)))
  | _, _ => .error .invalidPlanCredits

/-- The plan changed within a period whose credits are granted: the row before the
event, and the period. -/
def midPeriodSwitch (previous : Option PreviousSubscription) (plan : PlanVersion) (applied : Bool) (p : PlanEvent) :
    Option (PreviousSubscription × Time × Time) :=
  match previous, p.periodStart, p.periodEnd with
  | some previous, some start, some finish =>
    if previous.activePlanVersionID != plan.id && applied &&
        sameBillingPeriod previous.currentPeriodStart previous.currentPeriodEnd start finish then
      some (previous, start, finish)
    else none
  | _, _, _ => none

def periodCreditsApplied (l : Ledger) (times : TimeFormat) (event : WebhookEvent) (userID : String) (p : PlanEvent) : Bool :=
  p.periodStart.isSome && l.hasSubscriptionPeriodCredits userID p.subscriptionID (periodKey times event p ++ ":")

def applyPlanCredits (previous : Option PreviousSubscription) (p : PlanEvent) (l : Ledger) : Except Err Ledger :=
  let key := periodKey r.times event p
  let applied := periodCreditsApplied l r.times event userID p
  match midPeriodSwitch previous plan applied p with
  | some (previous, start, finish) => do
    let effectiveAt := webhookEffectiveTime r.times payload
    let effectiveAt := if effectiveAt.isZero then r.now else effectiveAt
    let delta ← proratedCreditDelta (creditsText previous.includedCredits) (creditsText plan.includedCredits) start finish effectiveAt
    l.applyPlanSwitchCreditDeltaTx (r.ids.caller userID) (key ++ ":plan-switch:" ++ event.id) p.subscriptionID delta
  | none =>
    if applied then .ok l
    else
      l.grantCreditsTx (r.ids.caller userID) (key ++ ":plan-credits:" ++ product.code) "polar_subscription"
        (ledgerSourceID event p) (creditsText plan.includedCredits)

def Store.applyPlanStorage (units : ℤ) (p : PlanEvent) : Except Err Store := do
  let sourceID := ledgerSourceID event p
  let (s, accountID) ← s.ensureStorageAccount r.ids.storageAccount userID
  let s ← s.setIncludedStorageTx accountID "included_set" plan.includedStorageGB "polar_subscription" sourceID
    (periodKey r.times event p ++ ":included-storage:" ++ product.code)
  let purchasedGB := max 0 (units - plan.storageSeatOffset) * plan.storageUnitGB
  s.setPurchasedStorageTx accountID "purchased_set" purchasedGB "polar_subscription" sourceID (event.id ++ ":purchased-storage")

def Store.applyPlanWebhook : Except Err Store :=
  let p := PlanEvent.read r.times event payload
  match r.catalog.planVersion product p.state with
  | none => .ok s
  | some plan => do
    let previous ← s.getPolarSubscriptionForUpdate r.catalog p.subscriptionID userID
    let units := storageUnits p previous
    refuseIf (!decide (-2147483648 ≤ units ∧ units ≤ 2147483647)) .integerOutOfRange
    let subscriptions := clearAppliedPendingSubscriptionPlan
      (upsertPolarSubscription s.subscriptions (p.row userID plan units)) p.subscriptionID
    if p.state = .active ∨ p.state = .trialing then
      let ledger ← applyPlanCredits r event payload userID product plan previous p s.ledger
      { s with subscriptions, ledger }.applyPlanStorage r event userID product plan units p
    else .ok { s with subscriptions }

/-! ## Events -/

def creditTopupAmount (unit : String) : String :=
  match parseInt (firstString payload [["seats"], ["order", "seats"], ["subscription", "seats"]]), setString unit with
  | some seats, some value => if seats ≤ 1 then unit else floatString (value * seats)
  | _, _ => unit

def Store.applyRefundWebhook : Except Err Store :=
  match product.catalogType with
  | .plan =>
    let subscriptionID := firstString payload [["subscription_id"], ["subscription", "id"], ["id"]]
    if subscriptionID == "" then .ok s
    else
      .ok { s with
        subscriptions := updateRefundedSubscription s.subscriptions subscriptionID userID (subscriptionState "" event.eventType) }
  | .creditTopup => do
    let ledger ← s.ledger.refundCredits (r.ids.caller userID) (event.id ++ ":refund-credits:" ++ product.code) event.id
      (creditTopupAmount payload product.catalogRef)
    .ok { s with ledger }
  | .extraStorage => do
    let (s, accountID) ← s.ensureStorageAccount r.ids.storageAccount userID
    s.setPurchasedStorageTx accountID "cancellation" 0 "polar_event" event.id (event.id ++ ":refund-storage:" ++ product.code)
  | .userMachineSubscription | .userMachineBandwidthTopup => do
    r.userMachines
    .ok s
  | .other => .ok s

def userIDPaths : List Path :=
  [["external_user_id"], ["external_customer_id"], ["customer", "external_id"], ["customer", "external_user_id"],
    ["metadata", "paperboat_user_id"], ["metadata", "user_id"]]

def productIDPaths : List Path :=
  [["product_id"], ["product", "id"], ["product"], ["price", "product_id"], ["items", "0", "product_id"]]

def Store.processWebhookEvent : Except Err Store :=
  if !billingRelevantEvent event.eventType then .ok s
  else
    let payload := webhookPayload event
    let userID := firstString payload userIDPaths
    let productID := firstString payload productIDPaths
    match if trimSpace productID == "" then none else r.catalog.productByProviderID productID with
    | none => .error .retryableWebhook
    | some product =>
      if userID == "" then .error .retryableWebhook
      else if refundLikeEvent event.eventType then s.applyRefundWebhook r event payload userID product
      else
        match product.catalogType with
        | .plan => s.applyPlanWebhook r event payload userID product
        | .creditTopup => do
          let ledger ← s.ledger.grantCreditsTx (r.ids.caller userID) (event.id ++ ":credits:" ++ product.code) "polar_event" event.id
            (creditTopupAmount payload product.catalogRef)
          .ok { s with ledger }
        | .extraStorage =>
          match parseInt product.catalogRef with
          | none => .error .invalidStorageRef
          | some gb =>
            if gb < 0 then .error .invalidStorageRef
            else do
              let (s, accountID) ← s.ensureStorageAccount r.ids.storageAccount userID
              s.setPurchasedStorageTx accountID "purchased_set" gb "polar_event" event.id (event.id ++ ":storage:" ++ product.code)
        | .userMachineSubscription | .userMachineBandwidthTopup => do
          r.userMachines
          .ok s
        | .other => .ok s

end Paperboat.Billing

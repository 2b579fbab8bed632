import Paperboat.Billing.Ledger
import Paperboat.Lib.Runs
/-!
# Automatic top-ups

`Service.RunAutoTopups` lists the users whose balance is down to their threshold
and orders a bundle of credits for each. An attempt is reserved under a key made
of the user and the version of their credit account, so that no second order is
made for the version. The credits come later, with a webhook of the paid order.

The call is cut at its statements and at the order: between any two of them other
calls of `RunAutoTopups` go on (several servers run it), credits are spent and
granted, and the process may crash.
-/

namespace Paperboat.Billing.AutoTopup

open Lib

variable {n : ℕ}

/-! ## Tables -/

/-- A row of `credit_auto_topup_policies`; amounts are in millionths. -/
structure Policy where
  userID : String
  enabled : Bool
  (threshold bundleCredits : ℤ)
  providerProductID : String

inductive AttemptState where
  | reserved | created | paid | uncertain | failed
  deriving DecidableEq

inductive OrderFate where
  | unmade | made | granted
  deriving DecidableEq

/-- A row of `credit_auto_topup_attempts`. -/
structure Attempt where
  (userID idempotencyKey : String)
  providerOrderID : Option String
  state : AttemptState
  lastError : String
  updatedAt : ℤ
  /-- Not a column: the order at the provider, since the attempt was last reserved. -/
  order : OrderFate

/-- A row of `ListEligibleCreditAutoTopups`. -/
structure Eligible where
  userID : String
  bundleCredits : ℤ
  providerProductID : String
  creditVersion : ℕ

/-- `"credit-auto:" + row.UserID + ":" + strconv.FormatInt(row.CreditVersion, 10)` -/
def topupKey (userID : String) (creditVersion : ℕ) : String := "credit-auto:" ++ userID ++ ":" ++ toString creditVersion

def Eligible.key (row : Eligible) : String := topupKey row.userID row.creditVersion

/-! ## The provider -/

structure OffSessionOrder where
  (userID providerProductID idempotencyKey : String)
  seats : ℤ
  deriving DecidableEq

def Eligible.offSessionOrder (row : Eligible) (unit : Option String) : Option OffSessionOrder :=
  match unit.bind setString with
  | none => none
  | some unitValue =>
    if 0 < unitValue then
      some
        { userID := row.userID
          providerProductID := row.providerProductID
          idempotencyKey := row.key
          seats := (credits row.bundleCredits / unitValue).num }
    else none

/-- What `CreateOffSessionOrder` returns. Whether an order was `made` in spite of an error is not known to the
service. -/
inductive OrderAnswer where
  | ok (orderID : String)
  | error (status : Option ℕ) (made : Bool)

inductive FailureCode where
  | providerError | paymentFailed | offSessionDisabled | providerOutcomeUnknown

def FailureCode.text : FailureCode → String
  | .providerError => "provider_error"
  | .paymentFailed => "payment_failed"
  | .offSessionDisabled => "off_session_disabled"
  | .providerOutcomeUnknown => "provider_outcome_unknown"

def polarFailureCode : Option ℕ → FailureCode
  | some 402 => .paymentFailed
  | some 403 => .offSessionDisabled
  | _ => .providerError

def polarOutcomeUncertain : Option ℕ → Bool
  | none => true
  | some status => decide (500 ≤ status)

def OrderAnswer.outcome : OrderAnswer → Except FailureCode String
  | .ok orderID => .ok orderID
  | .error status _ => .error (if polarOutcomeUncertain status then .providerOutcomeUnknown else polarFailureCode status)

def OrderAnswer.made : OrderAnswer → Bool
  | .ok _ => true
  | .error status made => polarOutcomeUncertain status && made

/-! ## Statements -/

def newAttempt (userID key : String) (now : ℤ) : Attempt where
  userID
  idempotencyKey := key
  providerOrderID := none
  state := .reserved
  lastError := ""
  updatedAt := now
  order := .unmade

namespace Attempt

def reserve (now : ℤ) (a : Attempt) : Attempt := { a with state := .reserved, updatedAt := now, order := .unmade }

variable (a : Attempt)

def place : Attempt := { a with order := .made }

def grant : Attempt := { a with order := .granted }

def stateOf : Except FailureCode String → AttemptState
  | .ok _ => .created
  | .error .providerOutcomeUnknown => .uncertain
  | .error _ => .failed

def complete (outcome : Except FailureCode String) (now : ℤ) (a : Attempt) : Attempt :=
  { a with
    providerOrderID := outcome.toOption
    state := stateOf outcome
    lastError := match outcome with | .ok _ => "" | .error code => code.text
    updatedAt := now }

def recover : Attempt := { a with state := .failed, lastError := "operator_evidence_no_mutation", updatedAt := 0 }

theorem reserve_key (now : ℤ) (a : Attempt) : (a.reserve now).idempotencyKey = a.idempotencyKey := rfl
theorem place_key : a.place.idempotencyKey = a.idempotencyKey := rfl
theorem grant_key : a.grant.idempotencyKey = a.idempotencyKey := rfl
theorem complete_key (outcome : Except FailureCode String) (now : ℤ) (a : Attempt) :
    (a.complete outcome now).idempotencyKey = a.idempotencyKey := rfl
theorem recover_key : a.recover.idempotencyKey = a.idempotencyKey := rfl

end Attempt

abbrev Attempts := Table Attempt.idempotencyKey

namespace Attempts

variable (t : Attempts)

/-- `ReserveCreditAutoTopup`: a new row, or a failed one after the cooldown; otherwise no row is written. -/
def reserveCreditAutoTopup (userID key : String) (now cooldown : ℤ) : Option Attempts :=
  match t.find key with
  | none => t.insert (newAttempt userID key now)
  | some a =>
    if a.state = .failed ∧ a.updatedAt ≤ now - cooldown then
      some (t.update (·.idempotencyKey == key) (Attempt.reserve now) (Attempt.reserve_key now))
    else none

variable (key : String)

def completeCreditAutoTopup (outcome : Except FailureCode String) (now : ℤ) : Attempts :=
  t.update (·.idempotencyKey == key) (Attempt.complete outcome now) (Attempt.complete_key outcome now)

/-- `RecoverUncertainBillingAutoTopup`: an operator has evidence that no order was made. -/
def recoverUncertain : Attempts :=
  t.update (fun a => a.idempotencyKey == key && a.state == .uncertain) Attempt.recover Attempt.recover_key

def placed : Attempts := t.update (·.idempotencyKey == key) Attempt.place Attempt.place_key

def granted : Attempts := t.update (·.idempotencyKey == key) Attempt.grant Attempt.grant_key

end Attempts

/-! ## The worker -/

inductive Phase where
  | next
  | ordering (row : Eligible)
  | completing (row : Eligible) (outcome : Except FailureCode String)
  | disabling (row : Eligible)

/-- A call of `RunAutoTopups`: the rows it has still to come to. -/
structure Worker where
  rows : List Eligible
  phase : Phase

def Worker.idle : Worker := ⟨[], .next⟩

structure Answers where
  /-- The statement of the step fails. -/
  fails : Bool := false
  now : ℤ := 0
  /-- The user has an active subscription. -/
  subscribed : String → Bool := fun _ => true
  /-- The credits of one unit, as the catalog has them. -/
  unit : Option String := none
  order : OrderAnswer := .error none false

/-- The tables and the calls of `n` servers. -/
structure System (n : ℕ) where
  ledger : Ledger
  policies : Table Policy.userID
  attempts : Attempts
  workers : Fin n → Worker
  cooldown : ℤ

def Policy.disable (p : Policy) : Policy := { p with enabled := false }

def Policy.replace (policy p : Policy) : Policy := { policy with userID := p.userID }

/-- `UpsertCreditAutoTopupPolicy` -/
def upsertPolicy (t : Table Policy.userID) (policy : Policy) : Table Policy.userID :=
  match t.insert policy with
  | some t => t
  | none => t.update (·.userID == policy.userID) policy.replace fun _ => rfl

variable (s : System n)

/-- `ListEligibleCreditAutoTopups` -/
def System.eligible (subscribed : String → Bool) : List Eligible :=
  s.policies.rows.filterMap fun p =>
    match s.ledger.accountOf p.userID with
    | none => none
    | some ca =>
      if p.enabled && decide (ca.balance ≤ p.threshold) && subscribed p.userID &&
          !(s.attempts.rows.any fun a => a.idempotencyKey == topupKey p.userID ca.version &&
            (a.state == .reserved || a.state == .created || a.state == .paid)) then
        some
          { userID := p.userID
            bundleCredits := p.bundleCredits
            providerProductID := p.providerProductID
            creditVersion := ca.version }
      else none

def disables : Except FailureCode String → Bool
  | .error .paymentFailed | .error .offSessionDisabled => true
  | _ => false

def System.setWorker (i : Fin n) (w : Worker) : System n := { s with workers := Function.update s.workers i w }

/-- The next step of the call that worker `i` is at, or the start of one. -/
def System.work (i : Fin n) (a : Answers) : System n :=
  match s.workers i with
  | ⟨[], .next⟩ => if a.fails then s else s.setWorker i ⟨s.eligible a.subscribed, .next⟩
  | ⟨row :: rest, .next⟩ =>
    match if a.fails then none else s.attempts.reserveCreditAutoTopup row.userID row.key a.now s.cooldown with
    | none => s.setWorker i ⟨rest, .next⟩
    | some attempts => { s with attempts }.setWorker i ⟨rest, .ordering row⟩
  | ⟨rest, .ordering row⟩ =>
    match row.offSessionOrder a.unit with
    | none => s.setWorker i ⟨rest, .completing row (.error .providerError)⟩
    | some _ =>
      { s with attempts := if a.order.made then s.attempts.placed row.key else s.attempts }.setWorker i
        ⟨rest, .completing row a.order.outcome⟩
  | ⟨rest, .completing row outcome⟩ =>
    { s with attempts := if a.fails then s.attempts else s.attempts.completeCreditAutoTopup row.key outcome a.now }.setWorker i
      ⟨rest, if disables outcome then .disabling row else .next⟩
  | ⟨rest, .disabling row⟩ =>
    { s with
      policies :=
        if a.fails then s.policies
        else s.policies.update (·.userID == row.userID) Policy.disable fun _ => rfl }.setWorker i ⟨rest, .next⟩

/-! ## The system -/

/-- The webhook of a paid order: `grantCreditsTx` in `processWebhookEvent`. -/
structure PaidEvent where
  (newAccountID newEntryID eventID productCode amount : String)

def PaidEvent.grantOp (event : PaidEvent) (userID : String) : LedgerOp where
  caller := ⟨userID, event.newAccountID, event.newEntryID⟩
  idempotencyKey := event.eventID ++ ":credits:" ++ event.productCode
  request := .grant "polar_event" event.eventID event.amount

inductive Action (n : ℕ) where
  /-- The next step of a worker. -/
  | work (i : Fin n) (answers : Answers)
  | crash (i : Fin n)
  /-- Any other credit operation: spending, grants, adjustments. -/
  | credit (op : LedgerOp)
  /-- The order of an attempt was paid. -/
  | paid (attemptKey : String) (event : PaidEvent)
  | setPolicy (policy : Policy)
  | recover (attemptKey : String)

def System.paidAttempt (attemptKey : String) : Option Attempt :=
  (s.attempts.find attemptKey).filter (·.order == .made)

def System.step : Action n → System n
  | .work i a => s.work i a
  | .crash i => s.setWorker i .idle
  | .credit op => { s with ledger := s.ledger.step op }
  | .paid attemptKey event =>
    match s.paidAttempt attemptKey with
    | none => s
    | some a =>
      match (event.grantOp a.userID).apply s.ledger with
      | .error _ => s
      | .ok ledger =>
        { s with
          ledger
          attempts := if s.ledger.hasEntry (event.grantOp a.userID).idempotencyKey then s.attempts else s.attempts.granted attemptKey }
  | .setPolicy policy => { s with policies := upsertPolicy s.policies policy }
  | .recover attemptKey => { s with attempts := s.attempts.recoverUncertain attemptKey }

/-- The call of `CreateOffSessionOrder` an action makes. -/
def System.orderCall : Action n → Option OffSessionOrder
  | .work i a =>
    match (s.workers i).phase with
    | .ordering row => row.offSessionOrder a.unit
    | _ => none
  | _ => none

structure Initial (s : System n) : Prop where
  attempts : s.attempts.rows = []
  workers : ∀ i, s.workers i = .idle

end Paperboat.Billing.AutoTopup

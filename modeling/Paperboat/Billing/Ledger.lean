import Paperboat.Billing.Amounts
import Paperboat.Lib.Table
/-!
# The credit ledger

`credit_accounts` holds one balance for each user, `credit_ledger_entries` one row
for each movement of a balance, under a unique idempotency key. Five paths write
to both: grants, debits, admin adjustments, refunds and the prorated delta of a
plan switch. Each is one serializable transaction, so a call is a function on the
two tables, and a call that fails leaves them as they were.

A repeated call is recognised by its key: the row under it has to carry the same
account, entry type, amount and source.
-/

namespace Paperboat.Billing

open Lib Connector

/-! ## Tables -/

/-- A row of `credit_accounts`; the balance is in millionths. -/
structure CreditAccount where
  (id userID : String)
  balance : ℤ
  version : ℕ

inductive EntryType where
  | grant | debit | refund | adjustment
  deriving DecidableEq

/-- A row of `credit_ledger_entries`; the amount is in millionths. -/
structure LedgerEntry where
  (id accountID : String)
  entryType : EntryType
  amount : ℤ
  (sourceType sourceID idempotencyKey : String)
  /-- Not a column: the balance was added to, not subtracted from, with the insert. -/
  added : Bool

structure Ledger where
  accounts : Table CreditAccount.id
  entries : Table LedgerEntry.idempotencyKey
  /-- `user_id text NOT NULL UNIQUE` -/
  users : (accounts.rows.map (·.userID)).Nodup

def Ledger.empty : Ledger where
  accounts := ⟨[], List.nodup_nil⟩
  entries := ⟨[], List.nodup_nil⟩
  users := List.nodup_nil

structure Entry where
  id : String
  entryType : EntryType
  (sourceType sourceID idempotencyKey : String)

def Entry.row (entry : Entry) (accountID : String) (amount : ℤ) (add : Bool) : LedgerEntry :=
  { entry with accountID, amount, added := add }

structure Caller where
  (userID newAccountID newEntryID : String)

namespace Ledger

variable {l l' : Ledger}

/-! ## Statements -/

def accountOf (l : Ledger) (userID : String) : Option CreditAccount := l.accounts.rows.find? (·.userID == userID)

def newAccount (id userID : String) : CreditAccount where
  id
  userID
  balance := 0
  version := 1

theorem users_append {accounts : Table CreditAccount.id} {id userID : String} (hnone : l.accountOf userID = none)
    (h : l.accounts.insert (newAccount id userID) = some accounts) : (accounts.rows.map (·.userID)).Nodup := by
  obtain ⟨_, hrows⟩ := Table.insert_eq_some.1 h
  rw [hrows, List.map_append, List.map_singleton, ← List.concat_eq_append, List.nodup_concat]
  refine ⟨fun hmem => ?_, l.users⟩
  obtain ⟨a, ha, hu⟩ := List.mem_map.1 hmem
  exact List.find?_eq_none.1 hnone a ha (beq_iff_eq.2 hu)

/-- `EnsureCreditAccount`: the account of the user, created where there is none. -/
def ensureCreditAccount (l : Ledger) (newID userID : String) : Except Err (Ledger × String) :=
  match hfound : l.accountOf userID with
  | some account => .ok (l, account.id)
  | none =>
    match hins : l.accounts.insert (newAccount newID userID) with
    | some accounts => .ok ({ l with accounts, users := users_append hfound hins }, newID)
    | none => .error .uniqueViolation

def hasEntry (l : Ledger) (key : String) : Bool := l.entries.rows.any (·.idempotencyKey == key)

/-- `SELECT balance::text FROM credit_accounts WHERE id = $1 FOR UPDATE` -/
def getCreditBalanceForUpdate (l : Ledger) (accountID : String) : Except Err ℤ :=
  match l.accounts.find accountID with
  | some account => .ok account.balance
  | none => .error .noRows

/-- `INSERT ... ON CONFLICT (idempotency_key) DO NOTHING`: nothing is left when no row was inserted. -/
def insertCreditLedgerEntry (l : Ledger) (entry : LedgerEntry) : Except Err (Option Ledger) :=
  match l.entries.insert entry with
  | none => .ok none
  | some entries => if l.entries.rows.any (·.id == entry.id) then .error .uniqueViolation else .ok (some { l with entries })

def setBalance (balance : ℤ) (account : CreditAccount) : CreditAccount :=
  { account with balance, version := account.version + 1 }

theorem setBalance_id (balance : ℤ) (account : CreditAccount) : (setBalance balance account).id = account.id := rfl

theorem users_update (l : Ledger) (accountID : String) (balance : ℤ) :
    (((l.accounts.update (·.id == accountID) (setBalance balance) (setBalance_id balance)).rows).map (·.userID)).Nodup := by
  rw [Table.rows_update, List.map_map]
  have hkeep : (CreditAccount.userID ∘ fun a => if (a.id == accountID) = true then setBalance balance a else a) =
      CreditAccount.userID := by
    funext a
    simp only [Function.comp_apply]
    split <;> rfl
  rw [hkeep]
  exact l.users

/-- `UPDATE credit_accounts SET balance = balance + delta, version = version + 1 WHERE id = accountID` -/
def moveCreditBalance (l : Ledger) (accountID : String) (delta : ℚ) : Except Err Ledger :=
  match l.accounts.find accountID with
  | none => .ok l
  | some account => do
    let balance ← numericColumn (credits account.balance + delta)
    .ok { l with
      accounts := l.accounts.update (·.id == accountID) (setBalance balance) (setBalance_id balance)
      users := users_update l accountID balance }

def addCreditBalance (l : Ledger) (accountID amount : String) : Except Err Ledger := do
  let q ← castNumeric amount
  l.moveCreditBalance accountID q

def subtractCreditBalance (l : Ledger) (accountID amount : String) : Except Err Ledger := do
  let q ← castNumeric amount
  l.moveCreditBalance accountID (-q)

/-! ## Inside a transaction -/

def creditLedgerEntryMatches (l : Ledger) (accountID : String) (entry : Entry) (amount : String) : Except Err Bool :=
  match l.entries.find entry.idempotencyKey with
  | none => .ok false
  | some existing => do
    let q ← castNumeric amount
    let sameAmount := credits existing.amount == q
    if existing.accountID == accountID && existing.entryType == entry.entryType && sameAmount &&
        existing.sourceType == entry.sourceType && existing.sourceID == entry.sourceID then
      .ok true
    else .error .idempotencyConflict

def insertCreditLedger (l : Ledger) (accountID : String) (entry : Entry) (amount : String) (add : Bool) : Except Err Ledger := do
  if ← l.creditLedgerEntryMatches accountID entry amount then .ok l
  else
    let q ← castNumeric amount
    let stored ← numericColumn q
    match ← l.insertCreditLedgerEntry (entry.row accountID stored add) with
    | none => .ok l
    | some l => if add then l.addCreditBalance accountID amount else l.subtractCreditBalance accountID amount

def ensureCreditBalance (l : Ledger) (accountID amount : String) : Except Err Unit := do
  let balance ← l.getCreditBalanceForUpdate accountID
  let q ← castNumeric amount
  refuseIf (!decide (q ≤ credits balance)) .insufficientCredits

def grantCreditsTx (l : Ledger) (caller : Caller) (idempotencyKey sourceType sourceID amount : String) : Except Err Ledger := do
  refuseIf (refusedAmount amount) .amountNotPositive
  let (l, accountID) ← l.ensureCreditAccount caller.newAccountID caller.userID
  l.insertCreditLedger accountID
    { id := caller.newEntryID, entryType := .grant, sourceType, sourceID, idempotencyKey } amount true

def debitCreditsTx (l : Ledger) (caller : Caller) (entryType : EntryType)
    (idempotencyKey sourceType sourceID amount : String) : Except Err Ledger := do
  refuseIf (refusedAmount amount) .amountNotPositive
  let (l, accountID) ← l.ensureCreditAccount caller.newAccountID caller.userID
  let entry : Entry := { id := caller.newEntryID, entryType, sourceType, sourceID, idempotencyKey }
  if ← l.creditLedgerEntryMatches accountID entry amount then .ok l
  else
    l.ensureCreditBalance accountID amount
    l.insertCreditLedger accountID entry amount false

/-! ## Calls -/

/-- The transaction of `GrantCredits` is that of `grantCreditsTx`. -/
def grantCredits := grantCreditsTx

def debitCredits (l : Ledger) (caller : Caller) (idempotencyKey sourceType sourceID amount : String) : Except Err Ledger :=
  l.debitCreditsTx caller .debit idempotencyKey sourceType sourceID amount

def adjustCredits (l : Ledger) (caller : Caller) (idempotencyKey amount : String) : Except Err Ledger := do
  let amount := trimSpace amount
  refuseIf (amount == "" || amount == "0" || amount == "0.000000") .adjustmentZero
  if hasPrefix amount "-" then
    let debitAmount := String.ofList (amount.toList.drop 1)
    l.debitCreditsTx caller .adjustment idempotencyKey "admin" caller.userID debitAmount
  else
    let (l, accountID) ← l.ensureCreditAccount caller.newAccountID caller.userID
    l.insertCreditLedger accountID
      { id := caller.newEntryID, entryType := .adjustment, sourceType := "admin", sourceID := caller.userID, idempotencyKey }
      amount true

/-- The debit of `applyRefundWebhook` for a credit top-up. -/
def refundCredits (l : Ledger) (caller : Caller) (idempotencyKey eventID amount : String) : Except Err Ledger :=
  l.debitCreditsTx caller .refund idempotencyKey "polar_event" eventID amount

def applyPlanSwitchCreditDeltaTx (l : Ledger) (caller : Caller) (idempotencyKey subscriptionID signedDelta : String) :
    Except Err Ledger :=
  match setString (trimSpace signedDelta) with
  | none => .error .invalidDelta
  | some delta =>
    if delta = 0 then .ok l
    else if 0 < delta then l.grantCreditsTx caller idempotencyKey "polar_subscription" subscriptionID signedDelta
    else do
      let requested := floatString |delta|
      let (l, accountID) ← l.ensureCreditAccount caller.newAccountID caller.userID
      let available ← l.getCreditBalanceForUpdate accountID
      if available ≤ 0 then .ok l
      else
        -- the debit is cut to what there is
        let applied := if credits available < (setString requested).getD 0 then floatString (credits available) else requested
        l.insertCreditLedger accountID
          { id := caller.newEntryID, entryType := .debit, sourceType := "polar_subscription", sourceID := subscriptionID,
            idempotencyKey } applied false

end Ledger

/-! ## Histories -/

inductive Request where
  | grant (sourceType sourceID amount : String)
  | debit (sourceType sourceID amount : String)
  | adjust (amount : String)
  | refund (eventID amount : String)
  | planSwitch (subscriptionID signedDelta : String)

structure LedgerOp where
  caller : Caller
  idempotencyKey : String
  request : Request

def LedgerOp.apply (op : LedgerOp) (l : Ledger) : Except Err Ledger :=
  match op.request with
  | .grant sourceType sourceID amount => l.grantCredits op.caller op.idempotencyKey sourceType sourceID amount
  | .debit sourceType sourceID amount => l.debitCredits op.caller op.idempotencyKey sourceType sourceID amount
  | .adjust amount => l.adjustCredits op.caller op.idempotencyKey amount
  | .refund eventID amount => l.refundCredits op.caller op.idempotencyKey eventID amount
  | .planSwitch subscriptionID signedDelta =>
    l.applyPlanSwitchCreditDeltaTx op.caller op.idempotencyKey subscriptionID signedDelta

def Ledger.step (l : Ledger) (op : LedgerOp) : Ledger :=
  match op.apply l with
  | .ok l' => l'
  | .error _ => l

end Paperboat.Billing

import Paperboat.Billing.Ledger
import Paperboat.Lib.Runs
/-!
# What a credit operation does

A call opens the user's account, where there is none yet, and then either leaves
both tables alone or appends one entry and moves the balance by it (`Ledger.Posted`).
Whatever five paths lead there, the amount is not negative, and what is taken off
a balance was there.
-/

namespace Paperboat.Billing

open Lib Connector

variable {accountID amount : String} {add : Bool} {account : CreditAccount} {entry : Entry} {caller : Caller} {l l' : Ledger}

/-! ## Accounts -/

/-- The tables after `EnsureCreditAccount`, which found or created the account. -/
structure Ledger.Opened (l : Ledger) (caller : Caller) (account : CreditAccount) (l' : Ledger) : Prop where
  entries : l'.entries = l.entries
  mem : account ∈ l'.accounts.rows
  user : account.userID = caller.userID
  rows : l' = l ∨ (l.accountOf caller.userID = none ∧ l'.accounts.rows = l.accounts.rows ++ [account] ∧
    account = newAccount caller.newAccountID caller.userID ∧ ∀ a ∈ l.accounts.rows, a.id ≠ account.id)

namespace Ledger

variable {a : CreditAccount}

theorem accountOf_eq_some {userID : String} :
    l.accountOf userID = some a ↔ a ∈ l.accounts.rows ∧ a.userID = userID := find?_key l.users

theorem ensureCreditAccount_ok {caller : Caller}
    (h : l.ensureCreditAccount caller.newAccountID caller.userID = .ok (l', accountID)) :
    ∃ account, l.Opened caller account l' ∧ account.id = accountID := by
  unfold ensureCreditAccount at h
  split at h
  · rename_i account hfd
    cases h
    obtain ⟨hmem, huser⟩ := accountOf_eq_some.1 hfd
    exact ⟨account, ⟨rfl, hmem, huser, .inl rfl⟩, rfl⟩
  · rename_i hfd
    split at h
    · rename_i accounts hins
      cases h
      obtain ⟨hfr, hrows⟩ := Table.insert_eq_some.1 hins
      refine ⟨_, ⟨rfl, ?_, rfl, .inr ⟨hfd, hrows, rfl, hfr⟩⟩, rfl⟩
      rw [hrows]
      exact List.mem_append_right _ List.mem_cons_self
    · cases h

theorem getCreditBalanceForUpdate_ok {balance : ℤ}
    (h : l.getCreditBalanceForUpdate accountID = .ok balance) (ha : a ∈ l.accounts.rows)
    (hid : a.id = accountID) : balance = a.balance := by
  rw [getCreditBalanceForUpdate, Table.find_eq_some.2 ⟨ha, hid⟩] at h
  exact (Except.ok.inj h).symm

theorem ensureCreditBalance_ok {amount : String} {u : Unit} (h : l.ensureCreditBalance accountID amount = .ok u)
    (ha : a ∈ l.accounts.rows) (hid : a.id = accountID) {q : ℚ} (hq : castNumeric amount = .ok q) :
    q ≤ credits a.balance := by
  simp only [ensureCreditBalance, bind_eq_ok, refuseIf_eq_ok, Bool.not_eq_false', decide_eq_true_eq] at h
  obtain ⟨balance, hbal, q', hq', hle⟩ := h
  rw [hq] at hq'
  cases hq'
  exact getCreditBalanceForUpdate_ok hbal ha hid ▸ hle

end Ledger

/-! ## Entries -/

def LedgerEntry.IsOf (e : LedgerEntry) (accountID : String) (entry : Entry) (q : ℚ) : Prop :=
  e.accountID = accountID ∧ e.entryType = entry.entryType ∧ credits e.amount = q ∧ e.sourceType = entry.sourceType ∧
    e.sourceID = entry.sourceID

instance (e : LedgerEntry) (accountID : String) (entry : Entry) (q : ℚ) : Decidable (e.IsOf accountID entry q) :=
  inferInstanceAs (Decidable (_ ∧ _))

def LedgerEntry.change (e : LedgerEntry) : ℤ := if e.added then e.amount else -e.amount

structure Ledger.Moved (l : Ledger) (account : CreditAccount) (e : LedgerEntry) (delta : ℚ) (l' : Ledger) : Prop where
  fresh : ∀ r ∈ l.entries.rows, r.idempotencyKey ≠ e.idempotencyKey
  entries : l'.entries.rows = l.entries.rows ++ [e]
  accounts : l'.accounts.rows = l.accounts.rows.map fun a =>
    if a.id == account.id then setBalance (Decimal.scaled 6 (credits account.balance + delta)) a else a

namespace Ledger

variable {e : LedgerEntry}

theorem creditLedgerEntryMatches_recorded (he : l.entries.find entry.idempotencyKey = some e) :
    l.creditLedgerEntryMatches accountID entry amount =
      castNumeric amount >>= fun q => if e.IsOf accountID entry q then .ok true else .error .idempotencyConflict := by
  rw [creditLedgerEntryMatches, he]
  refine bind_congr fun q => ?_
  refine if_congr ?_ rfl rfl
  simp only [LedgerEntry.IsOf, Bool.and_eq_true, beq_iff_eq, and_assoc]

theorem insertCreditLedger_recorded (he : l.entries.find entry.idempotencyKey = some e) :
    l.insertCreditLedger accountID entry amount add =
      castNumeric amount >>= fun q => if e.IsOf accountID entry q then .ok l else .error .idempotencyConflict := by
  rw [insertCreditLedger, creditLedgerEntryMatches_recorded he]
  cases castNumeric amount with
  | error => rfl
  | ok q =>
    by_cases he : e.IsOf accountID entry q <;> simp [bind, Except.bind, he]

theorem insertCreditLedger_fresh (ha : account ∈ l.accounts.rows) (hnone : l.entries.find entry.idempotencyKey = none)
    (h : l.insertCreditLedger account.id entry amount add = .ok l') : ∃ q, castNumeric amount = .ok q ∧
      l.Moved account (entry.row account.id (Decimal.scaled 6 q) add) (if add then q else -q) l' := by
  rw [insertCreditLedger, creditLedgerEntryMatches, hnone] at h
  change (castNumeric amount >>= _) = _ at h
  obtain ⟨q, hq, h⟩ := bind_eq_ok.1 h
  obtain ⟨stored, hsd, h⟩ := bind_eq_ok.1 h
  obtain rfl := numericColumn_eq_ok hsd
  obtain ⟨inserted, hins, h⟩ := bind_eq_ok.1 h
  -- the key was looked up before, so it is free
  obtain ⟨entries, hentries⟩ := Table.insert_of_find_none
    (t := l.entries) (r := entry.row account.id (Decimal.scaled 6 q) add) hnone
  rw [insertCreditLedgerEntry, hentries] at hins
  simp only at hins
  split at hins
  · cases hins
  cases hins
  obtain ⟨hfr, hrows⟩ := Table.insert_eq_some.1 hentries
  refine ⟨q, hq, ?_⟩
  have hm : ({ l with entries } : Ledger).moveCreditBalance account.id (if add then q else -q) = .ok l' := by
    cases add with
    | true | false =>
      obtain ⟨q', hq', hm⟩ := bind_eq_ok.1 h
      obtain rfl : q = q' := Except.ok.inj (hq.symm.trans hq')
      exact hm
  simp only [moveCreditBalance, Table.find_eq_some.2 ⟨ha, rfl⟩] at hm
  obtain ⟨balance, hbal, hm⟩ := bind_eq_ok.1 hm
  cases hm
  obtain rfl := numericColumn_eq_ok hbal
  exact ⟨hfr, hrows, rfl⟩

end Ledger

/-! ## Calls -/

def unsignedAmount (text : String) : String :=
  if hasPrefix (trimSpace text) "-" then String.ofList ((trimSpace text).toList.drop 1) else trimSpace text

/-- The tables after a call that opened its user's account and posted an amount
to it, or found it posted. -/
def Ledger.Posted (l : Ledger) (caller : Caller) (entry : Entry) (amount : String) (add : Bool) (l' : Ledger) : Prop :=
  ∃ account l₁, l.Opened caller account l₁ ∧
    (l' = l₁ ∨ ∃ q, castNumeric amount = .ok q ∧ 0 ≤ q ∧ (add = false → q ≤ credits account.balance) ∧
      l₁.Moved account (entry.row account.id (Decimal.scaled 6 q) add) (if add then q else -q) l')

namespace Ledger

variable {sourceType sourceID text : String} {key : String}

variable {l₁ : Ledger}

theorem Posted.of_insert (ho : l.Opened caller account l₁) (h : l₁.insertCreditLedger account.id entry amount add = .ok l')
    (hnn : ∀ q, castNumeric amount = .ok q → 0 ≤ q)
    (hcov : add = false → ∀ q, castNumeric amount = .ok q → q ≤ credits account.balance) :
    l.Posted caller entry amount add l' := by
  refine ⟨account, l₁, ho, ?_⟩
  cases hfind : l₁.entries.find entry.idempotencyKey with
  | none =>
    obtain ⟨q, hq, hmv⟩ := insertCreditLedger_fresh ho.mem hfind h
    exact .inr ⟨q, hq, hnn q hq, fun hadd => hcov hadd q hq, hmv⟩
  | some =>
    rw [insertCreditLedger_recorded hfind] at h
    obtain ⟨q, _, h⟩ := bind_eq_ok.1 h
    split at h
    · exact .inl (Except.ok.inj h).symm
    · cases h

theorem hasEntry_of_find {e : LedgerEntry} (h : l.entries.find key = some e) : l.hasEntry key :=
  List.any_eq_true.2 ⟨e, (Lib.Table.find_eq_some.1 h).1, by simpa using (Lib.Table.find_eq_some.1 h).2⟩

theorem insertCreditLedger_hasEntry (ha : account ∈ l.accounts.rows)
    (h : l.insertCreditLedger account.id entry amount add = .ok l') : l'.hasEntry entry.idempotencyKey := by
  cases hfind : l.entries.find entry.idempotencyKey with
  | none =>
    obtain ⟨_, _, hm⟩ := insertCreditLedger_fresh ha hfind h
    simp [hasEntry, hm.entries, Entry.row]
  | some =>
    rw [insertCreditLedger_recorded hfind] at h
    obtain ⟨q, _, h⟩ := bind_eq_ok.1 h
    split at h
    · exact Except.ok.inj h ▸ hasEntry_of_find hfind
    · cases h

theorem grantCreditsTx_ok (h : l.grantCreditsTx caller key sourceType sourceID amount = .ok l') :
    l.Posted caller ⟨caller.newEntryID, .grant, sourceType, sourceID, key⟩ amount true l' := by
  simp only [grantCreditsTx, bind_eq_ok, refuseIf_eq_ok] at h
  obtain ⟨_, hrf, ⟨l₁, accountID⟩, hen, h⟩ := h
  obtain ⟨account, ho, rfl⟩ := ensureCreditAccount_ok hen
  exact .of_insert ho h (fun q hq => castNumeric_nonneg hrf hq) (by simp)

theorem debitCreditsTx_ok {entryType : EntryType}
    (h : l.debitCreditsTx caller entryType key sourceType sourceID amount = .ok l') :
    l.Posted caller ⟨caller.newEntryID, entryType, sourceType, sourceID, key⟩ amount false l' := by
  simp only [debitCreditsTx, bind_eq_ok, refuseIf_eq_ok] at h
  obtain ⟨_, hrf, ⟨l₁, accountID⟩, hen, seen, hseen, h⟩ := h
  obtain ⟨account, ho, rfl⟩ := ensureCreditAccount_ok hen
  cases seen with
  | true => exact ⟨account, l₁, ho, .inl (Except.ok.inj h).symm⟩
  | false =>
    obtain ⟨_, hbal, h⟩ := bind_eq_ok.1 h
    exact .of_insert ho h (fun q hq => castNumeric_nonneg hrf hq) fun _ q hq =>
      ensureCreditBalance_ok hbal ho.mem rfl hq

theorem adjustCredits_ok (h : l.adjustCredits caller key text = .ok l') :
    l.Posted caller ⟨caller.newEntryID, .adjustment, "admin", caller.userID, key⟩ (unsignedAmount text)
      (!hasPrefix (trimSpace text) "-") l' := by
  simp only [adjustCredits, bind_eq_ok, refuseIf_eq_ok] at h
  obtain ⟨_, _, h⟩ := h
  unfold unsignedAmount
  cases hsign : hasPrefix (trimSpace text) "-" with
  | true =>
    simp only [hsign, if_true] at h ⊢
    exact debitCreditsTx_ok h
  | false =>
    simp only [hsign, Bool.false_eq_true, if_false] at h ⊢
    obtain ⟨⟨l₁, accountID⟩, hen, h⟩ := bind_eq_ok.1 h
    obtain ⟨account, ho, rfl⟩ := ensureCreditAccount_ok hen
    refine .of_insert ho h (fun q => castNumeric_nonneg_of_head ?_) (by simp)
    rw [toList_trimSpace, head?_dropWhile_stripped, ← toList_trimSpace]
    exact head?_of_hasPrefix_eq_false hsign

theorem applyPlanSwitchCreditDeltaTx_ok {subscriptionID : String}
    (h : l.applyPlanSwitchCreditDeltaTx caller key subscriptionID text = .ok l') :
    l' = l ∨ l.Posted caller ⟨caller.newEntryID, .grant, "polar_subscription", subscriptionID, key⟩ text true l' ∨
      ∃ q, l.Posted caller ⟨caller.newEntryID, .debit, "polar_subscription", subscriptionID, key⟩ (floatString q) false l' := by
  unfold applyPlanSwitchCreditDeltaTx at h
  split at h
  · cases h
  rename_i delta hdt
  split_ifs at h with hzero hpos
  · exact .inl (Except.ok.inj h).symm
  · exact .inr (.inl (grantCreditsTx_ok h))
  refine .inr (.inr ?_)
  simp only [bind_eq_ok] at h
  obtain ⟨⟨l₁, accountID⟩, hen, available, hav, h⟩ := h
  obtain ⟨account, ho, rfl⟩ := ensureCreditAccount_ok hen
  obtain rfl := getCreditBalanceForUpdate_ok hav ho.mem rfl
  split_ifs at h with hnone hcut
  · exact ⟨0, account, l₁, ho, .inl (Except.ok.inj h).symm⟩
  · -- the whole balance goes
    have hread : ∀ q, castNumeric (floatString (credits account.balance)) = .ok q → q = credits account.balance := by
      intro q hq
      rw [castNumeric_floatString, scaled_credits] at hq
      exact (Except.ok.inj hq).symm
    exact ⟨_, .of_insert ho h (fun q hq => hread q hq ▸ credits_nonneg (by omega)) fun _ q hq => (hread q hq).le⟩
  · have hread : ∀ q, castNumeric (floatString |delta|) = .ok q → q = credits (Decimal.scaled 6 |delta|) := by
      intro q hq
      rw [castNumeric_floatString] at hq
      exact (Except.ok.inj hq).symm
    rw [setString_floatString, Option.getD_some, not_lt] at hcut
    exact ⟨_, .of_insert ho h (fun q hq => hread q hq ▸ credits_nonneg (Decimal.halfAway_nonneg (by positivity)))
      fun _ q hq => hread q hq ▸ hcut⟩

end Ledger

/-! ## Growth -/

structure Ledger.Grows (l l' : Ledger) : Prop where
  entries : ∀ e ∈ l.entries.rows, e ∈ l'.entries.rows
  accounts : ∀ a ∈ l.accounts.rows, ∃ a' ∈ l'.accounts.rows, a'.id = a.id ∧ a'.userID = a.userID

namespace Ledger

theorem Grows.refl (l : Ledger) : l.Grows l := ⟨fun _ he => he, fun a ha => ⟨a, ha, rfl, rfl⟩⟩

theorem Grows.trans {l'' : Ledger} (h : l.Grows l') (h' : l'.Grows l'') : l.Grows l'' := by
  refine ⟨fun e he => h'.entries e (h.entries e he), fun a ha => ?_⟩
  obtain ⟨a', ha', hid, huser⟩ := h.accounts a ha
  obtain ⟨a'', ha'', hid', huser'⟩ := h'.accounts a' ha'
  exact ⟨a'', ha'', hid'.trans hid, huser'.trans huser⟩

theorem Opened.grows (h : l.Opened caller account l') : l.Grows l' := by
  refine ⟨fun e he => h.entries ▸ he, fun a ha => ?_⟩
  rcases h.rows with rfl | ⟨_, hrows, _⟩
  · exact ⟨a, ha, rfl, rfl⟩
  · exact ⟨a, hrows ▸ List.mem_append_left _ ha, rfl, rfl⟩

theorem Moved.grows {e : LedgerEntry} {delta : ℚ} (h : l.Moved account e delta l') : l.Grows l' := by
  refine ⟨fun e he => h.entries ▸ List.mem_append_left _ he, fun a ha => ?_⟩
  rw [h.accounts]
  refine ⟨_, List.mem_map_of_mem ha, ?_⟩
  split <;> exact ⟨rfl, rfl⟩

theorem Posted.grows (h : l.Posted caller entry amount add l') : l.Grows l' := by
  obtain ⟨account, l₁, ho, rfl | ⟨q, _, _, _, hm⟩⟩ := h
  · exact ho.grows
  · exact ho.grows.trans hm.grows

theorem Posted.rows (h : l.Posted caller entry amount add l') :
    l'.entries.rows = l.entries.rows ∨ ∃ a ∈ l'.accounts.rows, a.userID = caller.userID ∧ ∃ q, castNumeric amount = .ok q ∧
      l'.entries.rows = l.entries.rows ++ [entry.row a.id (Decimal.scaled 6 q) add] := by
  obtain ⟨account, l₁, ho, rfl | ⟨q, hq, _, _, hm⟩⟩ := h
  · exact .inl (by rw [ho.entries])
  · obtain ⟨a, ha, hid, huser⟩ := hm.grows.accounts account ho.mem
    exact .inr ⟨a, ha, huser.trans ho.user, q, hq, by rw [hm.entries, ho.entries, hid]⟩

end Ledger

/-! ## Owners -/

/-- `account_id text NOT NULL REFERENCES credit_accounts(id)` -/
def Ledger.Owned (l : Ledger) : Prop := ∀ e ∈ l.entries.rows, ∃ a ∈ l.accounts.rows, a.id = e.accountID

namespace Ledger.Owned

theorem opened (h : l.Owned) (ho : l.Opened caller account l') : l'.Owned := by
  intro e he
  rw [ho.entries] at he
  obtain ⟨a, ha, hid⟩ := h e he
  obtain ⟨a', ha', haid, _⟩ := ho.grows.accounts a ha
  exact ⟨a', ha', haid.trans hid⟩

theorem moved (h : l.Owned) (ha : account ∈ l.accounts.rows) {e : LedgerEntry} {delta : ℚ} (hm : l.Moved account e delta l')
    (hid : e.accountID = account.id) : l'.Owned := by
  intro e' he'
  rw [hm.entries] at he'
  rcases List.mem_append.1 he' with he' | he'
  · obtain ⟨a, ha, hae⟩ := h e' he'
    obtain ⟨a', ha', haid, _⟩ := hm.grows.accounts a ha
    exact ⟨a', ha', haid.trans hae⟩
  · obtain rfl := List.mem_singleton.1 he'
    obtain ⟨a', ha', haid, _⟩ := hm.grows.accounts account ha
    exact ⟨a', ha', haid.trans hid.symm⟩

end Ledger.Owned

/-! ## What a call can do -/

namespace LedgerOp

variable {op : LedgerOp}

def sixPlaces (op : LedgerOp) : Bool :=
  match op.request with
  | .grant _ _ amount => Billing.sixPlaces amount
  | .debit _ _ amount => Billing.sixPlaces amount
  | .adjust amount => Billing.sixPlaces (unsignedAmount amount)
  | .refund _ amount => Billing.sixPlaces amount
  | .planSwitch _ signedDelta => Billing.sixPlaces signedDelta

def adjusts (op : LedgerOp) (add : Bool) : Prop := ∃ amount, op.request = .adjust amount ∧ add = !hasPrefix (trimSpace amount) "-"

def Directed (op : LedgerOp) (entryType : EntryType) (add : Bool) : Prop :=
  match entryType with
  | .grant => add
  | .debit => add = false
  | .refund => add = false
  | .adjustment => op.adjusts add

theorem apply_ok (h : op.apply l = .ok l') :
    l' = l ∨ ∃ entry amount add, l.Posted op.caller entry amount add l' ∧ entry.idempotencyKey = op.idempotencyKey ∧
      op.Directed entry.entryType add ∧ (op.sixPlaces → Billing.sixPlaces amount) := by
  obtain ⟨caller, key, request⟩ := op
  cases request with
  | grant =>
    exact .inr ⟨_, _, _, Ledger.grantCreditsTx_ok h, rfl, rfl, id⟩
  | debit | refund =>
    exact .inr ⟨_, _, _, Ledger.debitCreditsTx_ok h, rfl, rfl, id⟩
  | adjust amount =>
    exact .inr ⟨_, _, _, Ledger.adjustCredits_ok h, rfl, ⟨amount, rfl, rfl⟩, id⟩
  | planSwitch =>
    rcases Ledger.applyPlanSwitchCreditDeltaTx_ok h with rfl | hgr | ⟨q, hdb⟩
    · exact .inl rfl
    · exact .inr ⟨_, _, _, hgr, rfl, rfl, id⟩
    · exact .inr ⟨_, _, _, hdb, rfl, rfl, fun _ => by simp [Billing.sixPlaces, castNumeric_floatString]⟩

end LedgerOp

end Paperboat.Billing

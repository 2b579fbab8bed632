import Paperboat.Billing.LedgerSoundness
/-!
# What an idempotency key identifies

A call under a key that is in the ledger should succeed only where it asks for the
movement recorded there. Two things are in the way. A row keeps the amount of an
adjustment without its sign, so an adjustment and its reverse are the same row.
And a plan switch that has nothing to move succeeds before the key is looked at.

For the same reason the rows of a ledger do not say its balances, unless the
adjustments under one key go in one direction.
-/

namespace Paperboat.Billing

open Lib Connector Ledger LedgerOp List LedgerEntry

variable {P : LedgerOp → Prop} {key sourceType sourceID amount : String} {caller : Caller} {e : LedgerEntry} {l l' : Ledger}

/-! ## Directions -/

def Ledger.Directed (P : LedgerOp → Prop) (l : Ledger) : Prop :=
  ∀ e ∈ l.entries.rows, ∃ op, P op ∧ op.idempotencyKey = e.idempotencyKey ∧ op.Directed e.entryType e.added

structure Ledger.Recorded (P : LedgerOp → Prop) (l : Ledger) : Prop where
  owned : l.Owned
  directed : l.Directed P

namespace Ledger.Recorded

theorem empty : Ledger.empty.Recorded P := ⟨nofun, nofun⟩

theorem step (h : l.Recorded P) {op : LedgerOp} (hop : P op) : (l.step op).Recorded P := by
  unfold Ledger.step
  split
  · rename_i l' hok
    rcases apply_ok hok with rfl | ⟨entry, amount, add, ⟨account, l1, ho, hpost⟩, hkey, hdir, _⟩
    · exact h
    have hdirected : l1.Directed P := fun e he => h.directed e (ho.entries ▸ he)
    rcases hpost with rfl | ⟨q, _, _, _, hm⟩
    · exact ⟨h.owned.opened ho, hdirected⟩
    refine ⟨(h.owned.opened ho).moved ho.mem hm rfl, fun e he => ?_⟩
    rw [hm.entries] at he
    rcases mem_append.1 he with he | he
    · exact hdirected e he
    · obtain rfl := mem_singleton.1 he
      exact ⟨op, hop, hkey.symm, hdir⟩
  · exact h

theorem run (ops : List LedgerOp) : (Lib.run Ledger.step Ledger.empty ops).Recorded (· ∈ ops) :=
  run_inv (fun _ _ h hop => h.step hop) empty (eachStep_of_forall (fun _ h => h) _)

end Ledger.Recorded

/-! ## Calls on a recorded key -/

namespace Ledger

variable {account : CreditAccount}

variable {entry : Entry}

def compare (l : Ledger) (caller : Caller) (entry : Entry) (amount : String) (e : LedgerEntry) : Except Err Ledger := do
  let (l, accountID) ← l.ensureCreditAccount caller.newAccountID caller.userID
  let q ← castNumeric amount
  if e.IsOf accountID entry q then .ok l else .error .idempotencyConflict

theorem ensureCreditAccount_entries {r : Ledger × String}
    (h : l.ensureCreditAccount caller.newAccountID caller.userID = .ok r) : r.1.entries = l.entries := by
  obtain ⟨account, ho, _⟩ := ensureCreditAccount_ok h
  exact ho.entries

theorem insert_recorded {add : Bool} (he : l.entries.find entry.idempotencyKey = some e) : (do
      let r ← l.ensureCreditAccount caller.newAccountID caller.userID
      r.1.insertCreditLedger r.2 entry amount add) = l.compare caller entry amount e := by
  unfold compare
  cases h : l.ensureCreditAccount caller.newAccountID caller.userID with
  | error => rfl
  | ok => exact insertCreditLedger_recorded ((ensureCreditAccount_entries h).symm ▸ he)

theorem debitCreditsTx_recorded {entryType : EntryType} (he : l.entries.find key = some e) :
    l.debitCreditsTx caller entryType key sourceType sourceID amount =
      refuseIf (refusedAmount amount) .amountNotPositive >>= fun _ =>
        l.compare caller ⟨caller.newEntryID, entryType, sourceType, sourceID, key⟩ amount e := by
  refine bind_congr fun _ => ?_
  unfold compare
  cases h : l.ensureCreditAccount caller.newAccountID caller.userID with
  | error => rfl
  | ok r =>
    have hr : r.1.entries.find key = some e := (ensureCreditAccount_entries h).symm ▸ he
    change (r.1.creditLedgerEntryMatches r.2 ⟨caller.newEntryID, entryType, sourceType, sourceID, key⟩ amount >>= _) = _
    rw [creditLedgerEntryMatches_recorded hr]
    cases castNumeric amount with
    | error => rfl
    | ok q =>
      by_cases hof : e.IsOf r.2 ⟨caller.newEntryID, entryType, sourceType, sourceID, key⟩ q <;>
        simp [bind, Except.bind, hof]

def CanOpen (l : Ledger) (caller : Caller) : Prop :=
  l.accountOf caller.userID ≠ none ∨ ∀ a ∈ l.accounts.rows, a.id ≠ caller.newAccountID

theorem ensureCreditAccount_cases (l : Ledger) (caller : Caller) :
    (l.CanOpen caller ∧ ∃ account l', l.ensureCreditAccount caller.newAccountID caller.userID = .ok (l', account.id) ∧
      l.Opened caller account l') ∨
    (¬l.CanOpen caller ∧ l.ensureCreditAccount caller.newAccountID caller.userID = .error .uniqueViolation) := by
  cases hen : l.ensureCreditAccount caller.newAccountID caller.userID with
  | ok r =>
    obtain ⟨account, ho, hid⟩ := ensureCreditAccount_ok hen
    refine .inl ⟨?_, account, r.1, by rw [hid], ho⟩
    rcases ho.rows with hsame | ⟨_, _, hnew, hfr⟩
    · exact .inl (by rw [accountOf_eq_some.2 ⟨hsame ▸ ho.mem, ho.user⟩]; exact Option.some_ne_none _)
    · exact .inr fun a ha hid => hfr a ha (by rw [hid, hnew]; rfl)
  | error =>
    unfold ensureCreditAccount at hen
    split at hen
    · cases hen
    rename_i hnone
    split at hen
    · cases hen
    rename_i htk
    refine .inr ⟨?_, hen.symm⟩
    rintro (hsome | hfree)
    · exact hsome hnone
    · have hmem : (newAccount caller.newAccountID caller.userID).id ∉ l.accounts.rows.map CreditAccount.id := by
        simpa [newAccount] using hfree
      rw [Table.insert, dif_neg hmem] at htk
      cases htk

/-- The call is recognised for what it is: it succeeds only where it asks for the
recorded change to the recorded account, and is a conflict otherwise. -/
def Recognised (l : Ledger) (userID : String) (asked : Option ℚ) (e : LedgerEntry) : Except Err Ledger → Prop
  | .ok _ => (∃ a, l.accountOf userID = some a ∧ a.id = e.accountID) ∧ asked = some (credits e.change)
  | .error err => err = .idempotencyConflict

variable {userID : String} {asked : Option ℚ}

theorem recognised_refuseIf {refused : Bool} (err : Err) (herr : err ≠ .idempotencyConflict) {f : Unit → Except Err Ledger} :
    l.Recognised userID asked e (refuseIf refused err >>= f) ↔ refused = false ∧ l.Recognised userID asked e (f ()) := by
  cases refused <;> simp [refuseIf, bind, Except.bind, Recognised, herr]

theorem Opened.account_of_isOf (ho : l.Opened caller account l') (how : l.Owned)
    (he : e ∈ l.entries.rows) (hid : e.accountID = account.id) : l.accountOf caller.userID = some account := by
  rcases ho.rows with rfl | ⟨_, _, _, hfr⟩
  · exact accountOf_eq_some.2 ⟨ho.mem, ho.user⟩
  · obtain ⟨a, ha, hae⟩ := how e he
    exact absurd (hae.trans hid) (hfr a ha)

theorem Opened.account_eq {a : CreditAccount} (ho : l.Opened caller account l')
    (ha : l.accountOf caller.userID = some a) : account = a := by
  rcases ho.rows with rfl | ⟨hnone, _⟩
  · exact Option.some.inj ((accountOf_eq_some.2 ⟨ho.mem, ho.user⟩).symm.trans ha)
  · rw [hnone] at ha
    cases ha

theorem recognised_compare (how : l.Owned) (he : e ∈ l.entries.rows) :
    l.Recognised caller.userID asked e (l.compare caller entry amount e) ↔
      l.CanOpen caller ∧ ∃ q, castNumeric amount = .ok q ∧
        ∀ a, l.accountOf caller.userID = some a → e.IsOf a.id entry q → asked = some (credits e.change) := by
  unfold compare
  rcases l.ensureCreditAccount_cases caller with ⟨hopen, account, l1, hen, ho⟩ | ⟨hopen, hen⟩
  · rw [hen]
    cases hq : castNumeric amount with
    | error err =>
      have herr : err ≠ .idempotencyConflict := by
        rintro rfl
        unfold castNumeric at hq
        split at hq <;> cases hq
      simp [bind, Except.bind, Recognised, hopen, herr]
    | ok q =>
      by_cases hof : e.IsOf account.id entry q
      · have hacc := ho.account_of_isOf how he hof.1
        simp [bind, Except.bind, Recognised, hopen, hof, hacc, hof.1]
      · refine iff_of_true (by simp [bind, Except.bind, Recognised, hof]) ⟨hopen, q, rfl, fun a ha hof' => ?_⟩
        exact absurd (ho.account_eq ha ▸ hof') hof
  · rw [hen]
    simp [bind, Except.bind, Recognised, hopen]

end Ledger

/-! ## What a call asks for -/

namespace LedgerOp

variable {op : LedgerOp}

/-- The signed change a call asks for. A plan switch that takes credits off asks
for what the balance covers of it. -/
def asks (op : LedgerOp) (l : Ledger) : Option ℚ :=
  match op.request with
  | .grant _ _ amount => (castNumeric amount).toOption
  | .debit _ _ amount => (castNumeric amount).toOption.map (- ·)
  | .adjust amount =>
    (castNumeric (unsignedAmount amount)).toOption.map fun q => if hasPrefix (trimSpace amount) "-" then -q else q
  | .refund _ amount => (castNumeric amount).toOption.map (- ·)
  | .planSwitch _ signedDelta =>
    (setString (trimSpace signedDelta)).bind fun delta =>
      if 0 < delta then (castNumeric signedDelta).toOption
      else some (-min (credits (Decimal.scaled 6 |delta|)) (credits (max 0 (l.balanceOf op.caller.userID))))

def accepted (op : LedgerOp) : Bool :=
  match op.request with
  | .grant _ _ amount => !refusedAmount amount && (castNumeric amount).toBool
  | .debit _ _ amount => !refusedAmount amount && (castNumeric amount).toBool
  | .adjust amount =>
    !(trimSpace amount == "" || trimSpace amount == "0" || trimSpace amount == "0.000000") &&
      !(hasPrefix (trimSpace amount) "-" && refusedAmount (unsignedAmount amount)) &&
      (castNumeric (unsignedAmount amount)).toBool
  | .refund _ amount => !refusedAmount amount && (castNumeric amount).toBool
  | .planSwitch _ signedDelta =>
    match setString (trimSpace signedDelta) with
    | none => false
    | some delta => decide (delta ≤ 0) || (!refusedAmount signedDelta && (castNumeric signedDelta).toBool)

/-- An adjustment is not the reverse of a recorded one, and a plan switch that has nothing to move meets a row of the
same account that moved nothing. -/
def ToldApart (op : LedgerOp) (l : Ledger) (e : LedgerEntry) : Prop :=
  match op.request with
  | .adjust amount =>
    ∀ a, l.accountOf op.caller.userID = some a → ∀ q, castNumeric (unsignedAmount amount) = .ok q →
      e.IsOf a.id ⟨op.caller.newEntryID, .adjustment, "admin", op.caller.userID, op.idempotencyKey⟩ q →
      e.amount = 0 ∨ e.added = !hasPrefix (trimSpace amount) "-"
  | .planSwitch _ signedDelta =>
    ∀ delta, setString (trimSpace signedDelta) = some delta →
      delta = 0 ∨ (delta < 0 ∧ l.balanceOf op.caller.userID ≤ 0) →
      e.amount = 0 ∧ ∃ a, l.accountOf op.caller.userID = some a ∧ a.id = e.accountID
  | _ => True

end LedgerOp

/-! ## Which calls are recognised -/

section Recognition
variable {q : ℚ}

theorem change_of_debit (h : l.Directed P) (he : e ∈ l.entries.rows) (ht : e.entryType = .debit ∨ e.entryType = .refund) :
    e.change = -e.amount := by
  obtain ⟨op, _, _, hdir⟩ := h e he
  have hsub : e.added = false := by
    rcases ht with ht | ht <;> rw [ht] at hdir <;> exact hdir
  rw [change, hsub, if_neg Bool.false_ne_true]

theorem recognised_amount {entry : Entry} {asked : Option ℚ} (hr : l.Recorded P) (he : e ∈ l.entries.rows)
    (hasked : ∀ q accountID, castNumeric amount = .ok q → e.IsOf accountID entry q → asked = some (credits e.change)) :
    l.Recognised caller.userID asked e
        (refuseIf (refusedAmount amount) .amountNotPositive >>= fun _ => l.compare caller entry amount e) ↔
      (!refusedAmount amount && (castNumeric amount).toBool) ∧ l.CanOpen caller := by
  rw [recognised_refuseIf .amountNotPositive (by decide), recognised_compare hr.owned he, Bool.and_eq_true,
    Bool.not_eq_true', toBool_eq_true]
  constructor
  · rintro ⟨href, ho, q, hq, _⟩
    exact ⟨⟨href, q, hq⟩, ho⟩
  · rintro ⟨⟨href, q, hq⟩, ho⟩
    exact ⟨href, ho, q, hq, fun a _ hof => hasked q a.id hq hof⟩

theorem recognised_grantCreditsTx (hr : l.Recorded P) (he : e ∈ l.entries.rows) (hkey : e.idempotencyKey = key) :
    l.Recognised caller.userID (castNumeric amount).toOption e (l.grantCreditsTx caller key sourceType sourceID amount) ↔
      (!refusedAmount amount && (castNumeric amount).toBool) ∧ l.CanOpen caller := by
  have hrec : l.grantCreditsTx caller key sourceType sourceID amount = _ :=
    bind_congr fun _ => insert_recorded (Table.find_eq_some.2 ⟨he, hkey⟩)
  rw [hrec]
  refine recognised_amount hr he fun q _ hq hof => ?_
  obtain ⟨op, _, _, hdir⟩ := hr.directed e he
  rw [hof.2.1] at hdir
  rw [change, show e.added = true from hdir, if_pos rfl, hof.2.2.1, hq]
  rfl

theorem recognised_debitCreditsTx (hr : l.Recorded P) (he : e ∈ l.entries.rows) (hkey : e.idempotencyKey = key)
    {entryType : EntryType} (ht : entryType = .debit ∨ entryType = .refund) :
    l.Recognised caller.userID ((castNumeric amount).toOption.map (- ·)) e
        (l.debitCreditsTx caller entryType key sourceType sourceID amount) ↔
      (!refusedAmount amount && (castNumeric amount).toBool) ∧ l.CanOpen caller := by
  rw [debitCreditsTx_recorded (Table.find_eq_some.2 ⟨he, hkey⟩)]
  refine recognised_amount hr he fun q _ hq hof => ?_
  rw [change_of_debit hr.directed he (hof.2.1 ▸ ht), credits_neg, hof.2.2.1, hq]
  rfl

theorem change_eq_iff {neg : Bool} :
    (if neg then -credits e.amount else credits e.amount) = credits e.change ↔ e.amount = 0 ∨ e.added = !neg := by
  have hzero : ∀ m : ℤ, -credits m = credits m ↔ m = 0 := fun m => by
    rw [← credits_neg, credits_inj]
    omega
  cases neg <;> cases hadd : e.added <;>
    simp [change, hadd, credits_neg, hzero, eq_comm (a := credits e.amount)]

abbrev LedgerOp.Recognised (op : LedgerOp) (l : Ledger) (e : LedgerEntry) (r : Except Err Ledger) : Prop :=
  l.Recognised op.caller.userID (op.asks l) e r ↔ op.accepted ∧ l.CanOpen op.caller ∧ op.ToldApart l e

theorem recognised_adjustCredits (hr : l.Recorded P) (he : e ∈ l.entries.rows) (hkey : e.idempotencyKey = key) (text : String) :
    LedgerOp.Recognised ⟨caller, key, .adjust text⟩ l e (l.adjustCredits caller key text) := by
  have hfind := Table.find_eq_some.2 ⟨he, hkey⟩
  -- after the checks on the text, both directions compare the row with the unsigned amount
  have hcmp : l.Recognised caller.userID (asks ⟨caller, key, .adjust text⟩ l) e
        (l.compare caller ⟨caller.newEntryID, .adjustment, "admin", caller.userID, key⟩ (unsignedAmount text) e) ↔
      (castNumeric (unsignedAmount text)).toBool ∧ l.CanOpen caller ∧
        LedgerOp.ToldApart ⟨caller, key, .adjust text⟩ l e := by
    rw [recognised_compare hr.owned he, toBool_eq_true]
    have hak : ∀ q, castNumeric (unsignedAmount text) = .ok q → ∀ accountID,
        e.IsOf accountID ⟨caller.newEntryID, .adjustment, "admin", caller.userID, key⟩ q →
        (asks ⟨caller, key, .adjust text⟩ l = some (credits e.change) ↔
          e.amount = 0 ∨ e.added = !hasPrefix (trimSpace text) "-") := by
      intro q hq accountID hof
      rw [← change_eq_iff, hof.2.2.1]
      simp [asks, hq, Except.toOption]
    constructor
    · rintro ⟨ho, q, hq, h⟩
      refine ⟨⟨q, hq⟩, ho, fun a ha q' hq' hof => ?_⟩
      obtain rfl : q = q' := Except.ok.inj (hq.symm.trans hq')
      exact (hak q hq a.id hof).1 (h a ha hof)
    · rintro ⟨⟨q, hq⟩, ho, h⟩
      exact ⟨ho, q, hq, fun a ha hof => (hak q hq a.id hof).2 (h a ha q hq hof)⟩
  rw [LedgerOp.Recognised, adjustCredits, recognised_refuseIf .adjustmentZero (by decide)]
  have hacd : accepted ⟨caller, key, .adjust text⟩ ↔
      (trimSpace text == "" || trimSpace text == "0" || trimSpace text == "0.000000") = false ∧
      (hasPrefix (trimSpace text) "-" && refusedAmount (unsignedAmount text)) = false ∧
      (castNumeric (unsignedAmount text)).toBool := by
    simp only [accepted, Bool.and_eq_true, Bool.not_eq_true', and_assoc]
  rw [hacd, and_assoc, and_assoc, ← hcmp]
  refine and_congr_right fun _ => ?_
  cases hsign : hasPrefix (trimSpace text) "-" with
  | true =>
    simp only [if_true, Bool.true_and]
    rw [debitCreditsTx_recorded hfind, recognised_refuseIf .amountNotPositive (by decide), unsignedAmount, if_pos hsign]
  | false =>
    simp only [Bool.false_eq_true, if_false, Bool.false_and, true_and]
    have hpost : (do
        let r ← l.ensureCreditAccount caller.newAccountID caller.userID
        r.1.insertCreditLedger r.2 ⟨caller.newEntryID, .adjustment, "admin", caller.userID, key⟩ (trimSpace text) true) =
        l.compare caller ⟨caller.newEntryID, .adjustment, "admin", caller.userID, key⟩ (unsignedAmount text) e := by
      rw [unsignedAmount, if_neg (by simp [hsign])]
      exact insert_recorded hfind
    exact Iff.of_eq (congrArg _ hpost)

theorem credits_zero : credits 0 = 0 := by
  simp [credits, Decimal.value]

theorem credits_pos {m : ℤ} : 0 < credits m ↔ 0 < m := by
  rw [← credits_zero, credits, credits, ← not_le, Decimal.value_le_value, not_le]

theorem asks_planSwitch_nothing {subscriptionID text : String} {delta : ℚ} (hd : setString (trimSpace text) = some delta)
    (h : delta = 0 ∨ (delta < 0 ∧ l.balanceOf caller.userID ≤ 0)) :
    asks ⟨caller, key, .planSwitch subscriptionID text⟩ l = some 0 := by
  have hnn : 0 ≤ credits (Decimal.scaled 6 |delta|) := credits_nonneg (Decimal.halfAway_nonneg (by positivity))
  simp only [asks, hd, Option.bind_some]
  rw [if_neg (by rcases h with rfl | ⟨h, _⟩ <;> simp [*, le_of_lt])]
  congr 1
  rcases h with rfl | ⟨_, hb⟩
  · have hzero : Decimal.scaled 6 |0| = 0 := by simpa [credits_zero] using scaled_credits 0
    rw [hzero, credits_zero, min_eq_left (credits_nonneg (le_max_left _ _)), neg_zero]
  · rw [max_eq_left hb, credits_zero, min_eq_right hnn, neg_zero]

theorem castNumeric_applied (available : ℤ) (delta : ℚ) :
    castNumeric (if credits available < (setString (floatString |delta|)).getD 0 then floatString (credits available)
      else floatString |delta|) = .ok (min (credits (Decimal.scaled 6 |delta|)) (credits available)) := by
  rw [setString_floatString, Option.getD_some]
  split
  · rename_i hcut
    rw [castNumeric_floatString, scaled_credits, min_eq_right hcut.le]
  · rename_i hcut
    rw [castNumeric_floatString, min_eq_left (not_lt.1 hcut)]

theorem recognised_planSwitch (hr : l.Recorded P) (he : e ∈ l.entries.rows) (hkey : e.idempotencyKey = key)
    (subscriptionID text : String) : LedgerOp.Recognised ⟨caller, key, .planSwitch subscriptionID text⟩ l e
      (l.applyPlanSwitchCreditDeltaTx caller key subscriptionID text) := by
  unfold LedgerOp.Recognised
  cases hd : setString (trimSpace text) with
  | none => simp [applyPlanSwitchCreditDeltaTx, accepted, hd, Ledger.Recognised]
  | some delta =>
    -- the call succeeds without a look at the key
    have hno : (delta = 0 ∨ (delta < 0 ∧ l.balanceOf caller.userID ≤ 0)) → ∀ l',
        LedgerOp.Recognised ⟨caller, key, .planSwitch subscriptionID text⟩ l e (.ok l') := by
      intro h l'
      have hle : delta ≤ 0 := by rcases h with h | h <;> linarith
      have hch : (0 : ℚ) = credits e.change ↔ e.amount = 0 := by
        rw [← credits_zero, credits_inj, change]
        split <;> omega
      simp only [LedgerOp.Recognised, Ledger.Recognised, asks_planSwitch_nothing hd h, Option.some.injEq, hch, accepted, hd,
        decide_eq_true hle, Bool.true_or, true_and, LedgerOp.ToldApart]
      constructor
      · rintro ⟨⟨a, ha, hid⟩, hzero⟩
        exact ⟨.inl (by rw [ha]; exact Option.some_ne_none _), fun _ _ _ => ⟨hzero, a, ha, hid⟩⟩
      · rintro ⟨_, htold⟩
        exact (htold delta rfl h).symm
    unfold applyPlanSwitchCreditDeltaTx
    rw [hd]
    simp only
    split_ifs with hzero hpos
    · exact hno (.inl hzero) l
    · have htold : LedgerOp.ToldApart ⟨caller, key, .planSwitch subscriptionID text⟩ l e := by
        intro delta' hd' h
        obtain rfl : delta = delta' := Option.some.inj (hd.symm.trans hd')
        rcases h with h | h <;> linarith
      have hak : asks ⟨caller, key, .planSwitch subscriptionID text⟩ l = (castNumeric text).toOption := by
        simp [asks, hd, hpos]
      have hacd : accepted ⟨caller, key, .planSwitch subscriptionID text⟩ =
          (!refusedAmount text && (castNumeric text).toBool) := by
        simp [accepted, hd, not_le.2 hpos]
      rw [hak, hacd, recognised_grantCreditsTx hr he hkey]
      simp [htold]
    · have hneg : delta < 0 := lt_of_le_of_ne (not_lt.1 hpos) hzero
      rcases l.ensureCreditAccount_cases caller with ⟨hopen, account, l1, hen, ho⟩ | ⟨hopen, hen⟩
      · have hbal : l1.getCreditBalanceForUpdate account.id = .ok account.balance := by
          rw [getCreditBalanceForUpdate, Table.find_eq_some.2 ⟨ho.mem, rfl⟩]
        simp only [hen, bind, Except.bind, hbal]
        by_cases hnone : account.balance ≤ 0
        · rw [if_pos hnone]
          exact hno (.inr ⟨hneg, ho.balance_eq ▸ hnone⟩) l1
        rw [if_neg hnone, insertCreditLedger_recorded (ho.entries.symm ▸ Table.find_eq_some.2 ⟨he, hkey⟩),
          castNumeric_applied]
        -- the row is that of this debit, or not, and both are told
        refine iff_of_true ?_ ⟨by simp [accepted, hd, hneg.le], hopen, fun delta' hd' h => ?_⟩
        · change Ledger.Recognised _ _ _ _ (if _ then _ else _)
          split
          · rename_i hof
            obtain ⟨hid, ht, ham, _⟩ := hof
            refine ⟨⟨account, ho.account_of_isOf hr.owned he hid, hid.symm⟩, ?_⟩
            rw [change_of_debit hr.directed he (.inl ht), credits_neg, ham]
            simp [asks, hd, hpos, ← ho.balance_eq, max_eq_right (le_of_not_ge hnone)]
          · rfl
        · obtain rfl : delta = delta' := Option.some.inj (hd.symm.trans hd')
          rcases h with h | ⟨_, h⟩
          · exact absurd h hzero
          · exact absurd (ho.balance_eq ▸ h) hnone
      · simp only [hen, bind, Except.bind]
        simp [Ledger.Recognised, hopen]

theorem recognised_iff (hr : l.Recorded P) {op : LedgerOp} (he : e ∈ l.entries.rows) (hkey : e.idempotencyKey = op.idempotencyKey) :
    op.Recognised l e (op.apply l) := by
  obtain ⟨caller, key, request⟩ := op
  have htold {p q : Prop} : p ∧ q ↔ p ∧ q ∧ True := by simp
  cases request with
  | grant => exact (recognised_grantCreditsTx hr he hkey).trans htold
  | debit => exact (recognised_debitCreditsTx hr he hkey (.inl rfl)).trans htold
  | adjust amount => exact recognised_adjustCredits hr he hkey amount
  | refund => exact (recognised_debitCreditsTx hr he hkey (.inr rfl)).trans htold
  | planSwitch subscriptionID signedDelta => exact recognised_planSwitch hr he hkey subscriptionID signedDelta

end Recognition

/-! ## Two histories -/

def LedgerEntry.columns (e : LedgerEntry) : String × EntryType × ℤ × String × String × String :=
  (e.accountID, e.entryType, e.amount, e.sourceType, e.sourceID, e.idempotencyKey)

def Ledger.balanceAt (l : Ledger) (accountID : String) : ℤ := ((l.accounts.find accountID).map (·.balance)).getD 0

theorem Ledger.Sound.balanceAt_eq (h : l.Sound) (accountID : String) : l.balanceAt accountID = l.total accountID := by
  unfold balanceAt
  cases hfind : l.accounts.find accountID with
  | some a =>
    obtain ⟨ha, rfl⟩ := Table.find_eq_some.1 hfind
    exact h.balance a ha
  | none =>
    refine (total_eq_zero fun e he hid => ?_).symm
    obtain ⟨a, ha, hae⟩ := h.owned e he
    rw [Table.find_eq_some.2 ⟨ha, hae.trans hid⟩] at hfind
    cases hfind

def SameDirections (ops₁ ops₂ : List LedgerOp) : Prop :=
  ∀ op₁ ∈ ops₁, ∀ op₂ ∈ ops₂, op₁.idempotencyKey = op₂.idempotencyKey →
    ∀ add₁ add₂, op₁.adjusts add₁ → op₂.adjusts add₂ → add₁ = add₂

section Histories
variable {l1 l2 : Ledger} {ops₁ ops₂ : List LedgerOp}

theorem added_eq (h₁ : l1.Directed (· ∈ ops₁)) (h₂ : l2.Directed (· ∈ ops₂)) (hdir : SameDirections ops₁ ops₂)
    {e1 e2 : LedgerEntry} (he1 : e1 ∈ l1.entries.rows) (he2 : e2 ∈ l2.entries.rows) (hc : e1.columns = e2.columns) :
    e1.added = e2.added := by
  obtain ⟨op₁, hop1, hk1, hd1⟩ := h₁ e1 he1
  obtain ⟨op₂, hop2, hk2, hd2⟩ := h₂ e2 he2
  simp only [columns, Prod.mk.injEq] at hc
  obtain ⟨_, ht, _, _, _, hkey⟩ := hc
  rw [← ht] at hd2
  cases htype : e1.entryType with
  | adjustment =>
    rw [htype] at hd1 hd2
    exact hdir op₁ hop1 op₂ hop2 (hk1.trans (hkey.trans hk2.symm)) _ _ hd1 hd2
  | grant | debit | refund =>
    rw [htype] at hd1 hd2
    exact Eq.trans hd1 (Eq.symm hd2)

def Ledger.movements (l : Ledger) : List ((String × EntryType × ℤ × String × String × String) × Bool) :=
  l.entries.rows.map fun e => (e.columns, e.added)

theorem Ledger.movements_nodup (l : Ledger) : l.movements.Nodup := by
  refine List.Nodup.of_map (fun m => m.1.2.2.2.2.2) ?_
  rw [movements, map_map]
  exact l.entries.keys

theorem Ledger.total_eq_sum (l : Ledger) (accountID : String) : l.total accountID =
      ((l.movements.filter (·.1.1 == accountID)).map fun m => if m.2 then m.1.2.2.1 else -m.1.2.2.1).sum := by
  rw [movements, filter_map, map_map]
  rfl

theorem movements_perm (h₁ : l1.Directed (· ∈ ops₁)) (h₂ : l2.Directed (· ∈ ops₂)) (hdir : SameDirections ops₁ ops₂)
    (hsame : ∀ c, c ∈ l1.entries.rows.map (·.columns) ↔ c ∈ l2.entries.rows.map (·.columns)) :
    l1.movements.Perm l2.movements := by
  rw [perm_ext_iff_of_nodup l1.movements_nodup l2.movements_nodup]
  intro m
  constructor
  all_goals
    intro hm
    obtain ⟨e, he, rfl⟩ := mem_map.1 hm
  · obtain ⟨e2, he2, hc⟩ := mem_map.1 ((hsame _).1 (mem_map_of_mem he))
    exact mem_map.2 ⟨e2, he2, by rw [hc, added_eq h₁ h₂ hdir he he2 hc.symm]⟩
  · obtain ⟨e1, he1, hc⟩ := mem_map.1 ((hsame _).2 (mem_map_of_mem he))
    exact mem_map.2 ⟨e1, he1, by rw [hc, added_eq h₁ h₂ hdir he1 he hc]⟩

end Histories

theorem keys_identify_movements (ops : List LedgerOp) :
    (∀ op : LedgerOp, ∀ e ∈ (run Ledger.step Ledger.empty ops).entries.rows, e.idempotencyKey = op.idempotencyKey →
      ((run Ledger.step Ledger.empty ops).Recognised op.caller.userID (op.asks (run Ledger.step Ledger.empty ops)) e
          (op.apply (run Ledger.step Ledger.empty ops)) ↔
        op.accepted ∧ (run Ledger.step Ledger.empty ops).CanOpen op.caller ∧
          op.ToldApart (run Ledger.step Ledger.empty ops) e)) ∧
    ∀ ops' : List LedgerOp, (∀ op ∈ ops, op.sixPlaces) → (∀ op ∈ ops', op.sixPlaces) →
      SameDirections ops ops' →
      (∀ c, c ∈ (run Ledger.step Ledger.empty ops).entries.rows.map (·.columns) ↔
        c ∈ (run Ledger.step Ledger.empty ops').entries.rows.map (·.columns)) →
      ∀ accountID, (run Ledger.step Ledger.empty ops).balanceAt accountID =
        (run Ledger.step Ledger.empty ops').balanceAt accountID := by
  constructor
  · intro op e he hkey
    exact recognised_iff (Ledger.Recorded.run ops) he hkey
  · intro ops' hsix hsix' hdir hsame accountID
    have hperm := movements_perm (Ledger.Recorded.run ops).directed (Ledger.Recorded.run ops').directed hdir hsame
    rw [(Ledger.Sound.run hsix).balanceAt_eq, (Ledger.Sound.run hsix').balanceAt_eq, Ledger.total_eq_sum,
      Ledger.total_eq_sum]
    exact ((hperm.filter _).map _).sum_eq

namespace Sample

def funded : LedgerOp := call "cled_1" "order" (.grant "polar_event" "evt_1" "5")
def raised : LedgerOp := call "cled_2" "ticket" (.adjust "5")
def lowered : LedgerOp := call "cled_3" "ticket" (.adjust "-5")

end Sample

open Sample

theorem keys_identify_movements_repeated : (∀ e ∈ (run Ledger.step Ledger.empty [funded]).entries.rows,
      (run Ledger.step Ledger.empty [funded]).Recognised "user_1" (some 5) e
        (funded.apply (run Ledger.step Ledger.empty [funded]))) ∧
    (run Ledger.step Ledger.empty [funded, raised]).balanceAt "cred_1" =
      (run Ledger.step Ledger.empty [funded, raised, funded]).balanceAt "cred_1" := by
  constructor
  · intro e he
    have hkey : ∀ e ∈ (run Ledger.step Ledger.empty [funded]).entries.rows, e.idempotencyKey = "order" := by
      decide +kernel
    have hasks : funded.asks (run Ledger.step Ledger.empty [funded]) = some 5 := by decide +kernel
    have hopen : (run Ledger.step Ledger.empty [funded]).accountOf "user_1" ≠ none := by decide +kernel
    rw [← hasks]
    exact ((keys_identify_movements [funded]).1 funded e he (hkey e he)).2
      ⟨by decide +kernel, .inl hopen, trivial⟩
  · refine (keys_identify_movements _).2 _ (by decide +kernel) (by decide +kernel) ?_ (fun c => ?_) "cred_1"
    · intro op₁ h₁ op₂ h₂ _ add₁ add₂ ⟨text₁, ht₁, ha₁⟩ ⟨text₂, ht₂, ha₂⟩
      have hraised : ∀ op ∈ [funded, raised, funded], ∀ text, op.request = .adjust text → text = "5" := by
        intro op hop text ht
        simp only [mem_cons, not_mem_nil, or_false] at hop
        rcases hop with rfl | rfl | rfl <;> cases ht
        rfl
      rw [ha₁, ha₂, hraised op₁ (mem_append_left [funded] h₁) text₁ ht₁, hraised op₂ h₂ text₂ ht₂]
    · rw [show (run Ledger.step Ledger.empty [funded, raised]).entries.rows.map (·.columns) =
        (run Ledger.step Ledger.empty [funded, raised, funded]).entries.rows.map (·.columns) by
          decide +kernel]

/-- The reverse of an adjustment is taken for a repetition of it, and the rows of
the two histories are the same. -/
theorem adjustment_taken_for_reverse : ((lowered.apply (run Ledger.step Ledger.empty [funded, raised])).toBool ∧
      lowered.asks (run Ledger.step Ledger.empty [funded, raised]) = some (-5) ∧
      (run Ledger.step Ledger.empty [funded, raised]).entries.rows.map
        (fun e => (e.idempotencyKey, e.change)) = [("order", 5000000), ("ticket", 5000000)]) ∧
    ((run Ledger.step Ledger.empty [funded, raised]).entries.rows.map (·.columns) =
        (run Ledger.step Ledger.empty [funded, lowered]).entries.rows.map (·.columns) ∧
      (run Ledger.step Ledger.empty [funded, raised]).balanceAt "cred_1" = 10000000 ∧
      (run Ledger.step Ledger.empty [funded, lowered]).balanceAt "cred_1" = 0) := by
  decide +kernel

end Paperboat.Billing

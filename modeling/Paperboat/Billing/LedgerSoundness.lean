import Paperboat.Billing.LedgerSteps
/-!
# The ledger accounts for every balance

In every history of calls with amounts of at most six places, a balance is what
its account's entries add less what they subtract, and it is never negative. An
entry is appended once for each key, so calling with a key again moves nothing.
-/

namespace Paperboat.Billing

open Lib Connector Decimal List Ledger

variable {l l' : Ledger}

/-! ## Sums over entries -/

namespace Ledger

def added (l : Ledger) (accountID : String) : ℤ :=
  ((l.entries.rows.filter fun e => e.accountID == accountID && e.added).map (·.amount)).sum

def subtracted (l : Ledger) (accountID : String) : ℤ :=
  ((l.entries.rows.filter fun e => e.accountID == accountID && !e.added).map (·.amount)).sum

def total (l : Ledger) (accountID : String) : ℤ := ((l.entries.rows.filter (·.accountID == accountID)).map (·.change)).sum

theorem total_eq (l : Ledger) (accountID : String) : l.total accountID = l.added accountID - l.subtracted accountID := by
  unfold total added subtracted
  induction l.entries.rows with
  | nil => rfl
  | cons e _ ih =>
    by_cases hid : e.accountID == accountID
    · cases hadd : e.added with
      | true =>
        have hc : e.change = e.amount := by simp [LedgerEntry.change, hadd]
        simp only [hid, hadd, hc, ih, filter_cons, map_cons, sum_cons, Bool.and_true, Bool.not_true,
          Bool.and_false, if_true, Bool.false_eq_true, if_false]
        ring
      | false =>
        have hc : e.change = -e.amount := by simp [LedgerEntry.change, hadd]
        simp only [hid, hadd, hc, ih, filter_cons, map_cons, sum_cons, Bool.and_true, Bool.not_false,
          Bool.and_false, if_true, Bool.false_eq_true, if_false]
        ring
    · simp [hid, ih]

theorem total_append {e : LedgerEntry} (h : l'.entries.rows = l.entries.rows ++ [e]) (accountID : String) :
    l'.total accountID = l.total accountID + if e.accountID = accountID then e.change else 0 := by
  unfold total
  rw [h, filter_append, map_append, sum_append]
  by_cases hid : e.accountID = accountID <;> simp [hid]

theorem total_eq_zero {accountID : String} (h : ∀ e ∈ l.entries.rows, e.accountID ≠ accountID) : l.total accountID = 0 := by
  have hnil : l.entries.rows.filter (·.accountID == accountID) = [] :=
    filter_eq_nil_iff.2 fun e he => by simpa using h e he
  rw [total, hnil]
  rfl

def balanceOf (l : Ledger) (userID : String) : ℤ := ((l.accountOf userID).map (·.balance)).getD 0

end Ledger

/-! ## Soundness -/

structure Ledger.Sound (l : Ledger) : Prop where
  owned : l.Owned
  balance : ∀ a ∈ l.accounts.rows, a.balance = l.total a.id
  nonneg : ∀ a ∈ l.accounts.rows, 0 ≤ a.balance

namespace Ledger.Sound

variable {caller : Caller} {account : CreditAccount}

theorem empty : Ledger.empty.Sound := ⟨nofun, nofun, nofun⟩

theorem opened (h : l.Sound) (ho : l.Opened caller account l') : l'.Sound := by
  rcases ho.rows with rfl | ⟨_, hrows, hnew, hfr⟩
  · exact h
  have htotal : ∀ id, l'.total id = l.total id := fun id => by rw [total, total, ho.entries]
  have hcases : ∀ a ∈ l'.accounts.rows, a ∈ l.accounts.rows ∨ a = account := fun a ha => by
    rw [hrows] at ha
    simpa using ha
  have hzero : l.total account.id = 0 := total_eq_zero fun e he hid => by
    obtain ⟨a, ha, hae⟩ := h.owned e he
    exact hfr a ha (hae.trans hid)
  refine ⟨h.owned.opened ho, fun a ha => ?_, fun a ha => ?_⟩
  · rw [htotal]
    rcases hcases a ha with ha | rfl
    · exact h.balance a ha
    · rw [hzero, hnew]
      rfl
  · rcases hcases a ha with ha | rfl
    · exact h.nonneg a ha
    · rw [hnew]
      exact le_rfl

theorem moved (h : l.Sound) (ha : account ∈ l.accounts.rows) {e : LedgerEntry} {delta : ℚ} (hm : l.Moved account e delta l')
    (hid : e.accountID = account.id) (hdt : delta = credits e.change) (hcov : 0 ≤ account.balance + e.change) : l'.Sound := by
  have hbal : scaled 6 (credits account.balance + delta) = account.balance + e.change := by
    rw [hdt, credits, credits, value_add, scaled_value]
  -- a row is that of the account, with its new balance, or as it was
  have hcases : ∀ a ∈ l'.accounts.rows, (a.id = account.id ∧ a.balance = account.balance + e.change) ∨
      (a ∈ l.accounts.rows ∧ a.id ≠ account.id) := by
    intro a ha'
    rw [hm.accounts, hbal] at ha'
    obtain ⟨a0, ha0, rfl⟩ := mem_map.1 ha'
    by_cases hsame : a0.id = account.id
    · simp [hsame, setBalance]
    · simp [hsame, ha0]
  refine ⟨h.owned.moved ha hm hid, fun a ha' => ?_, fun a ha' => ?_⟩
  · rw [total_append hm.entries]
    rcases hcases a ha' with ⟨hsame, hb⟩ | ⟨hold, hoth⟩
    · rw [hb, hsame, ← h.balance account ha, if_pos hid]
    · rw [if_neg (by rw [hid]; exact Ne.symm hoth), add_zero]
      exact h.balance a hold
  · rcases hcases a ha' with ⟨_, hb⟩ | ⟨hold, _⟩
    · rwa [hb]
    · exact h.nonneg a hold

theorem step (h : l.Sound) {op : LedgerOp} (hsix : op.sixPlaces) : (l.step op).Sound := by
  unfold Ledger.step
  split
  · rename_i l' hok
    rcases LedgerOp.apply_ok hok with rfl | ⟨entry, amount, add, ⟨account, l1, ho, hpost⟩, _, _, hplaces⟩
    · exact h
    rcases hpost with rfl | ⟨q, hq, hnn, hcov, hm⟩
    · exact h.opened ho
    -- the amount is so many millionths
    have hexact : credits (scaled 6 q) = q := by simpa [sixPlaces, hq] using hplaces hsix
    refine (h.opened ho).moved ho.mem hm rfl ?_ ?_
    · cases add with
      | true => exact hexact.symm
      | false =>
        change -q = credits (-scaled 6 q)
        rw [credits_neg, hexact]
    · cases add with
      | true =>
        have hb := (h.opened ho).nonneg account ho.mem
        have ha : 0 ≤ scaled 6 q := halfAway_nonneg (by positivity)
        exact add_nonneg hb ha
      | false =>
        have hle := hcov rfl
        rw [← hexact, credits, credits, value_le_value] at hle
        simp only [LedgerEntry.change, Entry.row, Bool.false_eq_true, if_false]
        omega
  · exact h

theorem run {ops : List LedgerOp} (h : ∀ op ∈ ops, op.sixPlaces) : (Lib.run Ledger.step Ledger.empty ops).Sound :=
  run_inv (fun _ _ hl hop => hl.step hop) empty (eachStep_of_forall h _)

end Ledger.Sound

/-! ## Entries stay -/

theorem Ledger.step_grows (l : Ledger) (op : LedgerOp) : l.entries.rows <+: (l.step op).entries.rows ∧ l.Grows (l.step op) := by
  unfold Ledger.step
  split
  · rename_i l' hok
    rcases LedgerOp.apply_ok hok with rfl | ⟨_, _, _, hpost, _⟩
    · exact ⟨prefix_rfl, .refl _⟩
    refine ⟨?_, hpost.grows⟩
    rcases hpost.rows with he | ⟨_, _, _, _, _, he⟩ <;> simp [he]
  · exact ⟨prefix_rfl, .refl l⟩

/-- What is booked is booked for good: later calls add behind it. -/
theorem ledger_append_only (l : Ledger) (ops : List LedgerOp) :
    l.entries.rows <+: (run Ledger.step l ops).entries.rows ∧ l.Grows (run Ledger.step l ops) :=
  run_inv' (I := fun l' => l.entries.rows <+: l'.entries.rows ∧ l.Grows l')
    (fun l₁ op h => ⟨h.1.trans (l₁.step_grows op).1, h.2.trans (l₁.step_grows op).2⟩) ⟨prefix_rfl, .refl l⟩ ops

/-! ## Repeated keys -/

theorem Ledger.Opened.balanceOf {caller : Caller} {account : CreditAccount} (ho : l.Opened caller account l') (userID : String) :
    l'.balanceOf userID = l.balanceOf userID := by
  rcases ho.rows with rfl | ⟨hnone, hrows, hnew, _⟩
  · rfl
  have hfind : l'.accountOf userID = (l.accountOf userID).or (if account.userID == userID then some account else none) := by
    rw [accountOf, hrows, List.find?_append, accountOf]
    split <;> simp_all
  unfold Ledger.balanceOf
  rw [hfind]
  cases hold : l.accountOf userID with
  | some => rfl
  | none =>
    split
    · rw [hnew]
      rfl
    · rfl

theorem Ledger.Opened.balance_eq {caller : Caller} {account : CreditAccount} (ho : l.Opened caller account l') :
    account.balance = l.balanceOf caller.userID := by
  rw [← ho.balanceOf, Ledger.balanceOf, accountOf_eq_some.2 ⟨ho.mem, ho.user⟩]
  rfl

theorem Ledger.balanceOf_step_recorded {op : LedgerOp} (h : l.hasEntry op.idempotencyKey) (userID : String) :
    (l.step op).balanceOf userID = l.balanceOf userID := by
  unfold Ledger.step
  split
  · rename_i l' hok
    rcases LedgerOp.apply_ok hok with rfl | ⟨entry, amount, add, ⟨account, l1, ho, hpost⟩, hkey, _⟩
    · rfl
    rcases hpost with rfl | ⟨q, _, _, _, hm⟩
    · exact ho.balanceOf userID
    · obtain ⟨e, he, hek⟩ := any_eq_true.1 h
      exact absurd ((eq_of_beq hek).trans hkey.symm) (hm.fresh e (ho.entries ▸ he))
  · rfl

theorem Ledger.hasEntry_step {key : String} (h : l.hasEntry key) (op : LedgerOp) : (l.step op).hasEntry key := by
  obtain ⟨e, he, hek⟩ := any_eq_true.1 h
  exact any_eq_true.2 ⟨e, (l.step_grows op).1.mem he, hek⟩

namespace LedgerOp

/-- A plan switch with nothing to move succeeds without a row: a delta of zero,
or a removal from an account where nothing is available. -/
def traced (l : Ledger) (op : LedgerOp) : Bool :=
  match op.request with
  | .planSwitch _ signedDelta =>
    l.hasEntry op.idempotencyKey || (setString (trimSpace signedDelta)).all fun delta =>
      decide (delta ≠ 0) && (decide (0 < delta) || decide (0 < l.balanceOf op.caller.userID))
  | _ => true

theorem hasEntry_of_grant {caller : Caller} {key sourceType sourceID amount : String}
    (h : l.grantCreditsTx caller key sourceType sourceID amount = .ok l') : l'.hasEntry key := by
  simp only [grantCreditsTx, bind_eq_ok] at h
  obtain ⟨_, _, ⟨l₁, accountID⟩, hen, h⟩ := h
  obtain ⟨account, ho, rfl⟩ := ensureCreditAccount_ok hen
  exact insertCreditLedger_hasEntry ho.mem h

theorem hasEntry_of_debit {caller : Caller} {entryType : EntryType} {key sourceType sourceID amount : String}
    (h : l.debitCreditsTx caller entryType key sourceType sourceID amount = .ok l') : l'.hasEntry key := by
  simp only [debitCreditsTx, bind_eq_ok] at h
  obtain ⟨_, _, ⟨l₁, accountID⟩, hen, seen, hseen, h⟩ := h
  obtain ⟨account, ho, rfl⟩ := ensureCreditAccount_ok hen
  cases seen with
  | false =>
    obtain ⟨_, _, h⟩ := bind_eq_ok.1 h
    exact insertCreditLedger_hasEntry ho.mem h
  | true =>
    obtain rfl := Except.ok.inj h
    cases hfind : l₁.entries.find key with
    | none => simp [creditLedgerEntryMatches, hfind] at hseen
    | some => exact hasEntry_of_find hfind

theorem hasEntry_of_planSwitch {caller : Caller} {key subscriptionID text : String}
    (h : l.applyPlanSwitchCreditDeltaTx caller key subscriptionID text = .ok l')
    (ht : ∀ delta, setString (trimSpace text) = some delta → delta ≠ 0 ∧ (0 < delta ∨ 0 < l.balanceOf caller.userID)) :
    l'.hasEntry key := by
  unfold applyPlanSwitchCreditDeltaTx at h
  split at h
  · cases h
  rename_i delta hdelta
  obtain ⟨hnonzero, hmoves⟩ := ht delta hdelta
  rw [if_neg hnonzero] at h
  split at h
  · exact hasEntry_of_grant h
  rename_i hneg
  simp only [bind_eq_ok] at h
  obtain ⟨⟨l₁, accountID⟩, hen, available, hav, h⟩ := h
  obtain ⟨account, ho, rfl⟩ := ensureCreditAccount_ok hen
  obtain rfl := getCreditBalanceForUpdate_ok hav ho.mem rfl
  rw [if_neg (by rw [ho.balance_eq]; exact not_le.2 (hmoves.resolve_left hneg))] at h
  exact insertCreditLedger_hasEntry ho.mem h

theorem hasEntry_of_traced {op : LedgerOp} (ht : op.traced l) (h : op.apply l = .ok l') :
    l'.hasEntry op.idempotencyKey := by
  obtain ⟨caller, key, request⟩ := op
  cases request with
  | grant => exact hasEntry_of_grant h
  | debit | refund => exact hasEntry_of_debit h
  | adjust amount =>
    simp only [apply, adjustCredits, bind_eq_ok] at h
    obtain ⟨_, _, h⟩ := h
    split at h
    · exact hasEntry_of_debit h
    · obtain ⟨⟨l₁, accountID⟩, hen, h⟩ := bind_eq_ok.1 h
      obtain ⟨account, ho, rfl⟩ := ensureCreditAccount_ok hen
      exact insertCreditLedger_hasEntry ho.mem h
  | planSwitch subscriptionID text =>
    rcases Bool.or_eq_true_iff.1 ht with hseen | hmoves
    · have hstep := hasEntry_step hseen ⟨caller, key, .planSwitch subscriptionID text⟩
      rwa [Ledger.step, h] at hstep
    · refine hasEntry_of_planSwitch h fun delta hdelta => ?_
      simpa [hdelta] using hmoves

end LedgerOp

/-- A key that a call succeeded under is the key of a row from then on, and then
no call under it moves anything. -/
theorem ledger_sound (ops : List LedgerOp) (h : ∀ op ∈ ops, op.sixPlaces) :
    (∀ a ∈ (run Ledger.step Ledger.empty ops).accounts.rows, 0 ≤ a.balance ∧
      a.balance = (run Ledger.step Ledger.empty ops).added a.id - (run Ledger.step Ledger.empty ops).subtracted a.id) ∧
    (EachStep Ledger.step (fun l op => op.traced l) Ledger.empty ops →
      ∀ before op after, ops = before ++ op :: after → (op.apply (run Ledger.step Ledger.empty before)).toBool →
      ∀ again : LedgerOp, again.idempotencyKey = op.idempotencyKey →
      ∀ userID, ((run Ledger.step Ledger.empty ops).step again).balanceOf userID =
        (run Ledger.step Ledger.empty ops).balanceOf userID) := by
  have hsound := Ledger.Sound.run h
  refine ⟨fun a ha => ⟨hsound.nonneg a ha, ?_⟩, ?_⟩
  · rw [hsound.balance a ha, total_eq]
  rintro htraced before op after rfl hok again hkey userID
  refine balanceOf_step_recorded (hkey ▸ ?_) userID
  obtain ⟨l', hl'⟩ := toBool_eq_true.1 hok
  have hrow : ((run Ledger.step Ledger.empty before).step op).hasEntry op.idempotencyKey := by
    rw [Ledger.step, hl']
    exact LedgerOp.hasEntry_of_traced ((eachStep_append _ _ _ _).1 htraced).2.1 hl'
  rw [run_append, run_cons]
  exact run_inv' (I := fun l : Ledger => l.hasEntry op.idempotencyKey) (fun _ op hl => hasEntry_step hl op) hrow after

namespace Sample

def call (entryID key : String) (request : Request) : LedgerOp where
  caller := ⟨"user_1", "cred_1", entryID⟩
  idempotencyKey := key
  request

def spending : List LedgerOp :=
  [call "cled_1" "order" (.grant "polar_event" "evt_1" "10"), call "cled_2" "runtime" (.debit "metering" "chk_1" "2.5"),
    call "cled_3" "admin" (.adjust "-1"), call "cled_4" "refund" (.refund "evt_2" "0.250000"),
    call "cled_5" "switch" (.planSwitch "sub_1" "-20.000000"), call "cled_6" "order" (.grant "polar_event" "evt_1" "10.0")]

end Sample

open Sample

theorem ledger_sound_spending :
    (run Ledger.step Ledger.empty spending).entries.rows.map (·.change) = [10000000, -2500000, -1000000, -250000, -6250000] ∧
    (∀ a ∈ (run Ledger.step Ledger.empty spending).accounts.rows, 0 ≤ a.balance ∧
      a.balance = (run Ledger.step Ledger.empty spending).added a.id -
        (run Ledger.step Ledger.empty spending).subtracted a.id) ∧
    ∀ again : LedgerOp, again.idempotencyKey = "switch" →
      ((run Ledger.step Ledger.empty spending).step again).balanceOf "user_1" = 0 :=
  have hsound := ledger_sound spending (by decide +kernel)
  ⟨by decide +kernel, hsound.1, fun again hkey =>
    (hsound.2 (by decide +kernel) (spending.take 4) (call "cled_5" "switch" (.planSwitch "sub_1" "-20.000000"))
      (spending.drop 5) rfl (by decide +kernel) again hkey "user_1").trans (by decide +kernel)⟩

/-- With nothing to take a plan switch leaves no row, and the same call takes the
next purchase. -/
theorem switch_debits_when_repeated :
    let switch := call "cled_1" "switch" (.planSwitch "sub_1" "-20.000000")
    let bought := run Ledger.step Ledger.empty [switch, call "cled_2" "order" (.grant "polar_event" "evt_1" "10")]
    (switch.apply Ledger.empty).toBool ∧ bought.balanceOf "user_1" = 10000000 ∧ (bought.step switch).balanceOf "user_1" = 0 := by
  decide +kernel

end Paperboat.Billing

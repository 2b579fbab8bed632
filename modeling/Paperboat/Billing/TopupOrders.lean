import Paperboat.Billing.AutoTopup
import Paperboat.Billing.LedgerSteps
/-!
# One outstanding top-up for each user

The key of an attempt carries the version of the credit account, and every
movement of the balance changes that version. So an attempt keeps a second order
away only as long as the balance stands still: a debit between an order and its
webhook makes the user eligible again under a new key.

Where the balance of a user moves only while no attempt of theirs is outstanding
and no call has them listed, except by the credits of the order itself, every
outstanding attempt and every listed row is one of the current version, and an
order is made only when all earlier ones are settled.
-/

namespace Paperboat.Billing

open Lib Connector System Table List

variable {l : Ledger} {userID : String}

/-! ## Account versions -/

namespace Ledger

variable {account : CreditAccount} {l' : Ledger} {a : CreditAccount}

theorem Opened.accountOf {caller : Caller} (ho : l.Opened caller account l')
    (h : l.accountOf userID = some a) : l'.accountOf userID = some a := by
  rcases ho.rows with rfl | ⟨_, hrows, _⟩
  · exact h
  · obtain ⟨ha, hu⟩ := accountOf_eq_some.1 h
    exact accountOf_eq_some.2 ⟨hrows ▸ mem_append_left _ ha, hu⟩

theorem Moved.accountOf (ha : account ∈ l.accounts.rows) {e : LedgerEntry} {delta : ℚ}
    (hm : l.Moved account e delta l') (h : l.accountOf userID = some a) :
    ∃ a', l'.accountOf userID = some a' ∧ (userID ≠ account.userID → a' = a) := by
  obtain ⟨hmem, hu⟩ := accountOf_eq_some.1 h
  have hmem' := mem_map_of_mem (f := fun a => if a.id == account.id then
    setBalance (Decimal.scaled 6 (credits account.balance + delta)) a else a) hmem
  rw [← hm.accounts] at hmem'
  refine ⟨_, accountOf_eq_some.2 ⟨hmem', ?_⟩, fun hne => ?_⟩
  · split <;> exact hu
  · rw [if_neg]
    intro hid
    rw [eq_of_key hmem ha (eq_of_beq hid)] at hu
    exact hne hu.symm

theorem accountOf_step (op : LedgerOp) (h : l.accountOf userID = some a) : ∃ a', (l.step op).accountOf userID = some a' ∧
      (userID ≠ op.caller.userID ∨ l.hasEntry op.idempotencyKey → a'.version = a.version) := by
  unfold Ledger.step
  split
  · rename_i l' hok
    rcases LedgerOp.apply_ok hok with rfl | ⟨entry, amount, add, ⟨account, l1, ho, hpost⟩, hkey, _⟩
    · exact ⟨a, h, fun _ => rfl⟩
    rcases hpost with rfl | ⟨q, _, _, _, hm⟩
    · exact ⟨a, ho.accountOf h, fun _ => rfl⟩
    obtain ⟨a', ha', hoth⟩ := hm.accountOf ho.mem (ho.accountOf h)
    refine ⟨a', ha', ?_⟩
    rintro (hne | hrecorded)
    · rw [hoth (ho.user ▸ hne)]
    · obtain ⟨e, he, hek⟩ := any_eq_true.1 hrecorded
      exact absurd ((eq_of_beq hek).trans hkey.symm) (hm.fresh e (ho.entries ▸ he))
  · exact ⟨a, h, fun _ => rfl⟩

end Ledger

namespace AutoTopup

variable {row : Eligible} {t t' : Attempts} {v' : ℕ} {b : Attempt} {key : String} {v : ℕ}

variable {n : ℕ} {s : System n}

/-! ## Keys -/

theorem colon_notMem_digits (v : ℕ) : ':' ∉ (toString v).toList := by
  rw [Nat.toString_eq_ofList_toDigits, String.toList_ofList]
  intro h
  exact absurd (Nat.isDigit_of_mem_toDigits (by norm_num) (by norm_num) h) (by decide)

theorem append_colon_inj {u u' d d' : List Char} (hd : ':' ∉ d) (hd' : ':' ∉ d') (h : u ++ ':' :: d = u' ++ ':' :: d') :
    u = u' ∧ d = d' := by
  have hrev : d.reverse ++ ':' :: u.reverse = d'.reverse ++ ':' :: u'.reverse := by
    simpa using congrArg List.reverse h
  have htake : ∀ ds us : List Char, ':' ∉ ds → (ds.reverse ++ ':' :: us).takeWhile (· != ':') = ds.reverse := by
    intro ds us hds
    rw [takeWhile_append_of_pos fun c hc => ?_]
    · simp
    · rw [bne_iff_ne]
      rintro rfl
      exact hds (mem_reverse.1 hc)
  have hdd : d = d' := by
    have := congrArg (List.takeWhile (· != ':')) hrev
    rw [htake d _ hd, htake d' _ hd'] at this
    exact reverse_injective this
  subst hdd
  exact ⟨append_cancel_right h, rfl⟩

theorem topupKey_inj {u u' : String} (h : topupKey u v = topupKey u' v') : u = u' ∧ v = v' := by
  have hlist := congrArg String.toList h
  simp only [topupKey, String.toList_append, append_assoc] at hlist
  obtain ⟨hu, hv⟩ := append_colon_inj (colon_notMem_digits v) (colon_notMem_digits v') (append_cancel_left hlist)
  refine ⟨String.toList_injective hu, ?_⟩
  rw [Nat.toString_eq_ofList_toDigits, Nat.toString_eq_ofList_toDigits, String.toList_ofList, String.toList_ofList] at hv
  rw [← Nat.ofDigitChars_ten_toDigits (n := v), hv, Nat.ofDigitChars_ten_toDigits]

/-! ## The invariant -/

def Attempt.Outstanding (a : Attempt) : Prop := a.state ≠ .failed ∧ a.order ≠ .granted

instance (a : Attempt) : Decidable a.Outstanding := inferInstanceAs (Decidable (_ ∧ _))

def Worker.holds (w : Worker) : Option Eligible :=
  match w.phase with
  | .ordering row | .completing row _ => some row
  | _ => none

def AtVersion (l : Ledger) (userID : String) (v : ℕ) : Prop := ∃ ca, l.accountOf userID = some ca ∧ ca.version = v

structure Settled (l : Ledger) (t : Attempts) : Prop where
  /-- An attempt has the key of its user. -/
  named : ∀ a ∈ t.rows, ∃ v, a.idempotencyKey = topupKey a.userID v
  /-- An outstanding one has that of the current version. -/
  current : ∀ a ∈ t.rows, a.Outstanding → ∃ v, AtVersion l a.userID v ∧ a.idempotencyKey = topupKey a.userID v

structure Tended (l : Ledger) (t : Attempts) (workers : Fin n → Worker) : Prop where
  /-- A listed row is of the current version. -/
  listed : ∀ i, ∀ row ∈ (workers i).rows, AtVersion l row.userID row.creditVersion
  /-- The attempt a worker holds is reserved. -/
  held : ∀ i row, (workers i).holds = some row → ∃ a ∈ t.rows, a.idempotencyKey = row.key ∧ a.state = .reserved
  /-- No order is made for it before the worker does. -/
  unmade : ∀ i row, (workers i).phase = .ordering row → ∀ a ∈ t.rows, a.idempotencyKey = row.key → a.order = .unmade
  /-- No other worker holds it. -/
  apart : ∀ i j row row', i ≠ j → (workers i).holds = some row → (workers j).holds = some row' → row.key ≠ row'.key

structure System.Inv (s : System n) : Prop where
  settled : Settled s.ledger s.attempts
  tended : Tended s.ledger s.attempts s.workers

theorem AtVersion.unique (h : AtVersion l userID v) (h' : AtVersion l userID v') : v = v' := by
  obtain ⟨ca, hca, rfl⟩ := h
  obtain ⟨ca', hca', rfl⟩ := h'
  rw [Option.some.inj (hca.symm.trans hca')]

theorem Initial.inv (h : Initial s) : s.Inv where
  settled := ⟨by simp [h.attempts], by simp [h.attempts]⟩
  tended := by
    refine ⟨fun i => ?_, fun i row => ?_, fun i row => ?_, fun i j row row' _ hi => ?_⟩ <;>
      simp_all [h.workers, Worker.idle, Worker.holds]

theorem System.Inv.others_settled (h : s.Inv) {i : Fin n} (hph : (s.workers i).phase = .ordering row)
    (hb : b ∈ s.attempts.rows) (hu : b.userID = row.userID) (hkey : b.idempotencyKey ≠ row.key) : ¬b.Outstanding := by
  intro hout
  obtain ⟨a, ha, hak, hst⟩ := h.tended.held i row (by simp [Worker.holds, hph])
  have hum := h.tended.unmade i row hph a ha hak
  obtain ⟨v, hv, hakey⟩ := h.settled.current a ha ⟨by simp [hst], by simp [hum]⟩
  obtain ⟨v', hv', hbkey⟩ := h.settled.current b hb hout
  obtain ⟨hau, _⟩ := topupKey_inj (hakey.symm.trans hak)
  have hsame : b.userID = a.userID := hu.trans hau.symm
  rw [hsame] at hv' hbkey
  exact hkey (hbkey.trans (hv'.unique hv ▸ hakey.symm.trans hak))

/-! ## Steps of a worker -/

section Workers
variable {workers : Fin n → Worker} {i : Fin n} {w : Worker}

theorem Tended.update_worker (h : Tended l t workers) (hrows : ∀ row ∈ w.rows, AtVersion l row.userID row.creditVersion)
    (hheld : ∀ row, w.holds = some row → (workers i).holds = some row) (hph : ∀ row, w.phase ≠ .ordering row) :
    Tended l t (Function.update workers i w) := by
  have hh : ∀ j row, (Function.update workers i w j).holds = some row → (workers j).holds = some row := by
    intro j row hj
    by_cases hji : j = i
    · subst hji
      exact hheld row (by simpa using hj)
    · simpa [hji] using hj
  refine ⟨fun j => ?_, fun j row hj => h.held j row (hh j row hj), fun j row hj => ?_,
    fun j k row row' hjk hj hk => h.apart j k row row' hjk (hh j row hj) (hh k row' hk)⟩
  · by_cases hji : j = i
    · subst hji
      simpa using hrows
    · simpa [hji] using h.listed j
  · by_cases hji : j = i
    · subst hji
      exact absurd (by simpa using hj) (hph row)
    · exact h.unmade j row (by simpa [hji] using hj)

end Workers

/-! ## Statements on attempts -/

section Attempts
variable {workers : Fin n → Worker} {selected : Attempt → Bool} {f : Attempt → Attempt}

theorem Settled.update (h : Settled l t) (keeps : ∀ a, (f a).idempotencyKey = a.idempotencyKey)
    (huser : ∀ a, (f a).userID = a.userID)
    (hout : ∀ a ∈ t.rows, selected a → (f a).Outstanding → a.Outstanding) : Settled l (t.update selected f keeps) := by
  refine ⟨fun a' ha' => ?_, fun a' ha' hout' => ?_⟩
  · rcases mem_update.1 ha' with ⟨a, ha, _, rfl⟩ | ⟨ha, _⟩
    · rw [keeps, huser]
      exact h.named a ha
    · exact h.named a' ha
  · rcases mem_update.1 ha' with ⟨a, ha, hs, rfl⟩ | ⟨ha, _⟩
    · rw [keeps, huser]
      exact h.current a ha (hout a ha hs hout')
    · exact h.current a' ha hout'

theorem Tended.update_attempts (h : Tended l t workers) (keeps : ∀ a, (f a).idempotencyKey = a.idempotencyKey)
    (hheld : ∀ j row, (workers j).holds = some row → ∀ a ∈ t.rows, a.idempotencyKey = row.key → selected a →
      (f a).state = a.state)
    (hum : ∀ j row, (workers j).phase = .ordering row → ∀ a ∈ t.rows, a.idempotencyKey = row.key → selected a →
      (f a).order = a.order) : Tended l (t.update selected f keeps) workers := by
  refine ⟨h.listed, fun j row hj => ?_, fun j row hj a' ha' hkey => ?_, h.apart⟩
  · obtain ⟨a, ha, hkey, hst⟩ := h.held j row hj
    cases hs : selected a with
    | true =>
      exact ⟨f a, mem_update.2 (.inl ⟨a, ha, hs, rfl⟩), (keeps a).trans hkey, (hheld j row hj a ha hkey hs).trans hst⟩
    | false => exact ⟨a, mem_update.2 (.inr ⟨ha, hs⟩), hkey, hst⟩
  · rcases mem_update.1 ha' with ⟨a, ha, hs, rfl⟩ | ⟨ha, _⟩
    · rw [keeps] at hkey
      exact (hum j row hj a ha hkey hs).trans (h.unmade j row hj a ha hkey)
    · exact h.unmade j row hj a' ha hkey

theorem Attempts.reserve_spec {now cooldown : ℤ} (h : t.reserveCreditAutoTopup userID key now cooldown = some t') :
    (∀ a ∈ t.rows, a.idempotencyKey = key → a.state = .failed) ∧
    (∀ a, a.idempotencyKey ≠ key → (a ∈ t'.rows ↔ a ∈ t.rows)) ∧ (∃ a ∈ t'.rows, a.idempotencyKey = key) ∧
    ∀ a' ∈ t'.rows, a'.idempotencyKey = key → a'.state = .reserved ∧ a'.order = .unmade ∧
      (a'.userID = userID ∨ ∃ a ∈ t.rows, a.idempotencyKey = key ∧ a.userID = a'.userID) := by
  unfold reserveCreditAutoTopup at h
  split at h
  · obtain ⟨hfr, hrows⟩ := insert_eq_some.1 h
    simp only [hrows, mem_append, mem_singleton]
    refine ⟨fun a ha hkey => absurd hkey (hfr a ha), fun a hkey => ?_, ⟨_, .inr rfl, rfl⟩, ?_⟩
    · refine or_iff_left ?_
      rintro rfl
      exact hkey rfl
    · rintro a' (ha' | rfl) hkey
      · exact absurd hkey (hfr a' ha')
      · exact ⟨rfl, rfl, .inl rfl⟩
  · rename_i a hfind
    obtain ⟨ha, hkey⟩ := find_eq_some.1 hfind
    split at h
    · rename_i hf
      cases h
      refine ⟨fun b hb hbk => ?_, fun b hbk => ?_, ?_, fun b hb hbk => ?_⟩
      · rw [eq_of_key hb ha (hbk.trans hkey.symm)]
        exact hf.1
      · rw [mem_update]
        constructor
        · rintro (⟨c, _, hs, rfl⟩ | ⟨hb, _⟩)
          · exact absurd (eq_of_beq hs) hbk
          · exact hb
        · exact fun hb => .inr ⟨hb, by simpa using hbk⟩
      · exact ⟨_, mem_update.2 (.inl ⟨a, ha, by simpa using hkey, rfl⟩), hkey⟩
      · rcases mem_update.1 hb with ⟨c, hc, hs, rfl⟩ | ⟨_, hs⟩
        · exact ⟨rfl, rfl, .inr ⟨c, hc, eq_of_beq hs, rfl⟩⟩
        · simp [hbk] at hs
    · cases h

end Attempts

/-! ## What keeps the invariant -/

namespace System.Inv

variable {rest : List Eligible}

theorem reserve (h : s.Inv) {i : Fin n} (hw : s.workers i = ⟨row :: rest, .next⟩) {attempts : Attempts} {now cooldown : ℤ}
    (hres : s.attempts.reserveCreditAutoTopup row.userID row.key now cooldown = some attempts) :
    ({ s with attempts }.setWorker i ⟨rest, .ordering row⟩).Inv := by
  obtain ⟨hf, hoth, hnew, hsp⟩ := Attempts.reserve_spec hres
  have hversion : AtVersion s.ledger row.userID row.creditVersion := h.tended.listed i row (by simp [hw])
  -- the row under the key is that of this user
  have huser : ∀ a' ∈ attempts.rows, a'.idempotencyKey = row.key → a'.userID = row.userID := by
    intro a' ha' hkey
    rcases (hsp a' ha' hkey).2.2 with hu | ⟨a, ha, hak, hu⟩
    · exact hu
    · obtain ⟨v, hv⟩ := h.settled.named a ha
      exact hu.symm.trans (topupKey_inj (hv.symm.trans hak)).1
  -- no other worker has the attempt, which was failed or not there
  have hap : ∀ j row', (s.workers j).holds = some row' → row'.key ≠ row.key := by
    intro j row' hj hsame
    obtain ⟨a, ha, hak, hst⟩ := h.tended.held j row' hj
    rw [hf a ha (hak.trans hsame)] at hst
    cases hst
  refine ⟨⟨fun a' ha' => ?_, fun a' ha' hout => ?_⟩, ⟨fun j => ?_, fun j row' hj => ?_, fun j row' hj a' ha' hkey => ?_,
    fun j k row' row'' hjk hj hk => ?_⟩⟩
  · by_cases hkey : a'.idempotencyKey = row.key
    · exact ⟨row.creditVersion, by rw [huser a' ha' hkey, hkey]; rfl⟩
    · exact h.settled.named a' ((hoth a' hkey).1 ha')
  · by_cases hkey : a'.idempotencyKey = row.key
    · rw [huser a' ha' hkey]
      exact ⟨row.creditVersion, hversion, hkey⟩
    · exact h.settled.current a' ((hoth a' hkey).1 ha') hout
  · by_cases hji : j = i
    · subst hji
      simpa [setWorker] using fun r hr => h.tended.listed j r (by simp [hw, hr])
    · simpa [setWorker, hji] using h.tended.listed j
  · by_cases hji : j = i
    · subst hji
      obtain rfl : row = row' := by simpa [setWorker, Worker.holds] using hj
      obtain ⟨a, ha, hak⟩ := hnew
      exact ⟨a, ha, hak, (hsp a ha hak).1⟩
    · have hj' : (s.workers j).holds = some row' := by simpa [setWorker, hji] using hj
      obtain ⟨a, ha, hak, hst⟩ := h.tended.held j row' hj'
      exact ⟨a, (hoth a (hak ▸ hap j row' hj')).2 ha, hak, hst⟩
  · by_cases hji : j = i
    · subst hji
      obtain rfl : row = row' := by simpa [setWorker] using hj
      exact (hsp a' ha' hkey).2.1
    · have hj' : (s.workers j).phase = .ordering row' := by simpa [setWorker, hji] using hj
      have hne : row'.key ≠ row.key := hap j row' (by simp [Worker.holds, hj'])
      exact h.tended.unmade j row' hj' a' ((hoth a' (hkey ▸ hne)).1 ha') hkey
  · have hh : ∀ m r, ((({ s with attempts } : System n).setWorker i ⟨rest, .ordering row⟩).workers m).holds = some r →
        (m = i ∧ r = row) ∨ (m ≠ i ∧ (s.workers m).holds = some r) := by
      intro m r hm
      by_cases hmi : m = i
      · subst hmi
        exact .inl ⟨rfl, by simpa [setWorker, Worker.holds, eq_comm] using hm⟩
      · exact .inr ⟨hmi, by simpa [setWorker, hmi] using hm⟩
    rcases hh j row' hj with ⟨rfl, rfl⟩ | ⟨_, hj'⟩ <;> rcases hh k row'' hk with ⟨rfl, rfl⟩ | ⟨_, hk'⟩
    · exact absurd rfl hjk
    · exact (hap k row'' hk').symm
    · exact hap j row' hj'
    · exact h.tended.apart j k row' row'' hjk hj' hk'

theorem order (h : s.Inv) {i : Fin n} (hw : s.workers i = ⟨rest, .ordering row⟩)
    (made : Bool) (outcome : Except FailureCode String) :
    ({ s with attempts := if made then s.attempts.placed row.key else s.attempts }.setWorker i
      ⟨rest, .completing row outcome⟩).Inv := by
  have hph : (s.workers i).phase = .ordering row := by rw [hw]
  have htd : Tended s.ledger s.attempts (Function.update s.workers i ⟨rest, .completing row outcome⟩) :=
    h.tended.update_worker (fun r hr => h.tended.listed i r (by simpa [hw] using hr)) (by simp [Worker.holds, hw]) (by simp)
  cases made with
  | false => exact ⟨h.settled, htd⟩
  | true =>
    have hum : ∀ a ∈ s.attempts.rows, (a.idempotencyKey == row.key) → a.order = .unmade := fun a ha hs =>
      h.tended.unmade i row hph a ha (eq_of_beq hs)
    refine ⟨h.settled.update Attempt.place_key (fun _ => rfl) fun a ha hs hout => ⟨hout.1, by simp [hum a ha hs]⟩,
      htd.update_attempts Attempt.place_key (fun _ _ _ _ _ _ _ => rfl) fun j row' hj a ha hkey hs => ?_⟩
    by_cases hji : j = i
    · subst hji
      simp at hj
    have hj' : (s.workers j).phase = .ordering row' := by simpa [hji] using hj
    exact absurd (hkey.symm.trans (eq_of_beq hs))
      (h.tended.apart j i row' row hji (by simp [Worker.holds, hj']) (by simp [Worker.holds, hph]))

theorem complete (h : s.Inv) {i : Fin n} {outcome : Except FailureCode String}
    (hw : s.workers i = ⟨rest, .completing row outcome⟩) (fails : Bool) (now : ℤ) {phase : Phase}
    (hfree : (⟨rest, phase⟩ : Worker).holds = none) (hph : ∀ row, phase ≠ .ordering row) :
    ({ s with attempts := if fails then s.attempts else s.attempts.completeCreditAutoTopup row.key outcome now }.setWorker i
      ⟨rest, phase⟩).Inv := by
  have hheld : (s.workers i).holds = some row := by rw [hw]; rfl
  have htd : Tended s.ledger s.attempts (Function.update s.workers i ⟨rest, phase⟩) :=
    h.tended.update_worker (fun r hr => h.tended.listed i r (by simpa [hw] using hr)) (by simp [hfree]) hph
  cases fails with
  | true => exact ⟨h.settled, htd⟩
  | false =>
    obtain ⟨a0, ha0, hkey0, hstate₀⟩ := h.tended.held i row hheld
    have hst : ∀ a ∈ s.attempts.rows, (a.idempotencyKey == row.key) → a.state = .reserved := fun a ha hs => by
      rw [eq_of_key ha ha0 ((eq_of_beq hs).trans hkey0.symm), hstate₀]
    have hap : ∀ j row', (Function.update s.workers i ⟨rest, phase⟩ j).holds = some row' → row'.key ≠ row.key := by
      intro j row' hj
      by_cases hji : j = i
      · subst hji
        simp [hfree] at hj
      · exact h.tended.apart j i row' row hji (by simpa [hji] using hj) hheld
    refine ⟨h.settled.update (Attempt.complete_key outcome now) (fun _ => rfl) fun a ha hs hout =>
        ⟨by simp [hst a ha hs], hout.2⟩,
      htd.update_attempts (Attempt.complete_key outcome now) (fun j row' hj a ha hkey hs => ?_)
        fun j row' hj a ha hkey hs => rfl⟩
    exact absurd (hkey.symm.trans (eq_of_beq hs)) (hap j row' hj)

theorem free (h : s.Inv) (i : Fin n) (rest : List Eligible) (hrows : ∀ row ∈ rest, AtVersion s.ledger row.userID row.creditVersion) :
    (s.setWorker i ⟨rest, .next⟩).Inv :=
  ⟨h.settled, h.tended.update_worker hrows (by simp [Worker.holds]) (by simp)⟩

theorem work (h : s.Inv) (i : Fin n) (a : Answers) : (s.work i a).Inv := by
  unfold System.work
  split
  · split
    · exact h
    · refine h.free i _ fun row hrow => ?_
      obtain ⟨p, _, hrow⟩ := mem_filterMap.1 hrow
      split at hrow
      · cases hrow
      rename_i ca hca
      split at hrow
      · cases hrow
        exact ⟨ca, hca, rfl⟩
      · cases hrow
  · rename_i row rest hw
    have hrest : ∀ r ∈ rest, AtVersion s.ledger r.userID r.creditVersion := fun r hr =>
      h.tended.listed i r (by simp [hw, hr])
    split
    · exact h.free i rest hrest
    rename_i attempts hres
    split at hres
    · cases hres
    · exact h.reserve hw hres
  · rename_i rest row hw
    split
    · have := h.order hw false (.error .providerError)
      exact this
    · exact h.order hw a.order.made a.order.outcome
  · rename_i rest row outcome hw
    refine h.complete hw a.fails a.now ?_ ?_
    · cases disables outcome <;> rfl
    · cases disables outcome <;> simp
  · rename_i rest row hw
    have hfree := h.free i rest fun r hr => h.tended.listed i r (by simpa [hw] using hr)
    exact ⟨hfree.settled, hfree.tended⟩

end System.Inv

/-! ## Movements of a balance -/

structure System.Still (s : System n) (userID : String) (attemptKey : Option String) : Prop where
  attempts : ∀ a ∈ s.attempts.rows, a.userID = userID → a.Outstanding → some a.idempotencyKey = attemptKey
  listed : ∀ i, ∀ row ∈ (s.workers i).rows, row.userID ≠ userID

/-- The balance of a user moves only while no attempt of theirs is outstanding and
no call has them listed, except by the credits of the outstanding order. -/
def calm (s : System n) : Action n → Prop
  | .credit op => s.ledger.hasEntry op.idempotencyKey ∨ s.Still op.caller.userID none
  | .paid attemptKey event =>
    ∀ a, s.paidAttempt attemptKey = some a →
      s.ledger.hasEntry (event.grantOp a.userID).idempotencyKey ∨ s.Still a.userID (some attemptKey)
  | _ => True

instance (s : System n) (userID : String) (attemptKey : Option String) : Decidable (s.Still userID attemptKey) :=
  decidable_of_iff ((∀ a ∈ s.attempts.rows, a.userID = userID → a.Outstanding → some a.idempotencyKey = attemptKey) ∧
    ∀ i, ∀ row ∈ (s.workers i).rows, row.userID ≠ userID) ⟨fun h => ⟨h.1, h.2⟩, fun h => ⟨h.1, h.2⟩⟩

instance (s : System n) : ∀ action, Decidable (calm s action)
  | .credit _ => inferInstanceAs (Decidable (_ ∨ _))
  | .paid attemptKey event =>
    match h : s.paidAttempt attemptKey with
    | none => .isTrue fun a ha => by simp [h] at ha
    | some a =>
      decidable_of_iff (s.ledger.hasEntry (event.grantOp a.userID).idempotencyKey ∨ s.Still a.userID (some attemptKey))
        ⟨fun hc b hb => Option.some.inj (h.symm.trans hb) ▸ hc, fun hc => hc a h⟩
  | .work _ _ | .crash _ | .setPolicy _ | .recover _ => .isTrue trivial

theorem AtVersion.step (h : AtVersion l userID v) (op : LedgerOp)
    (hoth : userID ≠ op.caller.userID ∨ l.hasEntry op.idempotencyKey) : AtVersion (l.step op) userID v := by
  obtain ⟨ca, hca, rfl⟩ := h
  obtain ⟨ca', hca', hsame⟩ := Ledger.accountOf_step op hca
  exact ⟨ca', hca', hsame hoth⟩

namespace System.Inv

variable {attemptKey : String} {a : Attempt}

theorem credit (h : s.Inv) (op : LedgerOp) (hcalm : s.ledger.hasEntry op.idempotencyKey ∨ s.Still op.caller.userID none) :
    ({ s with ledger := s.ledger.step op } : System n).Inv := by
  refine ⟨⟨h.settled.named, fun a ha hout => ?_⟩, ⟨fun i row hrow => ?_, h.tended.held, h.tended.unmade, h.tended.apart⟩⟩
  · obtain ⟨v, hv, hkey⟩ := h.settled.current a ha hout
    refine ⟨v, hv.step op ?_, hkey⟩
    rcases hcalm with hrec | hstl
    · exact .inr hrec
    · exact .inl fun hu => by simpa using hstl.attempts a ha hu hout
  · refine (h.tended.listed i row hrow).step op ?_
    rcases hcalm with hrec | hstl
    · exact .inr hrec
    · exact .inl (hstl.listed i row hrow)

theorem paidAttempt_some (h : s.paidAttempt attemptKey = some a) :
    a ∈ s.attempts.rows ∧ a.idempotencyKey = attemptKey ∧ a.order = .made := by
  obtain ⟨hfind, hmade⟩ := Option.filter_eq_some_iff.1 h
  obtain ⟨ha, hkey⟩ := find_eq_some.1 hfind
  exact ⟨ha, hkey, eq_of_beq hmade⟩

theorem granted (h : s.Inv) (ha : s.paidAttempt attemptKey = some a) :
    ({ s with attempts := s.attempts.granted attemptKey } : System n).Inv := by
  obtain ⟨hmem, hkey, hmade⟩ := paidAttempt_some ha
  refine ⟨h.settled.update Attempt.grant_key (fun _ => rfl) fun b _ _ hout => absurd rfl hout.2,
    h.tended.update_attempts Attempt.grant_key (fun _ _ _ _ _ _ _ => rfl) fun j row hj b hb hbk hs => ?_⟩
  -- its order was made, so no worker is about to make it
  have hba : b = a := eq_of_key hb hmem ((eq_of_beq hs).trans hkey.symm)
  have hum := h.tended.unmade j row hj b hb hbk
  rw [hba, hmade] at hum
  cases hum

theorem paid (h : s.Inv) (attemptKey : String) (event : PaidEvent) (hcalm : calm s (.paid attemptKey event)) :
    (s.step (.paid attemptKey event)).Inv := by
  simp only [System.step]
  split
  · exact h
  rename_i a ha
  split
  · exact h
  rename_i ledger hok
  have hlg : s.ledger.step (event.grantOp a.userID) = ledger := by rw [Ledger.step, hok]
  subst hlg
  cases hrec : s.ledger.hasEntry (event.grantOp a.userID).idempotencyKey with
  | true => exact h.credit _ (.inl hrec)
  | false =>
    have hstl : s.Still a.userID (some attemptKey) := (hcalm a ha).resolve_left (by simp [hrec])
    refine (h.granted ha).credit (event.grantOp a.userID) (.inr ⟨fun b hb hu hout => ?_, hstl.listed⟩)
    have hb : b ∈ (s.attempts.update _ _ Attempt.grant_key).rows := hb
    rcases mem_update.1 hb with ⟨c, _, _, rfl⟩ | ⟨hb, hs⟩
    · exact absurd rfl hout.2
    · exact absurd (Option.some.inj (hstl.attempts b hb hu hout)) (by simpa using hs)

theorem recover (h : s.Inv) (attemptKey : String) :
    ({ s with attempts := s.attempts.recoverUncertain attemptKey } : System n).Inv := by
  refine ⟨h.settled.update Attempt.recover_key (fun _ => rfl) fun a _ _ hout => absurd rfl hout.1,
    h.tended.update_attempts Attempt.recover_key (fun j row hj a ha hkey hs => ?_) fun _ _ _ _ _ _ _ => rfl⟩
  -- an attempt that is held is reserved, not uncertain
  obtain ⟨b, hb, hbk, hst⟩ := h.tended.held j row hj
  rw [eq_of_key ha hb (hkey.trans hbk.symm), hst] at hs
  simp at hs

theorem step (h : s.Inv) (action : Action n) (hcalm : calm s action) : (s.step action).Inv := by
  cases action with
  | work i a => exact h.work i a
  | crash i => exact h.free i [] (by simp)
  | credit op => exact h.credit op hcalm
  | paid attemptKey event => exact h.paid attemptKey event hcalm
  | setPolicy => exact ⟨h.settled, h.tended⟩
  | recover attemptKey => exact h.recover attemptKey

end System.Inv

/-- An off-session order is made only when every other attempt of the user is failed or granted, and for an attempt
that no order was made for. -/
theorem one_topup_outstanding (s : System n) (actions : List (Action n)) (h₀ : Initial s)
    (hcalm : EachStep System.step calm s actions) (action : Action n) (order : OffSessionOrder)
    (horder : (run System.step s actions).orderCall action = some order) :
    ∀ a ∈ (run System.step s actions).attempts.rows, a.userID = order.userID →
      if a.idempotencyKey = order.idempotencyKey then a.order = .unmade else a.state = .failed ∨ a.order = .granted := by
  have hinv : (run System.step s actions).Inv := run_inv (fun _ action h hc => h.step action hc) h₀.inv hcalm
  intro a ha hu
  unfold System.orderCall at horder
  split at horder
  · split at horder
    · rename_i row hphase
      have hrow : order.userID = row.userID ∧ order.idempotencyKey = row.key := by
        unfold Eligible.offSessionOrder at horder
        split at horder
        · cases horder
        split at horder
        · cases horder
          exact ⟨rfl, rfl⟩
        · cases horder
      rw [hrow.2]
      split
      · exact hinv.tended.unmade _ row hphase a ha ‹_›
      · have hsettled := hinv.others_settled hphase ha (hu.trans hrow.1) ‹_›
        simpa [Attempt.Outstanding, or_iff_not_imp_left] using hsettled
    · cases horder
  · cases horder

namespace Sample

def start : System 1 where
  ledger := .empty
  policies := ⟨[], nodup_nil⟩
  attempts := ⟨[], nodup_nil⟩
  workers := fun _ => .idle
  cooldown := 3600

def credit (entryID key : String) (request : Request) : Action 1 := .credit ⟨⟨"user_1", "cred_1", entryID⟩, key, request⟩

def work : Action 1 := .work 0 { unit := some "10", order := .ok "ord_1" }

def ordered : List (Action 1) :=
  [.setPolicy ⟨"user_1", true, 10000000, 20000000, "prod_1"⟩, credit "cled_1" "signup" (.grant "admin" "user_1" "5"),
    work, work, work, work]

def spentBefore : List (Action 1) := ordered ++ [credit "cled_2" "runtime" (.debit "metering" "chk_1" "1"), work, work]

def spentAfter : List (Action 1) :=
  ordered ++ [.paid "credit-auto:user_1:2" ⟨"cred_2", "cled_2", "evt_1", "credits_10", "20"⟩,
    credit "cled_3" "runtime" (.debit "metering" "chk_1" "20"), work, work]

end Sample

open AutoTopup.Sample

theorem one_topup_outstanding_paid : (run System.step start spentAfter).orderCall work =
      some ⟨"user_1", "prod_1", "credit-auto:user_1:4", 2⟩ ∧
    ∀ a ∈ (run System.step start spentAfter).attempts.rows, a.userID = "user_1" →
      if a.idempotencyKey = "credit-auto:user_1:4" then a.order = .unmade else a.state = .failed ∨ a.order = .granted := by
  have horder : (run System.step start spentAfter).orderCall work =
      some ⟨"user_1", "prod_1", "credit-auto:user_1:4", 2⟩ := by decide +kernel
  exact ⟨horder, one_topup_outstanding start spentAfter ⟨rfl, fun _ => rfl⟩ (by decide +kernel) _ _ horder⟩

theorem second_topup_ordered : (run System.step start spentBefore).orderCall work =
      some ⟨"user_1", "prod_1", "credit-auto:user_1:3", 2⟩ ∧
    (run System.step start spentBefore).attempts.rows.map (fun a => (a.idempotencyKey, a.state, a.order)) =
      [("credit-auto:user_1:2", .created, .made), ("credit-auto:user_1:3", .reserved, .unmade)] := by
  decide +kernel

end AutoTopup

end Paperboat.Billing

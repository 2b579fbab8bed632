import Paperboat.Bandwidth.Charges
/-!
# No byte is lost or charged twice

The books of a run balance: receipts against counters, grants against periods,
what was taken against what is left of each top-up. A grant that falls short
leaves nothing behind it, and what is used up stays used up.
-/

namespace Paperboat.Bandwidth

open Lib BandwidthPeriod Table List BandwidthTopup
open Connector (trimSpace)

variable {b' : Books} {id : String} {r : UsageReport}

def BandwidthTopup.Empty (t : BandwidthTopup) : Prop := t.remainingBytes = 0

def BandwidthPeriod.UsedUp (p : BandwidthPeriod) : Prop := p.consumedIncludedBytes = p.includedBytes

namespace Books

variable {ts : List BandwidthTopup} {remaining granted remaining' granted' : Nat}
  {change : BandwidthPeriod → BandwidthPeriod}

variable {p : BandwidthPeriod} {b : Books} {bytes : Nat}

/-- What the machines `owned` names were granted. -/
def grantedTo (b : Books) (owned : String → Bool) : Int :=
  (b.grants.map fun g => if owned g.userMachineID then (g.granted : Int) else 0).sum

/-- What the periods of the machines `owned` names were charged. -/
def consumedBy (b : Books) (owned : String → Bool) : Int :=
  (b.periods.rows.map fun p => if owned p.userMachineID then (p.consumed : Int) else 0).sum

def taken (b : Books) (id : String) : Nat := (b.takes.map fun k => if k.topupID = id then k.bytes else 0).sum

/-- The allowance a grant was charged to and the top-ups that were live then have nothing left. -/
def UsedUp (b : Books) (g : Grant) : Prop :=
  (∃ p, b.periods.find g.periodID = some p ∧ p.UsedUp) ∧ ∀ id ∈ g.live, ∃ t, b.topups.find id = some t ∧ t.Empty

/-! ## What is used up stays used up -/

structure Later (b b' : Books) : Prop where
  periods : ∀ id, (∃ p, b.periods.find id = some p ∧ p.UsedUp) → ∃ p, b'.periods.find id = some p ∧ p.UsedUp
  topups : ∀ id, (∃ t, b.topups.find id = some t ∧ t.Empty) → ∃ t, b'.topups.find id = some t ∧ t.Empty

theorem Later.trans {a b c : Books} (h : Later a b) (h' : Later b c) : Later a c :=
  ⟨fun id hp => h'.periods id (h.periods id hp), fun id ht => h'.topups id (h.topups id ht)⟩

theorem Later.usedUp (h : Later b b') {g : Grant} (hg : b.UsedUp g) : b'.UsedUp g :=
  ⟨h.periods _ hg.1, fun id hid => h.topups id (hg.2 id hid)⟩

theorem later_useIncluded (h : b.periods.find id = some p)
    (hfits : p.consumedIncludedBytes + bytes ≤ p.includedBytes) : Later b (b.useIncluded id bytes) := by
  refine ⟨fun k => exists_find_update (consumeIncluded_id bytes) fun q hq hs hu => ?_, fun _ ht => ht⟩
  obtain rfl := eq_of_find h hq (beq_iff_eq.1 hs)
  simp only [BandwidthPeriod.UsedUp, BandwidthPeriod.consumeIncluded] at hu ⊢
  omega

theorem later_useTopups (b : Books) (id : String) (bytes : Nat) : Later b (b.useTopups id bytes) :=
  ⟨fun _ => exists_find_update (recordTopup_id bytes) fun _ _ _ hu => hu, fun _ ht => ht⟩

theorem later_take (b : Books) (id : String) (bytes : Nat) : Later b (b.take id bytes) := by
  refine ⟨fun _ hp => hp, fun k => exists_find_update (consume_id bytes) fun t _ _ he => ?_⟩
  simp only [BandwidthTopup.Empty, consume] at he ⊢
  omega

theorem later_voidTopup (b : Books) (userID providerOrderID : String) : Later b (b.voidTopup userID providerOrderID) :=
  ⟨fun _ hp => hp, fun _ => exists_find_update void_id fun t _ _ _ => show t.void.Empty from rfl⟩

theorem later_spendTopups (h : spendTopups ts remaining granted b = .ok (remaining', granted', b')) : Later b b' := by
  refine spendTopups_inv (I := Later b) (fun c id bytes c' hl hc => ?_) ⟨fun _ hp => hp, fun _ ht => ht⟩ h
  obtain ⟨-, -, -, -, rfl⟩ := consumeTopup_eq_some.1 hc
  exact hl.trans (later_take c id bytes)

theorem spendTopups_empties (hcur : b.Current ts)
    (h : spendTopups ts remaining granted b = .ok (remaining', granted', b')) (hleft : total ts < remaining) :
    ∀ t ∈ ts, ∃ t', b'.topups.find t.id = some t' ∧ t'.Empty := by
  induction ts generalizing b remaining granted with
  | nil => simp
  | cons t _ ih =>
    rw [total_cons] at hleft
    have hall : min remaining t.remainingBytes = t.remainingBytes := by omega
    unfold spendTopups at h
    simp only [if_neg (by omega : ¬remaining = 0), hall, hcur.head le_rfl] at h
    intro u hu
    rcases mem_cons.1 hu with rfl | hu
    · -- Taken whole, and empty from then on.
      refine (later_spendTopups h).topups _ ⟨u.consume u.remainingBytes, ?_, Nat.sub_self _⟩
      rw [take, find_update, (hcur.2 u mem_cons_self).1, Option.map_some, if_pos (by simp)]
    · exact ih hcur.tail h (by omega) u hu

/-! ## Top-ups -/

structure TopupsBalanced (b : Books) : Prop where
  known : ∀ k ∈ b.takes, ∃ t, b.topups.find k.topupID = some t
  taken : ∀ t ∈ b.topups.rows, t.state ≠ .void → t.remainingBytes + b.taken t.id = t.purchasedBytes

theorem TopupsBalanced.consumeTopup (h : b.TopupsBalanced) (hc : b.consumeTopup id bytes = some b') : b'.TopupsBalanced := by
  obtain ⟨t, hfind, hact, hle, rfl⟩ := consumeTopup_eq_some.1 hc
  obtain ⟨ht, hid⟩ := find_eq_some.1 hfind
  have htk (k : String) : (b.take id bytes).taken k = b.taken k + if id = k then bytes else 0 := by
    simp [Books.taken, take]
  constructor
  · intro k hk
    obtain ⟨o, ho⟩ : ∃ o, b.topups.find k.topupID = some o := by
      rcases mem_append.1 hk with hk | hk
      · exact h.known k hk
      · obtain rfl := mem_singleton.1 hk
        exact ⟨t, hfind⟩
    exact ⟨_, by rw [take, find_update, ho]; rfl⟩
  · intro o (ho : o ∈ (b.topups.update (·.id == id) (.consume bytes) (consume_id bytes)).rows) hvoid
    rw [htk]
    rcases (mem_update_key hfind fun _ => beq_iff_eq).1 ho with rfl | ⟨ho, hoid⟩
    · have hold := h.taken t ht (by rw [hact]; decide)
      rw [consume_id, hid, if_pos rfl]
      rw [hid] at hold
      simp only [consume]
      omega
    · rw [if_neg (Ne.symm hoid), Nat.add_zero]
      exact h.taken o ho hvoid

/-! ## The books -/

structure Ledger (b : Books) : Prop where
  sound : ∀ p ∈ b.periods.rows, p.Sound
  charged : ∀ owned, b.grantedTo owned = b.consumedBy owned
  topups : b.TopupsBalanced
  short : ∀ g ∈ b.grants, g.granted < g.requested → b.UsedUp g

theorem Ledger.createTopup {userID providerOrderID : String} {expiresAt : Option Int} {now : Int} (h : b.Ledger)
    (hc : b.createTopup id userID providerOrderID bytes expiresAt now = .ok b') : b'.Ledger := by
  unfold Books.createTopup at hc
  split_ifs at hc with hpos hany
  · cases hc
    exact h
  split at hc
  · rename_i topups hins
    cases hc
    obtain ⟨hfr, hrows⟩ := insert_eq_some.1 hins
    have hlater : Later b { b with topups } :=
      ⟨fun _ hp => hp, fun k ⟨t, ht, he⟩ => ⟨t, find_insert_of_find hins ht, he⟩⟩
    refine ⟨h.sound, h.charged, ⟨fun k hk => ?_, fun t ht hvoid => ?_⟩, fun g hg hlt => hlater.usedUp (h.short g hg hlt)⟩
    · obtain ⟨t, ht⟩ := h.topups.known k hk
      exact ⟨t, find_insert_of_find hins ht⟩
    · rw [hrows, mem_append, mem_singleton] at ht
      rcases ht with ht | rfl
      · exact h.topups.taken t ht hvoid
      -- Nothing can have been taken from a top-up that did not exist.
      have hnone : b.taken id = 0 := by
        refine sum_eq_zero fun x hx => ?_
        obtain ⟨k, hk, rfl⟩ := mem_map.1 hx
        obtain ⟨t, ht⟩ := h.topups.known k hk
        obtain ⟨hmem, hid⟩ := find_eq_some.1 ht
        rw [if_neg (fun he => hfr t hmem (hid.trans he))]
      show bytes + b.taken id = bytes
      rw [hnone, Nat.add_zero]
  · cases hc

theorem Ledger.voidTopup (h : b.Ledger) (userID providerOrderID : String) : (b.voidTopup userID providerOrderID).Ledger := by
  refine ⟨h.sound, h.charged, ⟨fun k hk => ?_, fun t ht hvoid => ?_⟩,
    fun g hg hlt => (later_voidTopup b userID providerOrderID).usedUp (h.short g hg hlt)⟩
  · obtain ⟨t, ht⟩ := h.topups.known k hk
    exact ⟨_, by rw [Books.voidTopup, find_update, ht]; rfl⟩
  · simp only [Books.voidTopup] at ht
    rcases mem_update.1 ht with ⟨o, -, -, rfl⟩ | ⟨ht, -⟩
    · exact absurd rfl hvoid
    · exact h.topups.taken t ht hvoid

theorem Ledger.insertPeriod (h : b.Ledger) {periods : Table BandwidthPeriod.id}
    (hins : b.periods.insert p = some periods) (hi : p.consumedIncludedBytes = 0) (ht : p.consumedTopupBytes = 0) :
    Ledger { b with periods } := by
  obtain ⟨-, hrows⟩ := insert_eq_some.1 hins
  have hlater : Later b { b with periods } :=
    ⟨fun k ⟨q, hq, hu⟩ => ⟨q, find_insert_of_find hins hq, hu⟩, fun _ ht => ht⟩
  refine ⟨fun q hq => ?_, fun owned => ?_, ⟨h.topups.known, h.topups.taken⟩, fun g hg hlt => hlater.usedUp (h.short g hg hlt)⟩
  · rw [hrows, mem_append, mem_singleton] at hq
    rcases hq with hq | rfl
    · exact h.sound q hq
    · exact hi.trans_le (Nat.zero_le _)
  · refine (h.charged owned).trans ?_
    simp [consumedBy, hrows, consumed, hi, ht]

theorem Ledger.upsertPeriod (h : b.Ledger) {q : BandwidthPeriod} (hok : b.upsertPeriod p = .ok (q, b'))
    (hi : p.consumedIncludedBytes = 0) (ht : p.consumedTopupBytes = 0) : b'.Ledger := by
  obtain ⟨-, -, rfl | ⟨periods, hp, rfl⟩⟩ := upsertPeriod_ok hok
  · exact h
  · exact h.insertPeriod hp hi ht

theorem sound_update (keeps : ∀ p, (change p).id = p.id)
    (h : ∀ p ∈ b.periods.rows, p.Sound) (hfind : b.periods.find id = some p) (hp : (change p).Sound) :
    ∀ q ∈ (b.periods.update (·.id == id) change keeps).rows, q.Sound := by
  intro q hq
  rcases (mem_update_key hfind fun _ => beq_iff_eq).1 hq with rfl | ⟨hq, -⟩
  · exact hp
  · exact h q hq

theorem consumedBy_charge (keeps : ∀ p, (change p).id = p.id)
    (h : b.periods.find id = some p) (hmc : (change p).userMachineID = p.userMachineID)
    (hcg : (change p).consumed = p.consumed + bytes) (owned : String → Bool) :
    consumedBy { b with periods := b.periods.update (·.id == id) change keeps } owned =
      b.consumedBy owned + if owned p.userMachineID then (bytes : Int) else 0 := by
  unfold consumedBy
  rw [sum_update h, hmc, hcg]
  by_cases ho : owned p.userMachineID
  · simp only [ho, if_true]
    omega
  · simp [ho]

/-- An answered request charges the period with exactly what it grants; if that is less
than was asked for, the allowance is full and every live top-up is empty. -/
theorem Ledger.reserved (h : b.Ledger) {machine : UserMachine} {period : BandwidthPeriod} {requested : Nat} {dbNow : Int}
    {reservation : BandwidthReservation} (hfind : b.periods.find period.id = some period)
    (hmc : period.userMachineID = machine.id)
    (hok : b.chargePeriod machine period requested dbNow = .ok (reservation, b')) : b'.Ledger := by
  have hs := h.sound period (find_eq_some.1 hfind).1
  obtain ⟨b1, hspend, hcg⟩ := chargePeriod_eq hfind hs machine requested dbNow
  obtain ⟨-, rfl⟩ := Prod.mk.inj (Except.ok.inj (hcg.symm.trans hok))
  have hshare : period.consumedIncludedBytes + period.share requested ≤ period.includedBytes := by
    have := hs.share_le requested
    unfold BandwidthPeriod.available at this
    omega
  have hper := (spendTopups_frame hspend).1
  have hfind1 : b1.periods.find period.id = some (period.consumeIncluded (period.share requested)) := by
    rw [hper]
    exact find_useIncluded hfind
  have hcur : (b.useIncluded period.id (period.share requested)).Current _ := b.current_activeTopups machine.userID dbNow
  have hlater := (later_useIncluded hfind hshare).trans ((later_spendTopups hspend).trans
    (later_useTopups b1 period.id (b.topupShare machine period requested dbNow)))
  have hsound1 : ∀ q ∈ b1.periods.rows, q.Sound := by
    rw [hper]
    exact sound_update (consumeIncluded_id _) h.sound hfind hshare
  refine ⟨sound_update (recordTopup_id _) hsound1 hfind1 hshare, fun owned => ?_, ?_, fun g hg hlt => ?_⟩
  · have hinc : b1.consumedBy owned =
        b.consumedBy owned + if owned period.userMachineID then (period.share requested : Int) else 0 := by
      unfold consumedBy
      rw [hper]
      exact consumedBy_charge (consumeIncluded_id _) hfind rfl (Nat.add_right_comm ..) owned
    refine Eq.trans ?_ (consumedBy_charge (recordTopup_id _) hfind1 rfl (Nat.add_assoc ..).symm owned).symm
    have hold := h.charged owned
    unfold grantedTo at hold
    simp only [grantedTo, map_append, map_singleton, sum_append, sum_singleton, hinc, hmc,
      BandwidthPeriod.consumeIncluded, hold]
    split <;> push_cast <;> omega
  · have hbal := spendTopups_inv (fun _ _ _ _ => TopupsBalanced.consumeTopup)
      (⟨h.topups.known, h.topups.taken⟩ : (b.useIncluded period.id (period.share requested)).TopupsBalanced) hspend
    exact ⟨hbal.known, hbal.taken⟩
  · rcases mem_append.1 hg with hg | hg
    · exact hlater.usedUp (h.short g hg hlt)
    obtain rfl := mem_singleton.1 hg
    simp only [topupShare] at hlt
    refine ⟨(later_useTopups _ _ _).periods _ ⟨_, hfind1, ?_⟩, fun id hid => ?_⟩
    · simp only [BandwidthPeriod.UsedUp, BandwidthPeriod.consumeIncluded]
      unfold BandwidthPeriod.share BandwidthPeriod.available at hlt hshare ⊢
      omega
    · obtain ⟨t, ht, rfl⟩ := mem_map.1 hid
      exact spendTopups_empties hcur hspend (by omega) t ht

end Books

/-! ## Counters -/

namespace Usage

variable {known : Bool} {u u' : Usage}

structure Balanced (u : Usage) : Prop where
  deltas : ∀ key, (u.receipts.rows.map fun r => if r.key = key then r.deltaBytes else 0).sum = u.value key
  observed : ∀ r ∈ u.receipts.rows, r.observedBytes ≤ u.value r.key
  accepted : ∀ o ∈ u.accepted, o.bytes ≤ u.value o.key
  attained : ∀ c ∈ u.counters.rows, ∃ o ∈ u.accepted, o.key = c.key ∧ o.bytes = u.value c.key

theorem upsertCounter_ok {key : CounterKey} {routeRevision : Int} {bytes : Nat}
    (h : u.upsertCounter known key routeRevision bytes = .ok u') : u' = { u with counters := u'.counters } ∧
      (∀ k, u'.value k = if k = key then max (u.value key) bytes else u.value k) ∧
      ∀ c ∈ u'.counters.rows, c.key = key ∨ c ∈ u.counters.rows := by
  unfold upsertCounter at h
  split at h
  · rename_i c hc
    cases h
    refine ⟨rfl, fun k => ?_, fun o ho => ?_⟩
    · unfold value
      rw [find_update_key hc fun _ => beq_iff_eq]
      split_ifs with hk
      · simp [hc, UsageCounter.advance]
      · rfl
    · dsimp only at ho
      rcases (mem_update_key hc fun _ => beq_iff_eq).1 ho with rfl | ho
      · exact .inl (find_eq_some.1 hc).2
      · exact .inr ho.1
  · rename_i hc
    split at h
    · rename_i counters hins
      split at h
      · cases h
        refine ⟨rfl, fun k => ?_, fun o ho => ?_⟩
        · unfold value
          rw [find_insert hins]
          by_cases hk : k = key <;> simp [hk, hc]
        · rw [(insert_eq_some.1 hins).2, mem_append, mem_singleton] at ho
          rcases ho with ho | rfl
          · exact .inr ho
          · exact .inl rfl
      · cases h
    · cases h

theorem Balanced.record (h : u.Balanced) {u1 u2 : Usage}
    (hi : u.insertReceipt ⟨r.operationID, r.key, r.routeRevision, r.bytes.toNat, r.bytes.toNat - u.value r.key⟩ = .ok u1)
    (hu : u1.upsertCounter known r.key r.routeRevision r.bytes.toNat = .ok u2) : (u2.accept r).Balanced := by
  obtain ⟨hframe, hval, hrows⟩ := upsertCounter_ok hu
  unfold insertReceipt at hi
  split at hi
  swap
  · cases hi
  rename_i receipts hins
  cases hi
  have hreceipts : (u2.accept r).receipts.rows = _ := (congrArg (·.receipts.rows) hframe).trans (insert_eq_some.1 hins).2
  have hacd : (u2.accept r).accepted = u.accepted ++ [⟨r.key, r.bytes.toNat⟩] := congrArg (·.accepted ++ _) hframe
  replace hval (k : CounterKey) : (u2.accept r).value k = if k = r.key then max (u.value r.key) r.bytes.toNat else u.value k :=
    hval k
  have hgw (k : CounterKey) : u.value k ≤ (u2.accept r).value k := by
    rw [hval]
    split
    · rename_i hk
      subst hk
      exact Nat.le_max_left _ _
    · exact le_rfl
  have hown : r.bytes.toNat ≤ (u2.accept r).value r.key := by
    rw [hval, if_pos rfl]
    exact Nat.le_max_right _ _
  refine ⟨fun key => ?_, fun q hq => ?_, fun o ho => ?_, fun c hc => ?_⟩
  · rw [hreceipts, hval, map_append, sum_append, h.deltas key]
    by_cases hk : key = r.key
    · subst hk
      simp only [map_singleton, sum_singleton, if_true]
      omega
    · simp [hk, Ne.symm hk]
  · rw [hreceipts, mem_append, mem_singleton] at hq
    rcases hq with hq | rfl
    · exact (h.observed q hq).trans (hgw q.key)
    · exact hown
  · rw [hacd, mem_append, mem_singleton] at ho
    rcases ho with ho | rfl
    · exact (h.accepted o ho).trans (hgw o.key)
    · exact hown
  · rw [hacd, hval]
    have hold (c : UsageCounter) (hc : c ∈ u.counters.rows) : ∃ o ∈ u.accepted ++ [⟨r.key, r.bytes.toNat⟩],
        o.key = c.key ∧ o.bytes = u.value c.key := by
      obtain ⟨o, ho, hrest⟩ := h.attained c hc
      exact ⟨o, mem_append_left _ ho, hrest⟩
    split
    · rename_i hk
      by_cases hle : u.value r.key ≤ r.bytes.toNat
      · exact ⟨_, mem_append_right _ mem_cons_self, hk.symm, (Nat.max_eq_right hle).symm⟩
      -- The counter was ahead, so it has a row, and its value was accepted before.
      obtain ⟨c0, hc0⟩ : ∃ c0, u.counters.find r.key = some c0 := by
        rw [← Option.isSome_iff_exists, Option.isSome_iff_ne_none]
        intro hnone
        rw [value, hnone] at hle
        exact hle (Nat.zero_le _)
      obtain ⟨hmem, hkey⟩ := find_eq_some.1 hc0
      rw [Nat.max_eq_left (not_le.1 hle).le, hk]
      exact hkey ▸ hold c0 hmem
    · rename_i hk
      exact hold c ((hrows c hc).resolve_left hk)

theorem Balanced.accept (h : u.Balanced) {existing : ReceiptRow} (hfind : u.receipts.find r.operationID = some existing)
    (hsame : sameUsageReport existing r) : (u.accept r).Balanced := by
  refine ⟨h.deltas, h.observed, fun o ho => ?_, fun c hc => ?_⟩
  · rcases mem_append.1 ho with ho | ho
    · exact h.accepted o ho
    obtain rfl := mem_singleton.1 ho
    have hob := h.observed existing (find_eq_some.1 hfind).1
    simp only [sameUsageReport, Bool.and_eq_true, beq_iff_eq] at hsame
    rw [hsame.1.1] at hob
    exact (by omega : r.bytes.toNat ≤ existing.observedBytes).trans hob
  · obtain ⟨o, ho, hrest⟩ := h.attained c hc
    exact ⟨o, mem_append_left _ ho, hrest⟩

end Usage

/-! ## Runs -/

namespace World

variable {machine : UserMachine} {now : Int} {debiter : Bool}

variable {w w' : World} {dbNow : Int}

theorem ledger_ensure (h : w.books.Ledger) {period : BandwidthPeriod}
    (hok : w.ensureCurrentBandwidthPeriodAt machine now id = .ok (period, b')) : b'.Ledger := by
  obtain ⟨-, -, rfl | ⟨p, periods, hi, ht, hp, rfl⟩⟩ := ensure_ok hok
  · exact h
  · exact h.insertPeriod hp hi ht

theorem ledger_reserve (h : w.books.Ledger) {requested : Nat} {requireActiveMachine : Bool}
    {reservation : BandwidthReservation}
    (hok : w.reserveBandwidthForMachineTx machine requested now dbNow requireActiveMachine id = .ok (reservation, b')) :
    b'.Ledger := by
  obtain ⟨period, b1, hen, hcg⟩ := reserve_ok hok
  obtain ⟨hfind, hmc, -⟩ := ensure_ok hen
  exact (ledger_ensure h hen).reserved hfind hmc hcg

theorem ledger_chargeUsage (h : w.books.Ledger) {delta : Nat}
    (hok : w.chargeUsage debiter r delta dbNow id = .ok w') : w'.books.Ledger := by
  unfold chargeUsage at hok
  split at hok
  swap
  · cases hok
    exact h
  split at hok
  swap
  · cases hok
  rename_i reservation books hdb
  have hbk : books.Ledger := by
    unfold debitEnvironmentBandwidthTx at hdb
    split at hdb
    · cases hdb
    split at hdb
    · exact ledger_reserve h hdb
    · obtain rfl : w.books = books := congrArg Prod.snd (Except.ok.inj hdb)
      exact h
  cases hok
  split <;> exact hbk

def Balanced (w : World) : Prop := w.books.Ledger ∧ w.usage.Balanced

theorem Balanced.reconcile (h : w.Balanced) {receipt : UsageReceipt}
    (hok : w.reconcileUsage debiter r dbNow id = .ok (receipt, w')) : w'.Balanced := by
  unfold reconcileUsage at hok
  split at hok
  · cases hok
  split at hok
  · rename_i existing hfind
    split at hok
    · obtain rfl := congrArg Prod.snd (Except.ok.inj hok)
      exact ⟨h.1, h.2.accept hfind ‹_›⟩
    · cases hok
  · simp only [recordUsage, bind_eq_ok] at hok
    obtain ⟨u1, hins, w1, hcg, u2, hcounter, hlast⟩ := hok
    have hbk := ledger_chargeUsage h.1 hcg
    obtain rfl := congrArg Prod.snd (Except.ok.inj hlast)
    exact ⟨hbk, h.2.record hins hcounter⟩

theorem Balanced.exec (h : w.Balanced) {c : Call} (hok : w.exec c = .ok w') : w'.Balanced := by
  unfold World.exec at hok
  split at hok
  · obtain ⟨⟨receipt, w1⟩, hr, rfl⟩ := map_ok hok
    exact h.reconcile hr
  · obtain ⟨⟨reservation, b1⟩, hr, rfl⟩ := map_ok hok
    unfold reserveBandwidth at hr
    split_ifs at hr
    split at hr
    · split_ifs at hr
      exact ⟨ledger_reserve h.1 hr, h.2⟩
    · cases hr
  · obtain ⟨⟨period, b1⟩, hr, rfl⟩ := map_ok hok
    exact ⟨h.1.upsertPeriod hr rfl rfl, h.2⟩
  · obtain ⟨b1, hr, rfl⟩ := map_ok hok
    exact ⟨h.1.createTopup hr, h.2⟩
  · cases hok
    exact ⟨h.1.voidTopup _ _, h.2⟩
  · split at hok
    · cases hok
      exact h
    · cases hok

theorem Balanced.step (h : w.Balanced) (c : Call) : (w.step c).Balanced := by
  unfold World.step
  cases hc : w.exec c with
  | error => exact h
  | ok => exact h.exec hc

theorem balanced_initial : initial.Balanced :=
  ⟨⟨nofun, fun _ => rfl, ⟨nofun, nofun⟩, nofun⟩, ⟨fun _ => rfl, nofun, nofun, nofun⟩⟩

theorem balanced_run (calls : List Call) : (run World.step initial calls).Balanced :=
  run_inv' (fun _ c h => h.step c) balanced_initial calls

/-! ## Answers -/

def owned (w : World) (userID id : String) : Bool := (w.machines.find id).any (·.userID == userID)

end World

namespace Sample

def day : Int := 24 * Duration.hour

def machine : UserMachine := ⟨"machine_1", "user_1", "env_1", .online, ["file_receive"], none⟩

def month (start : Int) : Entitlement := ⟨"user_1", .active, 1000, start, start + 30 * day, Int.lt_add_of_pos_right _ (by decide)⟩

theorem one_row {α κ : Type} (key : α → κ) (a : α) : ([a].map key).Nodup := List.nodup_singleton _

def tables (e : Entitlement) : Outside :=
  ⟨⟨[machine], one_row _ _⟩, ⟨[e], one_row _ _⟩, ⟨[⟨"env_1", .active, 1⟩], one_row _ _⟩, ["node_1"]⟩

def started : Call := ⟨day, .outside (tables (month day))⟩

def report : UsageReport := ⟨"op_1", "node_1", "epoch_1", "env_1", "route_1", 1, .ingress, 700, 10 * day, 11 * day⟩

def spending : List Call :=
  [started, ⟨2 * day, .createTopup "topup_1" "user_1" "order_1" 500 none⟩,
    ⟨11 * day, .reconcileUsageWithBandwidth report "period_1"⟩,
    ⟨12 * day, .reserveBandwidth "machine_1" 600 (12 * day) "period_2"⟩,
    ⟨13 * day, .reserveBandwidth "machine_1" 400 (13 * day) "period_3"⟩]

end Sample

open Sample

end Paperboat.Bandwidth

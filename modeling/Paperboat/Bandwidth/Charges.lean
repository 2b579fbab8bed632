import Paperboat.Bandwidth.Usage
/-!
# What a request is charged

`chargePeriod_eq` says what a request of a machine leaves: the included allowance
first, the live top-ups for the rest, and a period charged with both.
-/

namespace Paperboat.Bandwidth

open Lib BandwidthPeriod

variable {period : BandwidthPeriod} {b' : Books} {id : String}

def total (ts : List BandwidthTopup) : Nat := (ts.map (·.remainingBytes)).sum

@[simp] theorem total_nil : total [] = 0 := rfl

@[simp] theorem total_cons (t : BandwidthTopup) (ts : List BandwidthTopup) : total (t :: ts) = t.remainingBytes + total ts := rfl

namespace BandwidthPeriod

def share (p : BandwidthPeriod) (requested : Nat) : Nat := min requested p.available.toNat

def Sound (p : BandwidthPeriod) : Prop := p.consumedIncludedBytes ≤ p.includedBytes

theorem Sound.share_le {p : BandwidthPeriod} (h : p.Sound) (requested : Nat) : (p.share requested : Int) ≤ p.available := by
  unfold Sound at h
  unfold share available
  omega

end BandwidthPeriod

namespace Books

variable {p : BandwidthPeriod} {remaining granted remaining' granted' : Nat} {t : BandwidthTopup}

variable {ts : List BandwidthTopup}

variable {b : Books} {bytes : Nat}

/-! ## Single statements -/

theorem useIncluded_zero : b.useIncluded id 0 = b :=
  congrArg (fun periods => { b with periods }) (Table.update_of_unchanged (consumeIncluded_id 0) fun _ _ _ => rfl)

theorem useTopups_zero : b.useTopups id 0 = b :=
  congrArg (fun periods => { b with periods }) (Table.update_of_unchanged (recordTopup_id 0) fun _ _ _ => rfl)

theorem upsertPeriod_ok {q : BandwidthPeriod} (h : b.upsertPeriod p = .ok (q, b')) :
    b'.periods.find q.id = some q ∧ q.userMachineID = p.userMachineID ∧
      (b' = b ∨ ∃ periods, b.periods.insert p = some periods ∧ b' = { b with periods }) := by
  unfold upsertPeriod at h
  split at h
  · rename_i q' hq
    cases h
    have hkey := List.find?_some hq
    simp only [Bool.and_eq_true, beq_iff_eq] at hkey
    exact ⟨Table.find_eq_some.2 ⟨List.mem_of_find?_eq_some hq, rfl⟩, hkey.1, .inl rfl⟩
  · split at h
    · rename_i periods hp
      cases h
      exact ⟨by rw [Table.find_insert hp, if_pos rfl], rfl, .inr ⟨periods, hp, rfl⟩⟩
    · cases h

theorem spendIncluded_eq (h : b.periods.find period.id = some period) (requested : Nat) :
    b.spendIncluded period requested = .ok (period.share requested, b.useIncluded period.id (period.share requested)) := by
  unfold spendIncluded share
  split
  · rename_i hpos
    have hfits : period.consumedIncludedBytes + min requested period.available.toNat ≤ period.includedBytes := by
      unfold available at hpos ⊢
      omega
    simp only [consumeIncluded, h, if_pos hfits]
  · have hzero : period.available.toNat = 0 := by omega
    rw [hzero, Nat.min_zero, useIncluded_zero]

theorem consumeTopup_eq_some : b.consumeTopup id bytes = some b' ↔
    ∃ t, b.topups.find id = some t ∧ t.state = .active ∧ bytes ≤ t.remainingBytes ∧ b' = b.take id bytes := by
  unfold consumeTopup
  cases hfind : b.topups.find id with
  | none => simp
  | some => simp [and_assoc, @eq_comm _ b']

theorem spendTopups_inv {I : Books → Prop} (hs : ∀ b id bytes b', I b → b.consumeTopup id bytes = some b' → I b') (h0 : I b)
    (h : spendTopups ts remaining granted b = .ok (remaining', granted', b')) : I b' := by
  induction ts generalizing remaining granted b with
  | nil =>
    obtain ⟨-, -, rfl⟩ : _ ∧ _ ∧ b = b' := by simpa [spendTopups] using h
    exact h0
  | cons t _ ih =>
    unfold spendTopups at h
    split at h
    · obtain ⟨-, -, rfl⟩ : _ ∧ _ ∧ b = b' := by simpa using h
      exact h0
    split at h
    · rename_i b1 hb1
      exact ih (hs b t.id _ b1 h0 hb1) h
    · cases h

theorem spendTopups_frame
    (h : spendTopups ts remaining granted b = .ok (remaining', granted', b')) : b'.periods = b.periods ∧ b'.grants = b.grants := by
  refine spendTopups_inv (I := fun c => c.periods = b.periods ∧ c.grants = b.grants) ?_ ⟨rfl, rfl⟩ h
  intro c id bytes c' hc hconsume
  obtain ⟨t, -, -, -, rfl⟩ := consumeTopup_eq_some.1 hconsume
  exact hc

def Current (b : Books) (ts : List BandwidthTopup) : Prop :=
  (ts.map (·.id)).Nodup ∧ ∀ t ∈ ts, b.topups.find t.id = some t ∧ t.state = .active

theorem Current.tail (h : b.Current (t :: ts)) : (b.take t.id bytes).Current ts := by
  obtain ⟨hn, hrows⟩ := h
  obtain ⟨hfr, hn⟩ := List.nodup_cons.1 hn
  refine ⟨hn, fun u hu => ?_⟩
  have hne : u.id ≠ t.id := fun he => hfr (List.mem_map.2 ⟨u, hu, he⟩)
  obtain ⟨hfind, hact⟩ := hrows u (List.mem_cons_of_mem _ hu)
  exact ⟨by rw [take, Table.find_update, hfind, Option.map_some, if_neg (by simpa using hne)], hact⟩

theorem Current.head (h : b.Current (t :: ts)) (hle : bytes ≤ t.remainingBytes) :
    b.consumeTopup t.id bytes = some (b.take t.id bytes) :=
  have ht := h.2 t List.mem_cons_self
  consumeTopup_eq_some.2 ⟨t, ht.1, ht.2, hle, rfl⟩

theorem spendTopups_eq (h : b.Current ts) (remaining granted : Nat) :
    ∃ b', spendTopups ts remaining granted b = .ok (remaining - total ts, granted + min remaining (total ts), b') := by
  induction ts generalizing b remaining granted with
  | nil => exact ⟨b, by simp [spendTopups]⟩
  | cons t _ ih =>
    unfold spendTopups
    split
    · rename_i hzero
      exact ⟨b, by simp [hzero]⟩
    simp only [h.head (Nat.min_le_right remaining _)]
    obtain ⟨b', hb'⟩ := ih h.tail (remaining - min remaining t.remainingBytes) (granted + min remaining t.remainingBytes)
    refine ⟨b', ?_⟩
    rw [hb', total_cons]
    congr 2
    · omega
    · congr 1
      omega

theorem activeTopups_perm (b : Books) (userID : String) (now : Int) :
    (b.activeTopups userID now).Perm (b.topups.rows.filter fun t => t.userID == userID && t.live now) :=
  List.perm_insertionSort _ _

theorem current_activeTopups (b : Books) (userID : String) (now : Int) : b.Current (b.activeTopups userID now) := by
  constructor
  · rw [((b.activeTopups_perm userID now).map _).nodup_iff]
    exact b.topups.keys.sublist (List.filter_sublist.map _)
  · intro t ht
    rw [(b.activeTopups_perm userID now).mem_iff, List.mem_filter] at ht
    simp only [BandwidthTopup.live, Bool.and_eq_true, beq_iff_eq] at ht
    exact ⟨Table.find_eq_some.2 ⟨ht.1, rfl⟩, ht.2.2.1.1⟩

theorem recordGrant_eq (h : b.periods.find period.id = some p) {included topup : Nat}
    (hle : (included : Int) ≤ period.available) (hfull : topup = 0 ∨ (included : Int) = period.available) :
    b.recordGrant period (included + topup) = .ok (b.useTopups period.id topup) := by
  have hshare : (((included + topup : Nat) : Int) - min ((included + topup : Nat) : Int) period.available).toNat = topup := by
    omega
  unfold recordGrant
  rw [hshare]
  split
  · simp only [recordTopupConsumption, h]
  · obtain rfl : topup = 0 := by omega
    rw [useTopups_zero]

/-! ## A request -/

def topupShare (b : Books) (machine : UserMachine) (period : BandwidthPeriod) (requested : Nat) (dbNow : Int) : Nat :=
  min (requested - period.share requested) (total (b.activeTopups machine.userID dbNow))

theorem find_useIncluded (h : b.periods.find period.id = some period) :
    (b.useIncluded period.id bytes).periods.find period.id = some (period.consumeIncluded bytes) := by
  unfold useIncluded
  rw [Table.find_update, h, Option.map_some, if_pos (by simp)]

theorem chargePeriod_eq (hfind : b.periods.find period.id = some period) (hs : period.Sound) (machine : UserMachine)
    (requested : Nat) (dbNow : Int) :
    ∃ b1, spendTopups (b.activeTopups machine.userID dbNow) (requested - period.share requested) (period.share requested)
        (b.useIncluded period.id (period.share requested)) =
          .ok (requested - period.share requested - total (b.activeTopups machine.userID dbNow),
            period.share requested + b.topupShare machine period requested dbNow, b1) ∧
      b.chargePeriod machine period requested dbNow =
        .ok (⟨period.share requested + b.topupShare machine period requested dbNow,
            decide (0 < requested - period.share requested - total (b.activeTopups machine.userID dbNow))⟩,
          { b1.useTopups period.id (b.topupShare machine period requested dbNow) with
            grants := b.grants ++ [⟨machine.id, requested, period.share requested + b.topupShare machine period requested dbNow,
              period.id, (b.activeTopups machine.userID dbNow).map (·.id)⟩] }) := by
  obtain ⟨b1, hb1⟩ := spendTopups_eq (show (b.useIncluded period.id (period.share requested)).Current _ from
    b.current_activeTopups machine.userID dbNow) (requested - period.share requested) (period.share requested)
  obtain ⟨hper, hgrants : b1.grants = b.grants⟩ := spendTopups_frame hb1
  have hperiod : b1.periods.find period.id = some (period.consumeIncluded (period.share requested)) := by
    rw [hper]
    exact find_useIncluded hfind
  -- Top-ups are taken from only when the allowance is used up.
  have hfull : b.topupShare machine period requested dbNow = 0 ∨ (period.share requested : Int) = period.available := by
    have := hs.share_le requested
    unfold topupShare
    unfold share at this ⊢
    omega
  have hrec := recordGrant_eq hperiod (hs.share_le requested) hfull
  have hact : (b.useIncluded period.id (period.share requested)).activeTopups machine.userID dbNow =
      b.activeTopups machine.userID dbNow := rfl
  refine ⟨b1, hb1, bind_eq_ok.2 ⟨_, spendIncluded_eq hfind requested, bind_eq_ok.2 ⟨_, hact ▸ hb1, bind_eq_ok.2 ⟨_, hrec, ?_⟩⟩⟩⟩
  rw [← hgrants]
  rfl

end Books

namespace World

variable {w : World} {machine : UserMachine} {requested : Nat} {now dbNow : Int}

theorem ensure_ok (h : w.ensureCurrentBandwidthPeriodAt machine now id = .ok (period, b')) :
    b'.periods.find period.id = some period ∧ period.userMachineID = machine.id ∧
      (b' = w.books ∨ ∃ p periods, p.consumedIncludedBytes = 0 ∧ p.consumedTopupBytes = 0 ∧
        w.books.periods.insert p = some periods ∧ b' = { w.books with periods }) := by
  unfold ensureCurrentBandwidthPeriodAt at h
  split at h
  · cases h
  split at h
  · obtain ⟨hfind, hmc, he | ⟨periods, hp, he⟩⟩ := Books.upsertPeriod_ok h
    · exact ⟨hfind, hmc, .inl he⟩
    · exact ⟨hfind, hmc, .inr ⟨_, periods, rfl, rfl, hp, he⟩⟩
  · cases h

theorem reserve_ok {requireActiveMachine : Bool} {reservation : BandwidthReservation}
    (h : w.reserveBandwidthForMachineTx machine requested now dbNow requireActiveMachine id = .ok (reservation, b')) :
    ∃ period b1, w.ensureCurrentBandwidthPeriodAt machine now id = .ok (period, b1) ∧
      b1.chargePeriod machine period requested dbNow = .ok (reservation, b') := by
  obtain ⟨-, h⟩ := check_eq_ok.1 h
  obtain ⟨⟨period, b1⟩, hen, h⟩ := bind_eq_ok.1 h
  exact ⟨period, b1, hen, h⟩

end World

end Paperboat.Bandwidth

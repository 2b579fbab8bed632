import Mathlib.Data.Rat.Floor
import Paperboat.Lib.Time
/-!
# The estimate of a storage change

More storage is charged at once, for the share of the period that is left. The share is
exact, but both parts of the reduced fraction are cut to 64 bits, and their division
rounds towards zero.
-/

namespace Paperboat.Billing

open Lib

/-- A conversion to `int64`. -/
def int64 (n : Int) : Int := n.bmod 18446744073709551616

structure SeatPriceTier where
  minSeats : Nat
  maxSeats : Option Nat
  pricePerSeat : Nat

structure SubscriptionPricing where
  (periodStart periodEnd : Time)
  /-- `TierType` is `graduated`. -/
  graduated : Bool
  tiers : List SeatPriceTier

namespace SubscriptionPricing

variable (pricing : SubscriptionPricing) (seats : Nat)

def covers (tier : SeatPriceTier) : Bool := decide (tier.minSeats ≤ seats) && tier.maxSeats.all (seats ≤ ·)

def count (tier : SeatPriceTier) : Nat := tier.maxSeats.elim seats (min seats) + 1 - tier.minSeats

def seatPriceTotal : Int :=
  if seats = 0 then 0
  else if pricing.graduated then
    pricing.tiers.foldl (fun total tier =>
      if count seats tier > 0 then int64 (total + int64 (count seats tier * tier.pricePerSeat)) else total) 0
  else ((pricing.tiers.find? (covers seats)).map fun tier => int64 (seats * tier.pricePerSeat)).getD 0

/-- `EstimatedChargeMinor` of `PreviewStorageSubscription`. -/
def estimatedChargeMinor (storageUnits requestedSeats : Nat) (now : Time) : Int :=
  if requestedSeats < storageUnits then 0
  else if pricing.periodEnd.after pricing.periodStart then
    let now := if now.before pricing.periodStart then pricing.periodStart else now
    let now := if now.after pricing.periodEnd then pricing.periodEnd else now
    let remaining := pricing.periodEnd.sub now
    let total := pricing.periodEnd.sub pricing.periodStart
    let prorated : ℚ := int64 (pricing.seatPriceTotal requestedSeats - pricing.seatPriceTotal storageUnits) *
      ((remaining : ℚ) / total)
    (int64 prorated.num).tdiv (int64 prorated.den)
  else 0

/-! ## Totals -/

def priceOf (tiers : List SeatPriceTier) : Nat := ((tiers.find? (covers seats)).map (·.pricePerSeat)).getD 0

def total : Nat :=
  if pricing.graduated then ((List.range seats).map fun seat => priceOf (seat + 1) pricing.tiers).sum
  else seats * priceOf seats pricing.tiers

def Contiguous : Nat → List SeatPriceTier → Prop
  | _, [] => True
  | start, tier :: tiers => tier.minSeats = start ∧ (tier.maxSeats = none → tiers = []) ∧
      ∀ last ∈ tier.maxSeats, start ≤ last ∧ Contiguous (last + 1) tiers

def walk (tiers : List SeatPriceTier) : Nat := (tiers.map fun tier => count seats tier * tier.pricePerSeat).sum

variable {pricing seats} {tiers : List SeatPriceTier} {start : Nat}

theorem Contiguous.walk_eq_zero (h : Contiguous start tiers) (hs : seats < start) : walk seats tiers = 0 := by
  induction tiers generalizing start with
  | nil => rfl
  | cons tier tiers ih =>
    obtain ⟨rfl, hnone, hlast⟩ := h
    have hcount : count seats tier = 0 := by
      unfold count
      cases tier.maxSeats <;> simp <;> omega
    cases hmax : tier.maxSeats with
    | none => simp [walk, hcount, hnone hmax]
    | some last =>
      obtain ⟨hle, hrest⟩ := hlast last hmax
      simpa [walk, hcount] using ih hrest (by omega)

theorem Contiguous.walk_succ (h : Contiguous start tiers) :
    walk (seats + 1) tiers = walk seats tiers + priceOf (seats + 1) tiers := by
  induction tiers generalizing start with
  | nil => rfl
  | cons tier tiers ih =>
    obtain ⟨-, hnone, hlast⟩ := h
    have hcount : count (seats + 1) tier = count seats tier + (covers (seats + 1) tier).toNat := by
      unfold count covers
      cases tier.maxSeats <;> simp <;> grind
    have hcons (seats : Nat) : walk seats (tier :: tiers) = count seats tier * tier.pricePerSeat + walk seats tiers := rfl
    rw [hcons, hcons, hcount, priceOf, List.find?_cons]
    cases hmax : tier.maxSeats with
    | none =>
      rw [hnone hmax]
      cases covers (seats + 1) tier <;> simp [walk, add_mul]
    | some last =>
      obtain ⟨-, hrest⟩ := hlast last hmax
      cases hc : covers (seats + 1) tier
      · rw [ih hrest]
        simp [priceOf, add_assoc]
      · simp only [covers, hmax, Option.all_some, Bool.and_eq_true, decide_eq_true_eq] at hc
        rw [hrest.walk_eq_zero (by omega), hrest.walk_eq_zero (by omega)]
        simp [add_mul]

theorem Contiguous.walk_eq (h : Contiguous 1 tiers) (seats : Nat) :
    walk seats tiers = ((List.range seats).map fun seat => priceOf (seat + 1) tiers).sum := by
  induction seats with
  | zero => exact h.walk_eq_zero Nat.one_pos
  | succ seats ih => rw [h.walk_succ, ih, List.range_succ, List.map_append, List.sum_append, List.map_singleton, List.sum_singleton]

theorem foldl_int64 (tiers : List SeatPriceTier) (sum : Int) :
    tiers.foldl (fun total tier => if count seats tier > 0 then
        int64 (total + int64 (count seats tier * tier.pricePerSeat)) else total) (int64 sum) =
      int64 (sum + walk seats tiers) := by
  induction tiers generalizing sum with
  | nil => simp [walk]
  | cons tier tiers ih =>
    have hwalk : walk seats (tier :: tiers) = count seats tier * tier.pricePerSeat + walk seats tiers := rfl
    rw [List.foldl_cons, hwalk, Nat.cast_add, ← add_assoc, ← ih]
    split_ifs with hpos
    · simp [int64]
    · simp [Nat.eq_zero_of_not_pos hpos]

theorem int64_eq_iff {n : Int} : int64 n = n ↔ -2 ^ 63 ≤ n ∧ n < 2 ^ 63 := by
  have hl := Int.le_bmod (x := n) (m := 18446744073709551616) (by decide)
  have hu := Int.bmod_lt (x := n) (m := 18446744073709551616) (by decide)
  unfold int64
  exact ⟨fun h => by omega, fun h => Int.bmod_eq_of_le (by omega) (by omega)⟩

theorem seatPriceTotal_eq (h : Contiguous 1 pricing.tiers) (hs : pricing.total seats < 2 ^ 63) :
    pricing.seatPriceTotal seats = pricing.total seats := by
  have hfit : int64 (pricing.total seats) = pricing.total seats := int64_eq_iff.2 ⟨by omega, by omega⟩
  rw [← hfit]
  unfold seatPriceTotal total
  split_ifs with hz hg hg
  · simp [hz, int64]
  · simp [hz, int64]
  · rw [← h.walk_eq, ← zero_add (Nat.cast _), ← foldl_int64]
    simp [int64]
  · unfold priceOf
    cases pricing.tiers.find? (covers seats) with
    | none => simp [int64]
    | some => rw [Option.map_some, Option.map_some, Option.getD_some, Option.getD_some, Nat.cast_mul]

/-! ## The quotient -/

/-- The remainders are too small to make up for a numerator that was cut. -/
theorem tdiv_int64_iff {n d : Int} (hd : 0 < d) (hlt : d < 2 ^ 63) :
    (int64 n).tdiv d = n / d ↔ int64 n = n ∧ (0 ≤ n ∨ d ∣ n) := by
  constructor
  · intro h
    have ht := Int.mul_tdiv_add_tmod (int64 n) d
    have he := Int.mul_ediv_add_emod n d
    have htl := Int.lt_tmod_of_pos (int64 n) hd
    have htu := Int.tmod_lt_of_pos (int64 n) hd
    have hel := Int.emod_nonneg n hd.ne'
    have heu := Int.emod_lt_of_pos n hd
    obtain ⟨k, hk⟩ : ((18446744073709551616 : Nat) : Int) ∣ n - int64 n := Int.dvd_self_sub_bmod
    rw [h] at ht
    have hn : int64 n = n := by omega
    rw [hn, Int.tdiv_eq_ediv, add_eq_left] at h
    refine ⟨hn, ?_⟩
    by_contra hc
    simp [hc, hd.ne'] at h
  · rintro ⟨hn, hc⟩
    rw [hn, Int.tdiv_eq_ediv, if_pos hc, add_zero]

section
variable (pricing)

/-- The nanoseconds of the period, and those of it that are left. -/
def length : Int := pricing.periodEnd.ns - pricing.periodStart.ns

def remaining (now : Time) : Int := pricing.periodEnd.ns - min (max now.ns pricing.periodStart.ns) pricing.periodEnd.ns

/-- The exact difference of two totals for what is left of the period. -/
def charge (current requested : Nat) (now : Time) : ℚ :=
  (pricing.total requested - pricing.total current : Int) * ((pricing.remaining now : ℚ) / pricing.length)

end

variable {current requested : Nat} {now : Time}

/-- The code's durations are those of the period as long as none is too long. -/
theorem sub_eq (now : Time) (h : pricing.periodEnd.after pricing.periodStart) (hfits : pricing.length ≤ Duration.max) :
    pricing.periodEnd.sub pricing.periodStart = pricing.length ∧
      let now' := if now.before pricing.periodStart then pricing.periodStart else now
      pricing.periodEnd.sub (if now'.after pricing.periodEnd then pricing.periodEnd else now') = pricing.remaining now := by
  simp only [Time.after, Time.before, decide_eq_true_eq, length, Duration.max] at *
  unfold Time.sub remaining Duration.max Duration.min
  constructor <;> split_ifs <;> omega

theorem den_charge_lt (h : pricing.periodEnd.after pricing.periodStart) (hfits : pricing.length ≤ Duration.max) :
    ((pricing.charge current requested now).den : Int) < 2 ^ 63 := by
  have hq : pricing.charge current requested now =
      Rat.divInt ((pricing.total requested - pricing.total current) * pricing.remaining now) pricing.length := by
    rw [Rat.divInt_eq_div, Int.cast_mul, mul_div_assoc]
    rfl
  have hpos : 0 < pricing.length := sub_pos.2 (of_decide_eq_true h)
  rw [hq]
  refine (Int.le_of_dvd hpos (Rat.den_dvd _ _)).trans_lt ?_
  unfold Duration.max at hfits
  omega

variable (now) in
/-- The totals are those of the seats. In a period that a duration can hold the estimate is the exact charge, rounded
down, if and only if the numerator of its reduced fraction fits 64 bits and it is not below zero, or whole. -/
theorem storage_estimate_exact_iff (h : pricing.periodEnd.after pricing.periodStart) (hfits : pricing.length ≤ Duration.max)
    (hc : Contiguous 1 pricing.tiers) (hlt : current < requested)
    (hcur : pricing.total current < 2 ^ 63) (hreq : pricing.total requested < 2 ^ 63) :
    let q := pricing.charge current requested now
    pricing.seatPriceTotal current = pricing.total current ∧ pricing.seatPriceTotal requested = pricing.total requested ∧
      (pricing.estimatedChargeMinor current requested now = ⌊q⌋ ↔
        (-2 ^ 63 ≤ q.num ∧ q.num < 2 ^ 63) ∧ (0 ≤ q ∨ q.den = 1)) := by
  intro q
  have hct := seatPriceTotal_eq hc hcur
  have hrt := seatPriceTotal_eq hc hreq
  have hdiff : int64 (pricing.total requested - pricing.total current) = pricing.total requested - pricing.total current :=
    int64_eq_iff.2 ⟨by omega, by omega⟩
  have he : pricing.estimatedChargeMinor current requested now = (int64 q.num).tdiv (int64 q.den) := by
    obtain ⟨htotal, hremaining⟩ := sub_eq now h hfits
    simp only [estimatedChargeMinor, h, not_lt.2 hlt.le, if_false, if_true, hct, hrt, hdiff, htotal]
    rw [hremaining]
    rfl
  have hpos : (0 : Int) < q.den := by exact_mod_cast q.den_pos
  have hden : (q.den : Int) < 2 ^ 63 := den_charge_lt h hfits
  rw [he, int64_eq_iff.2 ⟨by omega, hden⟩, Rat.floor_def', tdiv_int64_iff hpos hden, int64_eq_iff, Rat.num_nonneg]
  refine ⟨hct, hrt, and_congr_right' (or_congr_right ⟨fun hd => ?_, fun h1 => by simp [h1]⟩)⟩
  exact q.reduced.symm.eq_one_of_dvd (Int.natCast_dvd.1 hd)

end SubscriptionPricing

namespace Sample

def days (n : Nat) : Time := ⟨n * 24 * Duration.hour, 0⟩

def flat (length : Time) (pricePerSeat : Nat) : SubscriptionPricing := ⟨.zero, length, true, [⟨1, none, pricePerSeat⟩]⟩

end Sample

namespace SubscriptionPricing

open Billing.Sample

theorem storage_estimate_exact_halfway :
    (flat (days 30) 500).estimatedChargeMinor 1 3 (days 15) = ⌊(flat (days 30) 500).charge 1 3 (days 15)⌋ :=
  (storage_estimate_exact_iff _ (by decide) (by decide) (show Contiguous 1 [_] from ⟨rfl, fun _ => rfl, by simp⟩) (by decide)
    (by decide) (by decide)).2.2.2 (by decide +kernel)

/-- A nanosecond into the period the numerator of 199.99 for one more seat does not fit; and of four hundred years all are
left after fifty. -/
theorem storage_estimate_wraps : (flat (days 30) 19999).estimatedChargeMinor 1 2 ⟨1, 0⟩ = -1351 ∧
    ⌊(flat (days 30) 19999).charge 1 2 ⟨1, 0⟩⌋ = 19998 ∧
    (flat (days 146000) 1000).estimatedChargeMinor 1 2 (days 18250) = 1000 ∧
    ⌊(flat (days 146000) 1000).charge 1 2 (days 18250)⌋ = 875 := by
  decide +kernel

end SubscriptionPricing

end Paperboat.Billing

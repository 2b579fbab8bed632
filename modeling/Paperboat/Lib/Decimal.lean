import Mathlib.Algebra.Order.Floor.Ring
import Mathlib.Algebra.Order.Ring.Rat
import Mathlib.Data.Rat.Floor
import Mathlib.Tactic.FieldSimp
import Mathlib.Tactic.Linarith
import Mathlib.Tactic.Ring
/-!
# Decimal numbers as text

Exact numbers travel as decimal text and are kept with a fixed number of places.
`read` takes a text to its value, `fixed` writes a value with so many places,
rounded half away from zero, and reading what was written gives the rounded value
back.
-/

namespace Paperboat.Lib.Decimal

open List Nat

variable {cs : List Char} {m n : ℤ} {places : ℕ} {c : Char} {q : ℚ}

/-! ## Reading -/

def digits (whole frac : List Char) : Option ℚ :=
  if (whole ++ frac).all Char.isDigit && !(whole ++ frac).isEmpty then
    some (Nat.ofDigitChars 10 (whole ++ frac) 0 / 10 ^ frac.length)
  else none

def unsigned (cs : List Char) : Option ℚ :=
  match cs.dropWhile (· != '.') with
  | [] => digits cs []
  | _ :: frac => digits (cs.takeWhile (· != '.')) frac

/-- A decimal number, with or without a sign. -/
def read : List Char → Option ℚ
  | '-' :: cs => (unsigned cs).map (- ·)
  | '+' :: cs => unsigned cs
  | cs => unsigned cs

theorem digits_nonneg {whole frac : List Char} (h : digits whole frac = some q) : 0 ≤ q := by
  unfold digits at h
  split at h
  · cases h
    positivity
  · cases h

theorem unsigned_nonneg (h : unsigned cs = some q) : 0 ≤ q := by
  unfold unsigned at h
  split at h <;> exact digits_nonneg h

theorem read_nonneg (h : read cs = some q) (hsign : cs.head? ≠ some '-') : 0 ≤ q := by
  unfold read at h
  split at h
  · exact absurd rfl hsign
  · exact unsigned_nonneg h
  · exact unsigned_nonneg h

/-! ## Rounding -/

/-- The nearest integer, halves away from zero. -/
def halfAway (q : ℚ) : ℤ := if 0 ≤ q then ⌊q + 1 / 2⌋ else -⌊-q + 1 / 2⌋

@[simp] theorem halfAway_intCast (m : ℤ) : halfAway m = m := by
  have hhalf : ∀ k : ℤ, ⌊(k : ℚ) + 1 / 2⌋ = k := fun k => by
    norm_num
  unfold halfAway
  split
  · exact hhalf m
  · rw [← Int.cast_neg, hhalf, neg_neg]

theorem halfAway_neg (q : ℚ) : halfAway (-q) = -halfAway q := by
  unfold halfAway
  rcases lt_trichotomy q 0 with h | h | h
  · rw [if_pos (by linarith), if_neg (by linarith), neg_neg]
  · subst h
    norm_num
  · rw [if_neg (by linarith), if_pos h.le, neg_neg]

theorem halfAway_nonneg (h : 0 ≤ q) : 0 ≤ halfAway q := by
  rw [halfAway, if_pos h, Int.floor_nonneg]
  linarith

def value (places : ℕ) (m : ℤ) : ℚ := m / 10 ^ places

/-- What is kept of a number with so many places. -/
def scaled (places : ℕ) (q : ℚ) : ℤ := halfAway (q * 10 ^ places)

@[simp] theorem scaled_value (places : ℕ) (m : ℤ) : scaled places (value places m) = m := by
  unfold scaled value
  rw [div_mul_cancel₀ _ (by positivity), halfAway_intCast]

theorem value_add (places : ℕ) (m n : ℤ) : value places m + value places n = value places (m + n) := by
  simp only [value, Int.cast_add, add_div]

@[simp] theorem value_le_value : value places m ≤ value places n ↔ m ≤ n := by
  unfold value
  rw [div_le_div_iff_of_pos_right (by positivity), Int.cast_le]

theorem value_inj : value places m = value places n ↔ m = n :=
  ⟨fun h => by rw [← scaled_value places m, h, scaled_value], fun h => h ▸ rfl⟩

theorem halfAway_mono {r : ℚ} (h : q ≤ r) : halfAway q ≤ halfAway r := by
  unfold halfAway
  split_ifs with hq hr
  · exact Int.floor_mono (by linarith)
  · linarith
  · have h1 : 0 ≤ ⌊-q + 1 / 2⌋ := Int.floor_nonneg.2 (by linarith)
    have h2 : 0 ≤ ⌊r + 1 / 2⌋ := Int.floor_nonneg.2 (by linarith)
    omega
  · exact neg_le_neg (Int.floor_mono (by linarith))

theorem abs_halfAway_sub_le (q : ℚ) : |(halfAway q : ℚ) - q| ≤ 1 / 2 := by
  unfold halfAway
  split_ifs
  · rw [abs_le]
    constructor <;> linarith [Int.floor_le (q + 1 / 2), Int.lt_floor_add_one (q + 1 / 2)]
  · rw [abs_le, Int.cast_neg]
    constructor <;> linarith [Int.floor_le (-q + 1 / 2), Int.lt_floor_add_one (-q + 1 / 2)]

theorem scaled_neg (places : ℕ) (q : ℚ) : scaled places (-q) = -scaled places q := by
  rw [scaled, neg_mul, halfAway_neg, scaled]

theorem scaled_mono {r : ℚ} (h : q ≤ r) : scaled places q ≤ scaled places r :=
  halfAway_mono (mul_le_mul_of_nonneg_right h (by positivity))

theorem abs_value_scaled_sub_le (places : ℕ) (q : ℚ) : |value places (scaled places q) - q| ≤ 1 / 2 / 10 ^ places := by
  have hpos : (0 : ℚ) < 10 ^ places := by positivity
  have hq : value places (scaled places q) - q = (halfAway (q * 10 ^ places) - q * 10 ^ places) / 10 ^ places := by
    unfold value scaled
    field_simp
  rw [hq, abs_div, abs_of_pos hpos]
  exact div_le_div_of_nonneg_right (abs_halfAway_sub_le _) hpos.le

/-! ## Writing -/

def padded (places n : ℕ) : List Char :=
  List.replicate (places - (Nat.toDigits 10 n).length) '0' ++ Nat.toDigits 10 n

/-- `n / 10 ^ places`, written with that many places. -/
def fixedNat (places n : ℕ) : List Char :=
  Nat.toDigits 10 (n / 10 ^ places) ++ '.' :: padded places (n % 10 ^ places)

/-- A number written with so many places. -/
def fixed (places : ℕ) (q : ℚ) : List Char :=
  (if q < 0 then ['-'] else []) ++ fixedNat places (scaled places q).natAbs

theorem length_padded {n : ℕ} (hp : 0 < places) (h : n < 10 ^ places) : (padded places n).length = places := by
  have hle := (length_toDigits_le_iff (by norm_num) hp).2 h
  simp only [padded, length_append, length_replicate]
  omega

theorem ofDigitChars_padded (places n init : ℕ) {k : ℕ} (hk : (padded places n).length = k) :
    Nat.ofDigitChars 10 (padded places n) init = 10 ^ k * init + n := by
  rw [ofDigitChars_eq_ofDigitChars_zero, hk, padded, ofDigitChars_append, ofDigitChars_replicate_zero,
    mul_zero, ofDigitChars_ten_toDigits]

theorem isDigit_padded {n : ℕ} (h : c ∈ padded places n) : c.isDigit := by
  rcases mem_append.1 h with h | h
  · rw [eq_of_mem_replicate h]
    rfl
  · exact isDigit_of_mem_toDigits (by norm_num) (by norm_num) h

theorem isDigit_ne_point (h : c.isDigit) : (c != '.') := by
  rw [bne_iff_ne]
  rintro rfl
  cases h

theorem mem_fixed (h : c ∈ fixed places q) : c = '-' ∨ c = '.' ∨ c.isDigit := by
  simp only [fixed, fixedNat, mem_append, mem_cons] at h
  rcases h with h | h | h | h
  · split at h <;> simp_all
  · exact .inr (.inr (isDigit_of_mem_toDigits (by norm_num) (by norm_num) h))
  · exact .inr (.inl h)
  · exact .inr (.inr (isDigit_padded h))

theorem unsigned_fixedNat (hp : 0 < places) (n : ℕ) : unsigned (fixedNat places n) = some (value places n) := by
  have hwhole : ∀ c ∈ Nat.toDigits 10 (n / 10 ^ places), c.isDigit := fun c hc =>
    isDigit_of_mem_toDigits (by norm_num) (by norm_num) hc
  have hpoint : ∀ c ∈ Nat.toDigits 10 (n / 10 ^ places), (c != '.') := fun c hc => isDigit_ne_point (hwhole c hc)
  have hlen := length_padded hp (mod_lt n (by positivity : 10 ^ places > 0))
  have hdrop : (fixedNat places n).dropWhile (· != '.') = '.' :: padded places (n % 10 ^ places) := by
    rw [fixedNat, dropWhile_append_of_pos hpoint]
    rfl
  have htake : (fixedNat places n).takeWhile (· != '.') = Nat.toDigits 10 (n / 10 ^ places) := by
    rw [fixedNat, takeWhile_append_of_pos hpoint]
    simp
  have hall : (Nat.toDigits 10 (n / 10 ^ places) ++ padded places (n % 10 ^ places)).all Char.isDigit := by
    rw [all_eq_true]
    intro c hc
    rcases mem_append.1 hc with hc | hc
    · exact hwhole c hc
    · exact isDigit_padded hc
  have hsum : Nat.ofDigitChars 10 (Nat.toDigits 10 (n / 10 ^ places) ++ padded places (n % 10 ^ places)) 0 = n := by
    rw [ofDigitChars_append, ofDigitChars_ten_toDigits, ofDigitChars_padded _ _ _ hlen, div_add_mod]
  rw [unsigned, hdrop, htake]
  simp only [digits, hall, hsum, hlen]
  have hne : (Nat.toDigits 10 (n / 10 ^ places) ++ padded places (n % 10 ^ places)).isEmpty = false := by
    rw [isEmpty_eq_false_iff]
    exact append_ne_nil_of_left_ne_nil toDigits_ne_nil _
  simp [hne, value]

theorem read_fixedNat (hp : 0 < places) (n : ℕ) : read (fixedNat places n) = some (value places n) := by
  rw [← unsigned_fixedNat hp]
  obtain ⟨c, cs, hc⟩ := exists_cons_of_ne_nil (toDigits_ne_nil : Nat.toDigits 10 (n / 10 ^ places) ≠ [])
  have hdg : c.isDigit :=
    isDigit_of_mem_toDigits (by norm_num) (by norm_num) (hc ▸ mem_cons_self : c ∈ Nat.toDigits 10 (n / 10 ^ places))
  rw [fixedNat, hc, cons_append]
  unfold read
  split
  · rename_i heq
    obtain ⟨rfl, _⟩ := List.cons.inj heq
    cases hdg
  · rename_i heq
    obtain ⟨rfl, _⟩ := List.cons.inj heq
    cases hdg
  · rfl

theorem read_fixed (hp : 0 < places) (q : ℚ) : read (fixed places q) = some (value places (scaled places q)) := by
  unfold fixed
  split
  next h =>
    have hneg : (scaled places q).natAbs = -scaled places q := by
      have hnn : 0 ≤ scaled places (-q) := halfAway_nonneg (by have : (0 : ℚ) < 10 ^ places := by positivity
                                                               nlinarith)
      rw [scaled, neg_mul, halfAway_neg] at hnn
      unfold scaled
      omega
    simp only [cons_append, nil_append, read, unsigned_fixedNat hp, Option.map_some, hneg]
    simp [value, neg_div]
  next h =>
    have hnn : 0 ≤ scaled places q := halfAway_nonneg (by have : (0 : ℚ) < 10 ^ places := by positivity
                                                          nlinarith)
    rw [nil_append, read_fixedNat hp, Int.natAbs_of_nonneg hnn]

end Paperboat.Lib.Decimal

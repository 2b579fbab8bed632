import Paperboat.Connector.Basics
import Paperboat.Lib.Checks
import Paperboat.Lib.Decimal
/-!
# Credit amounts

Credits travel as decimal text through the service and are kept in
`numeric(18,6)` columns: as millionths, below 10^12 credits. PostgreSQL reads a
text with `::numeric`, the service with `big.Rat`, and both are exact. A value is
rounded half away from zero when a column stores it or `FloatString(6)` writes it.

Only plain decimal numbers are read here. The other texts PostgreSQL takes for a
number (exponents, `NaN`, infinities) are no amounts.
-/

namespace Paperboat.Billing

variable {amount : String} {m : ℤ} {text : String}

open Lib Connector Decimal List

inductive Err where
  /-- `credit amount must be positive` -/
  | amountNotPositive
  /-- `credit adjustment amount must be nonzero` -/
  | adjustmentZero
  /-- `invalid plan switch credit delta` -/
  | invalidDelta
  | idempotencyConflict
  | insufficientCredits
  | noRows
  | invalidNumeric
  | numericOverflow
  | uniqueViolation
  | checkViolation
  | integerOutOfRange
  /-- A `NULL` read as a text. -/
  | unexpectedNull
  | retryableWebhook
  | insufficientStorage
  /-- `storage ledger idempotency key conflicts with existing entry` -/
  | storageConflict
  /-- `extra storage product ... catalog_ref must be nonnegative GB` -/
  | invalidStorageRef
  /-- `invalid old plan credits`, `invalid new plan credits` -/
  | invalidPlanCredits
  /-- `billing period end must be after its start` -/
  | invalidPeriod
  deriving DecidableEq

/-! ## Numbers -/

def credits (m : ℤ) : ℚ := value 6 m

theorem credits_nonneg (h : 0 ≤ m) : 0 ≤ credits m := by
  unfold credits value
  positivity

@[simp] theorem scaled_credits (m : ℤ) : scaled 6 (credits m) = m := scaled_value 6 m

theorem credits_neg (m : ℤ) : credits (-m) = -credits m := by
  simp [credits, value, neg_div]

theorem credits_inj {n : ℤ} : credits m = credits n ↔ m = n := value_inj

/-- What a `numeric(18,6)` column keeps of a value. -/
def numericColumn (q : ℚ) : Except Err ℤ :=
  let m := scaled 6 q
  if -1000000000000000000 < m ∧ m < 1000000000000000000 then .ok m else .error .numericOverflow

theorem numericColumn_eq_ok {q : ℚ} (h : numericColumn q = .ok m) : m = scaled 6 q := by
  unfold numericColumn at h
  simp only at h
  split at h
  · exact (Except.ok.inj h).symm
  · cases h

/-! ## Texts -/

def isBlank (c : Char) : Bool := c == ' ' || (9 ≤ c.toNat && c.toNat ≤ 13)

def stripped (blank : Char → Bool) (cs : List Char) : List Char := ((cs.dropWhile blank).reverse.dropWhile blank).reverse

/-- `text::numeric`. -/
def castNumeric (text : String) : Except Err ℚ :=
  match read (stripped isBlank text.toList) with
  | some q => .ok q
  | none => .error .invalidNumeric

/-- `new(big.Rat).SetString(text)`. -/
def setString (text : String) : Option ℚ := read text.toList

/-- `q.FloatString(6)`. -/
def floatString (q : ℚ) : String := String.ofList (fixed 6 q)

def hasPrefix (text start : String) : Bool := start.toList.isPrefixOf text.toList

/-- An amount with a sign, or none at all, is not credited or debited. -/
def refusedAmount (amount : String) : Bool := trimSpace amount == "" || hasPrefix (trimSpace amount) "-"

section Strip
variable {blank : Char → Bool} {cs : List Char} {c : Char}

theorem stripped_prefix (blank : Char → Bool) (cs : List Char) : stripped blank cs <+: cs.dropWhile blank := by
  rw [stripped, ← reverse_suffix, reverse_reverse]
  exact dropWhile_suffix _

theorem head?_dropWhile_of_stripped (h : (stripped blank cs).head? = some c) : (cs.dropWhile blank).head? = some c := by
  obtain ⟨rest, hrest⟩ := stripped_prefix blank cs
  rw [← hrest, List.head?_append, h]
  rfl

theorem head?_stripped (hc : blank c = false) (h : (cs.dropWhile blank).head? = some c) : (stripped blank cs).head? = some c := by
  obtain ⟨rest, hrest⟩ := List.head?_eq_some_iff.1 h
  rw [stripped, hrest, reverse_cons, List.head?_reverse, dropWhile_append]
  split
  · simp [hc]
  · rw [List.getLast?_append]
    rfl

theorem head?_dropWhile_stripped (blank : Char → Bool) (cs : List Char) :
    ((stripped blank cs).dropWhile blank).head? = (stripped blank cs).head? := by
  cases hs : stripped blank cs with
  | nil => rfl
  | cons c =>
    have hhead : (cs.dropWhile blank).head? = some c := head?_dropWhile_of_stripped (by rw [hs]; rfl)
    have hnot := List.head?_dropWhile_not blank cs
    rw [hhead] at hnot
    rw [dropWhile_cons_of_neg (by simpa using hnot)]

theorem head?_dropWhile_mono {blank' : Char → Bool} (hsub : ∀ c, blank c = true → blank' c = true) (hc : blank' c = false)
    (h : (cs.dropWhile blank).head? = some c) : (cs.dropWhile blank').head? = some c := by
  induction cs with
  | nil => exact h
  | cons d _ ih =>
    by_cases hd : blank d
    · rw [dropWhile_cons_of_pos hd] at h
      rw [dropWhile_cons_of_pos (hsub d hd)]
      exact ih h
    · rw [dropWhile_cons_of_neg hd] at h
      obtain rfl : d = c := by simpa using h
      rw [dropWhile_cons_of_neg (by simp [hc])]
      rfl

theorem stripped_of_forall (h : ∀ c ∈ cs, blank c = false) : stripped blank cs = cs := by
  have hdrop : ∀ ds : List Char, (∀ c ∈ ds, blank c = false) → ds.dropWhile blank = ds := by
    intro ds hds
    cases ds with
    | nil => rfl
    | cons d => rw [dropWhile_cons_of_neg (by simp [hds d mem_cons_self])]
  rw [stripped, hdrop cs h, hdrop cs.reverse fun c hc => h c (mem_reverse.1 hc), reverse_reverse]

end Strip

theorem toList_trimSpace (text : String) : (trimSpace text).toList = stripped isSpace text.toList := String.toList_ofList

theorem isSpace_of_isBlank (c : Char) (h : isBlank c) : isSpace c := by
  unfold isSpace
  rcases Bool.or_eq_true_iff.1 h with h | h
  · obtain rfl := eq_of_beq h
    rfl
  · simp [h]

theorem castNumeric_nonneg_of_head {q : ℚ} (hhead : (text.toList.dropWhile isSpace).head? ≠ some '-')
    (h : castNumeric text = .ok q) : 0 ≤ q := by
  unfold castNumeric at h
  split at h
  · rename_i q' hq
    cases h
    exact read_nonneg hq fun hsign =>
      hhead (head?_dropWhile_mono isSpace_of_isBlank (by rfl) (head?_dropWhile_of_stripped hsign))
  · cases h

theorem head?_of_hasPrefix_eq_false (h : hasPrefix text "-" = false) : text.toList.head? ≠ some '-' := by
  intro hhead
  obtain ⟨rest, hrest⟩ := List.head?_eq_some_iff.1 hhead
  simp [hasPrefix, hrest] at h

theorem castNumeric_nonneg {q : ℚ} (hr : refusedAmount amount = false) (h : castNumeric amount = .ok q) : 0 ≤ q := by
  refine castNumeric_nonneg_of_head (fun hhead => ?_) h
  refine head?_of_hasPrefix_eq_false (Bool.or_eq_false_iff.1 hr).2 ?_
  rw [toList_trimSpace]
  exact head?_stripped (by rfl) hhead

theorem isSpace_fixed {q : ℚ} {c : Char} (hc : c ∈ fixed 6 q) : isSpace c = false := by
  rcases mem_fixed hc with rfl | rfl | hdg
  · rfl
  · rfl
  simp only [Char.isDigit, Bool.and_eq_true, decide_eq_true_eq] at hdg
  have hlow : 48 ≤ c.toNat := hdg.1
  have hhigh : c.toNat ≤ 57 := hdg.2
  simp [isSpace]
  omega

/-- What `FloatString` writes is read back as the rounded value. -/
theorem castNumeric_floatString (q : ℚ) : castNumeric (floatString q) = .ok (credits (scaled 6 q)) := by
  have hchs : ∀ c ∈ fixed 6 q, isBlank c = false := fun c hc =>
    Bool.eq_false_iff.2 fun hb => by simpa [isSpace_fixed hc] using isSpace_of_isBlank c hb
  rw [castNumeric, floatString, String.toList_ofList, stripped_of_forall hchs, read_fixed (by norm_num)]
  rfl

theorem setString_floatString (q : ℚ) : setString (floatString q) = some (credits (scaled 6 q)) := by
  rw [setString, floatString, String.toList_ofList, read_fixed (by norm_num)]
  rfl

theorem trimSpace_floatString (q : ℚ) : trimSpace (floatString q) = floatString q := by
  rw [← String.toList_inj, toList_trimSpace, floatString, String.toList_ofList, stripped_of_forall fun _ => isSpace_fixed]

def sixPlaces (text : String) : Bool :=
  match castNumeric text with
  | .ok q => decide (credits (scaled 6 q) = q)
  | .error _ => true

end Paperboat.Billing

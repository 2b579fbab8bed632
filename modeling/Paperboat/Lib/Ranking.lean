import Mathlib.Data.List.Basic
/-!
# The first in an order

`ORDER BY ... LIMIT 1` over rows that a linear order ranks.
-/

namespace Paperboat.Lib

variable {α : Type*} {le : α → α → Bool}

def firstBy (le : α → α → Bool) : List α → Option α
  | [] => none
  | a :: as =>
    match firstBy le as with
    | none => some a
    | some b => if le a b then some a else some b

theorem firstBy_eq_none {l : List α} : firstBy le l = none ↔ l = [] := by
  cases l with
  | nil => exact ⟨fun _ => rfl, fun _ => rfl⟩
  | cons =>
    refine ⟨fun h => ?_, nofun⟩
    rw [firstBy] at h
    split at h
    · cases h
    · split at h <;> cases h

theorem firstBy_spec (trans : ∀ a b c, le a b → le b c → le a c)
    (total : ∀ a b, (le a b || le b a)) {l : List α} {a : α} (h : firstBy le l = some a) :
    a ∈ l ∧ ∀ b ∈ l, le a b := by
  have hrefl : ∀ a, le a a := fun a => by simpa using total a a
  induction l generalizing a with
  | nil => cases h
  | cons _ _ ih =>
    rw [firstBy] at h
    split at h
    · next hnone =>
      cases h
      rw [firstBy_eq_none.1 hnone]
      simp [hrefl]
    · next y hy =>
      obtain ⟨hmem, hleast⟩ := ih hy
      split at h
      · next hle =>
        cases h
        refine ⟨List.mem_cons_self, fun b hb => ?_⟩
        rcases List.mem_cons.1 hb with rfl | hb
        · exact hrefl b
        · exact trans _ _ _ hle (hleast b hb)
      · next hle =>
        cases h
        refine ⟨List.mem_cons_of_mem _ hmem, fun b hb => ?_⟩
        rcases List.mem_cons.1 hb with rfl | hb
        · have := total b a
          rwa [Bool.eq_false_iff.2 hle, Bool.false_or] at this
        · exact hleast b hb

/-- Where no two rows share a rank, being first is coming before all rows. -/
theorem firstBy_eq_some (trans : ∀ a b c, le a b → le b c → le a c)
    (total : ∀ a b, (le a b || le b a)) {l : List α}
    (antisymm : ∀ a ∈ l, ∀ b ∈ l, le a b → le b a → a = b) {a : α} :
    firstBy le l = some a ↔ a ∈ l ∧ ∀ b ∈ l, le a b := by
  refine ⟨firstBy_spec trans total, ?_⟩
  rintro ⟨ha, hft⟩
  cases hx : firstBy le l with
  | none =>
    rw [firstBy_eq_none.1 hx] at ha
    cases ha
  | some x =>
    obtain ⟨hmem, hleast⟩ := firstBy_spec trans total hx
    rw [antisymm x hmem a ha (hleast a ha) (hft x hmem)]

end Paperboat.Lib

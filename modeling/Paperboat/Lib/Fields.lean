import Mathlib.Data.List.Infix
import Mathlib.Data.Int.Basic
import Mathlib.Data.String.Basic
/-!
# Texts made of fields

Keys are texts put together from a fixed head and fields behind separators. Two
of them are told apart by their heads, or field by field from the end, as long as
the separator does not occur in the fields.
-/

namespace Paperboat.Lib.Fields

open List

theorem append_inj_left {p a b : String} (h : p ++ a = p ++ b) : a = b := by
  have hl := congrArg String.toList h
  rw [String.toList_append, String.toList_append] at hl
  exact String.toList_inj.mp (append_cancel_left hl)

theorem heads_of_append {p q a b : String} (h : p ++ a = q ++ b) : p.toList <+: q.toList ∨ q.toList <+: p.toList := by
  have hl := congrArg String.toList h
  rw [String.toList_append, String.toList_append] at hl
  exact prefix_or_prefix_of_prefix (prefix_append _ a.toList) (hl ▸ prefix_append _ _)

theorem utf8ByteSize_of_ascii {s : String} (h : ∀ c ∈ s.toList, c.utf8Size = 1) : s.utf8ByteSize = s.toList.length := by
  have hlen : ∀ cs : List Char, (∀ c ∈ cs, c.utf8Size = 1) → String.utf8Len cs = cs.length := by
    intro cs hcs
    induction cs with
    | nil => rfl
    | cons c _ ih =>
      rw [String.utf8Len_cons, hcs c mem_cons_self, ih fun c' hc => hcs c' (mem_cons_of_mem _ hc), length_cons]
  rw [← String.ofList_toList (s := s), String.utf8ByteSize_ofList, String.toList_ofList, hlen _ h]

theorem split_last {c : Char} {a b a' b' : List Char} (h : a ++ c :: b = a' ++ c :: b') (hb : c ∉ b) (hb' : c ∉ b') :
    a = a' ∧ b = b' := by
  induction a generalizing a' with
  | nil =>
    cases a' with
    | nil => exact ⟨rfl, (List.cons.inj h).2⟩
    | cons _ a' =>
      -- Then the separator would stand in `b`.
      have htail : b = a' ++ c :: b' := (List.cons.inj h).2
      exact absurd (htail ▸ mem_append_right _ mem_cons_self) hb
  | cons _ a ih =>
    cases a' with
    | nil =>
      have htail : a ++ c :: b = b' := (List.cons.inj h).2
      exact absurd (htail ▸ mem_append_right _ mem_cons_self) hb'
    | cons =>
      obtain ⟨hxy, htail⟩ := List.cons.inj h
      obtain ⟨ha, hb⟩ := ih htail
      exact ⟨by rw [hxy, ha], hb⟩

theorem last_field {a b a' b' : String} (h : a ++ ":" ++ b = a' ++ ":" ++ b') (hb : ':' ∉ b.toList)
    (hb' : ':' ∉ b'.toList) : a = a' ∧ b = b' := by
  have hl := congrArg String.toList h
  simp only [String.toList_append, append_assoc] at hl
  obtain ⟨ha, hb⟩ := split_last (c := ':') hl hb hb'
  exact ⟨String.toList_inj.mp ha, String.toList_inj.mp hb⟩

theorem toList_toString (n : Nat) : (toString n).toList = Nat.toDigits 10 n := by simp [toString]

theorem toString_inj {m n : Nat} (h : toString m = toString n) : m = n := by
  have hl := congrArg String.toList h
  have hv := congrArg (Nat.ofDigitChars 10 · 0) hl
  simpa using hv

theorem colon_toString (n : Nat) : ':' ∉ (toString n).toList := by
  rw [toList_toString]
  intro h
  have hd := Nat.isDigit_of_mem_toDigits (by decide) (by decide) h
  cases hd

theorem colon_toString_int (n : Int) : ':' ∉ (toString n).toList := by
  cases n with
  | ofNat m => exact colon_toString m
  | negSucc m =>
    have he : (toString (Int.negSucc m)).toList = '-' :: (toString (m + 1)).toList := by
      simp [toString, Int.repr]
    rw [he]
    intro h
    rcases mem_cons.mp h with h | h
    · cases h
    · exact colon_toString _ h

end Paperboat.Lib.Fields

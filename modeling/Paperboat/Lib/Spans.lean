import Mathlib.Order.Basic
import Mathlib.Data.List.Basic
/-!
# Half-open spans

`[start, stop)` over an order. Spans laid end to end from a point are
`Contiguous`; one more may be laid at their end, and the first one may be taken
away once the point moves to where it stops.
-/

namespace Paperboat.Lib

structure Span (α : Type*) where
  (start stop : α)
  deriving DecidableEq

namespace Span

section Definitions
variable {α : Type*} [LE α] [LT α]

def Covers (s : Span α) (t : α) : Prop := s.start ≤ t ∧ t < s.stop

instance [DecidableLE α] [DecidableLT α] (s : Span α) (t : α) : Decidable (s.Covers t) := inferInstanceAs (Decidable (_ ∧ _))

/-- Each span is not empty, the first starts at `t` and each other one where the one before it stops. -/
def Contiguous : α → List (Span α) → Prop
  | _, [] => True
  | t, s :: l => s.start = t ∧ s.start < s.stop ∧ Contiguous s.stop l

/-- Where spans laid end to end from `t` stop. -/
def endOf : α → List (Span α) → α
  | t, [] => t
  | _, s :: l => endOf s.stop l

end Definitions

variable {α : Type*} [Preorder α]

theorem not_covers_of_stop_le {s s' : Span α} (h : s.stop ≤ s'.start) (t : α) : ¬(s.Covers t ∧ s'.Covers t) := by
  rintro ⟨⟨_, hs⟩, hs', _⟩
  exact absurd (hs.trans_le (h.trans hs')) (lt_irrefl t)

omit [Preorder α] in
theorem endOf_eq (t : α) (l : List (Span α)) : endOf t l = t ∧ l = [] ∨ ∃ s ∈ l, endOf t l = s.stop := by
  induction l generalizing t with
  | nil => exact .inl ⟨rfl, rfl⟩
  | cons s _ ih =>
    right
    rcases ih s.stop with ⟨he, _⟩ | ⟨s', hs', he⟩
    · exact ⟨s, List.mem_cons_self, he⟩
    · exact ⟨s', List.mem_cons_of_mem _ hs', he⟩

theorem Contiguous.le_endOf {t : α} {l : List (Span α)} (h : Contiguous t l) : t ≤ endOf t l := by
  induction l generalizing t with
  | nil => exact le_refl t
  | cons _ _ ih =>
    obtain ⟨rfl, hlt, hl⟩ := h
    exact hlt.le.trans (ih hl)

theorem Contiguous.stop_le_endOf {t : α} {l : List (Span α)} (h : Contiguous t l) {s : Span α} (hs : s ∈ l) :
    s.stop ≤ endOf t l := by
  induction l generalizing t with
  | nil => cases hs
  | cons _ _ ih =>
    obtain ⟨_, _, hl⟩ := h
    rcases List.mem_cons.1 hs with rfl | hs
    · exact hl.le_endOf
    · exact ih hl hs

theorem Contiguous.lt_stop {t : α} {l : List (Span α)} (h : Contiguous t l) {s : Span α} (hs : s ∈ l) : t < s.stop := by
  induction l generalizing t with
  | nil => cases hs
  | cons _ _ ih =>
    obtain ⟨rfl, hlt, hl⟩ := h
    rcases List.mem_cons.1 hs with rfl | hs
    · exact hlt
    · exact hlt.trans (ih hl hs)

theorem Contiguous.append {t : α} {l : List (Span α)} (h : Contiguous t l) {s : Span α} (hs : s.start = endOf t l)
    (hlt : s.start < s.stop) : Contiguous t (l ++ [s]) := by
  induction l generalizing t with
  | nil => exact ⟨hs, hlt, trivial⟩
  | cons _ _ ih =>
    obtain ⟨ht, hlt', hl⟩ := h
    exact ⟨ht, hlt', ih hl hs⟩

end Span

end Paperboat.Lib

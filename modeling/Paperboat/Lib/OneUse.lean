import Mathlib.Data.Set.Insert
import Mathlib.Data.List.Nodup
/-!
# Tokens that are used once

A token is accepted while it is fresh and no row of a ledger has its key, and
accepting it writes a row. Rows that have become deletable are collected, some
or all of them, before a token is accepted.

`Run` is every history of such a ledger, at times that do not decrease, in which
each accepted token left a row that protects it: one that is not deletable as
long as the token is fresh. In such a history no token is accepted twice.
-/

namespace Paperboat.Lib

/-- Tokens `P` with keys `K`, ledger rows `R` and times `T`. -/
structure OneUse (P K R T : Type*) [Preorder T] where
  key : P → K
  rowKey : R → K
  fresh : P → T → Prop
  deletable : R → T → Prop
  deletable_mono : ∀ {r t t'}, t ≤ t' → deletable r t → deletable r t'

namespace OneUse

variable {P K R T : Type*} [Preorder T] (m : OneUse P K R T)

/-- From `now` on, the row is not deletable while the token is fresh. -/
def Protects (r : R) (p : P) (now : T) : Prop := ∀ t, now ≤ t → m.fresh p t → ¬ m.deletable r t

def Collected (rows kept : Set R) (now : T) : Prop := ∀ r ∈ rows, ¬ m.deletable r now → r ∈ kept

/-- The histories of a ledger: its rows, the time of the last call and the
tokens accepted so far. -/
inductive Run : Set R → T → List P → Prop
  | start (rows : Set R) (now : T) : Run rows now []
  | refuse {rows : Set R} {now now' : T} {ps : List P} : Run rows now ps → now ≤ now' → Run rows now' ps
  | accept {rows kept : Set R} {now now' : T} {ps : List P} {p : P} {r : R} : Run rows now ps → now ≤ now' →
      m.fresh p now' → m.Collected rows kept now' → (∀ old ∈ kept, m.rowKey old ≠ m.key p) → m.rowKey r = m.key p →
      m.Protects r p now' → Run (insert r kept) now' (ps ++ [p])

variable {m} {rows kept : Set R} {now now' : T} {ps : List P} {p : P} {r : R}

/-- Whenever the token is fresh again, a row that is not deletable has its key. -/
def Guarded (m : OneUse P K R T) (rows : Set R) (p : P) (now : T) : Prop :=
  ∀ t, now ≤ t → m.fresh p t → ∃ r ∈ rows, m.rowKey r = m.key p ∧ ¬ m.deletable r t

theorem Guarded.later (h : m.Guarded rows p now) (hle : now ≤ now') : m.Guarded rows p now' :=
  fun t ht => h t (le_trans hle ht)

theorem Guarded.collected (h : m.Guarded rows p now) (hc : m.Collected rows kept now) : m.Guarded kept p now := by
  intro t ht hf
  obtain ⟨r, hr, hk, hd⟩ := h t ht hf
  exact ⟨r, hc r hr fun hn => hd (m.deletable_mono ht hn), hk, hd⟩

theorem Guarded.mono {rows' : Set R} (h : m.Guarded rows p now) (hs : rows ⊆ rows') : m.Guarded rows' p now := by
  intro t ht hf
  obtain ⟨r, hr, hrest⟩ := h t ht hf
  exact ⟨r, hs hr, hrest⟩

theorem Protects.guarded (h : m.Protects r p now) (hk : m.rowKey r = m.key p) (hr : r ∈ rows) : m.Guarded rows p now :=
  fun t ht hf => ⟨r, hr, hk, h t ht hf⟩

theorem Run.guarded (h : m.Run rows now ps) : ∀ p ∈ ps, m.Guarded rows p now := by
  induction h with
  | start => simp
  | refuse _ hle ih => exact fun p hp => (ih p hp).later hle
  | @accept _ kept _ _ _ _ r _ hle _ hc _ hk hpr ih =>
    intro q hq
    rcases List.mem_append.1 hq with hq | hq
    · exact (((ih q hq).later hle).collected hc).mono (Set.subset_insert r kept)
    · obtain rfl := List.mem_singleton.1 hq
      exact hpr.guarded hk (Set.mem_insert r kept)

theorem Run.nodup (h : m.Run rows now ps) : ps.Nodup := by
  induction h with
  | start => exact List.nodup_nil
  | refuse _ _ ih => exact ih
  | @accept _ kept _ now' _ p _ hrun hle hf hc hu _ _ ih =>
    rw [List.nodup_append]
    refine ⟨ih, List.nodup_singleton p, fun q hq q' hq' he => ?_⟩
    -- a token accepted before has a row, which the collection has kept
    obtain rfl : q' = p := by simpa using hq'
    subst he
    obtain ⟨old, hold, hk, -⟩ := (((hrun.guarded q hq).later hle).collected hc) now' le_rfl hf
    exact hu old hold hk

end OneUse

end Paperboat.Lib

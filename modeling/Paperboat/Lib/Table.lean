import Mathlib.Algebra.BigOperators.Group.List.Basic
import Mathlib.Algebra.Ring.Int.Defs
import Mathlib.Data.List.Forall2
import Mathlib.Data.List.Nodup
/-!
# Tables with a primary key

The rows of a database table, no two of which have the same key. An update
rewrites the rows a condition selects and leaves their keys alone, so the row of
a key afterwards is the rewritten row of that key before.
-/

namespace Paperboat.Lib

open List

theorem find?_key {R K : Type*} [DecidableEq K] {key : R → K} {rows : List R} (hn : (rows.map key).Nodup) {k : K} {r : R} :
    rows.find? (fun r => key r == k) = some r ↔ r ∈ rows ∧ key r = k := by
  constructor
  · intro h
    exact ⟨mem_of_find?_eq_some h, by simpa using List.find?_some h⟩
  · rintro ⟨hr, hk⟩
    obtain ⟨r', hr'⟩ : ∃ r', rows.find? (fun r => key r == k) = some r' := by
      rw [← Option.isSome_iff_exists, List.find?_isSome]
      exact ⟨r, hr, by simpa using hk⟩
    have hk' : key r' = k := by simpa using List.find?_some hr'
    rw [hr', inj_on_of_nodup_map hn (mem_of_find?_eq_some hr') hr (hk'.trans hk.symm)]

theorem forall₂_comp {A B C : Type*} {P : A → B → Prop} {Q : B → C → Prop} {as : List A} {bs : List B} {cs : List C}
    (h : List.Forall₂ P as bs) (h' : List.Forall₂ Q bs cs) : List.Forall₂ (fun a c => ∃ b, P a b ∧ Q b c) as cs := by
  induction h generalizing cs with
  | nil =>
    cases h'
    exact .nil
  | cons hp _ ih =>
    cases h' with
    | cons hq htail => exact .cons ⟨_, hp, hq⟩ (ih htail)

theorem forall₂_mem_right {A B : Type*} {P : A → B → Prop} {as : List A} {bs : List B} (h : List.Forall₂ P as bs) {b : B}
    (hb : b ∈ bs) : ∃ a ∈ as, P a b := by
  induction h with
  | nil => cases hb
  | cons hp _ ih =>
    rcases mem_cons.1 hb with rfl | hb
    · exact ⟨_, mem_cons_self, hp⟩
    · obtain ⟨a, ha, hab⟩ := ih hb
      exact ⟨a, mem_cons_of_mem _ ha, hab⟩

structure Table {R K : Type*} (key : R → K) where
  rows : List R
  keys : (rows.map key).Nodup

namespace Table

variable {R K : Type*} {key : R → K} {t t' : Table key} {r o : R}

def empty : Table key := ⟨[], nodup_nil⟩

theorem eq_of_key (ho : o ∈ t.rows) (hr : r ∈ t.rows) (h : key o = key r) : o = r :=
  inj_on_of_nodup_map t.keys ho hr h

/-- `UPDATE ... WHERE selected`. -/
def update (t : Table key) (selected : R → Bool) (change : R → R) (keeps : ∀ r, key (change r) = key r) : Table key where
  rows := t.rows.map fun r => if selected r then change r else r
  keys := by
    have hk : (key ∘ fun r => if selected r then change r else r) = key := by
      funext r
      simp only [Function.comp_apply]
      split
      · exact keeps r
      · rfl
    rw [map_map, hk]
    exact t.keys

variable {selected : R → Bool} {change : R → R} {keeps : ∀ r, key (change r) = key r}

theorem mem_update {r' : R} : r' ∈ (t.update selected change keeps).rows ↔
      (∃ r ∈ t.rows, selected r ∧ r' = change r) ∨ (r' ∈ t.rows ∧ selected r' = false) := by
  simp only [update, mem_map]
  constructor
  · rintro ⟨r, hr, rfl⟩
    by_cases hs : selected r
    · exact .inl ⟨r, hr, hs, by rw [if_pos hs]⟩
    · rw [if_neg hs]
      exact .inr ⟨hr, by simpa using hs⟩
  · rintro (⟨r, hr, hs, rfl⟩ | ⟨hr, hs⟩)
    · exact ⟨r, hr, by rw [if_pos hs]⟩
    · exact ⟨r', hr, by simp [hs]⟩

theorem mem_update_of_selected (keeps : ∀ r, key (change r) = key r) (hr : r ∈ t.rows) (hs : selected r = true) :
    change r ∈ (t.update selected change keeps).rows :=
  mem_update.2 (.inl ⟨r, hr, hs, rfl⟩)

theorem rows_update : (t.update selected change keeps).rows = t.rows.map fun r => if selected r then change r else r := rfl

theorem update_of_unchanged (keeps : ∀ r, key (change r) = key r)
    (h : ∀ r ∈ t.rows, selected r → change r = r) : t.update selected change keeps = t := by
  obtain ⟨rows, hn⟩ := t
  simp only [update, mk.injEq]
  refine (map_congr_left fun r hr => ?_).trans (map_id' rows)
  split
  · exact h r hr ‹_›
  · rfl

theorem update_of_unselected (keeps : ∀ r, key (change r) = key r)
    (h : ∀ r ∈ t.rows, selected r = false) : t.update selected change keeps = t :=
  update_of_unchanged keeps fun r hr hs => absurd hs (by simp [h r hr])

theorem update_update {change' : R → R} {keeps' : ∀ r, key (change' r) = key r}
    (hs : ∀ r, selected (change r) = selected r) : (t.update selected change keeps).update selected change' keeps' =
      t.update selected (fun r => change' (change r)) fun r => (keeps' _).trans (keeps r) := by
  simp only [update, map_map, mk.injEq]
  refine map_congr_left fun r _ => ?_
  by_cases h : selected r
  · simp [h, hs]
  · simp [h]

theorem forall₂_update (keeps : ∀ r, key (change r) = key r) {P : R → R → Prop}
    (h : ∀ r ∈ t.rows, P r (if selected r then change r else r)) :
    List.Forall₂ P t.rows (t.update selected change keeps).rows := by
  rwa [rows_update, forall₂_map_right_iff, forall₂_same]

section Views
variable (keeps) {kept : R → Bool}

theorem filter_map_update {V : Type*} {view : R → V}
    (h : ∀ r ∈ t.rows, selected r → kept (change r) = kept r ∧ view (change r) = view r) :
    ((t.update selected change keeps).rows.filter kept).map view = (t.rows.filter kept).map view := by
  have hk : ∀ r ∈ t.rows, kept (if selected r then change r else r) = kept r := by
    intro r hr
    split
    · exact (h r hr ‹_›).1
    · rfl
  rw [rows_update, filter_map, map_map]
  rw [filter_congr fun r hr => show (kept ∘ fun r => if selected r then change r else r) r = kept r from hk r hr]
  refine map_congr_left fun r hr => ?_
  simp only [Function.comp_apply]
  split
  · exact (h r (mem_of_mem_filter hr) ‹_›).2
  · rfl

theorem map_update {V : Type*} {view : R → V} (h : ∀ r, view (change r) = view r) :
    (t.update selected change keeps).rows.map view = t.rows.map view := by
  rw [rows_update, map_map]
  refine map_congr_left fun r _ => ?_
  simp only [Function.comp_apply]
  split
  · exact h r
  · rfl

theorem filter_update_dropped (h : ∀ r ∈ t.rows, selected r → kept (change r) = false) :
    (t.update selected change keeps).rows.filter kept = (t.rows.filter kept).filter fun r => !selected r := by
  rw [rows_update]
  generalize t.rows = rows at h
  induction rows with
  | nil => rfl
  | cons r _ ih =>
    have hrest := ih fun r' hr' => h r' (mem_cons_of_mem _ hr')
    by_cases hs : selected r
    · have hk := h r mem_cons_self hs
      by_cases hkr : kept r = true <;> simp [hs, hk, hkr, hrest]
    · by_cases hkr : kept r = true <;> simp [hs, hkr, hrest]

end Views

section Find
variable [DecidableEq K] {k : K}

def find (t : Table key) (k : K) : Option R := t.rows.find? fun r => key r == k

theorem find_eq_some : t.find k = some r ↔ r ∈ t.rows ∧ key r = k := find?_key t.keys

theorem eq_of_find (h : t.find k = some r) (ho : o ∈ t.rows) (hk : key o = k) : o = r :=
  eq_of_key ho (find_eq_some.1 h).1 (hk.trans (find_eq_some.1 h).2.symm)

theorem find_update (selected : R → Bool) (change : R → R) (keeps : ∀ r, key (change r) = key r) (k : K) :
    (t.update selected change keeps).find k = (t.find k).map fun r => if selected r then change r else r := by
  have hk (r : R) : key (if selected r then change r else r) = key r := by
    split
    · exact keeps r
    · rfl
  simp only [find, update, List.find?_map, Function.comp_def, hk]

theorem exists_find_update {Q : R → Prop} (keeps : ∀ r, key (change r) = key r)
    (hQ : ∀ r ∈ t.rows, selected r → Q r → Q (change r)) (h : ∃ r, t.find k = some r ∧ Q r) :
    ∃ r, (t.update selected change keeps).find k = some r ∧ Q r := by
  obtain ⟨r, hr, hq⟩ := h
  rw [find_update, hr, Option.map_some]
  refine ⟨_, rfl, ?_⟩
  split
  · exact hQ r (find_eq_some.1 hr).1 ‹_› hq
  · exact hq

theorem find_update_key (h : t.find k = some r) (hs : ∀ o, selected o ↔ key o = k) (k' : K) :
    (t.update selected change keeps).find k' = if k' = k then some (change r) else t.find k' := by
  rw [find_update]
  split_ifs with hk
  · subst hk
    rw [h, Option.map_some, if_pos ((hs r).2 (find_eq_some.1 h).2)]
  cases hf : t.find k' with
  | none => rfl
  | some o => rw [Option.map_some, if_neg fun ho => hk ((find_eq_some.1 hf).2.symm.trans ((hs o).1 ho))]

theorem mem_update_key (h : t.find k = some r) (hs : ∀ o, selected o ↔ key o = k) :
    o ∈ (t.update selected change keeps).rows ↔ o = change r ∨ o ∈ t.rows ∧ key o ≠ k := by
  rw [mem_update]
  constructor
  · rintro (⟨r', hr', hk, rfl⟩ | ⟨ho, hk⟩)
    · left
      rw [eq_of_find h hr' ((hs r').1 hk)]
    · refine .inr ⟨ho, fun heq => ?_⟩
      rw [(hs o).2 heq] at hk
      cases hk
  · rintro (rfl | ⟨ho, hk⟩)
    · exact .inl ⟨r, (find_eq_some.1 h).1, (hs r).2 (find_eq_some.1 h).2, rfl⟩
    · exact .inr ⟨ho, Bool.eq_false_iff.2 fun heq => hk ((hs o).1 heq)⟩

theorem update_of_find_none (h : t.find k = none) (change : R → R) (keeps : ∀ r, key (change r) = key r) :
    t.update (key · == k) change keeps = t :=
  update_of_unselected keeps fun r hr => by simpa using List.find?_eq_none.1 h r hr

omit [DecidableEq K] in
theorem keys_append (h : key r ∉ t.rows.map key) : ((t.rows ++ [r]).map key).Nodup := by
  rw [map_append, map_singleton, ← concat_eq_append]
  exact (nodup_concat _ _).2 ⟨h, t.keys⟩

/-- `INSERT`, which fails when the key is taken. -/
def insert (t : Table key) (r : R) : Option (Table key) :=
  if h : key r ∈ t.rows.map key then none
  else some { rows := t.rows ++ [r], keys := keys_append h }

theorem insert_eq_some : t.insert r = some t' ↔ (∀ r' ∈ t.rows, key r' ≠ key r) ∧ t'.rows = t.rows ++ [r] := by
  unfold insert
  by_cases h : key r ∈ t.rows.map key
  · simp only [dif_pos h, reduceCtorEq, false_iff, not_and]
    obtain ⟨r', hr', he⟩ := mem_map.1 h
    exact fun hn => absurd he (hn r' hr')
  · simp only [dif_neg h, Option.some.injEq]
    have hn : ∀ r' ∈ t.rows, key r' ≠ key r := fun r' hr' he => h (mem_map.2 ⟨r', hr', he⟩)
    constructor
    · rintro rfl
      exact ⟨hn, rfl⟩
    · rintro ⟨_, he⟩
      cases t'
      simp_all

theorem find_insert (h : t.insert r = some t') (k : K) : t'.find k = if k = key r then some r else t.find k := by
  obtain ⟨hfree, hrows⟩ := insert_eq_some.1 h
  simp only [find, hrows, List.find?_append]
  by_cases hk : k = key r
  · subst hk
    have hnone : t.rows.find? (fun r' => key r' == key r) = none := by
      rw [List.find?_eq_none]
      exact fun r' hr' he => hfree r' hr' (beq_iff_eq.1 he)
    simp [hnone]
  · simp [hk, Ne.symm hk]

theorem find_insert_of_find {new : R} (h : t.insert new = some t') (hr : t.find k = some r) : t'.find k = some r := by
  obtain ⟨hmem, rfl⟩ := find_eq_some.1 hr
  rw [find_insert h, if_neg ((insert_eq_some.1 h).1 r hmem), hr]

theorem insert_of_find_none (h : t.find (key r) = none) : ∃ t', t.insert r = some t' := by
  have hfree : key r ∉ t.rows.map key := fun hmem => by
    obtain ⟨r', hr', he⟩ := mem_map.1 hmem
    have hsome := find_eq_some.2 ⟨hr', he⟩
    rw [h] at hsome
    cases hsome
  exact ⟨_, dif_neg hfree⟩

theorem sum_update (h : t.find k = some r) (keeps : ∀ r, key (change r) = key r) (f : R → Int) :
    ((t.update (key · == k) change keeps).rows.map f).sum = (t.rows.map f).sum - f r + f (change r) := by
  obtain ⟨hr, rfl⟩ := find_eq_some.1 h
  obtain ⟨rows, hn⟩ := t
  rw [rows_update]
  clear h
  induction rows with
  | nil => cases hr
  | cons x rows ih =>
    obtain ⟨hx, hn⟩ := nodup_cons.1 hn
    simp only [map_cons, sum_cons]
    rcases mem_cons.1 hr with rfl | hr
    · -- No other row has this key.
      have hrest : rows.map (fun y => if (key y == key r) = true then change y else y) = rows := by
        refine (map_congr_left fun y hy => if_neg fun he => hx ?_).trans (map_id' rows)
        exact beq_iff_eq.1 he ▸ mem_map_of_mem hy
      rw [hrest]
      simp only [BEq.rfl, if_true]
      omega
    · have hne : key x ≠ key r := fun he => hx (he ▸ mem_map_of_mem hr)
      rw [ih hn hr]
      simp only [beq_iff_eq, hne, if_false]
      omega

end Find

end Table

end Paperboat.Lib

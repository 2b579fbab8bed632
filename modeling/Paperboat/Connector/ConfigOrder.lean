import Paperboat.Connector.ServerInvariants
/-!
# The order of configurations within a session

A session holds up to three configurations: the active one, a staged candidate
and a pending offer. `OfferSnapshot` compares a new offer with the active
generation only, so an offer between the active and the staged generation is
taken: once the candidate is promoted, acknowledging the older offer takes the
active generation back. `overtaken` names such an offer; without one the three
generations stay ordered (`OrderInv`) and the active one never decreases.
-/

namespace Paperboat.Connector

variable {w : World}

open Lib ServerSession World

variable {rules : PayloadRules} {s s' : ServerSession} {op : ServerOp} {reply : Reply}

/-- The operation offers a generation that the active snapshot allows and the
staged candidate has already overtaken. -/
def overtaken (s : ServerSession) : ServerOp → Bool
  | .offerSnapshot _ snapshot => s.hasCandidate && decide (snapshot.generation < s.candidate.generation) &&
      (!s.hasActive || decide (s.active.generation < snapshot.generation))
  | _ => false

def Newest (s : ServerSession) (generation : UInt64) : Prop :=
  (s.hasActive → s.active.generation < generation) ∧
    (s.hasCandidate → s.candidate.generation < generation)

structure OrderInv (s : ServerSession) : Prop where
  staged : s.hasCandidate → s.hasActive → s.active.generation < s.candidate.generation
  offered : ∀ p, s.pendingSnapshot = some p → Newest s p.generation
  delta : ∀ d, s.pendingDelta = some d → d.generation = d.previousGeneration + 1

def Onward (s s' : ServerSession) : Prop :=
  s.hasActive → s'.hasActive ∧ s.active.generation ≤ s'.active.generation

theorem Onward.rfl : Onward s s := fun h => ⟨h, UInt64.le_refl _⟩

theorem Onward.trans {a b c : ServerSession} (h : Onward a b) (h' : Onward b c) : Onward a c := by
  intro ha
  obtain ⟨hb, hab⟩ := h ha
  obtain ⟨hc, hbc⟩ := h' hb
  exact ⟨hc, UInt64.le_trans hab hbc⟩

theorem OrderInv.of_same (ho : OrderInv s) (ha : s'.active = s.active) (hha : s'.hasActive = s.hasActive)
    (hc : s'.candidate = s.candidate) (hhc : s'.hasCandidate = s.hasCandidate)
    (hp : ∀ p, s'.pendingSnapshot = some p → s.pendingSnapshot = some p)
    (hd : ∀ d, s'.pendingDelta = some d → s.pendingDelta = some d) : OrderInv s' ∧ Onward s s' := by
  refine ⟨⟨?_, ?_, fun d h => ho.delta d (hd d h)⟩, ?_⟩
  · rw [ha, hha, hc, hhc]
    exact ho.staged
  · intro p h
    rw [Newest, ha, hha, hc, hhc]
    exact ho.offered p (hp p h)
  · rw [Onward, ha, hha]
    exact Onward.rfl

theorem change_order (hi : SessionInv s) (ho : OrderInv s) (hn : overtaken s op = false)
    (h : Change rules s op reply s') : OrderInv s' ∧ Onward s s' := by
  cases h with
  | refuseSnapshot => rw [refuse_eq]; exact ho.of_same rfl rfl rfl rfl (by simp) fun _ h => h
  | refuseDelta => rw [refuse_eq]; exact ho.of_same rfl rfl rfl rfl (fun _ h => h) (by simp)
  | gapDelta => exact ho.of_same rfl rfl rfl rfl (fun _ h => h) (by simp)
  | stageSnapshot _ hp =>
    -- the offer was newest when it was made and still is
    exact ⟨⟨fun _ => (ho.offered _ hp).1, by simp [stage], ho.delta⟩, Onward.rfl⟩
  | @stageDelta _ _ pending valid hs hp _ hg =>
    refine ⟨⟨fun _ _ => ?_, fun p h => by simp [stage, hs] at h, by simp [stage]⟩, Onward.rfl⟩
    -- a delta that wraps around to generation zero can never be acknowledged
    have hne : pending.previousGeneration + 1 ≠ 0 := by
      rw [← ho.delta pending hp, ← hg]
      exact Ack.generation_ne_zero valid
    have hprev := (hi.delta pending hp).2.2.1
    show s.active.generation < pending.generation
    rw [ho.delta pending hp, ← hprev]
    grind
  | @readied _ _ _ _ _ =>
    by_cases hc : s.hasCandidate
    · simp only [promote, if_pos hc]
      refine ⟨⟨by simp, fun p h => ⟨fun _ => (ho.offered p h).2 hc, by simp⟩, ho.delta⟩, fun ha => ⟨rfl, ?_⟩⟩
      exact UInt64.le_of_lt (ho.staged hc ha)
    · simp only [promote, if_neg hc]
      exact ho.of_same rfl rfl rfl rfl (fun _ h => h) fun _ h => h
  | @offered _ snapshot _ _ _ notStale notStaged =>
    refine ⟨⟨ho.staged, fun p h => ?_, by simp [propose]⟩, Onward.rfl⟩
    obtain rfl : s.bind snapshot = p := by simpa [propose] using h
    refine ⟨notStale, fun (hc : s.hasCandidate = true) => ?_⟩
    have hle : ¬snapshot.generation < s.candidate.generation := by
      intro hlt
      by_cases ha : s.hasActive
      · simp [overtaken, hc, hlt, ha, notStale ha] at hn
      · simp [overtaken, hc, hlt, ha] at hn
    exact UInt64.lt_of_le_of_ne (UInt64.not_lt.1 hle) (Ne.symm (notStaged hc))
  | @deltaOffered _ delta valid _ _ _ =>
    refine ⟨⟨ho.staged, ho.offered, fun d h => ?_⟩, Onward.rfl⟩
    obtain rfl : s.bindDelta delta = d := by simpa using h
    unfold Delta.validate at valid
    split at valid
    · cases valid
    split at valid
    · cases valid
    rename_i hg
    simp only [Bool.or_eq_true, not_or, bne_iff_ne, ne_eq, not_not] at hg
    exact hg.2
  | withdrawn | beat | drainBegun | drainAcked | drainRefused | renewed => exact ho.of_same rfl rfl rfl rfl (fun _ h => h) fun _ h => h

theorem effect_order (hi : SessionInv s) (ho : OrderInv s) (hn : overtaken s op = false)
    (h : Effect rules s op reply s') : OrderInv s' ∧ Onward s s' := by
  cases h with
  | idle => exact ⟨ho, Onward.rfl⟩
  | closed => exact ho.of_same rfl rfl rfl rfl (fun _ h => h) fun _ h => h
  | changed _ change => exact change_order hi ho hn change

/-! ## Runs -/

abbrev InOrder (w : World) (op : ServerOp) : Prop := overtaken w.session op = false

def Ordered (w : World) : Prop := SessionInv w.session ∧ OrderInv w.session

theorem next_ordered {op : ServerOp} (hi : Ordered w) (hn : InOrder w op) :
    Ordered (w.next rules op) ∧ Onward w.session (w.next rules op).session := by
  have he := w.next_effect rules op
  obtain ⟨ho, hon⟩ := effect_order hi.1 hi.2 hn he
  exact ⟨⟨effect_inv hi.1 he, ho⟩, hon⟩

theorem Accepted.ordered (h : Accepted rules w) : Ordered w := by
  refine ⟨h.reachable.sessionInv, ?_⟩
  obtain ⟨server, registry, input, hello, welcome, snapshot, h, -⟩ := h
  obtain ⟨⟨auth, now, hw, -⟩, -⟩ := accept_ok h
  rw [hw]
  exact ⟨by simp [openSession], fun _ _ => ⟨by simp [openSession], by simp [openSession]⟩, by simp [openSession]⟩

/-- In a run that makes no overtaken offer the active generation never
decreases. -/
theorem active_generation_monotone {w : World} (h : Accepted rules w) (pre post : List ServerOp)
    (hin : EachStep (next rules) InOrder w (pre ++ post)) : (run (next rules) w pre).session.hasActive →
      (run (next rules) w (pre ++ post)).session.hasActive ∧
      (run (next rules) w pre).session.active.generation ≤
        (run (next rules) w (pre ++ post)).session.active.generation := by
  rw [eachStep_append] at hin
  rw [run_append]
  have hpre : Ordered (run (next rules) w pre) :=
    run_inv (I := Ordered) (fun _ _ hi hn => (next_ordered hi hn).1) h.ordered hin.1
  exact run_ascends (R := fun a b : World => Onward a.session b.session) (fun _ => Onward.rfl)
    (fun _ _ _ => Onward.trans) (fun _ _ hi hn => next_ordered hi hn) hpre hin.2

def Sample.overtaking : List ServerOp :=
  [ack .snapshot .applied 1, ready 1, offer 3, ack .snapshot .applied 3, offer 2, ready 3]

open Sample

theorem active_generation_rolls_back : Accepted Sample.rules (world (snapshot 1)) ∧
      (run (next Sample.rules) (world (snapshot 1)) overtaking).session.hasActive ∧
      (run (next Sample.rules) (world (snapshot 1)) overtaking).session.active.generation = 3 ∧
      (run (next Sample.rules) (world (snapshot 1))
        (overtaking ++ [ack .snapshot .applied 2, ready 2])).session.active.generation = 2 :=
  ⟨accepted, by decide +kernel⟩

theorem active_generation_monotone_upgrade : (1 : UInt64) ≤ (run (next Sample.rules) (world (snapshot 1))
      ([ack .snapshot .applied 1, ready 1] ++
        [offer 2, ack .snapshot .applied 2, ready 2])).session.active.generation :=
  (active_generation_monotone accepted [ack .snapshot .applied 1, ready 1]
    [offer 2, ack .snapshot .applied 2, ready 2] (by decide +kernel) (by decide +kernel)).2

end Paperboat.Connector

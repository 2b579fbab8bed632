import Paperboat.Connector.PreparedConfigs
/-!
# The connector keeps its last known good configuration

The apply and activation calls give up the session's lock while the applier
works, and every exit but one leaves the active snapshot alone: it changes only
when `MarkReadyContext` succeeds, and then to the candidate. A candidate is held
together with its prepared configuration and is newer than the active snapshot,
so a promotion always goes forward. A delta is the successor of the active
generation, which is greater as long as generations stay below 2^63.
-/

namespace Paperboat.Connector

open Lib ClientSession

def ClientOp.Bounded : ClientOp → Prop
  | .applySnapshot _ _ snapshot => snapshot.generation < 9223372036854775808
  | .applyDelta _ _ delta => delta.generation < 9223372036854775808
  | _ => True

def ClientSession.Newer (c : ClientSession) (generation : UInt64) : Prop :=
  c.active.generation < generation ∧ generation < 9223372036854775808

/-- Whatever the session may promote, now or after its present work, is newer
than the active snapshot. -/
structure KnownGood (c : ClientSession) : Prop where
  paired : c.hasCandidate = c.prepared.isSome
  inactive : c.hasActive = false → c.active.generation = 0
  fits : c.active.generation < 9223372036854775808
  candidate : c.hasCandidate → c.Newer c.candidate.generation
  snapshot : ∀ snapshot, c.busy = some (.snapshot snapshot) → c.Newer snapshot.generation
  delta : ∀ delta, c.busy = some (.delta delta) → c.Newer delta.generation

variable {rules : PayloadRules} {c c' : ClientSession} {k k' : Client}

theorem KnownGood.of_same (h : KnownGood c) (same : Same c c') : KnownGood c' := by
  have newer : ∀ {generation}, c.Newer generation → c'.Newer generation := by
    intro generation hg
    rwa [Newer, same.active]
  refine ⟨?_, fun ha => ?_, ?_, fun hc => ?_, fun snapshot hw => ?_, fun delta hw => ?_⟩
  · rw [same.hasCandidate, same.prepared, h.paired]
  · rw [same.active]
    exact h.inactive (same.hasActive ▸ ha)
  · rw [same.active]
    exact h.fits
  · rw [same.candidate]
    exact newer (h.candidate (same.hasCandidate ▸ hc))
  · exact newer (h.snapshot snapshot (same.busy ▸ hw))
  · exact newer (h.delta delta (same.busy ▸ hw))

theorem KnownGood.free (h : KnownGood c) : KnownGood c.free :=
  ⟨h.paired, h.inactive, h.fits, h.candidate, by simp [ClientSession.free], by simp [ClientSession.free]⟩

theorem KnownGood.newest (h : KnownGood c) {snapshot : Snapshot} (hz : snapshot.generation ≠ 0)
    (hn : ∀ current, c.newest = some current → current.generation < snapshot.generation) :
    c.active.generation < snapshot.generation := by
  by_cases hc : c.hasCandidate
  · have h1 := (h.candidate hc).1
    have h2 := hn c.candidate (by simp [ClientSession.newest, hc])
    exact UInt64.lt_trans h1 h2
  · by_cases ha : c.hasActive
    · exact hn c.active (by simp [ClientSession.newest, hc, ha])
    · rw [h.inactive (by simpa using ha)]
      exact UInt64.pos_iff_ne_zero.2 hz

theorem KnownGood.dropCandidate (h : KnownGood c) : KnownGood c.free.dropCandidate :=
  ⟨rfl, h.inactive, h.fits, by simp [ClientSession.dropCandidate, restoreState],
    by simp [ClientSession.dropCandidate, restoreState, ClientSession.free],
    by simp [ClientSession.dropCandidate, restoreState, ClientSession.free]⟩

theorem KnownGood.move {op : ClientOp} {events : List (Custody.Event Nat)} {success : Bool}
    (h : KnownGood k.session) (hm : Client.Move rules k op events success k') (hop : op.Bounded) :
    KnownGood k'.session := by
  cases hm with
  | kept kept => exact h.of_same kept.toSame
  | revived _ same => exact h.of_same same
  | snapshotBegun _ _ valid newer =>
    refine ⟨h.paired, h.inactive, h.fits, h.candidate, fun snapshot hw => ?_, by simp⟩
    cases hw
    exact ⟨h.newest (Snapshot.generation_ne_zero valid) newer, hop⟩
  | deltaBegun _ _ active next =>
    refine ⟨h.paired, h.inactive, h.fits, h.candidate, by simp, fun delta hw => ?_⟩
    cases hw
    refine ⟨?_, hop⟩
    have hf := h.fits
    rw [next]
    show k.session.active.generation < k.session.active.generation + 1
    grind
  | activationBegun =>
    exact ⟨h.paired, h.inactive, h.fits, h.candidate, by simp, by simp⟩
  | discarded kept | activatedLate _ _ _ _ kept => exact h.free.of_same kept.toSame
  | staged _ candidate _ _ work =>
    have hg : k.session.Newer candidate.generation := by
      rcases work with ⟨snapshot, hw, hg⟩ | ⟨delta, hw, hg⟩
      · rw [hg]
        exact h.snapshot snapshot hw
      · rw [hg]
        exact h.delta delta hw
    exact ⟨rfl, h.inactive, h.fits, fun _ => hg, by simp [stage, ClientSession.free], by simp [stage, ClientSession.free]⟩
  | notActivated =>
    split
    · exact h.dropCandidate
    · exact h.free
  | promoted candidate _ _ _ staged =>
    simp only [stillStaged, Bool.and_eq_true] at staged
    have hg := h.candidate staged.1.1
    exact ⟨rfl, by simp [promote], hg.2, by simp [promote], by simp [promote, ClientSession.free],
      by simp [promote, ClientSession.free]⟩
  | closed free =>
    exact ⟨rfl, h.inactive, h.fits, by simp, by simp [closeWith, free], by simp [closeWith, free]⟩

/-- The active snapshot changes only in a success of `MarkReadyContext`, and then
to the candidate. -/
theorem Client.Move.active {op : ClientOp} {events : List (Custody.Event Nat)} {success : Bool}
    (hm : Client.Move rules k op events success k') :
    (success = false → k'.session.active = k.session.active ∧ k'.session.hasActive = k.session.hasActive) ∧
      (success → k'.session.active = k.session.candidate ∧ k.session.hasCandidate) := by
  cases hm with
  | kept kept | discarded kept => exact ⟨fun _ => ⟨kept.active, kept.hasActive⟩, by simp⟩
  | revived _ same => exact ⟨fun _ => ⟨same.active, same.hasActive⟩, by simp⟩
  | snapshotBegun | deltaBegun | activationBegun | staged | closed => exact ⟨fun _ => ⟨rfl, rfl⟩, by simp⟩
  | notActivated =>
    split <;> exact ⟨fun _ => ⟨rfl, rfl⟩, by simp⟩
  | promoted _ _ _ _ staged =>
    simp only [stillStaged, Bool.and_eq_true] at staged
    exact ⟨by simp, fun _ => ⟨rfl, staged.1.1⟩⟩
  | activatedLate _ _ _ _ kept =>
    exact ⟨fun _ => ⟨kept.active, kept.hasActive⟩, by simp⟩

/-- A candidate is held exactly with a prepared configuration and is newer than the active snapshot; every operation
but a success of `MarkReadyContext` leaves that as it was, and a success moves its generation forward. -/
theorem last_known_good (rules : PayloadRules) {hello : Hello} {now : Time} (h : newClientSession hello now = .ok c)
    (ops : List ClientOp)
    (hops : ∀ op ∈ ops, op.Bounded) :
    let k := run (Client.next rules) (.new c) ops
    (k.session.hasCandidate ↔ k.session.prepared.isSome) ∧
      (k.session.hasCandidate → k.session.active.generation < k.session.candidate.generation) ∧
      ∀ op, ((k.step rules op).2.promoted = false → (k.next rules op).session.active = k.session.active ∧
          (k.next rules op).session.hasActive = k.session.hasActive) ∧
        ((k.step rules op).2.promoted →
          k.session.active.generation < (k.next rules op).session.active.generation) := by
  have hg : KnownGood (run (Client.next rules) (.new c) ops).session := by
    refine run_inv (I := fun k : Client => KnownGood k.session) (P := fun _ op => op.Bounded)
      (fun k op hi hop => hi.move (Client.step_move rules k op) hop) ?_ (eachStep_of_forall hops _)
    change KnownGood c
    unfold newClientSession at h
    split at h
    · cases h
    · cases h
      exact ⟨rfl, fun _ => rfl, by simp [Snapshot.empty], by simp, by simp, by simp⟩
  refine ⟨by rw [hg.paired], fun hc => (hg.candidate hc).1, fun op => ?_⟩
  have hm := (Client.step_move rules (run (Client.next rules) (.new c) ops) op).active
  refine ⟨hm.1, fun hs => ?_⟩
  obtain ⟨ha, hc⟩ := hm.2 hs
  rw [ha]
  exact (hg.candidate hc).1

open Sample

theorem last_known_good_promotion :
    let k := run (Client.next Sample.rules) (.new client)
      (staging ++ [.markReady now none true true true])
    let op := ClientOp.activated now ⟨none, none, none⟩
    k.session.hasCandidate ∧ (k.step Sample.rules op).2.promoted ∧
      k.session.active.generation < (k.next Sample.rules op).session.active.generation := by
  have hops : ∀ op ∈ staging ++ [.markReady now none true true true], op.Bounded := by
    simp only [staging, List.cons_append, List.nil_append, List.mem_cons, List.not_mem_nil, or_false,
      forall_eq_or_imp, forall_eq, ClientOp.Bounded, true_and, and_true]
    decide +kernel
  have hg := last_known_good Sample.rules client_new _ hops
  have hr : (run (Client.next Sample.rules) (.new client)
      (staging ++ [.markReady now none true true true])).session.hasCandidate ∧
      ((run (Client.next Sample.rules) (.new client)
        (staging ++ [.markReady now none true true true])).step Sample.rules
          (.activated now ⟨none, none, none⟩)).2.promoted := by decide +kernel
  exact ⟨hr.1, hr.2, (hg.2.2 _).2 hr.2⟩

end Paperboat.Connector

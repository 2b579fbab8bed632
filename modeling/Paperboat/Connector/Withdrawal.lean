import Paperboat.Connector.Traffic
/-!
# Recovery from withdrawn readiness

A heartbeat that reports another configuration than the active one, or a
negative acknowledgement, withdraws a session's readiness: `needsSnapshot` is
set until "this process receives and promotes a matching full snapshot". The
recovery the source promises is the three events of `Recovered`.

`HandleReadiness` clears `needsSnapshot` for any snapshot it accepts, also for
the withdrawn active one, and it promotes candidates staged before the
withdrawal; a drain rejected while the new snapshot is only staged restores the
old active one. `recovered_of_eligible` shows that these are the only ways
around the promise.
-/

namespace Paperboat.Connector

open Lib ServerSession World

variable {rules : PayloadRules} {s s' : ServerSession} {w : World} {op : ServerOp} {reply : Reply}

abbrev Event := ServerOp × Reply

/-! ## Events -/

def Offered (es : List Event) (generation : UInt64) (contentHash : String) : Prop :=
  ∃ now snapshot, [(ServerOp.offerSnapshot now snapshot, Reply.done)].Sublist es ∧
    snapshot.generation = generation ∧ snapshot.contentHash = contentHash

def Acknowledged (es : List Event) (generation : UInt64) (contentHash : String) : Prop :=
  ∃ now snapshot now' ack,
    [(ServerOp.offerSnapshot now snapshot, Reply.done), (.handleAck now' ack, .done)].Sublist es ∧
      (snapshot.generation = generation ∧ snapshot.contentHash = contentHash) ∧
      (ack.kind = .snapshot ∧ ack.positive ∧ ack.generation = generation ∧ ack.contentHash = contentHash)

/-- It was offered, then acknowledged, then reported ready. -/
def Recovered (es : List Event) : Prop :=
  ∃ generation contentHash now snapshot now' ack now'' readiness reply,
    [(ServerOp.offerSnapshot now snapshot, Reply.done), (.handleAck now' ack, .done),
      (.handleReadiness now'' readiness, .ack reply)].Sublist es ∧
      (snapshot.generation = generation ∧ snapshot.contentHash = contentHash) ∧
      (ack.kind = .snapshot ∧ ack.positive ∧ ack.generation = generation ∧ ack.contentHash = contentHash) ∧
      (readiness.generation = generation ∧ readiness.contentHash = contentHash)

section Events
variable {es : List Event} {generation : UInt64} {contentHash : String}

theorem Offered.append (h : Offered es generation contentHash) (es' : List Event) :
    Offered (es ++ es') generation contentHash := by
  obtain ⟨now, snapshot, hs, h⟩ := h
  exact ⟨now, snapshot, hs.trans (List.sublist_append_left es es'), h⟩

theorem Acknowledged.append (h : Acknowledged es generation contentHash) (es' : List Event) :
    Acknowledged (es ++ es') generation contentHash := by
  obtain ⟨now, snapshot, now', ack, hs, h⟩ := h
  exact ⟨now, snapshot, now', ack, hs.trans (List.sublist_append_left es es'), h⟩

theorem Recovered.append (h : Recovered es) (es' : List Event) : Recovered (es ++ es') := by
  obtain ⟨g, c, now, snapshot, now', ack, now'', readiness, reply, hs, h⟩ := h
  exact ⟨g, c, now, snapshot, now', ack, now'', readiness, reply, hs.trans (List.sublist_append_left es es'), h⟩

theorem Offered.last {now : Time} (snapshot : Snapshot) :
    Offered (es ++ [(.offerSnapshot now snapshot, .done)]) snapshot.generation snapshot.contentHash :=
  ⟨now, snapshot, List.sublist_append_right es _, rfl, rfl⟩

theorem Offered.acknowledge (h : Offered es generation contentHash) {now : Time} {ack : Ack}
    (hk : ack.kind = .snapshot) (hp : ack.positive) (hg : ack.generation = generation)
    (hh : ack.contentHash = contentHash) : Acknowledged (es ++ [(.handleAck now ack, .done)]) generation contentHash := by
  obtain ⟨now0, snapshot, hs, h⟩ := h
  exact ⟨now0, snapshot, now, ack, hs.append (.refl _), h, hk, hp, hg, hh⟩

theorem Acknowledged.report (h : Acknowledged es generation contentHash) {now : Time} {readiness : Readiness} {a : Ack}
    (hg : readiness.generation = generation) (hh : readiness.contentHash = contentHash) :
    Recovered (es ++ [(.handleReadiness now readiness, .ack a)]) := by
  obtain ⟨now0, snapshot, now', ack, hs, h, h'⟩ := h
  exact ⟨generation, contentHash, now0, snapshot, now', ack, now, readiness, a, hs.append (.refl _), h, h', hg, hh⟩

end Events

/-! ## The way back -/

/-- The operation is not an accepted readiness report for the withdrawn active snapshot, and not a rejected drain
while a candidate is staged. -/
def World.keepsPromise (rules : PayloadRules) (w : World) (op : ServerOp) : Bool :=
  !(w.acceptsReadiness op && !w.session.hasCandidate && w.session.needsSnapshot) &&
    !(w.rejectsDrain rules op && w.session.hasCandidate)

structure Clear (s : ServerSession) : Prop where
  withdrawn : s.needsSnapshot
  candidate : s.hasCandidate = false
  snapshot : s.pendingSnapshot = none
  delta : s.pendingDelta = none

/-- Until it has recovered, a session is not ready, all it holds on offer or
staged is from the events since the withdrawal, and without a candidate it
still needs a snapshot. -/
structure Recovering (s : ServerSession) (es : List Event) : Prop where
  waiting : s.state ≠ .ready
  delta : s.pendingDelta = none
  offered : ∀ p, s.pendingSnapshot = some p → Offered es p.generation p.contentHash
  staged : s.hasCandidate → Acknowledged es s.candidate.generation s.candidate.contentHash
  needs : s.hasCandidate = false → s.needsSnapshot

theorem Clear.recovering (h : Clear s) (hi : SessionInv s) : Recovering s [] where
  waiting hr := by simpa [h.withdrawn] using (hi.ready hr).2.2
  delta := h.delta
  offered p hp := by simp [h.snapshot] at hp
  staged hc := by simp [h.candidate] at hc
  needs _ := h.withdrawn

theorem Recovering.of_same {es : List Event} (h : Recovering s es) (es' : List Event) (hw : s'.state ≠ .ready)
    (hd : s'.pendingDelta = s.pendingDelta) (hp : s'.pendingSnapshot = s.pendingSnapshot)
    (hc : s'.candidate = s.candidate) (hhc : s'.hasCandidate = s.hasCandidate)
    (hn : s.needsSnapshot → s'.needsSnapshot) : Recovering s' (es ++ es') where
  waiting := hw
  delta := by rw [hd, h.delta]
  offered p h' := (h.offered p (by rw [← hp, h'])).append es'
  staged h' := by
    rw [hc]
    exact (h.staged (by rw [← hhc, h'])).append es'
  needs h' := hn (h.needs (by rw [← hhc, h']))

theorem change_recovering {es : List Event} (h : Recovering s es) (hs : s = w.session)
    (hr : (w.step rules op).2 = reply) (hk : w.keepsPromise rules op) (hc : Change rules s op reply s') :
    Recovered (es ++ [(op, reply)]) ∨ Recovering s' (es ++ [(op, reply)]) := by
  simp only [keepsPromise, Bool.and_eq_true, Bool.not_eq_true', Bool.and_eq_false_iff] at hk
  cases hc with
  | refuseSnapshot =>
    rw [refuse_eq]
    exact .inr ⟨by simp, h.delta, by simp, fun hc => (h.staged hc).append _, fun _ => rfl⟩
  | stageSnapshot _ hp hkind hg hh hpos =>
    refine .inr ⟨fun hr => h.waiting (stage_ready hr).2, h.delta, by simp [stage], fun _ => ?_,
      by simp [stage]⟩
    exact (h.offered _ hp).acknowledge hkind hpos hg hh
  | refuseDelta _ hp | gapDelta hp | stageDelta _ _ hp => simp [h.delta] at hp
  | @readied now readiness target _ ht hg hh =>
    have ha : w.acceptsReadiness (.handleReadiness now readiness) := accepts_of_ack hr
    by_cases hcand : s.hasCandidate
    · obtain rfl : s.candidate = target := by simpa [readyTarget, hcand] using ht
      exact .inl ((h.staged hcand).report hg hh)
    -- the active snapshot is not reported while it is withdrawn
    have hn := h.needs (by simpa using hcand)
    simp [ha, ← hs, hn, hcand] at hk
  | @offered _ snapshot =>
    refine .inr ⟨fun hr => ?_, rfl, fun p hp => ?_, fun hc => (h.staged hc).append _, h.needs⟩
    · simp only [propose] at hr
      split at hr
      · exact h.waiting hr
      · cases hr
    · obtain rfl : s.bind snapshot = p := by simpa [propose] using hp
      exact Offered.last snapshot
  | deltaOffered _ _ hfr _ _ hcand => simp [h.needs hcand] at hfr
  | withdrawn => exact .inr (h.of_same _ (by simp) rfl rfl rfl rfl fun _ => rfl)
  | beat | drainAcked | renewed => exact .inr (h.of_same _ h.waiting rfl rfl rfl rfl id)
  | drainBegun => exact .inr (h.of_same _ (by simp) rfl rfl rfl rfl id)
  | @drainRefused now ack _ _ _ _ rejected =>
    have hrej : w.rejectsDrain rules (.handleDrainAck none now ack) := rejects_of_failed rejected hr
    have hcand : s.hasCandidate = false := by simpa [hrej, ← hs] using hk.2
    refine .inr (h.of_same _ (fun hrd => ?_) rfl rfl rfl rfl id)
    simp [restoreState, noteDrain, h.needs hcand] at hrd

theorem step_recovering {es : List Event} (h : Recovering w.session es) (hk : w.keepsPromise rules op) :
    Recovered (es ++ [(op, (w.step rules op).2)]) ∨
      Recovering (w.step rules op).1.session (es ++ [(op, (w.step rules op).2)]) := by
  have he := w.step_effect rules op
  generalize hs' : (w.step rules op).1.session = s' at he ⊢
  cases he with
  | idle => exact .inr (h.of_same _ h.waiting rfl rfl rfl rfl id)
  | closed => exact .inr (h.of_same _ (by simp [closeWith]) rfl rfl rfl rfl id)
  | changed _ change => exact change_recovering h rfl rfl hk change

/-- After readiness is withdrawn with nothing staged or on offer, a run that
keeps the promise makes the session eligible only by a full recovery. -/
theorem recovered_of_eligible (h : Reachable rules w) (hc : Clear w.session) (ops : List ServerOp)
    (hk : EachStep (next rules) (fun v op => v.keepsPromise rules op) w ops)
    (he : (run (next rules) w ops).session.eligible) : Recovered (trace (step rules) w ops) := by
  have hinv : Recovered ([] ++ trace (step rules) w ops) ∨
      Recovering (run (next rules) w ops).session ([] ++ trace (step rules) w ops) := by
    refine trace_inv (I := fun v es => Recovered es ∨ Recovering v.session es) ?_
      (.inr (hc.recovering h.sessionInv)) hk
    rintro v es op (hrec | hrec) hk
    · exact .inl (hrec.append _)
    · exact step_recovering hrec hk
  rcases hinv with hrec | hrec
  · exact hrec
  · exact absurd ((h.run ops).sessionInv.eligible_iff.1 he) hrec.waiting

def Sample.withdrawn : World :=
  live.next Sample.rules (.handleHeartbeat now ⟨"account_1", "session_1", "tunnel_1", "connector_1", 1, 2,
    (snapshot 2).contentHash, now⟩)

open Sample

theorem withdrawn_active_ready_again : (Reachable Sample.rules withdrawn ∧ live.session.needsSnapshot = false ∧
      withdrawn.session.needsSnapshot) ∧
      (withdrawn.next Sample.rules (ready 1)).session.eligible ∧
      ¬Recovered (trace (step Sample.rules) withdrawn [ready 1]) := by
  refine ⟨⟨live_reachable.next _, by decide +kernel⟩, by decide +kernel, ?_⟩
  -- a single event is not three
  rintro ⟨_, _, _, _, _, _, _, _, _, hs, _⟩
  simpa [trace] using hs.length_le

theorem Sample.withdrawn_clear : Clear withdrawn.session := by
  have h : withdrawn.session.needsSnapshot ∧ withdrawn.session.hasCandidate = false ∧
      withdrawn.session.pendingSnapshot = none ∧ withdrawn.session.pendingDelta = none := by decide +kernel
  exact ⟨h.1, h.2.1, h.2.2.1, h.2.2.2⟩

theorem recovered_by_full_snapshot : Recovered (trace (step Sample.rules) withdrawn
      [offer 2, ack .snapshot .applied 2, ready 2]) :=
  recovered_of_eligible (live_reachable.next _) withdrawn_clear
    [offer 2, ack .snapshot .applied 2, ready 2] (by decide +kernel) (by decide +kernel)

end Paperboat.Connector

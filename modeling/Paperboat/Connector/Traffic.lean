import Paperboat.Connector.ServerInvariants
/-!
# When a session takes traffic

`Current` reports a session eligible for new traffic exactly while its state is
`ready`. A step that makes it eligible is an accepted readiness report or a
rejected drain (`becomes_ready`); no other operation enters that state.

A drain moves the session to `draining`, but `HandleReadiness` does not look at
the outstanding drain, and a repeated `BeginDrain` does not look at its outcome.
`draining_ineligible_iff` says exactly which runs keep a draining session out of
the traffic.
-/

namespace Paperboat.Connector

open Lib ServerSession World

variable {rules : PayloadRules} {s s' : ServerSession} {w : World} {op : ServerOp} {reply : Reply}

section Answers
variable {r : Readiness} {a : Ack} {now later deadline : Time} {α : Type} {body : ServerSession → ServerSession × Except Err α}

/-- `Current` reports the session as ready. -/
def ServerSession.eligible (s : ServerSession) : Bool := s.current.2.1

theorem SessionInv.eligible_iff (hi : SessionInv s) : s.eligible ↔ s.state = .ready := by
  unfold eligible current
  constructor
  · intro h
    split at h
    · cases h
    · simp only [Bool.and_eq_true, beq_iff_eq] at h
      exact h.1.1
  · intro h
    obtain ⟨ha, hg, hn⟩ := hi.ready h
    simp [ha, hg, hn, h]

/-! ## Calls that pass -/

theorem World.call_eq_of_active (ha : (w.ensureActive now).2 = none) :
    w.call none now body = ({ w with session := (body w.session).1 }, (body w.session).2) := by
  obtain ⟨w', err, -, h | h, -⟩ | ⟨-, -, -, h⟩ := w.call_cases none now body
  · cases h
  · cases ha.symm.trans h
  · exact h

theorem World.call_ok {refusal : Option Err} {a : α} (h : (w.call refusal now body).2 = .ok a) :
    refusal = none ∧ (w.ensureActive now).2 = none ∧ (body w.session).2 = .ok a := by
  obtain ⟨w', err, he, -⟩ | ⟨hr, ha, -, he⟩ := w.call_cases refusal now body
  · rw [he] at h
    cases h
  · rw [he] at h
    exact ⟨hr, ha, h⟩

/-! ## Readiness reports -/

def ServerSession.acceptsReadiness (s : ServerSession) (r : Readiness) : Bool :=
  s.matchesIdentity r.accountID r.tunnelID r.connectorID r.sessionID r.processGeneration && r.complete &&
    s.readyTarget.any fun target => r.generation == target.generation && r.contentHash == target.contentHash

def World.acceptsReadiness (w : World) : ServerOp → Bool
  | .handleReadiness now r =>
    r.validate.isNone && (w.ensureActive now.utc).2.isNone && w.session.acceptsReadiness r
  | _ => false

theorem ServerSession.handleReadiness_ok (h : (s.handleReadiness r).2 = .ok a) : s.acceptsReadiness r := by
  unfold handleReadiness at h
  split at h
  · cases h
  rename_i hm
  split at h
  · cases h
  rename_i target ht
  split at h
  · cases h
  rename_i hg
  split at h
  · cases h
  rename_i hc
  simp only [Bool.or_eq_true, bne_iff_ne, ne_eq, not_or, not_not] at hg
  have hcomplete : r.complete := by simpa [Readiness.complete, and_assoc] using hc
  simp [acceptsReadiness, ht, hg.1, hg.2, hcomplete]
  simpa using hm

theorem ServerSession.handleReadiness_of_accepts (h : s.acceptsReadiness r) : (s.handleReadiness r).1.state = .ready := by
  simp only [acceptsReadiness, Bool.and_eq_true] at h
  obtain ⟨⟨hm, hc⟩, ht⟩ := h
  cases hs : s.readyTarget with
  | none => simp [hs] at ht
  | some =>
    simp only [hs, Option.any_some, Bool.and_eq_true, beq_iff_eq] at ht
    simp only [Readiness.complete, Bool.and_eq_true] at hc
    simp [handleReadiness, hs, hm, ht, hc]

theorem World.ready_of_accepts (h : w.acceptsReadiness op) : (w.next rules op).session.state = .ready := by
  cases op with
  | handleReadiness now r =>
    simp only [acceptsReadiness, Bool.and_eq_true, Option.isNone_iff_eq_none] at h
    obtain ⟨⟨hv, ha⟩, hs⟩ := h
    show (w.handleReadiness now r).1.session.state = .ready
    rw [handleReadiness, hv, call_eq_of_active ha]
    exact handleReadiness_of_accepts hs
  | _ => cases h

/-- The step is a rejected `DrainAck` that ends the drain. -/
def World.rejectsDrain (rules : PayloadRules) (w : World) : ServerOp → Bool
  | .handleDrainAck ctx now ack => ack.status == .rejected &&
      (w.step rules (.handleDrainAck ctx now ack)).2 == .failed (codeError .drainRejected .snapshotRejected false none)
  | _ => false

theorem World.accepts_of_ack (h : (w.step rules (.handleReadiness now r)).2 = .ack a) :
    w.acceptsReadiness (.handleReadiness now r) := by
  change Reply.of .ack (w.handleReadiness now r).2 = .ack a at h
  cases hres : (w.handleReadiness now r).2 with
  | error => simp [hres, Reply.of] at h
  | ok =>
    obtain ⟨hv, ha, hb⟩ := call_ok hres
    simp [acceptsReadiness, hv, ha, handleReadiness_ok hb]

theorem World.rejects_of_failed {ctx : Option Err} {ack : DrainAck} (hs : ack.status = .rejected)
    (h : (w.step rules (.handleDrainAck ctx now ack)).2 =
      .failed (codeError .drainRejected .snapshotRejected false none)) :
    w.rejectsDrain rules (.handleDrainAck ctx now ack) := by
  simp [rejectsDrain, hs, h]

theorem Change.becomes_ready (h : Change rules s op reply s') (hr : s'.state = .ready) :
    s.state = .ready ∨ (∃ now r a, op = .handleReadiness now r ∧ reply = .ack a) ∨
      (∃ now ack, op = .handleDrainAck none now ack ∧ ack.status = .rejected ∧
        reply = .failed (codeError .drainRejected .snapshotRejected false none)) := by
  cases h with
  | refuseSnapshot | refuseDelta => rw [refuse_eq] at hr; cases hr
  | stageSnapshot | stageDelta => exact .inl (stage_ready hr).2
  | readied => exact .inr (.inl ⟨_, _, _, rfl, rfl⟩)
  | offered =>
    simp only [propose] at hr
    split at hr
    · exact .inl hr
    · cases hr
  | withdrawn | drainBegun => cases hr
  | drainRefused _ _ _ rejected => exact .inr (.inr ⟨_, _, rfl, rejected, rfl⟩)
  | gapDelta | deltaOffered | beat | drainAcked | renewed => exact .inl hr

theorem World.becomes_ready (hr : (w.next rules op).session.state = .ready) :
    w.session.state = .ready ∨ w.acceptsReadiness op ∨ w.rejectsDrain rules op := by
  have he := w.next_effect rules op
  generalize hs : (w.next rules op).session = s' at he hr
  generalize hrep : (w.step rules op).2 = reply at he
  cases he with
  | idle => exact .inl hr
  | closed => cases hr
  | changed _ change =>
    rcases change.becomes_ready hr with h | ⟨now, r, a, rfl, rfl⟩ | ⟨now, ack, rfl, hst, rfl⟩
    · exact .inl h
    · exact .inr (.inl (accepts_of_ack hrep))
    · exact .inr (.inr (rejects_of_failed hst hrep))

/-! ## Draining -/

theorem ServerSession.beginDrain_ok {drainID : String} {force : Bool} {d : Drain}
    (h : (s.beginDrain later drainID deadline force).2 = .ok d) :
    (s.drain = some d ∧ (s.beginDrain later drainID deadline force).1 = s) ∨
      (s.drain = none ∧ (s.beginDrain later drainID deadline force).1.state = .draining) := by
  revert h
  unfold beginDrain
  split
  · nofun
  split
  · rename_i drain hd
    split
    · intro h
      exact .inl ⟨by rw [hd, Except.ok.inj h], rfl⟩
    · nofun
  · rename_i hd
    split
    · nofun
    dsimp only
    split
    · nofun
    · exact fun _ => .inr ⟨hd, rfl⟩

/-- A successful `BeginDrain` leaves the session ineligible unless it repeats a
drain in a session that is ready. -/
theorem World.beginDrain_ready_iff {ctx : Option Err} {drainID : String} {force : Bool} {d : Drain}
    (h : (w.beginDrain ctx now later drainID deadline force).2 = .ok d) :
    (w.beginDrain ctx now later drainID deadline force).1.session.state = .ready ↔
      w.session.drain.isSome ∧ w.session.state = .ready := by
  obtain ⟨hc, ha, hb⟩ := call_ok h
  unfold beginDrain
  rw [hc, call_eq_of_active ha]
  rcases beginDrain_ok hb with ⟨hd, hs⟩ | ⟨hd, hs⟩ <;> simp [hd, hs]

/-- Without a rejected drain, a run keeps a session out of the traffic exactly
when it starts so and accepts no readiness report. -/
theorem ineligible_throughout_iff (h : Reachable rules w) {ops : List ServerOp}
    (hr : EachStep (next rules) (fun v op => v.rejectsDrain rules op = false) w ops) :
    Throughout (next rules) (fun v => v.session.eligible = false) w ops ↔ w.session.state ≠ .ready ∧
        EachStep (next rules) (fun v op => v.acceptsReadiness op = false) w ops := by
  induction ops generalizing w with
  | nil =>
    rw [throughout_nil, eachStep_nil, and_true, ← Bool.not_eq_true, h.sessionInv.eligible_iff]
  | cons op _ ih =>
    have hw : w.session.eligible = false ↔ w.session.state ≠ .ready := by
      rw [← Bool.not_eq_true, h.sessionInv.eligible_iff]
    rw [throughout_cons, eachStep_cons, ih (h.next op) hr.2, hw]
    constructor
    · rintro ⟨hs, hn, hops⟩
      refine ⟨hs, ?_, hops⟩
      rw [← Bool.not_eq_true]
      exact fun ha => hn (ready_of_accepts ha)
    · rintro ⟨hs, ha, hops⟩
      refine ⟨hs, fun hn => ?_, hops⟩
      rcases becomes_ready hn with h0 | h0 | h0
      · exact hs h0
      · simp [ha] at h0
      · simp [hr.1] at h0

theorem Reachable.beginDrain (h : Reachable rules w) (ctx : Option Err) (now later : Time) (drainID : String)
    (deadline : Time) (force : Bool) : Reachable rules (w.beginDrain ctx now later drainID deadline force).1 :=
  h.next (.beginDrain ctx now later drainID deadline force)

end Answers

/-- After a successful `BeginDrain`, and until a rejected `DrainAck` ends the drain, the session stays out of the
traffic exactly when the call did not repeat a drain of a ready session and no readiness report is accepted. -/
theorem draining_ineligible_iff (h : Reachable rules w) {ctx : Option Err} {now later : Time} {drainID : String}
    {deadline : Time} {force : Bool} {d : Drain} (hb : (w.beginDrain ctx now later drainID deadline force).2 = .ok d)
    (ops : List ServerOp) (hr : EachStep (next rules) (fun v op => v.rejectsDrain rules op = false)
      (w.beginDrain ctx now later drainID deadline force).1 ops) :
    Throughout (next rules) (fun v => v.session.eligible = false)
        (w.beginDrain ctx now later drainID deadline force).1 ops ↔
      ¬(w.session.drain.isSome ∧ w.session.state = .ready) ∧
        EachStep (next rules) (fun v op => v.acceptsReadiness op = false)
          (w.beginDrain ctx now later drainID deadline force).1 ops := by
  rw [ineligible_throughout_iff (h.beginDrain ..) hr, Ne, beginDrain_ready_iff hb]

/-- The live session after `BeginDrain` with a ten minute deadline. -/
def Sample.draining : World × Except Err Drain :=
  live.beginDrain none now now "drain_1" (now.add (10 * Duration.minute)) true

open Sample

theorem draining_session_ready_again : Reachable Sample.rules live ∧
      draining.2 = .ok (live.session.drainRequest "drain_1" (now.add (10 * Duration.minute)) true) ∧
      draining.1.session.state = .draining ∧
      draining.1.rejectsDrain Sample.rules (ready 1) = false ∧
      (draining.1.next Sample.rules (ready 1)).session.eligible :=
  ⟨live_reachable, by decide +kernel⟩

theorem draining_ineligible_during_upgrade :
    Throughout (next Sample.rules) (fun v => v.session.eligible = false) draining.1
      [offer 2, ack .snapshot .applied 2] :=
  (draining_ineligible_iff live_reachable
    (show draining.2 =
      .ok (live.session.drainRequest "drain_1" (now.add (10 * Duration.minute)) true) by decide +kernel)
    [offer 2, ack .snapshot .applied 2] (by decide +kernel)).2
    ⟨by decide +kernel, by decide +kernel⟩

end Paperboat.Connector

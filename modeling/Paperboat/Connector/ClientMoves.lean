import Paperboat.Connector.ClientCalls
import Paperboat.Connector.ClientSteps
/-!
# What an operation can do to the configurations of a client

`step_move` sums up the session's calls: an operation leaves the configurations
alone (`Kept`), starts work on an offer or an activation, or ends such work in
one of a few ways. Everything about runs of the session splits on those.
-/

namespace Paperboat.Connector

open Lib Lib.Custody

/-- The reading of the clock by which an operation checks the session. A failed
activation is cleaned up without a check. -/
def ClientOp.clock : ClientOp → Option Time
  | .applySnapshot now .. | .applyDelta now .. | .prepared now _ | .markReady now .. | .acceptHeartbeatAck now _
  | .applyRenewal now _ | .handleDrain now .. | .drainProgress now .. | .completeDrain now .. => some now.utc
  | .activated now o => if o.err.isSome then none else some now.utc
  | .heartbeat now clock => some (if now.isZero then clock.utc else now)
  | .checkLease now => some now
  | .acceptWelcome .. | .drainStopped _ | .close .. => none

/-- `HandleDrain` takes the answer for a failure. -/
def DrainerAnswer.failed (answer : DrainerAnswer) : Bool :=
  match answer.stopErr, answer.streams with
  | none, .ok activeStreams => decide (activeStreams > maxActiveStreams)
  | _, _ => true

namespace ClientSession

variable {c : ClientSession}

theorem applyRenewal_kept (c : ClientSession) (now : Time) (result : AuthResult) :
    Kept c (some now.utc) (c.applyRenewal now result).1 := by
  unfold applyRenewal
  split
  · exact .refl c _
  · exact (kept_of_ensureActive ‹_›).toKept
  split_ifs
  · exact .refl c _
  · exact .refl c _
  · exact .refl c _
  · exact ⟨⟨rfl, rfl, rfl, rfl, rfl, rfl⟩, id, id, .inl⟩

theorem restoreState_state (c : ClientSession) : c.restoreState.state ≠ .new ∧ c.restoreState.state ≠ .closed := by
  unfold restoreState
  split_ifs <;> simp

end ClientSession

namespace Client

open ClientSession

variable {k : Client}

theorem handleDrainBegin_kept (k : Client) (now : Time) (ctx : Option Err) (request : Drain) :
    Leased k.session (some now.utc) (k.handleDrainBegin now ctx request).1.session ∧
      (k.handleDrainBegin now ctx request).1.activating = k.activating := by
  unfold handleDrainBegin
  dsimp only
  split
  · exact ⟨.refl _ _, rfl⟩
  · exact ⟨.refl _ _, rfl⟩
  · exact ⟨kept_of_ensureActive ‹_›, rfl⟩
  rename_i he
  have hs := (live_of_ensureActive he).1
  split
  · exact ⟨.refl _ _, rfl⟩
  split
  · exact ⟨.refl _ _, rfl⟩
  split
  · split_ifs <;> exact ⟨.refl _ _, rfl⟩
  split_ifs
  · exact ⟨.refl _ _, rfl⟩
  · exact ⟨.refl _ _, rfl⟩
  · exact ⟨⟨⟨⟨rfl, rfl, rfl, rfl, rfl, rfl⟩, by simp, fun h => absurd h hs, by simp⟩, rfl⟩, rfl⟩

theorem failDrain_same (k : Client) (request : Drain) : Same k.session (k.failDrain request).session ∧
      (k.failDrain request).session.lease = k.session.lease ∧
      ((k.failDrain request).session.state = .new → k.session.state = .new) ∧
      ((k.failDrain request).session.state = .closed → k.session.state = .closed) ∧
      (k.failDrain request).activating = k.activating := by
  unfold failDrain
  split
  · have hr := restoreState_state k.session
    exact ⟨⟨rfl, rfl, rfl, rfl, rfl, rfl⟩, rfl, fun h => absurd h hr.1, fun h => absurd h hr.2, rfl⟩
  · exact ⟨.refl _, rfl, id, id, rfl⟩

theorem handleDrainFinish_cases (k : Client) (answer : DrainerAnswer) :
    Same k.session (k.handleDrainFinish answer).1.session ∧
      (k.handleDrainFinish answer).1.session.lease = k.session.lease ∧
      ((k.handleDrainFinish answer).1.session.state = .new → k.session.state = .new) ∧
      ((k.handleDrainFinish answer).1.session.state = .closed → k.session.state = .closed) ∧
      (k.handleDrainFinish answer).1.activating = k.activating ∧
      (answer.failed = false → (k.handleDrainFinish answer).1.session = k.session) := by
  unfold handleDrainFinish
  split
  · rename_i request hr
    have hf := failDrain_same { k with stopping := none } request
    unfold finishDrain
    split
    · rename_i err hs
      exact ⟨hf.1, hf.2.1, hf.2.2.1, hf.2.2.2.1, hf.2.2.2.2, by simp [DrainerAnswer.failed, hs]⟩
    · rename_i hs hn
      exact ⟨hf.1, hf.2.1, hf.2.2.1, hf.2.2.2.1, hf.2.2.2.2, by simp [DrainerAnswer.failed, hn, hs]⟩
    rename_i hs hn
    split_ifs with hm
    · exact ⟨hf.1, hf.2.1, hf.2.2.1, hf.2.2.2.1, hf.2.2.2.2, by simp [DrainerAnswer.failed, hn, hs, hm]⟩
    · exact ⟨.refl _, rfl, id, id, rfl, fun _ => rfl⟩
    · exact ⟨.refl _, rfl, id, id, rfl, fun _ => rfl⟩
  · exact ⟨.refl _, rfl, id, id, rfl, fun _ => rfl⟩

theorem drainProgress_kept (k : Client) (now : Time) (ctx : Option Err) (activeStreams : UInt32) (forced : Bool) :
    Leased k.session (some now.utc) (k.drainProgress now ctx activeStreams forced).1.session ∧
      (k.drainProgress now ctx activeStreams forced).1.activating = k.activating := by
  unfold drainProgress
  split
  · exact ⟨.refl _ _, rfl⟩
  split
  · exact ⟨.refl _ _, rfl⟩
  · exact ⟨kept_of_ensureActive ‹_›, rfl⟩
  split
  · exact ⟨.refl _ _, rfl⟩
  · dsimp only
    split_ifs <;> exact ⟨.refl _ _, rfl⟩

theorem completeDrain_kept (k : Client) (now : Time) (ctx : Option Err) (force : Bool) (answer : Except Err UInt32) :
    Leased k.session (some now.utc) (k.completeDrain now ctx force answer).1.session ∧
      (k.completeDrain now ctx force answer).1.activating = k.activating := by
  unfold completeDrain
  split
  · exact ⟨.refl _ _, rfl⟩
  split
  · exact ⟨.refl _ _, rfl⟩
  split
  · exact ⟨.refl _ _, rfl⟩
  · exact drainProgress_kept ..

/-! ## Every operation -/

/-- What an operation does to the configurations, with its events for prepared
ones and whether it is a success of `MarkReadyContext`. -/
inductive Move (rules : PayloadRules) (k : Client) : ClientOp → List (Event Nat) → Bool → Client → Prop
  | kept {op k'} (kept : Kept k.session op.clock k'.session)
      (activating : k'.session.busy ≠ none → k'.activating = k.activating) : Move rules k op [] false k'
  | revived {answer k'} (failed : answer.failed) (same : Same k.session k'.session)
      (opened : k'.session.state = .new → k.session.state = .new)
      (closed : k'.session.state = .closed → k.session.state = .closed) (activating : k'.activating = k.activating) :
      Move rules k (.drainStopped answer) [] false k'
  | snapshotBegun {now ctx snapshot} (free : k.session.busy = none) (opened : k.session.state ≠ .new)
      (valid : snapshot.validate rules = none)
      (newer : ∀ current, k.session.newest = some current → current.generation < snapshot.generation) :
      Move rules k (.applySnapshot now ctx snapshot) [] false
        { k with session := { k.session with busy := some (.snapshot snapshot) } }
  | deltaBegun {now ctx delta} (free : k.session.busy = none) (opened : k.session.state ≠ .new)
      (active : k.session.hasActive)
      (next : delta.generation = k.session.active.generation + 1) :
      Move rules k (.applyDelta now ctx delta) [] false
        { k with session := { k.session with busy := some (.delta delta) } }
  | activationBegun {now ctx edge route origin} (readiness : Readiness)
      (free : k.session.busy = none) (opened : k.session.state ≠ .new) (staged : k.session.hasCandidate)
      (held : k.session.prepared.isSome) :
      Move rules k (.markReady now ctx edge route origin) [] false
        { k with
          session := { k.session with busy := some (.activation k.session.candidate readiness) }
          activating := k.session.prepared }
  | discarded {now o k'} (kept : Kept k.session.free (some now.utc) k'.session) :
      Move rules k (.prepared now o) (o.prepared.toList.map .acquired ++ o.prepared.toList.map .disposed) false k'
  | staged {now o} (config : Nat) (candidate : Snapshot) (needsSnapshot : Bool) (returned : o.prepared = some config)
      (work : (∃ snapshot, k.session.busy = some (.snapshot snapshot) ∧ candidate.generation = snapshot.generation) ∨
        ∃ delta, k.session.busy = some (.delta delta) ∧ candidate.generation = delta.generation)
      (room : (k.session.hasCandidate && k.session.prepared.isSome) = false) (live : k.session.state ≠ .closed) :
      Move rules k (.prepared now o) [.acquired config] false
        { k with session := k.session.free.stage candidate (some config) needsSnapshot }
  | notActivated {now o} (candidate : Snapshot) (readiness : Readiness) (failed : o.err.isSome)
      (work : k.session.busy = some (.activation candidate readiness)) :
      Move rules k (.activated now o) (k.activating.toList.map .disposed) false
        { k with
          session := if k.session.stillStaged candidate then k.session.free.dropCandidate
            else k.session.free }
  | promoted {now o} (candidate : Snapshot) (readiness : Readiness)
      (work : k.session.busy = some (.activation candidate readiness)) (live : k.session.state ≠ .closed)
      (staged : k.session.stillStaged candidate) :
      Move rules k (.activated now o) (k.activating.toList.map .committed) true
        { k with session := k.session.free.promote }
  | activatedLate {now o k'} (candidate : Snapshot) (readiness : Readiness) (succeeded : o.err = none)
      (work : k.session.busy = some (.activation candidate readiness))
      (kept : Kept k.session.free (some now.utc) k'.session)
      (late : k.session.state ≠ .closed → k.session.state ≠ .new → k.session.stillStaged candidate →
        k.session.expired now.utc) :
      Move rules k (.activated now o) (k.activating.toList.map .committed) false k'
  | closed {reason abortErr} (free : k.session.busy = none) (valid : validDisconnectReason reason)
      (live : k.session.state ≠ .closed) :
      Move rules k (.close reason abortErr) (k.session.prepared.toList.map .disposed) false
        { k with
          session := { k.session.closeWith reason with prepared := none, candidate := .empty, hasCandidate := false } }

theorem Move.unchanged {rules : PayloadRules} {k : Client} {op : ClientOp} : Move rules k op [] false k :=
  .kept (.refl _ _) fun _ => rfl

end Client

theorem PrepareOutcome.prepared_of_ok {o : PrepareOutcome} {code : Code} (h : o.failure code = none) :
    ∃ config, o.prepared = some config := by
  unfold failure at h
  split at h
  · dsimp only at h
    split at h <;> cases h
  · cases h
  split at h
  · cases h
  · rename_i hp
    exact Option.ne_none_iff_exists'.1 (by simpa using hp)

theorem ClientSession.finishApply_moves (c : ClientSession) (now : Time) (o : PrepareOutcome) (code : Code)
    (kind : AckKind) (candidate : Snapshot) (needs : Bool) :
    (Leased c (some now.utc) (c.finishApply now o code kind candidate needs).1 ∧
      c.applyCalls now o code = o.prepared.toList.map .disposed) ∨
    ∃ config, o.prepared = some config ∧ c.applyCalls now o code = [] ∧
      (c.finishApply now o code kind candidate needs).1 = c.stage candidate (some config) needs ∧
      (c.hasCandidate && c.prepared.isSome) = false ∧ c.state ≠ .closed := by
  unfold finishApply applyCalls
  cases hf : o.failure code with
  | some => exact .inl ⟨.refl c _, rfl⟩
  | none =>
    obtain ⟨config, hp⟩ := PrepareOutcome.prepared_of_ok hf
    rcases ha : c.ensureActive now.utc with ⟨c', err | err⟩
    · have hl := (live_of_ensureActive ha).1
      dsimp only
      by_cases hr : (c.hasCandidate && c.prepared.isSome)
      · rw [if_pos hr, if_pos hr]
        exact .inl ⟨.refl c _, rfl⟩
      · rw [if_neg hr, if_neg hr]
        exact .inr ⟨config, hp, rfl, by rw [hp], Bool.eq_false_iff.2 hr, hl⟩
    · exact .inl ⟨kept_of_ensureActive ha, rfl⟩

namespace Client

open ClientSession

variable {rules : PayloadRules} {k : Client} (now : Time) (ctx : Option Err)

abbrev Moves (rules : PayloadRules) (k : Client) (op : ClientOp) : Prop :=
  Move rules k op (k.calls op) (k.step rules op).2.promoted (k.next rules op)

theorem prepared_move (o : PrepareOutcome) :
    Move rules k (.prepared now o) (k.calls (.prepared now o)) false (k.next rules (.prepared now o)) := by
  rcases hw : k.session.busy with _ | (snapshot | delta | ⟨candidate, readiness⟩)
  · simp only [calls, next, step, applyFinish, hw]
    exact .unchanged
  · have hn : (k.next rules (.prepared now o)) = { k with session := (k.session.free.finishApply now o .snapshotRejected
        .snapshot (bindSnapshot snapshot k.session.hello.accountID k.session.hello.connectorID
          k.session.welcome.sessionID k.session.hello.processGeneration) false).1 } := by
      simp only [next, step, applyFinish, hw, free]
    rw [hn]
    simp only [calls, hw]
    rcases k.session.free.finishApply_moves now o .snapshotRejected .snapshot
      (bindSnapshot snapshot k.session.hello.accountID k.session.hello.connectorID k.session.welcome.sessionID
        k.session.hello.processGeneration) false with ⟨hk, hc⟩ | ⟨config, hp, hc, hs, hr, hl⟩
    · rw [hc]
      exact .discarded hk.toKept
    · rw [hc, hs, hp]
      exact .staged config _ _ hp (.inl ⟨snapshot, hw, rfl⟩) hr hl
  · have hn : (k.next rules (.prepared now o)) = { k with session := (k.session.free.finishApply now o .deltaRejected
        .delta (k.session.deltaSnapshot delta) k.session.needsSnapshot).1 } := by
      simp only [next, step, applyFinish, hw, free]
    rw [hn]
    simp only [calls, hw]
    rcases k.session.free.finishApply_moves now o .deltaRejected .delta (k.session.deltaSnapshot delta)
      k.session.needsSnapshot with ⟨hk, hc⟩ | ⟨config, hp, hc, hs, hr, hl⟩
    · rw [hc]
      exact .discarded hk.toKept
    · rw [hc, hs, hp]
      exact .staged config _ _ hp (.inr ⟨delta, hw, rfl⟩) hr hl
  · simp only [calls, next, step, applyFinish, hw]
    exact .unchanged

theorem finishReady_move {now : Time} {o : ActivateOutcome} {candidate : Snapshot} {readiness : Readiness}
    (hw : k.session.busy = some (.activation candidate readiness)) : Move rules k (.activated now o)
      (k.activating.toList.map fun config => if o.err.isSome then .disposed config else .committed config)
      (ClientReply.ready (k.session.free.finishReady now o candidate readiness).2).promoted
      { k with session := (k.session.free.finishReady now o candidate readiness).1 } := by
  unfold finishReady
  rcases ho : o.err with _ | err
  · rcases ha : k.session.free.ensureActive now.utc with ⟨c', err | err⟩
    · have hl := (live_of_ensureActive ha).1
      rcases hs : k.session.free.stillStaged candidate
      · exact .activatedLate candidate readiness ho hw (.refl _ _) fun _ _ h => absurd (hs.symm.trans h) (by simp)
      · exact .promoted candidate readiness hw hl hs
    · exact .activatedLate candidate readiness ho hw (kept_of_ensureActive ha).toKept fun hc hn _ =>
        expired_of_ensureActive (c := k.session.free) ha hc hn
  · exact .notActivated candidate readiness (by rw [ho, Option.isSome_some]) hw

theorem activated_move (o : ActivateOutcome) : Moves rules k (.activated now o) := by
  rcases hw : k.session.busy with _ | (snapshot | delta | ⟨candidate, readiness⟩)
  all_goals simp only [Moves, calls, next, step, markReadyFinish, hw]
  · exact .unchanged
  · exact .unchanged
  · exact .unchanged
  · exact finishReady_move hw

theorem locked_cases (k : Client) (call : ClientSession → ClientSession × ClientReply) :
    (k.session.busy = none ∧ k.locked call = ({ k with session := (call k.session).1 }, (call k.session).2)) ∨
      (k.session.busy.isSome ∧ k.locked call = (k, .waiting)) := by
  unfold locked
  split
  · exact .inr ⟨‹_›, rfl⟩
  · rename_i hb
    exact .inl ⟨by simpa using hb, rfl⟩

theorem applySnapshot_move (snapshot : Snapshot) : Moves rules k (.applySnapshot now ctx snapshot) := by
  rcases k.locked_cases fun c => (c.applySnapshotBegin rules now ctx snapshot).map id .apply with ⟨hb, hl⟩ | ⟨-, hl⟩
  all_goals simp only [Moves, next, step, hl]
  · rcases applySnapshotBegin_moves rules k.session now ctx snapshot with hk | ⟨hc, hn, hv, hg⟩
    · exact .kept hk.toKept fun _ => rfl
    · simp only [Prod.map_fst, id, hc]
      exact .snapshotBegun hb hn hv hg
  · exact .unchanged

theorem applyDelta_move (delta : Delta) : Moves rules k (.applyDelta now ctx delta) := by
  rcases k.locked_cases fun c => (c.applyDeltaBegin rules now ctx delta).map id .apply with ⟨hb, hl⟩ | ⟨-, hl⟩
  all_goals simp only [Moves, next, step, hl]
  · rcases applyDeltaBegin_moves rules k.session now ctx delta with hk | ⟨hc, hn, ha, hg⟩
    · exact .kept hk.toKept fun _ => rfl
    · simp only [Prod.map_fst, id, hc]
      exact .deltaBegun hb hn ha hg
  · exact .unchanged

theorem markReady_move (edge route origin : Bool) : Moves rules k (.markReady now ctx edge route origin) := by
  have hreply := k.session.markReadyBegin_reply now ctx edge route origin
  by_cases hb : k.session.busy.isSome
  · simp only [Moves, next, step, hb, if_true]
    exact .unchanged
  have hn : k.session.busy = none := by simpa using hb
  simp only [Moves, next, step, hb, if_false, Bool.false_eq_true]
  have hp : (ClientReply.ready (k.session.markReadyBegin now ctx edge route origin).2).promoted = false := by
    rcases hr : (k.session.markReadyBegin now ctx edge route origin).2 with ⟨readiness, _ | err⟩ | _
    · exact absurd hr (hreply readiness)
    · rfl
    · rfl
  rw [hp]
  rcases k.session.markReadyBegin_moves now ctx edge route origin with hk | ⟨readiness, hc, -, -, ho, hs, hp⟩
  · refine .kept hk.toKept fun hw => absurd ?_ hw
    rw [hk.busy, hn]
  · simp only [hc, Option.isSome_some, if_true]
    exact .activationBegun readiness hn ho hs hp

theorem close_move (reason : DisconnectReason) (abortErr : Option Err) : Moves rules k (.close reason abortErr) := by
  rcases k.locked_cases fun c => (c.close reason abortErr).map id .done with ⟨hb, hl⟩ | ⟨hb, hl⟩
  · simp only [Moves, next, step, hl]
    simp only [calls, hb, Option.isSome_none, Bool.false_or, ClientSession.close]
    by_cases hv : validDisconnectReason reason
    · by_cases hs : k.session.state = .closed
      · simp only [hv, hs, Bool.not_true, Bool.false_eq_true, if_false, if_true, decide_true, Bool.or_true]
        exact .unchanged
      · simp only [hv, hs, Bool.not_true, Bool.false_eq_true, if_false, decide_false, Bool.or_false]
        exact .closed hb hv hs
    · simp only [hv, Bool.not_false, if_true, Bool.true_or]
      exact .unchanged
  · simp only [Moves, next, step, hl, calls, hb, Bool.true_or, if_true]
    exact .unchanged

theorem step_move (rules : PayloadRules) (k : Client) (op : ClientOp) : Moves rules k op := by
  cases op with
  | acceptWelcome now later welcome => exact .kept (k.session.acceptWelcome_kept now later welcome _) fun _ => rfl
  | applySnapshot now ctx snapshot => exact applySnapshot_move now ctx snapshot
  | applyDelta now ctx delta => exact applyDelta_move now ctx delta
  | prepared now o => exact prepared_move now o
  | markReady now ctx edge route origin => exact markReady_move now ctx edge route origin
  | activated now o => exact activated_move now o
  | heartbeat now clock => exact .kept (k.session.heartbeat_kept now clock).toKept fun _ => rfl
  | acceptHeartbeatAck now ack => exact .kept (k.session.acceptHeartbeatAck_kept now ack) fun _ => rfl
  | applyRenewal now result => exact .kept (k.session.applyRenewal_kept now result) fun _ => rfl
  | checkLease now => exact .kept (k.session.ensureActive_kept now).toKept fun _ => rfl
  | handleDrain now ctx request =>
    have h := k.handleDrainBegin_kept now ctx request
    exact .kept h.1.toKept fun _ => h.2
  | drainStopped answer =>
    obtain ⟨hs, -, hn, hc, ha, hk⟩ := k.handleDrainFinish_cases answer
    cases hf : answer.failed with
    | true => exact .revived hf hs hn hc ha
    | false =>
      refine .kept ?_ fun _ => ha
      simp only [next, step, Prod.map_fst, id, hk hf]
      exact .refl _ _
  | drainProgress now ctx activeStreams forced =>
    have h := k.drainProgress_kept now ctx activeStreams forced
    exact .kept h.1.toKept fun _ => h.2
  | completeDrain now ctx force answer =>
    have h := k.completeDrain_kept now ctx force answer
    exact .kept h.1.toKept fun _ => h.2
  | close reason abortErr => exact close_move reason abortErr

end Client

end Paperboat.Connector

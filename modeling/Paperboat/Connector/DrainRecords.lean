import Paperboat.Connector.Traffic
/-!
# Recording the outcome of a drain

`PersistentSession.HandleDrainAck` hands the session's drain and an accepted
acknowledgement to `RecordDrain`, which validates the drain once more, against its
own clock. A drain that is over its deadline is no longer valid, so the outcome of
one that took that long is refused.
-/

namespace Paperboat.Connector

variable {ctx : Option Err}

open Lib Drain

/-- The acknowledgement `RecordDrain` builds for the checks of the wire. -/
def Drain.ackOf (d : Drain) (status : DrainStatus) (activeStreams : UInt32) (code : Code) : DrainAck where
  accountID := d.accountID
  tunnelID := d.tunnelID
  connectorID := d.connectorID
  sessionID := d.sessionID
  processGeneration := d.processGeneration
  drainID := d.drainID
  generation := d.generation
  contentHash := d.contentHash
  status := status
  activeStreams := activeStreams
  forcedClose := status == .forced
  code := code

/-- `RecordDrain` up to its transaction, on a store that is set up. -/
def recordDrainInput (ref : SessionRef) (d : Drain) (status : DrainStatus) (activeStreams : UInt32) (code : Code) (now : Time) :
    Option Err :=
  if ref.validate.isSome || d.tunnelID != ref.tunnelID || d.connectorID != ref.connectorID || d.sessionID != ref.sessionID ||
      d.processGeneration != ref.processGeneration || decide (activeStreams > maxActiveStreams) then some .invalidInput
  else match d.validate now with
  | some err => some err
  | none =>
    match status with
    | .other _ => some .invalidInput
    | _ => (d.ackOf status activeStreams code).validate

def Drain.Open (d : Drain) (now : Time) : Prop :=
  now.isZero ∨ d.deadline.after now ∧ d.deadline.sub now ≤ maxLease

section
variable {rules : PayloadRules} {s s' : ServerSession} {w : World} {d : Drain} {ack : DrainAck} {op : ServerOp}
  {reply : Reply} {now : Time}

theorem Drain.validate_iff : d.validate now = none ↔ d.validate .zero = none ∧ d.Open now := by
  unfold validate Drain.Open
  split
  · simp
  · cases now.isZero <;> simp [Time.isZero_zero]

theorem Drain.ackOf_statusOk (h : ack.statusOk) : (d.ackOf ack.status ack.activeStreams ack.code).statusOk := by
  unfold DrainAck.statusOk at h ⊢
  cases hs : ack.status <;> simp_all [ackOf]

theorem Drain.ackOf_valid (hd : d.validate .zero = none) (ha : ack.validate = none) :
    (d.ackOf ack.status ack.activeStreams ack.code).validate = none := by
  unfold validate at hd
  unfold DrainAck.validate at ha ⊢
  split_ifs at hd ha with hfs _ hack hst hcode
  simp only [Bool.or_eq_true, not_or] at hfs hack
  rw [if_neg (by simpa [ackOf, hfs] using hack.2), if_neg (by simpa using ackOf_statusOk (by simpa using hst))]
  exact if_neg hcode

structure Drains (s : ServerSession) (d : Drain) : Prop where
  ref : s.ref = ⟨d.tunnelID, d.connectorID, d.sessionID, d.processGeneration⟩
  valid : d.validate .zero = none

theorem Drains.effect (hi : ∀ d, s.drain = some d → Drains s d) (h : Effect rules s op reply s') :
    ∀ d, s'.drain = some d → Drains s' d := by
  cases h with
  | idle => exact hi
  | closed => exact fun d hd => ⟨(hi d hd).ref, (hi d hd).valid⟩
  | changed _ change =>
    cases change with
    | drainBegun _ _ valid =>
      intro d hd
      cases hd
      exact ⟨rfl, (validate_iff.1 valid).1⟩
    | readied =>
      have hkept : s.promote.drain = s.drain ∧ s.promote.ref = s.ref := by
        unfold ServerSession.promote
        split <;> exact ⟨rfl, rfl⟩
      intro d hd
      have hold := hi d (hkept.1.symm.trans hd)
      exact ⟨hkept.2.trans hold.ref, hold.valid⟩
    | _ => exact fun d hd => ⟨(hi d hd).ref, (hi d hd).valid⟩

theorem World.handleDrainAck_ok (h : (w.handleDrainAck ctx now ack).2 = .ok ()) :
    ack.validate = none ∧ w.session.ref = ⟨ack.tunnelID, ack.connectorID, ack.sessionID, ack.processGeneration⟩ ∧
      ∃ d, w.session.drain = some d := by
  obtain ⟨hv, -, hbody⟩ := World.call_ok h
  unfold ServerSession.handleDrainAck at hbody
  split at hbody
  · cases hbody
  rename_i hidn
  split at hbody
  · cases hbody
  rename_i d hf
  simp only [ServerSession.matchesIdentity, Bool.not_eq_true', Bool.not_eq_false, Bool.and_eq_true, beq_iff_eq] at hidn
  obtain ⟨⟨⟨⟨-, ht⟩, hc⟩, hs⟩, hp⟩ := hidn
  exact ⟨(Option.or_eq_none_iff.1 hv).2, by rw [ht, hc, hs, hp], d, (Option.filter_eq_some_iff.1 hf).1⟩

theorem Effect.drain_same (h : Effect rules s (.handleDrainAck ctx now ack) reply s') :
    s'.drain = s.drain ∧ s'.ref = s.ref := by
  cases h with
  | idle | closed => exact ⟨rfl, rfl⟩
  | changed _ change => cases change <;> exact ⟨rfl, rfl⟩

theorem DrainAck.named (h : ack.validate = none) :
    SessionRef.validate ⟨ack.tunnelID, ack.connectorID, ack.sessionID, ack.processGeneration⟩ = none ∧
      ¬ack.activeStreams > maxActiveStreams ∧ ack.statusOk := by
  unfold DrainAck.validate at h
  split_ifs at h with hfs hst
  simp only [Bool.or_eq_true, not_or, decide_eq_true_eq] at hfs
  exact ⟨by simp [SessionRef.validate, hfs], hfs.2, by simpa using hst⟩

/-- The checks of `RecordDrain` on a valid drain of the session and a valid acknowledgement. -/
theorem recordDrainInput_iff (hd : Drains s d) (ha : ack.validate = none)
    (hr : s.ref = ⟨ack.tunnelID, ack.connectorID, ack.sessionID, ack.processGeneration⟩) :
    recordDrainInput s.ref d ack.status ack.activeStreams ack.code now = none ↔ d.Open now := by
  obtain ⟨href, hstreams, hst⟩ := DrainAck.named ha
  have hack := ackOf_valid hd.valid ha
  unfold recordDrainInput
  rw [if_neg (by rw [hr, href, ← hr, hd.ref]; simp [hstreams])]
  cases hv : d.validate now with
  | some =>
    simp only [reduceCtorEq, false_iff]
    exact fun ho => by simp [validate_iff.2 ⟨hd.valid, ho⟩] at hv
  | none =>
    refine iff_of_true ?_ (validate_iff.1 hv).2
    dsimp only
    split
    · simp_all [DrainAck.statusOk]
    · exact hack

/-- The outcome of a drain passes the checks of `RecordDrain` exactly if these are made while the drain is open. -/
theorem outcome_recordable_iff (h : Reachable rules w) (ctx : Option Err) (now : Time) (ack : DrainAck)
    (ha : (w.handleDrainAck ctx now ack).2 = .ok ()) (later : Time) :
    ∃ d, (w.handleDrainAck ctx now ack).1.session.drain = some d ∧
      (recordDrainInput (w.handleDrainAck ctx now ack).1.session.ref d ack.status ack.activeStreams ack.code later = none ↔
        d.Open later) := by
  obtain ⟨hvalid, hidentity, d, hd⟩ := World.handleDrainAck_ok ha
  obtain ⟨hdrain, href⟩ := Effect.drain_same (w.next_effect rules (.handleDrainAck ctx now ack))
  refine ⟨d, hdrain.trans hd, ?_⟩
  rw [show (w.handleDrainAck ctx now ack).1.session.ref = w.session.ref from href]
  have hdrains := h.inv (I := fun s => ∀ d, s.drain = some d → Drains s d) (fun _ _ _ _ _ _ _ _ _ => nofun)
    fun _ _ _ _ => Drains.effect
  exact recordDrainInput_iff (hdrains d hd) hvalid hidentity

end

namespace Sample

def drain : Drain := live.session.drainRequest "drain_1" (now.add (5 * Duration.second)) true

def drained : World := (live.beginDrain none now now "drain_1" (now.add (5 * Duration.second)) true).1

theorem drained_reachable : Reachable rules drained :=
  live_reachable.next (.beginDrain none now now "drain_1" (now.add (5 * Duration.second)) true)

end Sample

open Sample

theorem outcome_recordable_in_time :
    let t := Sample.now.add (2 * Duration.second)
    let w := (drained.handleDrainAck none t (drain.ackOf .completed 0 .empty)).1
    ∃ d, w.session.drain = some d ∧ recordDrainInput w.session.ref d .completed 0 .empty t = none := by
  intro t w
  obtain ⟨d, hd, hiff⟩ := outcome_recordable_iff drained_reachable none t (drain.ackOf .completed 0 .empty)
    (by decide +kernel) t
  have hdrain : w.session.drain = some drain := by decide +kernel
  obtain rfl := Option.some.inj (hdrain.symm.trans hd)
  exact ⟨_, hd, hiff.2 (.inr ⟨by decide, by decide⟩)⟩

theorem forced_outcome_refused :
    let t := Sample.now.add (6 * Duration.second)
    let w := drained.handleDrainAck none t (drain.ackOf .forced 0 .drainTimeout)
    Reachable Sample.rules drained ∧ w.2 = .ok () ∧ w.1.session.drain = some drain ∧
      drain.forceAfterDeadline ∧
      recordDrainInput w.1.session.ref drain .forced 0 .drainTimeout t = some .invalidInput :=
  ⟨drained_reachable, by decide +kernel⟩

end Paperboat.Connector

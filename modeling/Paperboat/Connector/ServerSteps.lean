import Paperboat.Connector.Server
/-!
# What an operation can do to a session

`Change` lists every way an operation rewrites a live session, each with the
checks the operation has made on the way. `step_effect` is the only place that
looks at the operations' code: any step leaves the session alone, closes it, or
makes one of these changes. The invariants of sessions are case analyses over
`Change`.
-/

namespace Paperboat.Connector

open Lib ServerSession

variable {rules : PayloadRules} {s : ServerSession} {w : World}

namespace Ack

def positive (a : Ack) : Bool := a.status == .applied || a.status == .duplicate

def negative (a : Ack) : Bool := a.status == .rejected || a.status == .snapshotRequired

end Ack

def Readiness.complete (r : Readiness) : Bool := r.edgeReady && r.routeReady && r.originReady

inductive Change (rules : PayloadRules) (s : ServerSession) : ServerOp → Reply → ServerSession → Prop
  | refuseSnapshot {now ack pending err} (hp : s.pendingSnapshot = some pending) (kind : ack.kind = .snapshot)
      (generation : ack.generation = pending.generation) (hash : ack.contentHash = pending.contentHash)
      (negative : ack.negative) :
      Change rules s (.handleAck now ack) (.failed err) (refuse { s with pendingSnapshot := none })
  | stageSnapshot {now ack pending} (valid : ack.validate = none) (hp : s.pendingSnapshot = some pending)
      (kind : ack.kind = .snapshot) (generation : ack.generation = pending.generation)
      (hash : ack.contentHash = pending.contentHash) (positive : ack.positive) :
      Change rules s (.handleAck now ack) .done
        (stage { s with pendingSnapshot := none, needsSnapshot := false } pending)
  | refuseDelta {now ack pending err} (hn : s.pendingSnapshot = none) (hp : s.pendingDelta = some pending)
      (kind : ack.kind = .delta) (generation : ack.generation = pending.generation)
      (hash : ack.contentHash = pending.contentHash) (negative : ack.negative) :
      Change rules s (.handleAck now ack) (.failed err) (refuse { s with pendingDelta := none })
  | gapDelta {now ack pending} (hp : s.pendingDelta = some pending) (hn : s.pendingSnapshot = none)
      (ha : s.hasActive) (gap : ¬(pending.previousGeneration = s.active.generation ∧
        pending.previousContentHash = s.active.contentHash)) :
      Change rules s (.handleAck now ack) (.failed (codeError .generationGap .generationGap true none))
        { s with pendingDelta := none }
  | stageDelta {now ack pending} (valid : ack.validate = none) (hn : s.pendingSnapshot = none)
      (hp : s.pendingDelta = some pending) (kind : ack.kind = .delta) (generation : ack.generation = pending.generation)
      (hash : ack.contentHash = pending.contentHash) (positive : ack.positive) :
      Change rules s (.handleAck now ack) .done
        (stage { s with pendingDelta := none } (s.deltaSnapshot pending))
  | readied {now readiness target} (valid : readiness.validate = none) (ht : s.readyTarget = some target)
      (generation : readiness.generation = target.generation) (hash : readiness.contentHash = target.contentHash)
      (complete : readiness.complete) :
      Change rules s (.handleReadiness now readiness)
        (.ack (s.makeAck .ready .applied readiness.generation readiness.contentHash))
        { s.promote with needsSnapshot := false, readyGeneration := readiness.generation, state := .ready }
  | offered {now snapshot} (valid : snapshot.validate rules = none) (tunnel : snapshot.tunnelID = s.ref.tunnelID)
      (envelope : s.envelopeOk snapshot.accountID snapshot.connectorID snapshot.sessionID snapshot.processGeneration)
      (notStale : s.hasActive → s.active.generation < snapshot.generation)
      (notStaged : s.hasCandidate → snapshot.generation ≠ s.candidate.generation)
      (notPending : ∀ pending, s.pendingSnapshot = some pending → snapshot.generation ≠ pending.generation) :
      Change rules s (.offerSnapshot now snapshot) .done (s.propose snapshot)
  | deltaOffered {now delta} (valid : delta.validate rules = none) (ready : s.activeIsReady)
      (fresh : s.needsSnapshot = false) (hs : s.pendingSnapshot = none) (hd : s.pendingDelta = none)
      (hc : s.hasCandidate = false) (tunnel : delta.tunnelID = s.ref.tunnelID)
      (envelope : s.envelopeOk delta.accountID delta.connectorID delta.sessionID delta.processGeneration)
      (generation : delta.previousGeneration = s.active.generation)
      (hash : delta.previousContentHash = s.active.contentHash) :
      Change rules s (.offerDelta now delta) .done { s with pendingDelta := some (s.bindDelta delta) }
  | withdrawn {now heartbeat err} (ha : s.hasActive)
      (mismatch : ¬(heartbeat.lastAppliedGeneration = s.active.generation ∧
        heartbeat.lastAppliedHash = s.active.contentHash)) :
      Change rules s (.handleHeartbeat now heartbeat) (.failed err)
        { s with needsSnapshot := true, readyGeneration := 0, state := .awaitingSnapshot }
  | beat {now heartbeat ack} : Change rules s (.handleHeartbeat now heartbeat) (.heartbeat ack)
        { s with
          lastHeartbeatSentAt := heartbeat.sentAt
          lastHeartbeat := now.utc
          lease := { s.lease with expiresAt := s.heartbeatExpiry now.utc } }
  | drainBegun {now later drainID deadline force} (hn : s.drain = none) (ready : s.state = .ready)
      (valid : (s.drainRequest drainID deadline force).validate later.utc = none) :
      Change rules s (.beginDrain none now later drainID deadline force)
        (.drain (s.drainRequest drainID deadline force))
        { s with
          drain := some (s.drainRequest drainID deadline force)
          drainStatus := .accepted
          drainCode := .empty
          drainCompleted := false
          state := .draining }
  | drainAcked {now ack drain reply} (hd : s.drain = some drain) (open_ : s.drainCompleted = false)
      (notRejected : ack.status ≠ .rejected) (completed : Bool) :
      Change rules s (.handleDrainAck none now ack) reply (s.noteDrain ack completed)
  | drainRefused {now ack drain} (hd : s.drain = some drain) (open_ : s.drainCompleted = false)
      (id : ack.drainID = drain.drainID) (rejected : ack.status = .rejected) :
      Change rules s (.handleDrainAck none now ack) (.failed (codeError .drainRejected .snapshotRejected false none))
        (s.noteDrain ack true).restoreState
  | renewed {index now answer} (ticket : RenewalTicket) (result : AuthResult) (auth : s.auth = ticket.expected)
      (ref : s.ref = ticket.ref) (valid : result.validate ticket.now = none) (admits : ticket.admits result) :
      Change rules s (.renewCommit index now answer) (.auth { result with sessionID := ticket.ref.sessionID })
        { s with
          auth := { result with sessionID := ticket.ref.sessionID }
          lease := { s.lease with
            expiresAt := if (ticket.now.add s.server.leaseDuration).before result.leaseExpiresAt then
              ticket.now.add s.server.leaseDuration else result.leaseExpiresAt }
          lastHeartbeat := ticket.now }

inductive Effect (rules : PayloadRules) (s : ServerSession) (op : ServerOp) (reply : Reply) : ServerSession → Prop
  | idle : Effect rules s op reply s
  | closed (live : s.state ≠ .closed) (reason : DisconnectReason) : Effect rules s op reply (s.closeWith reason)
  | changed {s'} (live : s.state ≠ .closed) (change : Change rules s op reply s') : Effect rules s op reply s'

/-! ## The operations under the lock -/

theorem Ack.positive_or_negative {a : Ack} (h : a.validate = none) : a.positive ∨ a.negative := by
  unfold Ack.validate at h
  split at h
  · cases h
  · cases hs : a.status <;> simp_all [Ack.positive, Ack.negative]

theorem Ack.positive_iff {a : Ack} (h : a.validate = none) :
    a.positive ↔ a.status ≠ .snapshotRequired ∧ a.status ≠ .rejected := by
  have := Ack.positive_or_negative h
  cases hs : a.status <;> simp_all [Ack.positive, Ack.negative]

namespace ServerSession

variable {now : Time} {ack : Ack}

theorem refuse_eq (s : ServerSession) : s.refuse = { s with needsSnapshot := true, state := .awaitingSnapshot } := by
  simp [refuse, restoreState]

theorem ackSnapshot_effect {pending : Snapshot} (valid : ack.validate = none)
    (live : s.state ≠ .closed) (hp : s.pendingSnapshot = some pending) :
    Effect rules s (.handleAck now ack) (.of (fun _ => .done) (s.ackSnapshot pending ack).2)
      (s.ackSnapshot pending ack).1 := by
  unfold ackSnapshot
  split_ifs with hm hr hj
  · exact .idle
  all_goals simp only [Bool.or_eq_true, bne_iff_ne, ne_eq, not_or, not_not] at hm; obtain ⟨⟨hk, hg⟩, hh⟩ := hm
  · exact .changed live (.refuseSnapshot hp hk hg hh (by simp [Ack.negative, hr]))
  · exact .changed live (.refuseSnapshot hp hk hg hh (by simp [Ack.negative, hj]))
  · exact .changed live (.stageSnapshot valid hp hk hg hh ((Ack.positive_iff valid).2 ⟨hr, hj⟩))

theorem ackDelta_effect {pending : Delta} (valid : ack.validate = none)
    (live : s.state ≠ .closed) (hn : s.pendingSnapshot = none) (hp : s.pendingDelta = some pending) :
    Effect rules s (.handleAck now ack) (.of (fun _ => .done) (s.ackDelta pending ack).2)
      (s.ackDelta pending ack).1 := by
  unfold ackDelta
  split_ifs with hm hr hj hgap
  · exact .idle
  all_goals simp only [Bool.or_eq_true, bne_iff_ne, ne_eq, not_or, not_not] at hm; obtain ⟨⟨hk, hg⟩, hh⟩ := hm
  · exact .changed live (.refuseDelta hn hp hk hg hh (by simp [Ack.negative, hr]))
  · exact .changed live (.refuseDelta hn hp hk hg hh (by simp [Ack.negative, hj]))
  · simp only [Bool.and_eq_true, Bool.or_eq_true, bne_iff_ne, ne_eq] at hgap
    exact .changed live (.gapDelta hp hn hgap.1 fun h => hgap.2.elim (· h.1) (· h.2))
  · exact .changed live (.stageDelta valid hn hp hk hg hh ((Ack.positive_iff valid).2 ⟨hr, hj⟩))

theorem handleAck_effect (valid : ack.validate = none) (live : s.state ≠ .closed) :
    Effect rules s (.handleAck now ack) (.of (fun _ => .done) (s.handleAck ack).2) (s.handleAck ack).1 := by
  unfold handleAck
  split
  · exact .idle
  split
  · exact ackSnapshot_effect valid live ‹_›
  split
  · exact ackDelta_effect valid live ‹_› ‹_›
  · exact .idle

theorem handleReadiness_effect {readiness : Readiness} (valid : readiness.validate = none) (live : s.state ≠ .closed) :
    Effect rules s (.handleReadiness now readiness) (.of .ack (s.handleReadiness readiness).2)
      (s.handleReadiness readiness).1 := by
  unfold handleReadiness
  split
  · exact .idle
  split
  · exact .idle
  rename_i target ht
  split_ifs with hm hc
  · exact .idle
  · exact .idle
  simp only [Bool.or_eq_true, bne_iff_ne, ne_eq, not_or, not_not] at hm
  refine .changed live (.readied valid ht hm.1 hm.2 ?_)
  simpa [Readiness.complete, and_assoc] using hc

theorem sameGeneration_fst (s : ServerSession) (known offered : Snapshot) : (s.sameGeneration known offered).1 = s := by
  unfold sameGeneration
  split <;> rfl

theorem offerSnapshot_effect {snapshot : Snapshot} (valid : snapshot.validate rules = none) (live : s.state ≠ .closed) :
    Effect rules s (.offerSnapshot now snapshot) (.of (fun _ => .done) (s.offerSnapshot snapshot).2)
      (s.offerSnapshot snapshot).1 := by
  unfold offerSnapshot
  split_ifs with ht he hst hc ha
  · exact .idle
  · exact .idle
  · exact .idle
  · rw [sameGeneration_fst]; exact .idle
  · rw [sameGeneration_fst]; exact .idle
  split
  · rw [sameGeneration_fst]; exact .idle
  rename_i hp
  refine .changed live (.offered valid (by simpa using ht) (by simpa using he) ?_ ?_ ?_)
  · intro hact
    simp only [hact, Bool.true_and, decide_eq_true_eq, beq_iff_eq] at hst ha
    exact UInt64.lt_of_le_of_ne (UInt64.not_lt.1 hst) (Ne.symm ha)
  · intro hcand
    simpa [hcand] using hc
  · intro pending hpend
    simpa [hpend] using hp

theorem offerDelta_effect {delta : Delta} (valid : delta.validate rules = none) (live : s.state ≠ .closed) :
    Effect rules s (.offerDelta now delta) (.of (fun _ => .done) (s.offerDelta delta).2) (s.offerDelta delta).1 := by
  unfold offerDelta
  split_ifs with hr hp hm
  · exact .idle
  · exact .idle
  · exact .idle
  simp only [Bool.or_eq_true, Bool.not_eq_true', not_or, Bool.not_eq_false, Bool.not_eq_true, bne_iff_ne, ne_eq,
    not_not, Option.isSome_eq_false_iff, Option.isNone_iff_eq_none] at hr hp hm
  exact .changed live (.deltaOffered valid hr.1 hr.2 hp.1.1 hp.1.2 hp.2 hm.1.1.1 hm.1.1.2 hm.1.2 hm.2)

theorem handleHeartbeat_effect {heartbeat : Heartbeat} (live : s.state ≠ .closed) :
    Effect rules s (.handleHeartbeat now heartbeat) (.of .heartbeat (s.handleHeartbeat now.utc heartbeat).2)
      (s.handleHeartbeat now.utc heartbeat).1 := by
  unfold handleHeartbeat
  split_ifs
  iterate 4 exact .idle
  split
  · exact .idle
  rename_i expected he
  split_ifs with hm
  · by_cases ha : s.hasActive
    · obtain rfl : s.active = expected := by simpa [heartbeatTarget, ha] using he
      simp only [Bool.or_eq_true, bne_iff_ne, ne_eq] at hm
      rw [withdraw, if_pos ha]
      exact .changed live (.withdrawn ha fun h => hm.elim (· h.1) (· h.2))
    · rw [withdraw, if_neg ha]
      exact .idle
  · exact .changed live .beat

theorem beginDrain_effect {later : Time} {drainID : String} {deadline : Time} {force : Bool} (live : s.state ≠ .closed) :
    Effect rules s (.beginDrain none now later drainID deadline force)
      (.of .drain (s.beginDrain later.utc drainID deadline force).2)
      (s.beginDrain later.utc drainID deadline force).1 := by
  unfold beginDrain
  split
  · exact .idle
  split
  · split <;> exact .idle
  rename_i hn
  split_ifs with hr
  · exact .idle
  simp only [Bool.or_eq_true, bne_iff_ne, ne_eq, not_or, not_not] at hr
  dsimp only
  split
  · exact .idle
  · exact .changed live (.drainBegun hn hr.2 ‹_›)

theorem recordDrainAck_effect {ack : DrainAck} {drain : Drain} (live : s.state ≠ .closed)
    (hd : s.drain = some drain) (hid : ack.drainID = drain.drainID) (ho : s.drainCompleted = false) :
    Effect rules s (.handleDrainAck none now ack) (.of (fun _ => .done) (s.recordDrainAck ack).2)
      (s.recordDrainAck ack).1 := by
  unfold recordDrainAck
  split
  · exact .changed live (.drainAcked hd ho (by simp_all) _)
  · exact .changed live (.drainAcked hd ho (by simp_all) _)
  · exact .changed live (.drainAcked hd ho (by simp_all) true)
  · exact .changed live (.drainAcked hd ho (by simp_all) true)
  · exact .changed live (.drainRefused hd ho hid ‹_›)
  · exact .changed live (.drainAcked hd ho (by simp_all) _)

theorem handleDrainAck_effect {ack : DrainAck} (live : s.state ≠ .closed) :
    Effect rules s (.handleDrainAck none now ack) (.of (fun _ => .done) (s.handleDrainAck ack).2)
      (s.handleDrainAck ack).1 := by
  unfold handleDrainAck
  split
  · exact .idle
  split
  · exact .idle
  rename_i drain hf
  obtain ⟨hd, hid⟩ := Option.filter_eq_some_iff.1 hf
  split_ifs with hm hc
  · exact .idle
  · exact .idle
  · exact .idle
  · exact recordDrainAck_effect live hd (by simpa using hid) (by simpa using hc)

end ServerSession

/-! ## A step -/

namespace World

variable {op : ServerOp} {now : Time}

theorem close_session (w : World) (reason : DisconnectReason) :
    (w.close reason).session = if w.session.state = .closed then w.session else w.session.closeWith reason := by
  unfold close
  split <;> rfl

theorem close_effect {reply : Reply} (w : World) (reason : DisconnectReason) :
    Effect rules w.session op reply (w.close reason).session := by
  rw [close_session]
  split
  · exact .idle
  · exact .closed ‹_› reason

def ClosedAtMost (w w' : World) : Prop := w' = w ∨ ∃ reason, w' = w.close reason

theorem ClosedAtMost.effect {w' : World} {reply : Reply} (h : w.ClosedAtMost w') : Effect rules w.session op reply w'.session := by
  obtain rfl | ⟨reason, rfl⟩ := h
  · exact .idle
  · exact w.close_effect reason

theorem ensureActive_cases (w : World) (now : Time) : (w.ensureActive now = (w, none) ∧ w.session.state ≠ .closed) ∨
      ∃ w' err, w.ensureActive now = (w', some err) ∧ w.ClosedAtMost w' := by
  unfold ensureActive
  dsimp only
  split_ifs with hc
  · exact .inr ⟨_, _, rfl, .inl rfl⟩
  iterate 4 exact .inr ⟨_, _, rfl, .inr ⟨_, rfl⟩⟩
  exact .inl ⟨rfl, hc⟩

theorem call_cases {α : Type} (w : World) (refusal : Option Err) (now : Time) (body : ServerSession → ServerSession × Except Err α) :
    (∃ w' err, w.call refusal now body = (w', .error err) ∧ (refusal = some err ∨ (w.ensureActive now).2 = some err) ∧
      w.ClosedAtMost w') ∨ refusal = none ∧ (w.ensureActive now).2 = none ∧ w.session.state ≠ .closed ∧
      w.call refusal now body = ({ w with session := (body w.session).1 }, (body w.session).2) := by
  cases refusal with
  | some err => exact .inl ⟨w, err, rfl, .inl rfl, .inl rfl⟩
  | none =>
    obtain ⟨he, live⟩ | ⟨w', err, he, hw⟩ := w.ensureActive_cases now
    · exact .inr ⟨rfl, by rw [he], live, by simp only [call, locked, he]⟩
    · exact .inl ⟨w', err, by simp only [call, locked, he], .inr (by rw [he]), hw⟩

theorem call_effect {α : Type} {refusal : Option Err} (w : World) (good : α → Reply)
    (body : ServerSession → ServerSession × Except Err α) (h : refusal = none → w.session.state ≠ .closed →
      Effect rules w.session op (.of good (body w.session).2) (body w.session).1) :
    Effect rules w.session op (.of good (w.call refusal now body).2) (w.call refusal now body).1.session := by
  obtain ⟨w', err, he, -, hw⟩ | ⟨hr, -, live, he⟩ := w.call_cases refusal now body
  · rw [he]
    exact hw.effect
  · rw [he]
    exact h hr live

theorem renewBegin_effect {request : RenewalRequest} :
    Effect rules w.session (.renewBegin now request) (.of (fun _ => .done) (w.renewBegin now request).2)
      (w.renewBegin now request).1.session := by
  have h : Effect rules w.session (.renewBegin now request)
      (.of (fun _ => .done) (w.call (request.validateAt now.utc) now.utc (·.takeTicket now.utc request)).2)
      (w.call (request.validateAt now.utc) now.utc (·.takeTicket now.utc request)).1.session :=
    w.call_effect _ (·.takeTicket now.utc request) fun _ _ => by
      unfold takeTicket
      split <;> exact .idle
  unfold renewBegin
  split
  all_goals
    rename_i hc
    rw [hc] at h
    exact h

theorem renewCommit_cases (w : World) (index : Nat) (now : Time) (answer : Except Err AuthResult) :
    (∃ err, w.renewCommit index now answer = ({ w with renewals := w.renewals.eraseIdx index }, .error err)) ∨
      ∃ ticket result, w.renewals[index]? = some ticket ∧ answer = .ok result ∧ result.validate ticket.now = none ∧
        ticket.admits result ∧ w.renewCommit index now answer =
          World.call { w with renewals := w.renewals.eraseIdx index } none now.utc (·.commitRenewal ticket result) := by
  unfold renewCommit
  split
  · rename_i ht
    rw [List.eraseIdx_of_length_le (List.getElem?_eq_none_iff.1 ht)]
    exact .inl ⟨_, rfl⟩
  split
  · exact .inl ⟨_, rfl⟩
  split
  · exact .inl ⟨_, rfl⟩
  split_ifs with ha
  · exact .inl ⟨_, rfl⟩
  · exact .inr ⟨_, _, ‹_›, rfl, ‹_›, by simpa using ha, rfl⟩

theorem renewCommit_effect {index : Nat} {answer : Except Err AuthResult} :
    Effect rules w.session (.renewCommit index now answer) (.of .auth (w.renewCommit index now answer).2)
      (w.renewCommit index now answer).1.session := by
  obtain ⟨err, h⟩ | ⟨ticket, result, -, -, hv, ha, h⟩ := w.renewCommit_cases index now answer
  · rw [h]
    exact .idle
  · rw [h]
    exact call_effect { w with renewals := w.renewals.eraseIdx index } _ (·.commitRenewal ticket result) fun _ live => by
      unfold commitRenewal
      split
      · exact .idle
      rename_i h
      simp only [not_or, ne_eq, not_not] at h
      exact .changed live (.renewed ticket result h.1 h.2 hv ha)

theorem checkLease_effect : Effect rules w.session (.checkLease now) (.of (fun _ => .done) (w.checkLease now).2)
      (w.checkLease now).1.session := by
  unfold checkLease
  obtain ⟨he, -⟩ | ⟨w', err, he, hw⟩ := w.ensureActive_cases now
  · simp only [he]
    exact .idle
  · simp only [he]
    exact hw.effect

theorem closeSession_effect {reason : DisconnectReason} :
    Effect rules w.session (.close reason) (.of (fun _ => .done) (w.closeSession reason).2)
      (w.closeSession reason).1.session := by
  unfold closeSession
  split
  · exact .idle
  · exact w.close_effect reason

theorem step_effect (rules : PayloadRules) (w : World) (op : ServerOp) :
    Effect rules w.session op (w.step rules op).2 (w.step rules op).1.session := by
  cases op with
  | handleAck => exact w.call_effect _ _ handleAck_effect
  | handleReadiness => exact w.call_effect _ _ handleReadiness_effect
  | offerSnapshot =>
    exact w.call_effect _ _ fun h => offerSnapshot_effect (Option.map_eq_none_iff.1 h)
  | offerDelta =>
    exact w.call_effect _ _ fun h => offerDelta_effect (Option.map_eq_none_iff.1 h)
  | handleHeartbeat => exact w.call_effect _ _ fun _ => handleHeartbeat_effect
  | beginDrain ctx _ later drainID deadline force =>
    cases ctx with
    | some => exact .idle
    | none =>
      exact w.call_effect _ (·.beginDrain later.utc drainID deadline force) fun (_ : none = none) =>
        beginDrain_effect
  | handleDrainAck ctx _ ack =>
    cases ctx with
    | some => exact .idle
    | none => exact w.call_effect _ (·.handleDrainAck ack) fun _ => handleDrainAck_effect
  | renewBegin => exact renewBegin_effect
  | renewCommit => exact renewCommit_effect
  | checkLease => exact checkLease_effect
  | close => exact closeSession_effect
  | attach | disconnect => exact .idle

end World

end Paperboat.Connector

import Paperboat.Connector.LeaseBounds
/-!
# The time of the last heartbeat

A renewal counts as a sign of life from when it began, however long the authenticator
takes to answer. A heartbeat that is accepted meanwhile is later than that, so it is
forgotten when the renewal ends. On a clock that does not go back nothing else is:
the time goes back only with a renewal that was overtaken while it was in flight.
-/

namespace Paperboat.Connector

open Lib

section
variable {rules : PayloadRules} {w : World} {op : ServerOp}

theorem Effect.lastHeartbeat {s s' : ServerSession} {reply : Reply} (h : Effect rules s op reply s') :
    s'.lastHeartbeat = s.lastHeartbeat ∨ reply.isOk ∧
      ((∃ now heartbeat, op = .handleHeartbeat now heartbeat ∧ s'.lastHeartbeat = now.utc) ∨
        ∃ index now answer, op = .renewCommit index now answer) := by
  cases h with
  | idle | closed => exact .inl rfl
  | changed _ change =>
    cases change with
    | beat => exact .inr ⟨rfl, .inl ⟨_, _, rfl, rfl⟩⟩
    | renewed => exact .inr ⟨rfl, .inr ⟨_, _, _, rfl⟩⟩
    | readied =>
      refine .inl ?_
      unfold ServerSession.promote
      split <;> rfl
    | _ => exact .inl rfl

namespace World

theorem renewCommit_lastHeartbeat {index : Nat} {now : Time} {answer : Except Err AuthResult} {result : AuthResult}
    (h : (w.renewCommit index now answer).2 = .ok result) : ∃ ticket, w.renewals[index]? = some ticket ∧
      (w.renewCommit index now answer).1.session.lastHeartbeat = ticket.now := by
  obtain ⟨err, he⟩ | ⟨ticket, answered, ht, -, -, -, he⟩ := w.renewCommit_cases index now answer
  · rw [he] at h
    cases h
  rw [he] at h ⊢
  obtain ⟨-, hact, hb⟩ := World.call_ok h
  rw [World.call_eq_of_active hact]
  refine ⟨ticket, ht, ?_⟩
  unfold ServerSession.commitRenewal at hb ⊢
  split at hb
  · cases hb
  · rw [if_neg ‹_›]

theorem ClosedAtMost.renewals {w' : World} (h : w.ClosedAtMost w') : w'.renewals = w.renewals := by
  obtain rfl | ⟨reason, rfl⟩ := h
  · rfl
  · unfold close
    split <;> rfl

theorem call_renewals {α : Type} (w : World) (refusal : Option Err) (now : Time)
    (body : ServerSession → ServerSession × Except Err α) : (w.call refusal now body).1.renewals = w.renewals := by
  obtain ⟨w', err, he, -, hw⟩ | ⟨-, -, -, he⟩ := w.call_cases refusal now body
  · rw [he]
    exact hw.renewals
  · rw [he]

theorem renewCommit_renewals (w : World) (index : Nat) (now : Time) (answer : Except Err AuthResult) :
    (w.renewCommit index now answer).1.renewals = w.renewals.eraseIdx index := by
  obtain ⟨err, he⟩ | ⟨ticket, answered, -, -, -, -, he⟩ := w.renewCommit_cases index now answer
  · rw [he]
  · rw [he]
    exact call_renewals _ _ _ _

theorem renewBegin_renewals (w : World) (now : Time) (request : RenewalRequest) :
    (w.renewBegin now request).1.renewals = w.renewals ∨
      ∃ ticket : RenewalTicket, ticket.now = now.utc ∧ (w.renewBegin now request).1.renewals = w.renewals ++ [ticket] := by
  have hr := w.call_renewals (request.validateAt now.utc) now.utc (·.takeTicket now.utc request)
  unfold renewBegin
  cases hc : w.call (request.validateAt now.utc) now.utc (·.takeTicket now.utc request) with
  | mk w' reply =>
    rw [hc] at hr
    cases reply with
    | error => exact .inl hr
    | ok ticket =>
      obtain ⟨-, -, ht⟩ := World.call_ok (congrArg Prod.snd hc)
      refine .inr ⟨ticket, ?_, congrArg (· ++ [ticket]) hr⟩
      unfold ServerSession.takeTicket at ht
      split at ht
      · cases ht
        rfl
      · cases ht

end World

/-! ## The clock and the renewals in flight -/

/-- The last reading of the clock by a call. -/
def ServerOp.reading : ServerOp → Option Time
  | .handleAck now _ | .handleReadiness now _ | .offerSnapshot now _ | .offerDelta now _ | .handleHeartbeat now _
  | .beginDrain _ _ now _ _ _ | .handleDrainAck _ now _ | .renewBegin now _ | .renewCommit _ now _ | .checkLease now => some now
  | .close _ | .attach _ | .disconnect _ _ => none

/-- A session with the latest reading of its clock, and how many of the renewals in flight began before a heartbeat or
a renewal that has been accepted since. -/
structure Watch where
  world : World
  clock : Time
  overtaken : Nat

namespace Watch

def start (w : World) : Watch := ⟨w, w.session.lastHeartbeat, 0⟩

abbrev lastHeartbeat (v : Watch) : Time := v.world.session.lastHeartbeat

def next (rules : PayloadRules) (v : Watch) (op : ServerOp) : Watch where
  world := v.world.next rules op
  clock := op.reading.getD v.clock
  overtaken :=
    let accepted := (v.world.step rules op).2.isOk
    match op with
    | .handleHeartbeat .. => if accepted then v.world.renewals.length else v.overtaken
    -- the renewals are in the order they began
    | .renewCommit index .. =>
      if index < v.overtaken then v.overtaken - 1 else if accepted then index else v.overtaken
    | _ => v.overtaken

def ticks (v : Watch) (op : ServerOp) : Bool := op.reading.all fun now => !now.before v.clock

/-- A renewal that was overtaken is not accepted. -/
def inTurn (rules : PayloadRules) (v : Watch) (op : ServerOp) : Bool :=
  match op with
  | .renewCommit index .. => !(v.world.step rules op).2.isOk || decide (v.overtaken ≤ index)
  | _ => true

structure Inv (v : Watch) : Prop where
  beat : v.lastHeartbeat ≤ v.clock
  begun : ∀ ticket ∈ v.world.renewals, ticket.now ≤ v.clock
  order : v.world.renewals.Pairwise fun a b => a.now ≤ b.now
  fresh : ∀ i ticket, v.overtaken ≤ i → v.world.renewals[i]? = some ticket → v.lastHeartbeat ≤ ticket.now

variable {v : Watch}

theorem Inv.start (h : w.renewals = []) : (Watch.start w).Inv :=
  ⟨le_rfl, by simp [Watch.start, h], by simp [Watch.start, h], by simp [Watch.start, h]⟩

theorem clock_le (rules : PayloadRules) (h : v.ticks op) : v.clock ≤ (v.next rules op).clock := by
  unfold ticks at h
  change v.clock ≤ op.reading.getD v.clock
  cases hr : op.reading with
  | none => exact le_rfl
  | some now =>
    rw [hr] at h
    simp only [Option.all_some, Time.before, Bool.not_eq_true', decide_eq_false_iff_not] at h
    exact Int.not_lt.1 h

theorem Inv.kept (h : v.Inv) (ht : v.ticks op) (hr : (v.next rules op).world.renewals = v.world.renewals)
    (hb : (v.next rules op).lastHeartbeat ≤ (v.next rules op).clock)
    (ho : ∀ i < v.world.renewals.length, (v.next rules op).overtaken ≤ i →
      v.overtaken ≤ i ∧ (v.next rules op).lastHeartbeat = v.lastHeartbeat) : (v.next rules op).Inv where
  beat := hb
  begun ticket hm := (h.begun ticket (hr ▸ hm)).trans (clock_le rules ht)
  order := hr ▸ h.order
  fresh i ticket hi hmem := by
    rw [hr] at hmem
    obtain ⟨hle, hsame⟩ := ho i (List.getElem?_eq_some_iff.1 hmem).1 hi
    exact hsame.le.trans (h.fresh i ticket hle hmem)

theorem Inv.quiet (h : v.Inv) (ht : v.ticks op) (hb : (v.next rules op).lastHeartbeat = v.lastHeartbeat)
    (hr : (v.next rules op).world.renewals = v.world.renewals) (ho : (v.next rules op).overtaken = v.overtaken) :
    (v.next rules op).Inv :=
  h.kept ht hr (hb.le.trans (h.beat.trans (clock_le rules ht))) fun _ _ hi => ⟨ho ▸ hi, hb⟩

theorem Inv.heartbeat (h : v.Inv) {now : Time} {heartbeat : Heartbeat} (hop : op = .handleHeartbeat now heartbeat)
    (ht : v.ticks op) : (v.next rules op).Inv ∧ v.lastHeartbeat ≤ (v.next rules op).lastHeartbeat := by
  have hr : (v.next rules op).world.renewals = v.world.renewals := hop ▸ v.world.call_renewals _ _ _
  have hc := h.beat.trans (clock_le rules ht)
  obtain hb | ⟨hok, ⟨_, _, rfl, hb⟩ | ⟨_, _, _, rfl⟩⟩ := (v.world.step_effect rules op).lastHeartbeat
  · refine ⟨h.kept ht hr (hb.le.trans hc) fun i hlt hi => ⟨?_, hb⟩, hb.ge⟩
    subst hop
    simp only [next] at hi
    split at hi <;> omega
  · refine ⟨h.kept ht hr hb.le fun i hlt hi => ?_, hc.trans hb.ge⟩
    -- all that were in flight are overtaken
    simp only [next, hok, if_true] at hi
    omega
  · cases hop

theorem Inv.renewBegin (h : v.Inv) {now : Time} {request : RenewalRequest} (hop : op = .renewBegin now request) (ht : v.ticks op)
    (hb : (v.next rules op).lastHeartbeat = v.lastHeartbeat) : (v.next rules op).Inv := by
  have hc := clock_le rules ht
  subst hop
  obtain hr | ⟨ticket, hnow, hr⟩ := v.world.renewBegin_renewals now request
  · exact h.quiet ht hb hr rfl
  replace hr : (v.next rules (.renewBegin now request)).world.renewals = v.world.renewals ++ [ticket] := hr
  have hlast : ∀ t ∈ v.world.renewals, t.now ≤ ticket.now := fun t hm => ((h.begun t hm).trans hc).trans hnow.ge
  refine ⟨hb.le.trans (h.beat.trans hc), ?_, ?_, fun i t hi hmem => hb.le.trans ?_⟩
  · rw [hr]
    simp only [List.mem_append, List.mem_singleton]
    rintro t (hm | rfl)
    · exact (h.begun t hm).trans hc
    · exact hnow.le
  · rw [hr]
    exact List.pairwise_append.2 ⟨h.order, List.pairwise_singleton _ _, by simpa using hlast⟩
  · rw [hr, List.getElem?_append] at hmem
    split at hmem
    · exact h.fresh i t hi hmem
    · obtain rfl := List.mem_singleton.1 (List.mem_of_getElem? hmem)
      exact (h.beat.trans hc).trans hnow.ge

theorem Inv.renewCommit (h : v.Inv) {index : Nat} {now : Time} {answer : Except Err AuthResult}
    (hop : op = .renewCommit index now answer) (ht : v.ticks op) (hturn : v.inTurn rules op) :
    (v.next rules op).Inv ∧ v.lastHeartbeat ≤ (v.next rules op).lastHeartbeat := by
  have hc := clock_le rules ht
  subst hop
  have hr : (v.next rules (.renewCommit index now answer)).world.renewals = v.world.renewals.eraseIdx index :=
    v.world.renewCommit_renewals index now answer
  have hsub := List.eraseIdx_sublist v.world.renewals index
  have hbegun : ∀ t ∈ (v.next rules (.renewCommit index now answer)).world.renewals, t.now ≤ _ := fun t hm =>
    (h.begun t (hsub.mem (hr ▸ hm))).trans hc
  cases hreply : (v.world.renewCommit index now answer).2 with
  | error err =>
    have hb : (v.next rules (.renewCommit index now answer)).lastHeartbeat = v.lastHeartbeat := by
      obtain hb | ⟨hok, -⟩ := (v.world.step_effect rules (.renewCommit index now answer)).lastHeartbeat
      · exact hb
      · simp [World.step, hreply, Reply.of, Reply.isOk] at hok
    refine ⟨⟨hb.le.trans (h.beat.trans hc), hbegun, hr ▸ h.order.sublist hsub, fun i t hi hmem => hb.le.trans ?_⟩, hb.ge⟩
    simp only [next, World.step, hreply, Prod.map, Reply.of, Reply.isOk, Bool.false_eq_true, if_false] at hi
    rw [hr, List.getElem?_eraseIdx] at hmem
    split at hmem
    · exact h.fresh i t (by split at hi <;> omega) hmem
    · exact h.fresh (i + 1) t (by split at hi <;> omega) hmem
  | ok =>
    obtain ⟨ticket, hticket, hb⟩ := World.renewCommit_lastHeartbeat hreply
    replace hb : (v.next rules (.renewCommit index now answer)).lastHeartbeat = ticket.now := hb
    have hle : v.overtaken ≤ index := by simpa [inTurn, World.step, hreply, Reply.of, Reply.isOk] using hturn
    refine ⟨⟨hb.le.trans ((h.begun ticket (List.mem_of_getElem? hticket)).trans hc), hbegun, hr ▸ h.order.sublist hsub,
      fun i t hi hmem => hb.le.trans ?_⟩, (h.fresh index ticket hle hticket).trans hb.ge⟩
    -- those that are left behind the one that has ended began after it
    simp only [next, World.step, hreply, Prod.map, Reply.of, Reply.isOk, if_neg (Nat.not_lt.2 hle), if_true] at hi
    rw [hr, List.getElem?_eraseIdx, if_neg (Nat.not_lt.2 hi)] at hmem
    obtain ⟨hj, rfl⟩ := List.getElem?_eq_some_iff.1 hmem
    obtain ⟨hk, rfl⟩ := List.getElem?_eq_some_iff.1 hticket
    exact List.pairwise_iff_getElem.1 h.order _ _ hk hj (by omega)

theorem Inv.step (h : v.Inv) (ht : v.ticks op) (hturn : v.inTurn rules op) :
    (v.next rules op).Inv ∧ v.lastHeartbeat ≤ (v.next rules op).lastHeartbeat := by
  by_cases hbeat : ∃ now heartbeat, op = .handleHeartbeat now heartbeat
  · obtain ⟨_, _, hop⟩ := hbeat
    exact h.heartbeat hop ht
  by_cases hcommit : ∃ index now answer, op = .renewCommit index now answer
  · obtain ⟨_, _, _, hop⟩ := hcommit
    exact h.renewCommit hop ht hturn
  have hb : (v.next rules op).lastHeartbeat = v.lastHeartbeat := by
    obtain hb | ⟨-, ⟨_, _, hop, -⟩ | hop⟩ := (v.world.step_effect rules op).lastHeartbeat
    · exact hb
    · exact absurd ⟨_, _, hop⟩ hbeat
    · exact absurd hop hcommit
  refine ⟨?_, hb.ge⟩
  cases op with
  | handleHeartbeat => exact absurd ⟨_, _, rfl⟩ hbeat
  | renewCommit => exact absurd ⟨_, _, _, rfl⟩ hcommit
  | renewBegin => exact h.renewBegin rfl ht hb
  | attach | disconnect => exact h.quiet ht hb rfl rfl
  | checkLease now =>
    refine h.quiet ht hb ?_ rfl
    change (v.world.checkLease now).1.renewals = _
    unfold World.checkLease
    obtain ⟨he, -⟩ | ⟨w', err, he, hw⟩ := v.world.ensureActive_cases now
    · rw [he]
    · rw [he]
      exact hw.renewals
  | close reason =>
    refine h.quiet ht hb ?_ rfl
    change (v.world.closeSession reason).1.renewals = _
    unfold World.closeSession
    split
    · rfl
    · exact World.ClosedAtMost.renewals (.inr ⟨reason, rfl⟩)
  | _ => exact h.quiet ht hb (v.world.call_renewals _ _ _) rfl

end Watch

end

/-- While the clock does not go back and no renewal is accepted that was overtaken, the time of the last heartbeat
never goes back. -/
theorem last_heartbeat_monotone (rules : PayloadRules) (w : World) (hw : w.renewals = []) (ops : List ServerOp)
    (h : EachStep (Watch.next rules) (fun v op => v.ticks op ∧ v.inTurn rules op) (Watch.start w) ops) :
    EachStep (Watch.next rules) (fun v op => v.world.session.lastHeartbeat ≤ (v.world.next rules op).session.lastHeartbeat)
      (Watch.start w) ops :=
  eachStep_of_inv (fun _ _ hv hop => hv.step hop.1 hop.2) (Watch.Inv.start hw) h

namespace Sample

def beatAt (sent : Time) : ServerOp :=
  .handleHeartbeat sent ⟨"account_1", "session_1", "tunnel_1", "connector_1", 1, 1, (snapshot 1).contentHash, sent⟩

def answeredAt (now : Time) : ServerOp := .renewCommit 0 now (.ok { auth with sessionID := "session_1" })

end Sample

open Sample

/-- A heartbeat is accepted a second after a renewal has begun. Once the renewal has ended, the session times out a second
early. -/
theorem heartbeat_forgotten : Accepted rules (world (snapshot 1)) ∧
      let beaten := run (World.next rules) (world (snapshot 1)) [.renewBegin now renewalRequest, beatAt (now.add Duration.second)]
      let renewed := beaten.next rules (answeredAt (now.add Duration.second))
      let later := now.add (2 * defaultHeartbeat + Duration.second)
      beaten.session.lastHeartbeat = now.add Duration.second ∧ renewed.session.lastHeartbeat = now ∧
        (beaten.ensureActive later).2 = none ∧ (renewed.ensureActive later).1.session.disconnectReason = .heartbeatTimeout :=
  ⟨accepted, by decide +kernel⟩

/-- A renewal fails that a heartbeat has overtaken, and one is answered before the next heartbeat. -/
theorem last_heartbeat_monotone_answered :
    let second := fun n => now.add (n * Duration.second)
    let renewed := run (World.next rules) (world (snapshot 1)) [.renewBegin now renewalRequest, beatAt (second 1),
      .renewCommit 0 (second 2) (.error .invalidInput), .renewBegin (second 3) renewalRequest, answeredAt (second 4)]
    renewed.session.lastHeartbeat = second 3 ∧
      renewed.session.lastHeartbeat ≤ (renewed.next rules (beatAt (second 5))).session.lastHeartbeat :=
  have h := last_heartbeat_monotone rules (world (snapshot 1)) rfl
    [.renewBegin now renewalRequest, beatAt (now.add (1 * Duration.second)),
      .renewCommit 0 (now.add (2 * Duration.second)) (.error .invalidInput),
      .renewBegin (now.add (3 * Duration.second)) renewalRequest, answeredAt (now.add (4 * Duration.second)),
      beatAt (now.add (5 * Duration.second))] (by decide +kernel)
  ⟨by decide +kernel, h.2.2.2.2.2.1⟩

end Paperboat.Connector

import Paperboat.Connector.DrainRecords
/-!
# Sessions with a durable store

`PersistentServer` and `PersistentSession` wrap the calls of the server with records
in a store. A session is attached before its row is written, and whether a refusal is
recorded is decided before the session has looked at it.
-/

namespace Paperboat.Connector

open Lib

/-! ## Accepting -/

section Accepting
variable (rules : PayloadRules) (server : Server) (registry : SessionRegistry) (input : AcceptInput) (hello : Hello)
  (stored : Option Err)

/-- `PersistentServer.Accept`; `stored` is what `CreateConnectorSessionV1` fails with. -/
def acceptPersistent : SessionRegistry × Except Err (ServerSession × Welcome × Snapshot) :=
  match accept rules server registry input hello with
  | (registry', .error err) => (registry', .error err)
  | (registry', .ok accepted) =>
    match stored with
    | none => (registry', .ok accepted)
    | some err =>
      ((World.closeSession ⟨accepted.1, registry', []⟩ .protocolClosed).1.registry,
        .error (.wrap "create connector session" err))

structure Supersedes : Prop where
  admitted : ∃ auth snapshot sessionID, Admits rules server input hello auth snapshot sessionID
  previous : ∃ previous, registry hello.connectorID = some previous ∧ previous.tunnelID = hello.tunnelID ∧
    previous.processGeneration < hello.processGeneration

variable {rules server registry input hello stored}

def SessionRegistry.Yields (r : SessionRegistry) (ref : SessionRef) : Prop :=
  ∀ previous, r ref.connectorID = some previous → previous.tunnelID = ref.tunnelID ∧
    previous.processGeneration < ref.processGeneration

theorem SessionRegistry.attach_cases (r : SessionRegistry) {ref : SessionRef} (hv : ref.validate = none) :
    (¬r.Yields ref ∧ ∃ err, r.attach ref = (r, .error err)) ∨
      r.Yields ref ∧ ∃ result, r.attach ref = (r.set ref.connectorID (some ref), .ok result) := by
  unfold attach Yields
  rw [hv]
  cases r ref.connectorID with
  | none => exact .inr ⟨nofun, _, rfl⟩
  | some previous =>
    by_cases ht : previous.tunnelID = ref.tunnelID
    · by_cases hp : ref.processGeneration ≤ previous.processGeneration
      · exact .inl ⟨fun h => UInt64.not_lt.2 hp (h previous rfl).2, _, by simp [ht, hp]; rfl⟩
      · refine .inr ⟨fun _ he => Option.some.inj he ▸ ⟨ht, UInt64.not_le.1 hp⟩, _, by simp [ht, hp]; rfl⟩
    · exact .inl ⟨fun h => ht (h previous rfl).1, _, by simp [ht]; rfl⟩

theorem Admits.ref_valid {auth : AuthResult} {snapshot : Snapshot} {sessionID : String}
    (h : Admits rules server input hello auth snapshot sessionID) : (hello.ref sessionID).validate = none := by
  have hv := h.valid
  unfold Hello.validate at hv
  split at hv
  · cases hv
  · simp_all [SessionRef.validate, Hello.ref, h.named]

theorem Admits.closed {auth : AuthResult} {snapshot : Snapshot} {sessionID : String}
    (h : Admits rules server input hello auth snapshot sessionID) (hy : registry.Yields (hello.ref sessionID)) (err : Err) :
    acceptPersistent rules server registry input hello (some err) =
      (registry.set hello.connectorID none, .error (.wrap "create connector session" err)) := by
  obtain ⟨welcome, -, he⟩ := h.accept registry
  obtain ⟨hn, -⟩ | ⟨-, result, hat⟩ := registry.attach_cases h.ref_valid
  · exact absurd hy hn
  rw [hat] at he
  simp only [acceptPersistent, he, Except.map]
  refine Prod.ext (funext fun id => ?_) rfl
  have hr : validDisconnectReason .protocolClosed := by decide
  have hc : (registry.set (hello.ref sessionID).connectorID (some (hello.ref sessionID))) (hello.ref sessionID).connectorID =
      some (hello.ref sessionID) := if_pos rfl
  simp only [World.closeSession, hr, World.close, openSession, SessionRegistry.disconnect, h.ref_valid, hc]
  by_cases hid : id = hello.connectorID <;> simp [SessionRegistry.set, Hello.ref, hid]

/-- A call that fails leaves the registry as it was, unless the durable write of a session fails that has taken the
place of another. -/
theorem failed_accept_keeps_registry_iff (rules : PayloadRules) (server : Server) (registry : SessionRegistry)
    (input : AcceptInput) (hello : Hello) (stored : Option Err) :
    ((∃ err, (acceptPersistent rules server registry input hello stored).2 = .error err) →
      (acceptPersistent rules server registry input hello stored).1 = registry) ↔
    stored = none ∨ ¬Supersedes rules server registry input hello := by
  constructor
  · intro h
    by_contra hn
    obtain ⟨hst, hsup⟩ := not_or.1 hn
    obtain ⟨err, rfl⟩ := Option.ne_none_iff_exists'.1 hst
    obtain ⟨⟨auth, snapshot, sessionID, ha⟩, previous, hp, hy⟩ := not_not.1 hsup
    rw [ha.closed (fun _ he => Option.some.inj (hp.symm.trans he) ▸ hy) err] at h
    have hgone := congrFun (h ⟨_, rfl⟩) hello.connectorID
    simp [SessionRegistry.set, hp] at hgone
  · rintro h ⟨err, he⟩
    obtain ⟨_, hacc⟩ | ⟨auth, snapshot, sessionID, ha⟩ := accept_cases rules server registry input hello
    · rw [acceptPersistent, hacc]
    obtain ⟨welcome, -, hacc⟩ := ha.accept registry
    obtain ⟨-, _, hat⟩ | ⟨hy, _, hat⟩ := registry.attach_cases ha.ref_valid
    · rw [acceptPersistent, hacc, hat]
      rfl
    cases stored with
    | none =>
      rw [acceptPersistent, hacc, hat] at he
      cases he
    | some err =>
      rw [ha.closed hy err]
      refine funext fun id => ?_
      by_cases hid : id = hello.connectorID
      · subst hid
        cases hp : registry hello.connectorID with
        | none => exact if_pos rfl
        | some previous => exact absurd ⟨⟨_, _, _, ha⟩, previous, hp, hy previous hp⟩ (h.resolve_left nofun)
      · exact if_neg hid

end Accepting

open Sample in
/-- The next process of a connector says hello, and its row is not written: the first one's session is gone from the
registry, too. -/
theorem failed_accept_evicts_session :
    let registry := SessionRegistry.set .new "connector_1" (some ref)
    let input := { acceptInput (snapshot 1) with
      authenticate := .ok { auth with processGeneration := 2 }, sessionID := .ok "session_2" }
    let next := { hello with processGeneration := 2, auth := { authRequest with processGeneration := 2 } }
    let r := acceptPersistent rules server registry input next (some (.text "connection refused"))
    r.2 = .error (.wrap "create connector session" (.text "connection refused")) ∧ registry "connector_1" = some ref ∧
      r.1 "connector_1" = none ∧ ((World.mk (session (snapshot 1)) registry []).ensureActive now).2 = none ∧
      ((World.mk (session (snapshot 1)) r.1 []).ensureActive now).2 =
        some (codeError .staleSession .sessionReplaced false none) := by
  decide +kernel

/-! ## Refusals -/

structure StoreAnswer where
  (recorded disconnected : Option Err)

structure Recording (α : Type) where
  asked : Option α
  world : World
  reply : Except Err Unit

namespace ServerSession
variable (s : ServerSession)

def offers (ack : Ack) : Bool :=
  match s.pendingSnapshot, s.pendingDelta with
  | some pending, _ => ack.kind == .snapshot && ack.generation == pending.generation && ack.contentHash == pending.contentHash
  | none, some pending => ack.kind == .delta && ack.generation == pending.generation && ack.contentHash == pending.contentHash
  | none, none => false

def canPersistNegativeAck (ack : Ack) : Bool :=
  ack.negative && ack.validate.isNone &&
    s.matchesIdentity ack.accountID ack.tunnelID ack.connectorID ack.sessionID ack.processGeneration && s.offers ack

def canPersistNegativeDrainAck (ack : DrainAck) : Bool :=
  ack.status == .rejected && ack.validate.isNone && s.drain.any fun drain =>
    s.matchesIdentity ack.accountID ack.tunnelID ack.connectorID ack.sessionID ack.processGeneration &&
      ack.drainID == drain.drainID && ack.generation == drain.generation && ack.contentHash == drain.contentHash

end ServerSession

namespace World

def failClosed (w : World) (primary : Err) (answer : StoreAnswer) : World × Except Err Unit :=
  ((w.closeSession .protocolClosed).1,
    .error (codeError .sessionConflict .protocolClosed false (some (answer.disconnected.elim primary (.join primary)))))

/-- How `HandleAck` and `HandleDrainAck` go on from what the session says: a failure is recorded if `negative`. -/
def record {α : Type} (r : World × Except Err Unit) (negative : Bool) (ask : α) (answer : StoreAnswer) : Recording α :=
  if negative || r.2.toBool then
    match answer.recorded with
    | none => ⟨some ask, r.1, r.2⟩
    | some persistErr =>
      let closed := r.1.failClosed (match r.2 with | .error err => .join err persistErr | .ok () => persistErr) answer
      ⟨some ask, closed.1, closed.2⟩
  else ⟨none, r.1, r.2⟩

variable (w : World) (ctx : Option Err) (now : Time) (answer : StoreAnswer)

/-- `PersistentSession.HandleAck`, which asks for `RecordApplied`. -/
def handleAckPersistent (ack : Ack) : Recording (SessionRef × Ack) :=
  record (w.handleAck now ack) (w.session.canPersistNegativeAck ack) (w.session.ref, ack) answer

/-- `PersistentSession.HandleDrainAck`, which asks for `RecordDrain`. -/
def handleDrainAckPersistent (ack : DrainAck) : Recording (SessionRef × Option Drain × DrainAck) :=
  record (w.handleDrainAck ctx now ack) (w.session.canPersistNegativeDrainAck ack) (w.session.ref, w.session.drain, ack) answer

def Consumes (ack : Ack) : Prop :=
  w.session.offers ack ∧ (w.handleAck now ack).1.session.offers ack = false

/-- The call moves the drain, which was not completed, to `rejected`. -/
def ConsumesDrain (ack : DrainAck) : Prop :=
  w.session.drainCompleted = false ∧ (w.handleDrainAck ctx now ack).1.session.drainCompleted ∧
    (w.handleDrainAck ctx now ack).1.session.drainStatus = .rejected

/-- The session is open and registered, and neither its credential nor its lease nor its heartbeat has run out. -/
def Entitled : Prop :=
  let s := w.session
  s.state ≠ .closed ∧ w.registry.active s.ref.connectorID = some s.ref ∧ s.auth.credentialExpiresAt.after now ∧
    s.lease.expiresAt.after now ∧ (s.lastHeartbeat.isZero = false →
      now.sub s.lastHeartbeat ≤ 2 * (s.lease.heartbeatIntervalMS.toNat : Int) * Duration.millisecond)

variable {w ctx now answer}

theorem ensureActive_iff : (w.ensureActive now).2 = none ↔ w.Entitled now := by
  unfold ensureActive Entitled
  dsimp only
  split_ifs with hc hr ha hl hb
  all_goals grind

section
variable {α : Type} {refusal : Option Err} {body : ServerSession → ServerSession × Except Err Unit} {can : Bool} {negative : Prop}
  {C : ServerSession → Prop}

/-- A call that asks the store to record a refusal `can` allows has consumed it exactly if it has run and its body has. -/
theorem recorded_iff (ask : α) (answer : StoreAnswer) (hcan : can → negative)
    (hkept : ∀ w', w.ClosedAtMost w' → can → ¬C w'.session)
    (hok : refusal = none → (body w.session).2 = .ok () → negative → can) :
    ((record (w.call refusal now body) can ask answer).asked.isSome → negative →
        C (w.call refusal now body).1.session) ↔
      (can → refusal = none ∧ (w.ensureActive now).2 = none ∧ C (body w.session).1) := by
  have hasked {r : World × Except Err Unit} : (record r can ask answer).asked.isSome ↔ can ∨ r.2 = .ok () := by
    obtain ⟨w', _ | ⟨⟩⟩ := r <;> unfold record <;> cases can <;> cases answer.recorded <;> simp [Except.toBool]
  rw [hasked]
  obtain ⟨w', err, he, hcause, hcl⟩ | ⟨href, hact, -, he⟩ := w.call_cases refusal now body
  · rw [he]
    constructor
    · exact fun h hc => absurd (h (.inl hc) (hcan hc)) (hkept w' hcl hc)
    · rintro h (hc | hr) -
      · obtain ⟨hn, ha, -⟩ := h hc
        rcases hcause with hr | hr
        · cases hn.symm.trans hr
        · cases ha.symm.trans hr
      · cases hr
  · rw [he]
    constructor
    · exact fun h hc => ⟨href, hact, h (.inl hc) (hcan hc)⟩
    · exact fun h hr hn => (h (hr.elim id fun hr => hok href hr hn)).2.2

end

theorem ClosedAtMost.keeps {w' : World} (h : w.ClosedAtMost w') : w'.session.pendingSnapshot = w.session.pendingSnapshot ∧
    w'.session.pendingDelta = w.session.pendingDelta ∧ w'.session.drainCompleted = w.session.drainCompleted := by
  obtain rfl | ⟨reason, rfl⟩ := h
  · exact ⟨rfl, rfl, rfl⟩
  · unfold close
    split <;> exact ⟨rfl, rfl, rfl⟩

end World

namespace ServerSession
variable {s : ServerSession}

theorem handleAck_consumes {ack : Ack} (h : s.canPersistNegativeAck ack) : (s.handleAck ack).1.offers ack = false := by
  unfold canPersistNegativeAck offers at h
  unfold handleAck
  cases hs : s.pendingSnapshot with
  | some pending =>
    simp only [hs, Bool.and_eq_true, beq_iff_eq, Ack.negative, Bool.or_eq_true] at h
    obtain ⟨⟨⟨hn, -⟩, hm⟩, ⟨hk, hg⟩, hc⟩ := h
    rcases hn with hn | hn
    all_goals
      simp only [hm, ackSnapshot, hk, hg, hc, hn, refuse, restoreState, offers]
      cases s.pendingDelta <;> simp
  | none =>
    cases hd : s.pendingDelta with
    | none => simp [hs, hd] at h
    | some pending =>
      simp only [hs, hd, Bool.and_eq_true, beq_iff_eq, Ack.negative, Bool.or_eq_true] at h
      obtain ⟨⟨⟨hn, -⟩, hm⟩, ⟨hk, hg⟩, hc⟩ := h
      rcases hn with hn | hn <;> simp [hm, ackDelta, hk, hg, hc, hn, refuse, restoreState, offers, hs]

theorem handleAck_ok {ack : Ack} (h : (s.handleAck ack).2 = .ok ()) : ack.negative = false := by
  have hst : ack.status ≠ .snapshotRequired ∧ ack.status ≠ .rejected := by
    unfold handleAck ackSnapshot ackDelta ackRepeated at h
    split at h
    · cases h
    split at h
    · split_ifs at h
      exact ⟨‹_›, ‹_›⟩
    split at h
    · split_ifs at h
      exact ⟨‹_›, ‹_›⟩
    · split_ifs at h with hd
      all_goals simp [hd]
  simp [Ack.negative, hst]

theorem handleDrainAck_rejected {ack : DrainAck} (h : s.canPersistNegativeDrainAck ack) (ho : s.drainCompleted = false) :
    (s.handleDrainAck ack).1.drainCompleted ∧ (s.handleDrainAck ack).1.drainStatus = .rejected := by
  simp only [canPersistNegativeDrainAck, Bool.and_eq_true, beq_iff_eq, Option.any_eq_true] at h
  obtain ⟨⟨hst, -⟩, drain, hd, ⟨⟨hm, hid⟩, hg⟩, hc⟩ := h
  have hf : s.drain.filter (fun drain => ack.drainID == drain.drainID) = some drain := by simp [hd, hid]
  simp [handleDrainAck, hm, hf, hg, hc, ho, recordDrainAck, hst, noteDrain, restoreState]

theorem handleDrainAck_ok {ack : DrainAck} (hv : ack.validate = none) (hst : ack.status = .rejected)
    (h : (s.handleDrainAck ack).2 = .ok ()) : s.canPersistNegativeDrainAck ack := by
  unfold handleDrainAck at h
  split at h
  · cases h
  split at h
  · cases h
  rename_i hm _ drain hf
  obtain ⟨hd, hid⟩ := Option.filter_eq_some_iff.1 hf
  split_ifs at h with hg
  all_goals simp_all [canPersistNegativeDrainAck]

end ServerSession

namespace World

/-- What is recorded of a refusal has been consumed by the call that records it, as long as the session may still run:
the check before the store does not look at the entitlement, the context or the drain's end. -/
theorem negative_ack_recorded_iff_consumed (w : World) (ctx : Option Err) (now : Time) (answer : StoreAnswer) (ack : Ack)
    (drainAck : DrainAck) :
    (((w.handleAckPersistent now answer ack).asked.isSome → ack.negative → w.Consumes now ack) ↔
      (w.session.canPersistNegativeAck ack → w.Entitled now.utc)) ∧
    (((w.handleDrainAckPersistent ctx now answer drainAck).asked.isSome → drainAck.status = .rejected →
        w.ConsumesDrain ctx now drainAck) ↔
      (w.session.canPersistNegativeDrainAck drainAck →
        ctx = none ∧ w.Entitled now.utc ∧ w.session.drainCompleted = false)) := by
  rw [← ensureActive_iff]
  constructor
  · have hp : w.session.canPersistNegativeAck ack →
        ack.negative ∧ ack.validate = none ∧ w.session.offers ack := by
      simp only [ServerSession.canPersistNegativeAck, Bool.and_eq_true, Option.isNone_iff_eq_none]
      exact fun h => ⟨h.1.1.1, h.1.1.2, h.2⟩
    refine (recorded_iff (C := fun s => w.session.offers ack = true ∧ s.offers ack = false) (w.session.ref, ack) answer
      (fun h => (hp h).1) (fun w' hcl _ => ?_) fun _ hok hn => ?_).trans ?_
    · rw [ServerSession.offers, ServerSession.offers, hcl.keeps.1, hcl.keeps.2.1]
      simp
    · simp [ServerSession.handleAck_ok hok] at hn
    · refine forall_congr' fun h => ⟨fun hr => hr.2.1, fun ha => ⟨(hp h).2.1, ha, (hp h).2.2, ?_⟩⟩
      exact ServerSession.handleAck_consumes h
  · have hp : w.session.canPersistNegativeDrainAck drainAck → drainAck.status = .rejected ∧ drainAck.validate = none := by
      simp only [ServerSession.canPersistNegativeDrainAck, Bool.and_eq_true, Option.isNone_iff_eq_none, beq_iff_eq]
      exact fun h => h.1
    refine (recorded_iff (C := fun s => w.session.drainCompleted = false ∧ s.drainCompleted = true ∧
      s.drainStatus = .rejected) (w.session.ref, w.session.drain, drainAck) answer (fun h => (hp h).1) (fun w' hcl _ => ?_)
      fun href hok hst => ServerSession.handleDrainAck_ok (Option.or_eq_none_iff.1 href).2 hst hok).trans ?_
    · rw [hcl.keeps.2.2]
      rintro ⟨ho, hc, -⟩
      cases ho.symm.trans hc
    · refine forall_congr' fun h => ?_
      simp only [Option.or_eq_none_iff, canceled, Option.map_eq_none_iff, (hp h).2, and_true]
      exact and_congr_right fun _ => and_congr_right fun _ =>
        ⟨fun hr => hr.1, fun ho => ⟨ho, ServerSession.handleDrainAck_rejected h ho⟩⟩

end World

open Sample in
theorem refusal_recorded_not_consumed :
    let closed := run (World.next rules) live [offer 2, .close .protocolClosed]
    let ack : Ack := ⟨"account_1", "tunnel_1", "connector_1", "session_1", 1, .snapshot, .rejected, 2, (snapshot 2).contentHash,
      .snapshotRejected⟩
    let refusal := drain.ackOf .rejected 0 .drainRejected
    let rejected := drained.next rules (.handleDrainAck none now refusal)
    Reachable rules closed ∧ Reachable rules rejected ∧
      (closed.handleAckPersistent now ⟨none, none⟩ ack).asked.isSome ∧ ack.negative ∧
      (closed.handleAck now ack).1.session.offers ack ∧
      (rejected.handleDrainAckPersistent none now ⟨none, none⟩ refusal).asked.isSome ∧
      rejected.session.drainCompleted :=
  ⟨live_reachable.run _, drained_reachable.next _, by decide +kernel⟩

end Paperboat.Connector

import Paperboat.Connector.PreparedConfigs
import Paperboat.Connector.Traffic
/-!
# Leases of the two sides

The server sets a session's lease when it accepts the connector, on every
heartbeat and on every renewal, and tells the connector in a `Welcome`, a
`HeartbeatAck` or the `AuthResult` of the renewal. Its own lease never outlives
the credential.

The connector takes its lease from those messages. `Accept` and
`HandleHeartbeat` report the lease they store. `Renew` stores the authenticator's
lease cut to the configured duration, counted from the start of the call, but
returns the authenticator's result as it is: a connector that installs it holds a
longer lease than the server.
-/

namespace Paperboat.Connector

open Lib ClientSession

/-! ## The server's lease and the credential -/

theorem AuthResult.lease_le {a : AuthResult} {now : Time} (h : a.validate now = none) :
    a.leaseExpiresAt ≤ a.credentialExpiresAt := by
  unfold AuthResult.validate at h
  split_ifs at h with hi hs hl
  simp only [Bool.or_eq_true, not_or, Bool.not_eq_true, Time.after_eq_false] at hl
  exact hl.2

section Server
variable {rules : PayloadRules} {s s' : ServerSession} {w : World} {op : ServerOp} {reply : Reply}

theorem Effect.lease (h : Effect rules s op reply s') :
    (∃ ack, reply = .heartbeat ack) ∨ (∃ result, reply = .auth result) ∨ (s'.lease = s.lease ∧ s'.auth = s.auth) := by
  cases h with
  | idle | closed => exact .inr (.inr ⟨rfl, rfl⟩)
  | changed _ change =>
    cases change with
    | beat => exact .inl ⟨_, rfl⟩
    | renewed => exact .inr (.inl ⟨_, rfl⟩)
    | readied =>
      refine .inr (.inr ?_)
      unfold ServerSession.promote
      split <;> exact ⟨rfl, rfl⟩
    | _ => exact .inr (.inr ⟨rfl, rfl⟩)

theorem Effect.lease_le (hi : s.lease.expiresAt ≤ s.auth.credentialExpiresAt) (h : Effect rules s op reply s') :
    s'.lease.expiresAt ≤ s'.auth.credentialExpiresAt := by
  rcases h.lease with ⟨ack, rfl⟩ | ⟨result, rfl⟩ | ⟨hl, ha⟩
  · cases h with
    | idle | closed => exact hi
    | changed _ change =>
      cases change with
      | beat =>
        unfold ServerSession.heartbeatExpiry
        split
        · exact le_refl _
        · rename_i hb
          exact Int.not_lt.1 fun hlt => hb ((Time.before_iff _ _).2 hlt)
      | drainAcked => exact hi
  · cases h with
    | idle | closed => exact hi
    | changed _ change =>
      cases change with
      | drainAcked => exact hi
      | renewed _ result _ _ valid =>
        have hv := AuthResult.lease_le valid
        split
        · rename_i hb
          exact le_trans (Int.le_of_lt ((Time.before_iff _ _).1 hb) : _ ≤ result.leaseExpiresAt) hv
        · exact hv
  · rwa [hl, ha]

theorem Reachable.lease_le (h : Reachable rules w) : w.session.lease.expiresAt ≤ w.session.auth.credentialExpiresAt := by
  refine h.inv (I := fun s => s.lease.expiresAt ≤ s.auth.credentialExpiresAt) ?_ fun _ _ _ _ hi he => he.lease_le hi
  intro server ref auth welcome snapshot now _ ha hl
  show welcome.lease.expiresAt ≤ auth.credentialExpiresAt
  rw [hl]
  refine le_trans ?_ (AuthResult.lease_le ha)
  unfold grantLease
  split
  · rename_i hb
    exact Int.le_of_lt ((Time.before_iff _ _).1 hb)
  · exact le_refl _

/-! ## What the server reports -/

theorem ServerSession.handleHeartbeat_lease {now : Time} {heartbeat : Heartbeat} {ack : HeartbeatAck}
    (h : (s.handleHeartbeat now heartbeat).2 = .ok ack) :
    (s.handleHeartbeat now heartbeat).1.lease.expiresAt = ack.leaseExpiresAt := by
  unfold handleHeartbeat at h ⊢
  split_ifs at h ⊢
  split at h
  · cases h
  split_ifs at h ⊢
  cases h
  rfl

theorem World.handleHeartbeat_lease {now : Time} {heartbeat : Heartbeat} {ack : HeartbeatAck}
    (h : (w.handleHeartbeat now heartbeat).2 = .ok ack) :
    (w.handleHeartbeat now heartbeat).1.session.lease.expiresAt = ack.leaseExpiresAt := by
  obtain ⟨hv, ha, hb⟩ := World.call_ok h
  unfold handleHeartbeat
  rw [hv, World.call_eq_of_active ha]
  exact ServerSession.handleHeartbeat_lease hb

theorem World.renewCommit_lease {index : Nat} {now : Time} {answer : Except Err AuthResult} {result : AuthResult}
    (h : (w.renewCommit index now answer).2 = .ok result) :
    ∃ ticket answered, w.renewals[index]? = some ticket ∧ answer = .ok answered ∧
      result.leaseExpiresAt = answered.leaseExpiresAt ∧
      (w.renewCommit index now answer).1.session.lease.expiresAt =
        if (ticket.now.add w.session.server.leaseDuration).before answered.leaseExpiresAt then
          ticket.now.add w.session.server.leaseDuration else answered.leaseExpiresAt := by
  obtain ⟨err, he⟩ | ⟨ticket, answered, ht, ha, -, -, he⟩ := w.renewCommit_cases index now answer
  · rw [he] at h
    cases h
  · rw [he] at h ⊢
    obtain ⟨-, hact, hb⟩ := World.call_ok h
    rw [World.call_eq_of_active hact]
    refine ⟨ticket, answered, ht, ha, ?_⟩
    unfold ServerSession.commitRenewal at hb ⊢
    split at hb
    · cases hb
    rename_i hx
    rw [if_neg hx]
    cases hb
    exact ⟨rfl, rfl⟩

end Server

/-! ## What the connector installs -/

def ClientOp.takesLease : ClientOp → Bool
  | .acceptWelcome .. | .acceptHeartbeatAck .. | .applyRenewal .. => true
  | _ => false

namespace ClientSession

variable {c c' : ClientSession} {now : Time}

theorem finishApply_lease (c : ClientSession) (now : Time) (o : PrepareOutcome) (code : Code) (kind : AckKind)
    (candidate : Snapshot) (needs : Bool) : (c.finishApply now o code kind candidate needs).1.lease = c.lease := by
  unfold finishApply
  split
  · rfl
  · exact (kept_of_ensureActive ‹_›).lease
  · split <;> rfl

theorem markReadyFinish_lease (c : ClientSession) (now : Time) (o : ActivateOutcome) :
    (c.markReadyFinish now o).1.lease = c.lease := by
  unfold markReadyFinish
  split
  · unfold finishReady
    split
    · dsimp only
      split <;> rfl
    · rename_i ha
      exact (kept_of_ensureActive ha).lease.trans rfl
    · split <;> rfl
  · rfl

/-! A welcome, an acknowledged heartbeat or a renewal leaves the lease it carries,
or is refused. -/

theorem acceptWelcome_lease (c : ClientSession) (now later : Time) (welcome : Welcome) :
    ((c.acceptWelcome now later welcome).2 = none ∧
      (c.acceptWelcome now later welcome).1.lease.expiresAt = welcome.lease.expiresAt) ∨
      ((c.acceptWelcome now later welcome).2 ≠ none ∧ (c.acceptWelcome now later welcome).1.lease = c.lease) := by
  unfold acceptWelcome
  split
  · exact .inr ⟨by simp, rfl⟩
  split_ifs
  · exact .inr ⟨by simp, rfl⟩
  · exact .inr ⟨by simp, rfl⟩
  split
  · exact .inr ⟨by simp, rfl⟩
  split
  · exact .inr ⟨by simp, rfl⟩
  · exact .inl ⟨rfl, rfl⟩

theorem acceptHeartbeatAck_lease (c : ClientSession) (now : Time) (ack : HeartbeatAck) :
    ((c.acceptHeartbeatAck now ack).2 = none ∧ (c.acceptHeartbeatAck now ack).1.lease.expiresAt = ack.leaseExpiresAt) ∨
      ((c.acceptHeartbeatAck now ack).2 ≠ none ∧ (c.acceptHeartbeatAck now ack).1.lease = c.lease) := by
  unfold acceptHeartbeatAck
  split
  · exact .inr ⟨by simp, rfl⟩
  · exact .inr ⟨by simp, (kept_of_ensureActive ‹_›).lease⟩
  split
  · exact .inr ⟨by simp, rfl⟩
  · exact .inl ⟨rfl, rfl⟩

theorem applyRenewal_lease (c : ClientSession) (now : Time) (result : AuthResult) :
    ((c.applyRenewal now result).2 = none ∧ (c.applyRenewal now result).1.lease.expiresAt ≤ result.leaseExpiresAt) ∨
      ((c.applyRenewal now result).2 ≠ none ∧ (c.applyRenewal now result).1.lease = c.lease) := by
  unfold applyRenewal
  split
  · exact .inr ⟨by simp, rfl⟩
  · exact .inr ⟨by simp, (kept_of_ensureActive ‹_›).lease⟩
  split_ifs with hf hb he
  · exact .inr ⟨by simp, rfl⟩
  · exact .inr ⟨by simp, rfl⟩
  · -- nothing new: the session has this very lease already
    simp only [Bool.and_eq_true, Time.equal_iff] at he
    exact .inl ⟨rfl, Int.le_of_eq he.2.symm⟩
  · exact .inl ⟨rfl, le_refl _⟩

end ClientSession

namespace Client

variable {k : Client}

theorem locked_lease (k : Client) (call : ClientSession → ClientSession × ClientReply)
    (h : (call k.session).1.lease = k.session.lease) : (k.locked call).1.session.lease = k.session.lease := by
  rcases k.locked_cases call with ⟨-, hl⟩ | ⟨-, hl⟩
  · rwa [hl]
  · rw [hl]

theorem next_lease (rules : PayloadRules) (k : Client) {op : ClientOp} (hop : op.takesLease = false) :
    (k.next rules op).session.lease = k.session.lease := by
  cases op with
  | acceptWelcome | acceptHeartbeatAck | applyRenewal => cases hop
  | applySnapshot now ctx snapshot =>
    refine k.locked_lease _ ?_
    rcases applySnapshotBegin_moves rules k.session now ctx snapshot with hk | ⟨hc, -⟩
    · exact hk.lease
    · exact congrArg (·.lease) hc
  | applyDelta now ctx delta =>
    refine k.locked_lease _ ?_
    rcases applyDeltaBegin_moves rules k.session now ctx delta with hk | ⟨hc, -⟩
    · exact hk.lease
    · exact congrArg (·.lease) hc
  | prepared =>
    change (k.session.applyFinish _ _).1.lease = _
    unfold applyFinish
    split
    · exact finishApply_lease ..
    · exact finishApply_lease ..
    · rfl
  | markReady now ctx edge route origin =>
    simp only [next, step]
    split
    · rfl
    rcases k.session.markReadyBegin_moves now ctx edge route origin with hk | ⟨_, hc, -⟩
    · exact hk.lease
    · exact congrArg (·.lease) hc
  | activated now o => exact k.session.markReadyFinish_lease now o
  | heartbeat now clock => exact (k.session.heartbeat_kept now clock).lease
  | checkLease now => exact (k.session.ensureActive_kept now).lease
  | handleDrain now ctx request => exact (k.handleDrainBegin_kept now ctx request).1.lease
  | drainStopped answer => exact (k.handleDrainFinish_cases answer).2.1
  | drainProgress now ctx activeStreams forced => exact (k.drainProgress_kept now ctx activeStreams forced).1.lease
  | completeDrain now ctx force answer => exact (k.completeDrain_kept now ctx force answer).1.lease
  | close =>
    refine k.locked_lease _ ?_
    unfold close
    split_ifs <;> rfl

end Client

/-! ## The two sides together -/

inductive LeaseMessage where
  | welcome (welcome : Welcome)
  | heartbeatAck (ack : HeartbeatAck)
  | renewed (result : AuthResult)

namespace LeaseMessage

def expiresAt : LeaseMessage → Time
  | .welcome w => w.lease.expiresAt
  | .heartbeatAck ack => ack.leaseExpiresAt
  | .renewed result => result.leaseExpiresAt

def handling (now later : Time) : LeaseMessage → ClientOp
  | .welcome w => .acceptWelcome now later w
  | .heartbeatAck ack => .acceptHeartbeatAck now ack
  | .renewed result => .applyRenewal now result

end LeaseMessage

/-- A server session and a client with the lease messages on the way, oldest first, each numbered by the lease change
it reports; `installed` is the number of the last one accepted. -/
structure LeaseSystem where
  server : World
  client : Client
  changes : Nat
  wire : List (Nat × LeaseMessage)
  installed : Option Nat

inductive LeaseOp where
  | server (op : ServerOp)
  | deliver (now later : Time)
  | client (op : ClientOp)

namespace LeaseSystem

variable (rules : PayloadRules)

def messageOf : Reply → Option LeaseMessage
  | .heartbeat ack => some (.heartbeatAck ack)
  | .auth result => some (.renewed result)
  | _ => none

def serverStep (sys : LeaseSystem) (op : ServerOp) : LeaseSystem :=
  match messageOf (sys.server.step rules op).2 with
  | some message =>
    { sys with
      server := sys.server.next rules op
      changes := sys.changes + 1
      wire := sys.wire ++ [(sys.changes + 1, message)] }
  | none => { sys with server := sys.server.next rules op }

def deliver (sys : LeaseSystem) (now later : Time) : LeaseSystem :=
  match sys.wire with
  | [] => sys
  | (number, message) :: rest =>
    { sys with
      client := sys.client.next rules (message.handling now later)
      wire := rest
      installed := match (sys.client.step rules (message.handling now later)).2 with
        | .done none => some number
        | _ => sys.installed }

def next (sys : LeaseSystem) : LeaseOp → LeaseSystem
  | .server op => sys.serverStep rules op
  | .deliver now later => sys.deliver rules now later
  | .client op => if op.takesLease then sys else { sys with client := sys.client.next rules op }

def Connected (sys : LeaseSystem) : Prop :=
  ∃ server registry input hello now welcome snapshot session,
    accept rules server registry input hello = (sys.server.registry, .ok (sys.server.session, welcome, snapshot)) ∧
      sys.server.renewals = [] ∧ newClientSession hello now = .ok session ∧ sys.client = .new session ∧
      sys.changes = 0 ∧ sys.wire = [(0, .welcome welcome)] ∧ sys.installed = none

/-- The authenticator answers a renewal with a lease that is not longer than the
configured duration from the start of the call. -/
def withinDuration (sys : LeaseSystem) : LeaseOp → Bool
  | .server (.renewCommit index _ (.ok result)) => (sys.server.renewals[index]?).all fun ticket =>
      !(ticket.now.add sys.server.session.server.leaseDuration).before result.leaseExpiresAt
  | _ => true

variable {rules} {sys : LeaseSystem}

structure Inv (sys : LeaseSystem) : Prop where
  wire : ∀ number message, (number, message) ∈ sys.wire → number ≤ sys.changes ∧
    (number = sys.changes → message.expiresAt ≤ sys.server.session.lease.expiresAt)
  installed : ∀ number, sys.installed = some number → number ≤ sys.changes ∧
    (number = sys.changes → sys.client.session.lease.expiresAt ≤ sys.server.session.lease.expiresAt)

theorem handling_lease (rules : PayloadRules) (k : Client) (message : LeaseMessage) (now later : Time) :
    ((k.step rules (message.handling now later)).2 = .done none ∧
      (k.next rules (message.handling now later)).session.lease.expiresAt ≤ message.expiresAt) ∨
      ((k.step rules (message.handling now later)).2 ≠ .done none ∧
        (k.next rules (message.handling now later)).session.lease = k.session.lease) := by
  have reply : ∀ {err : Option Err}, ClientReply.done err = .done none ↔ err = none := by simp
  cases message with
  | welcome welcome =>
    exact (k.session.acceptWelcome_lease now later welcome).imp (fun h => ⟨reply.2 h.1, le_of_eq h.2⟩)
      fun h => ⟨fun hr => h.1 (reply.1 hr), h.2⟩
  | heartbeatAck ack =>
    exact (k.session.acceptHeartbeatAck_lease now ack).imp (fun h => ⟨reply.2 h.1, le_of_eq h.2⟩)
      fun h => ⟨fun hr => h.1 (reply.1 hr), h.2⟩
  | renewed result =>
    exact (k.session.applyRenewal_lease now result).imp (fun h => ⟨reply.2 h.1, h.2⟩)
      fun h => ⟨fun hr => h.1 (reply.1 hr), h.2⟩

theorem messageOf_ne {α : Type} {good : α → Reply} {r : Except Err α} {message : LeaseMessage}
    (hm : messageOf (.of good r) = some message) (h : ∀ a, messageOf (good a) = none) : False := by
  cases r with
  | error => cases hm
  | ok a => cases (h a).symm.trans hm

theorem message_le {op : ServerOp} {message : LeaseMessage} (hm : messageOf (sys.server.step rules op).2 = some message)
    (hop : sys.withinDuration (.server op)) :
    message.expiresAt ≤ (sys.server.next rules op).session.lease.expiresAt := by
  cases op with
  | handleHeartbeat now heartbeat =>
    rcases hr : (sys.server.handleHeartbeat now heartbeat).2 with err | ack
    · simp [World.step, hr, Reply.of, messageOf] at hm
    · obtain rfl : LeaseMessage.heartbeatAck ack = message := by simpa [World.step, hr, Reply.of, messageOf] using hm
      exact le_of_eq (World.handleHeartbeat_lease hr).symm
  | renewCommit index now answer =>
    rcases hr : (sys.server.renewCommit index now answer).2 with err | result
    · simp [World.step, hr, Reply.of, messageOf] at hm
    obtain rfl : LeaseMessage.renewed result = message := by simpa [World.step, hr, Reply.of, messageOf] using hm
    obtain ⟨ticket, answered, ht, rfl, hl, hs⟩ := World.renewCommit_lease hr
    simp only [withinDuration, ht, Option.all_some, Bool.not_eq_true'] at hop
    rw [hop] at hs
    exact le_of_eq (hl.trans hs.symm)
  | handleAck | handleReadiness | offerSnapshot | offerDelta | beginDrain | handleDrainAck | renewBegin
  | checkLease | close => exact (messageOf_ne hm fun _ => rfl).elim
  | attach | disconnect => simp [World.step, messageOf] at hm

theorem serverStep_inv (h : sys.Inv) {op : ServerOp} (hop : sys.withinDuration (.server op)) :
    (sys.serverStep rules op).Inv := by
  unfold serverStep
  split
  · rename_i message hm
    -- all older numbers are below the new one
    refine ⟨fun number message' hw => ?_, fun number hi => ?_⟩
    · rcases List.mem_append.1 hw with hw | hw
      · have hle := (h.wire number message' hw).1
        exact ⟨Nat.le_succ_of_le hle, fun he => absurd he (Nat.ne_of_lt (Nat.lt_succ_of_le hle))⟩
      · obtain ⟨rfl, rfl⟩ : number = sys.changes + 1 ∧ message' = message := by simpa using hw
        exact ⟨Nat.le_refl _, fun _ => message_le hm hop⟩
    · have hle := (h.installed number hi).1
      exact ⟨Nat.le_succ_of_le hle, fun he => absurd he (Nat.ne_of_lt (Nat.lt_succ_of_le hle))⟩
  · rename_i hm
    have hl : (sys.server.next rules op).session.lease = sys.server.session.lease := by
      rcases (sys.server.next_effect rules op).lease with ⟨ack, hr⟩ | ⟨result, hr⟩ | ⟨hl, -⟩
      · simp [hr, messageOf] at hm
      · simp [hr, messageOf] at hm
      · exact hl
    refine ⟨fun number message hw => ?_, fun number hi => ?_⟩
    · rw [hl]
      exact h.wire number message hw
    · rw [hl]
      exact h.installed number hi

theorem deliver_inv (h : sys.Inv) (now later : Time) : (sys.deliver rules now later).Inv := by
  unfold deliver
  split
  · exact h
  rename_i number message rest hw
  have hhead := h.wire number message (by simp [hw])
  have hrest : ∀ n m, (n, m) ∈ rest → n ≤ sys.changes ∧
      (n = sys.changes → m.expiresAt ≤ sys.server.session.lease.expiresAt) :=
    fun n m hm => h.wire n m (by simp [hw, hm])
  refine ⟨hrest, fun n hi => ?_⟩
  rcases handling_lease rules sys.client message now later with ⟨hr, hl⟩ | ⟨hr, hl⟩
  · rw [hr] at hi
    obtain rfl : number = n := by simpa using hi
    exact ⟨hhead.1, fun he => le_trans hl (hhead.2 he)⟩
  · rw [hl]
    split at hi
    · exact absurd ‹_› hr
    · exact h.installed n hi

theorem next_inv (h : sys.Inv) {op : LeaseOp} (hop : sys.withinDuration op) : (sys.next rules op).Inv := by
  cases op with
  | server => exact serverStep_inv h hop
  | deliver now later => exact deliver_inv h now later
  | client =>
    simp only [next]
    split
    · exact h
    rename_i hl
    refine ⟨h.wire, fun number hi => ?_⟩
    rw [sys.client.next_lease rules (by simpa using hl)]
    exact h.installed number hi

theorem Connected.inv (h : sys.Connected rules) : sys.Inv := by
  obtain ⟨server, registry, input, hello, now, welcome, snapshot, session, ha, -, -, -, hc, hw, hi⟩ := h
  obtain ⟨⟨auth, now', hs, -⟩, -⟩ := accept_ok ha
  refine ⟨fun number message hm => ?_, by simp [hi]⟩
  rw [hw] at hm
  obtain ⟨rfl, rfl⟩ : number = 0 ∧ message = .welcome welcome := by simpa using hm
  refine ⟨Nat.zero_le _, fun _ => ?_⟩
  rw [hs]
  exact le_refl _

end LeaseSystem

/-- The server's lease ends with the credential at the latest. As long as the authenticator renews within the
configured duration, a client with the newest lease message holds no longer lease than the server. -/
theorem lease_bounds (rules : PayloadRules) :
    (∀ w, Reachable rules w → w.session.lease.expiresAt ≤ w.session.auth.credentialExpiresAt) ∧
      ∀ (sys : LeaseSystem) (ops : List LeaseOp), sys.Connected rules →
        EachStep (LeaseSystem.next rules) (fun sys op => sys.withinDuration op) sys ops →
        let reached := run (LeaseSystem.next rules) sys ops
        reached.installed = some reached.changes →
          reached.client.session.lease.expiresAt ≤ reached.server.session.lease.expiresAt := by
  refine ⟨fun w hw => hw.lease_le, fun sys ops hc hs => ?_⟩
  have hi := run_inv (I := LeaseSystem.Inv) (fun _ _ hi hop => LeaseSystem.next_inv hi hop) hc.inv hs
  intro reached hn
  exact (hi.installed _ hn).2 rfl

namespace Sample

def leases : LeaseSystem := ⟨world (snapshot 1), .new client, 0, [(0, .welcome welcome)], none⟩

theorem leases_connected : leases.Connected rules := by
  obtain ⟨server, registry, input, hello, now, w, first, ha, hr, hc, hw, -⟩ := connected accept_first
  cases hw
  exact ⟨server, registry, input, hello, now, welcome, _, client, ha, hr, hc, rfl, rfl, rfl, rfl⟩

def renewalRequest : RenewalRequest :=
  ⟨"session_1", "account_1", "tunnel_1", "connector_1", "host_1", "ed25519:" ++ thumbprint, thumbprint, 1, 1,
    "nonce_0123456789", "proof_01234567890123456789012345", now⟩

/-- The connector renews; the authenticator grants the usual duration from its
own reading of the clock, `delay` after the server's. -/
def renewing (delay : Int) : List LeaseOp :=
  let answered := now.add delay
  [.deliver now now, .server (.renewBegin now renewalRequest), .server (.renewCommit 0 answered
     (.ok { auth with sessionID := "session_1", leaseExpiresAt := answered.add defaultLease })),
   .deliver answered answered]

end Sample

open Sample

/-- A second passes before the authenticator answers: the connector installs a
lease that ends a second after the server's. -/
theorem renewed_lease_outlives_server : leases.Connected rules ∧
      let reached := run (LeaseSystem.next rules) leases (renewing Duration.second)
      reached.installed = some reached.changes ∧
        reached.client.session.lease.expiresAt.after reached.server.session.lease.expiresAt :=
  ⟨leases_connected, by decide +kernel⟩

theorem lease_bounds_renewed :
    let reached := run (LeaseSystem.next rules) leases (renewing 0)
    reached.changes = 1 ∧ reached.client.session.lease.expiresAt ≤ reached.server.session.lease.expiresAt := by
  have hs : EachStep (LeaseSystem.next rules) (fun sys op => sys.withinDuration op) leases
      (renewing 0) := by decide +kernel
  have hr : (run (LeaseSystem.next rules) leases (renewing 0)).changes = 1 ∧
      (run (LeaseSystem.next rules) leases (renewing 0)).installed =
        some (run (LeaseSystem.next rules) leases (renewing 0)).changes := by decide +kernel
  exact ⟨hr.1, (lease_bounds rules).2 _ _ leases_connected hs hr.2⟩

end Paperboat.Connector

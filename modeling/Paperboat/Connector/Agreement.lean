import Paperboat.Connector.ServerInvariants
import Paperboat.Connector.ClientSteps
/-!
# Server and connector agree on the active configuration

A server session and a client session exchange messages over two FIFO queues.
The server offers snapshots and deltas whenever it likes; the connector works
on what arrives, acknowledges it, reports readiness only after
`MarkReadyContext` succeeded, and sends heartbeats. `promoted` records what the
connector has made active so far.

Whatever the server holds active was promoted by the connector first. That the
connector is never behind rests on its own generations only growing: `ApplySnapshot`
compares generations, `ApplyDelta` takes the successor of the active one, which
after the largest generation is zero. Without such a delta the order holds too.
-/

namespace Paperboat.Connector

open Lib ClientSession

inductive ToClient where
  | welcome (welcome : Welcome)
  | snapshot (snapshot : Snapshot)
  | delta (delta : Delta)
  | heartbeatAck (ack : HeartbeatAck)

inductive ToServer where
  | ack (ack : Ack)
  | readiness (readiness : Readiness)
  | heartbeat (heartbeat : Heartbeat)

structure System where
  server : World
  client : ClientSession
  toClient : List ToClient
  toServer : List ToServer
  promoted : List (UInt64 × String)

inductive SystemOp where
  | offerSnapshot (now : Time) (snapshot : Snapshot)
  | offerDelta (now : Time) (delta : Delta)
  | serverReceive (now : Time)
  | serverLocal (op : ServerOp)
  | clientReceive (now later : Time) (ctx : Option Err) (reject : Option Code)
  | applyFinish (now : Time) (outcome : PrepareOutcome) (reject : Option Code)
  | markReady (now : Time) (ctx : Option Err) (edge route origin : Bool)
  | activateFinish (now : Time) (outcome : ActivateOutcome)
  | heartbeat (now clock : Time)
  | clientCheckLease (now : Time)
  | clientClose (reason : DisconnectReason) (abortErr : Option Err)

namespace System

variable {c : ClientSession} {reject : Option Code} {reply : ApplyReply} (rules : PayloadRules)

def acksOf (c : ClientSession) (kind : AckKind) (generation : UInt64) (contentHash : String) (reject : Option Code) :
    ApplyReply → List ToServer
  | .returned (some ack) _ => [.ack ack]
  | .returned none _ => (reject.map fun code => ToServer.ack (c.rejectionAck kind generation contentHash code)).toList
  | .working => []

/-- Operations of the server that neither offer a configuration nor answer a
message of the connector. -/
def isLocal : ServerOp → Bool
  | .handleAck .. | .handleReadiness .. | .handleHeartbeat .. | .offerSnapshot .. | .offerDelta .. => false
  | _ => true

def serverReceive (sys : System) (now : Time) : System :=
  match sys.toServer with
  | [] => sys
  | .ack ack :: rest => { sys with server := sys.server.next rules (.handleAck now ack), toServer := rest }
  | .readiness readiness :: rest =>
    { sys with server := sys.server.next rules (.handleReadiness now readiness), toServer := rest }
  | .heartbeat heartbeat :: rest =>
    { sys with
      server := sys.server.next rules (.handleHeartbeat now heartbeat)
      toServer := rest
      toClient := match (sys.server.handleHeartbeat now heartbeat).2 with
        | .ok ack => sys.toClient ++ [.heartbeatAck ack]
        | .error _ => sys.toClient }

/-- A configuration message waits for the apply lock. -/
def clientReceive (sys : System) (now later : Time) (ctx : Option Err) (reject : Option Code) : System :=
  match sys.toClient with
  | [] => sys
  | .welcome welcome :: rest =>
    { sys with client := (sys.client.acceptWelcome now later welcome).1, toClient := rest }
  | .heartbeatAck ack :: rest => { sys with client := (sys.client.acceptHeartbeatAck now ack).1, toClient := rest }
  | .snapshot snapshot :: rest =>
    if sys.client.busy.isSome then sys
    else
      let r := sys.client.applySnapshotBegin rules now ctx snapshot
      { sys with
        client := r.1
        toClient := rest
        toServer := sys.toServer ++ acksOf r.1 .snapshot snapshot.generation snapshot.contentHash reject r.2 }
  | .delta delta :: rest =>
    if sys.client.busy.isSome then sys
    else
      let r := sys.client.applyDeltaBegin rules now ctx delta
      { sys with
        client := r.1
        toClient := rest
        toServer := sys.toServer ++ acksOf r.1 .delta delta.generation delta.contentHash reject r.2 }

def workAcks (c : ClientSession) (reject : Option Code) (reply : ApplyReply) : Option Work → List ToServer
  | some (.snapshot snapshot) => acksOf c .snapshot snapshot.generation snapshot.contentHash reject reply
  | some (.delta delta) => acksOf c .delta delta.generation delta.contentHash reject reply
  | _ => []

def applyFinish (sys : System) (now : Time) (outcome : PrepareOutcome) (reject : Option Code) : System :=
  let r := sys.client.applyFinish now outcome
  { sys with client := r.1, toServer := sys.toServer ++ workAcks r.1 reject r.2 sys.client.busy }

def activateFinish (sys : System) (now : Time) (outcome : ActivateOutcome) : System :=
  let r := sys.client.markReadyFinish now outcome
  match r.2 with
  | .returned (some readiness) none =>
    { sys with
      client := r.1
      toServer := sys.toServer ++ [.readiness readiness]
      promoted := sys.promoted ++ [(r.1.active.generation, r.1.active.contentHash)] }
  | _ => { sys with client := r.1 }

def next (sys : System) : SystemOp → System
  | .offerSnapshot now snapshot =>
    { sys with
      server := sys.server.next rules (.offerSnapshot now snapshot)
      toClient := match (sys.server.offerSnapshot rules now snapshot).2 with
        | .ok _ => sys.toClient ++ [.snapshot (sys.server.session.bind snapshot)]
        | .error _ => sys.toClient }
  | .offerDelta now delta =>
    { sys with
      server := sys.server.next rules (.offerDelta now delta)
      toClient := match (sys.server.offerDelta rules now delta).2 with
        | .ok _ => sys.toClient ++ [.delta (sys.server.session.bindDelta delta)]
        | .error _ => sys.toClient }
  | .serverReceive now => sys.serverReceive rules now
  | .serverLocal op => if isLocal op then { sys with server := sys.server.next rules op } else sys
  | .clientReceive now later ctx reject => sys.clientReceive rules now later ctx reject
  | .applyFinish now outcome reject => sys.applyFinish now outcome reject
  | .markReady now ctx edge route origin =>
    if sys.client.busy.isSome then sys
    else { sys with client := (sys.client.markReadyBegin now ctx edge route origin).1 }
  | .activateFinish now outcome => sys.activateFinish now outcome
  | .heartbeat now clock =>
    match sys.client.heartbeat now clock with
    | (client, .ok heartbeat) => { sys with client, toServer := sys.toServer ++ [.heartbeat heartbeat] }
    | (client, .error _) => { sys with client }
  | .clientCheckLease now => { sys with client := (sys.client.ensureActive now).1 }
  | .clientClose reason abortErr =>
    if sys.client.busy.isSome then sys else { sys with client := (sys.client.close reason abortErr).1 }

/-- A server that has accepted a connector, and the connector with the welcome
and the first snapshot on the way to it. -/
def Connected (sys : System) : Prop :=
  ∃ server registry input hello now welcome snapshot,
    accept rules server registry input hello = (sys.server.registry, .ok (sys.server.session, welcome, snapshot)) ∧
      sys.server.renewals = [] ∧ newClientSession hello now = .ok sys.client ∧
      sys.toClient = [.welcome welcome, .snapshot snapshot] ∧ sys.toServer = [] ∧ sys.promoted = []

variable {rules} {sys sys' : System}

/-! ## The server only follows the connector -/

theorem readiness_notMem_acksOf {kind : AckKind} {generation : UInt64} {contentHash : String} (r : Readiness) :
    ToServer.readiness r ∉ acksOf c kind generation contentHash reject reply := by
  unfold acksOf
  split
  · simp
  · cases reject <;> simp
  · simp

theorem readiness_notMem_workAcks {work : Option Work}
    (r : Readiness) : ToServer.readiness r ∉ workAcks c reject reply work := by
  unfold workAcks
  split
  · exact readiness_notMem_acksOf r
  · exact readiness_notMem_acksOf r
  · simp

structure PromotedInv (sys : System) : Prop where
  server : sys.server.session.hasActive →
    (sys.server.session.active.generation, sys.server.session.active.contentHash) ∈ sys.promoted
  reports : ∀ r, ToServer.readiness r ∈ sys.toServer → (r.generation, r.contentHash) ∈ sys.promoted
  activation : ∀ candidate r, sys.client.busy = some (.activation candidate r) →
    r.generation = candidate.generation ∧ r.contentHash = candidate.contentHash

def NoWrap : SystemOp → Prop
  | .offerDelta _ delta => delta.generation ≠ 0
  | _ => True

/-- What a step does that promotes nothing: the server follows a report on its way, and nothing
comes up on either way but deltas that are offered. -/
structure Step (sys : System) (op : SystemOp) (sys' : System) : Prop where
  server : (sys'.server.session.active = sys.server.session.active ∧
      sys'.server.session.hasActive = sys.server.session.hasActive) ∨
    ∃ r, ToServer.readiness r ∈ sys.toServer ∧ sys'.server.session.active.generation = r.generation ∧
      sys'.server.session.active.contentHash = r.contentHash
  reports : ∀ r, ToServer.readiness r ∈ sys'.toServer → ToServer.readiness r ∈ sys.toServer
  deltas : ∀ d, ToClient.delta d ∈ sys'.toClient → ToClient.delta d ∈ sys.toClient ∨ (NoWrap op → d.generation ≠ 0)
  client : sys.client.Change (fun d => ToClient.delta d ∈ sys.toClient) sys'.client
  promoted : sys'.promoted = sys.promoted

def Promotes (sys sys' : System) : Prop :=
  ∃ candidate readiness, sys.client.busy = some (.activation candidate readiness) ∧ sys.client.hasCandidate ∧
    sys.client.candidate.generation = candidate.generation ∧ sys.client.candidate.contentHash = candidate.contentHash ∧
    sys' = { sys with
      client := { sys.client with busy := none }.promote
      toServer := sys.toServer ++ [.readiness readiness]
      promoted := sys.promoted ++ [(sys.client.candidate.generation, sys.client.candidate.contentHash)] }

theorem Step.of_client {op : SystemOp} {client : ClientSession} (h : ClientSession.Quiet sys.client client) :
    Step sys op { sys with client } :=
  ⟨.inl ⟨rfl, rfl⟩, fun _ => id, fun _ => .inl, .quiet h, rfl⟩

theorem server_keeps (op : ServerOp) (h : ∀ now r, op ≠ .handleReadiness now r) :
    (sys.server.next rules op).session.active = sys.server.session.active ∧
      (sys.server.next rules op).session.hasActive = sys.server.session.hasActive :=
  (sys.server.next_effect rules op).active_same h

theorem serverReceive_step (op : SystemOp) (now : Time) : Step sys op (sys.serverReceive rules now) := by
  have hquiet : sys.client.Change (fun d => ToClient.delta d ∈ sys.toClient) sys.client := .quiet (.refl _)
  unfold serverReceive
  split
  · exact .of_client (.refl _)
  · rename_i hq
    exact ⟨.inl (server_keeps _ (by simp)), by simp [hq], fun _ => .inl, hquiet, rfl⟩
  · rename_i readiness _ hq
    refine ⟨?_, by simp +contextual [hq], fun _ => .inl, hquiet, rfl⟩
    exact (sys.server.next_effect rules _).active_of_readiness.imp_right fun hnew => ⟨readiness, by simp [hq], hnew⟩
  · rename_i hq
    refine ⟨.inl (server_keeps _ (by simp)), by simp [hq], fun d hm => .inl ?_, hquiet, rfl⟩
    split at hm
    · simpa using hm
    · exact hm

theorem clientReceive_step (op : SystemOp) (now later : Time) (ctx : Option Err) (reject : Option Code) :
    Step sys op (sys.clientReceive rules now later ctx reject) := by
  unfold clientReceive
  split
  · exact .of_client (.refl _)
  · rename_i hm
    exact ⟨.inl ⟨rfl, rfl⟩, fun _ => id, fun d hd => .inl (by simp [hm, hd]),
      .quiet (sys.client.acceptWelcome_kept _ _ _ none).quiet, rfl⟩
  · rename_i hm
    exact ⟨.inl ⟨rfl, rfl⟩, fun _ => id, fun d hd => .inl (by simp [hm, hd]),
      .quiet (sys.client.acceptHeartbeatAck_kept ..).quiet, rfl⟩
  · rename_i snapshot _ hm
    split
    · exact .of_client (.refl _)
    refine ⟨.inl ⟨rfl, rfl⟩, fun r hr => by simpa [readiness_notMem_acksOf] using hr,
      fun d hd => .inl (by simp [hm, hd]), ?_, rfl⟩
    rcases applySnapshotBegin_moves rules sys.client now ctx snapshot with hk | ⟨hc, -, -, hn⟩
    · exact .quiet hk.quiet
    · simp only [hc]
      exact .begun (.snapshot snapshot) hn
  · rename_i delta _ hm
    split
    · exact .of_client (.refl _)
    refine ⟨.inl ⟨rfl, rfl⟩, fun r hr => by simpa [readiness_notMem_acksOf] using hr,
      fun d hd => .inl (by simp [hm, hd]), ?_, rfl⟩
    rcases applyDeltaBegin_moves rules sys.client now ctx delta with hk | ⟨hc, -, -, hg⟩
    · exact .quiet hk.quiet
    · simp only [hc]
      exact .begun (.delta delta) ⟨by simp [hm], hg⟩

theorem next_step (sys : System) (op : SystemOp) : Step sys op (sys.next rules op) ∨ sys.Promotes (sys.next rules op) := by
  have hquiet : sys.client.Change (fun d => ToClient.delta d ∈ sys.toClient) sys.client := .quiet (.refl _)
  cases op with
  | offerSnapshot =>
    refine .inl ⟨.inl (server_keeps _ (by simp)), fun _ => id, fun d hm => .inl ?_, hquiet, rfl⟩
    simp only [next] at hm
    split at hm
    · simpa using hm
    · exact hm
  | offerDelta _ delta =>
    refine .inl ⟨.inl (server_keeps _ (by simp)), fun _ => id, fun d hm => ?_, hquiet, rfl⟩
    simp only [next] at hm
    split at hm
    · rcases List.mem_append.1 hm with hm | hm
      · exact .inl hm
      · obtain rfl : d = sys.server.session.bindDelta delta := by simpa using hm
        exact .inr id
    · exact .inl hm
  | serverReceive now => exact .inl (serverReceive_step _ now)
  | serverLocal op =>
    simp only [next]
    split
    · rename_i hl
      refine .inl ⟨.inl (server_keeps op fun now r he => ?_), fun _ => id, fun _ => .inl, hquiet, rfl⟩
      simp [he, isLocal] at hl
    · exact .inl (.of_client (.refl _))
  | clientReceive now later ctx reject => exact .inl (clientReceive_step _ now later ctx reject)
  | applyFinish now outcome =>
    refine .inl ⟨.inl ⟨rfl, rfl⟩, fun r hr => ?_, fun _ => .inl, ?_, rfl⟩
    · simpa [next, applyFinish, readiness_notMem_workAcks] using hr
    · rcases sys.client.applyFinish_cases now outcome with hq | ⟨staged, needs, hc, hw⟩
      · exact .quiet hq
      · simp only [next, applyFinish, hc]
        exact .staged staged _ needs hw
  | markReady now ctx edge route origin =>
    simp only [next]
    split
    · exact .inl (.of_client (.refl _))
    rcases sys.client.markReadyBegin_moves now ctx edge route origin with hk | ⟨readiness, hc, hg, hh, -⟩
    · exact .inl (.of_client hk.quiet)
    · exact .inl ⟨.inl ⟨rfl, rfl⟩, fun _ => id, fun _ => .inl, hc ▸ .begun (.activation _ readiness) ⟨hg, hh⟩, rfl⟩
  | activateFinish now outcome =>
    simp only [next, activateFinish]
    rcases sys.client.markReadyFinish_cases now outcome with ⟨readiness, err, hr, hq⟩ | ⟨candidate, readiness, hw, hr, hc⟩
    · simp only [hr]
      exact .inl (.of_client hq)
    · simp only [hr]
      exact .inr ⟨candidate, readiness, hw, hc.1, hc.2.1, hc.2.2, rfl⟩
  | heartbeat now clock =>
    have hq := (sys.client.heartbeat_kept now clock).quiet
    simp only [next]
    split <;> rename_i he <;> rw [he] at hq
    · exact .inl ⟨.inl ⟨rfl, rfl⟩, by simp, fun _ => .inl, .quiet hq, rfl⟩
    · exact .inl (.of_client hq)
  | clientCheckLease now => exact .inl (.of_client (sys.client.ensureActive_kept now).quiet)
  | clientClose reason abortErr =>
    simp only [next]
    split
    · exact .inl (.of_client (.refl _))
    · exact .inl (.of_client (sys.client.close_quiet reason abortErr))

theorem next_promoted (h : PromotedInv sys) (op : SystemOp) : PromotedInv (sys.next rules op) := by
  rcases next_step sys op with hs | ⟨candidate, readiness, hw, -, hg, hh, he⟩
  · refine ⟨fun ha => ?_, fun r hr => hs.promoted ▸ h.reports r (hs.reports r hr), fun candidate r hw => ?_⟩
    · rw [hs.promoted]
      rcases hs.server with ⟨hact, hhas⟩ | ⟨r, hr, hgen, hhash⟩
      · rw [hact]
        exact h.server (hhas ▸ ha)
      · rw [hgen, hhash]
        exact h.reports r hr
    · exact (hs.client.activation hw).elim (h.activation candidate r) id
  · -- the report names the candidate that has just become active
    obtain ⟨hrg, hrh⟩ := h.activation candidate readiness hw
    rw [he]
    refine ⟨fun ha => List.mem_append_left _ (h.server ha), fun r hm => ?_, by simp [promote]⟩
    rcases List.mem_append.1 hm with hm | hm
    · exact List.mem_append_left _ (h.reports r hm)
    · obtain rfl : r = readiness := by simpa using hm
      simp [hrg, hrh, hg, hh]

theorem Connected.promoted (h : Connected rules sys) : PromotedInv sys := by
  obtain ⟨server, registry, input, hello, now, welcome, snapshot, ha, -, hc, -, hq, -⟩ := h
  obtain ⟨⟨auth, now', hs, -⟩, -, -⟩ := accept_ok ha
  refine ⟨fun h => ?_, by simp [hq], fun candidate r hw => ?_⟩
  · rw [hs] at h
    simp [openSession] at h
  · rw [(new_empty hc).1] at hw
    cases hw

/-! ## The connector only moves forward -/

structure GrowingInv (sys : System) : Prop where
  deltas : ∀ d, ToClient.delta d ∈ sys.toClient → d.generation ≠ 0
  ordered : sys.client.Ordered
  newest : ∀ p ∈ sys.promoted, sys.client.hasActive ∧ p.1 ≤ sys.client.active.generation

theorem next_growing (h : GrowingInv sys) (op : SystemOp) (hop : NoWrap op) : GrowingInv (sys.next rules op) := by
  rcases next_step sys op with hs | ⟨candidate, readiness, -, hc, -, -, he⟩
  · refine ⟨fun d hm => (hs.deltas d hm).elim (h.deltas d) fun hne => hne hop, hs.client.ordered h.ordered h.deltas,
      fun p hp => ?_⟩
    rw [hs.client.active.1, hs.client.active.2]
    exact h.newest p (hs.promoted ▸ hp)
  · -- a promotion moves the active generation forward
    rw [he]
    refine ⟨h.deltas, ⟨by simp [promote], by simp [promote], by simp [promote]⟩,
      fun p hp => ⟨rfl, ?_⟩⟩
    rcases List.mem_append.1 hp with hp | hp
    · obtain ⟨ha, hle⟩ := h.newest p hp
      exact UInt64.le_trans hle (UInt64.le_of_lt (h.ordered.candidate hc ha))
    · obtain rfl := List.mem_singleton.1 hp
      exact UInt64.le_refl _

theorem Connected.growing (h : Connected rules sys) : GrowingInv sys := by
  obtain ⟨server, registry, input, hello, now, welcome, snapshot, -, -, hc, hm, -, hp⟩ := h
  obtain ⟨hb, hn, -⟩ := new_empty hc
  exact ⟨by simp [hm], .of_empty hb hn, by simp [hp]⟩

/-! ## Agreement -/

/-- Whatever the server holds active the connector has promoted, and the server
is not ahead of the connector. -/
structure Agree (sys : System) : Prop where
  promoted : sys.server.session.hasActive →
    (sys.server.session.active.generation, sys.server.session.active.contentHash) ∈ sys.promoted
  behind : sys.server.session.hasActive →
    sys.client.hasActive ∧ sys.server.session.active.generation ≤ sys.client.active.generation

end System

/-- In every run the server's active snapshot is one the connector has promoted;
while no delta of generation zero is offered, the server is not ahead either. -/
theorem server_follows_connector {rules : PayloadRules} {sys : System} (h : System.Connected rules sys)
    (ops : List SystemOp) :
    let reached := run (System.next rules) sys ops
    (reached.server.session.hasActive →
      (reached.server.session.active.generation, reached.server.session.active.contentHash) ∈ reached.promoted) ∧
    (EachStep (System.next rules) (fun _ op => System.NoWrap op) sys ops → reached.Agree) := by
  intro reached
  have hp : reached.PromotedInv :=
    run_inv' (I := System.PromotedInv) (fun _ op hi => System.next_promoted hi op) h.promoted ops
  refine ⟨hp.server, fun hs => ⟨hp.server, fun ha => ?_⟩⟩
  have hg : reached.GrowingInv :=
    run_inv (I := System.GrowingInv) (fun _ op hi hop => System.next_growing hi op hop) h.growing hs
  exact hg.newest _ (hp.server ha)

namespace Sample

def client : ClientSession :=
  { hello := hello, welcome := .empty, state := .new, lease := .empty, auth := hello.auth, active := .empty,
    hasActive := false, candidate := .empty, hasCandidate := false, prepared := none, needsSnapshot := false,
    readyGeneration := 0, lastHeartbeatAck := .zero, disconnectReason := .empty, busy := none }

def bound (first : Snapshot) : Snapshot := bindSnapshot first "account_1" "connector_1" "session_1" 1

def system (first : Snapshot) : System := ⟨world first, client, [.welcome welcome, .snapshot (bound first)], [], []⟩

theorem connected {rules : PayloadRules} {first : Snapshot}
    (h : (accept rules server .new (acceptInput first) hello).2 = .ok (session first, welcome, bound first)) :
    System.Connected rules (system first) := by
  have ha : accept rules server .new (acceptInput first) hello = (_, .ok (session first, welcome, bound first)) :=
    Prod.ext rfl h
  obtain ⟨-, -, hr⟩ := accept_ok ha
  have hc : newClientSession hello now = .ok client := by decide +kernel
  exact ⟨server, .new, acceptInput first, hello, now, welcome, bound first, Prod.ext hr h, rfl, hc, rfl, rfl, rfl⟩

def deliver : List SystemOp :=
  [.clientReceive now now none none, .applyFinish now ⟨some 1, none, none, none, none⟩ none, .serverReceive now,
   .markReady now none true true true, .activateFinish now ⟨none, none, none⟩, .serverReceive now]

def bootstrap : List SystemOp := .clientReceive now now none none :: deliver

def delta (payloads : List Payload) (previous next : UInt64) : Delta :=
  let old := snapshotOf payloads previous
  let new := snapshotOf payloads next
  ⟨"", "tunnel_1", "", "", 0, old.generation, new.generation, old.contentHash, new.contentHash, new.payload⟩

def wrapping : List Payload :=
  [⟨18446744073709551615, payloadText "18446744073709551615",
      "d42542cdf9518bca1c837fea97275e19cff434a02a12a30b9ab092f79f5db550"⟩,
   ⟨0, payloadText "0", "22051992ebd791c4c6ade204a9eab47135a25a96da245ceaa624766b7d3f28b3"⟩]

def largest : Snapshot := snapshotOf wrapping 18446744073709551615

end Sample

open Sample

/-- A delta past the largest generation is applied and promoted by the connector
as generation zero, while the server refuses its acknowledgement. -/
theorem server_ahead_of_connector : System.Connected (rulesOf wrapping) (system largest) ∧
      let reached := run (System.next (rulesOf wrapping)) (system largest)
        (bootstrap ++ .offerDelta now (delta wrapping 18446744073709551615 0) ::
          deliver)
      reached.server.session.hasActive ∧ reached.client.hasActive ∧
        reached.client.active.generation = 0 ∧ reached.server.session.active.generation = 18446744073709551615 :=
  ⟨connected (by decide +kernel), by decide +kernel⟩

theorem server_follows_connector_upgrade :
    let reached := run (System.next rules) (system (snapshot 1))
      (bootstrap ++ .offerDelta now (delta payloads 1 2) :: deliver)
    reached.Agree ∧ reached.server.session.hasActive ∧ reached.server.session.active.generation = 2 := by
  refine ⟨(server_follows_connector (connected accept_first) _).2 ?_, by decide +kernel⟩
  simp only [bootstrap, deliver, List.cons_append, List.nil_append, eachStep_cons, eachStep_nil,
    System.NoWrap, true_and, and_true]
  decide +kernel

end Paperboat.Connector

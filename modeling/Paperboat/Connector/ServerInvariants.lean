import Paperboat.Lib.Runs
import Paperboat.Connector.ServerSteps
/-!
# The representation of a session is consistent

The flags and optional fields of a session constrain each other: a ready
session has a ready active snapshot, at most one offer is outstanding, and an
outstanding delta extends the active snapshot with nothing staged in between.
`SessionInv` says so; `accept` establishes it, every `Change` keeps it, so it
holds of every reachable session.
-/

namespace Paperboat.Connector

open Lib ServerSession

section Invariants

variable {rules : PayloadRules} {s s' : ServerSession} {w : World} {op : ServerOp} {reply : Reply}

/-! ## Reachable worlds -/

def World.next (rules : PayloadRules) (w : World) (op : ServerOp) : World := (w.step rules op).1

/-- The world right after a successful `Accept`. -/
def Accepted (rules : PayloadRules) (w : World) : Prop :=
  ∃ server registry input hello welcome snapshot,
    accept rules server registry input hello = (w.registry, .ok (w.session, welcome, snapshot)) ∧ w.renewals = []

def Reachable (rules : PayloadRules) (w : World) : Prop :=
  ∃ w₀ ops, Accepted rules w₀ ∧ run (World.next rules) w₀ ops = w

theorem World.next_effect (rules : PayloadRules) (w : World) (op : ServerOp) :
    Effect rules w.session op (w.step rules op).2 (w.next rules op).session := w.step_effect rules op

section Accepting
variable {server : Server} {registry registry' : SessionRegistry} {input : AcceptInput} {hello : Hello}
  {welcome : Welcome} {snapshot : Snapshot}

/-- The hello and what the environment answers pass every check of `Accept`. -/
structure Admits (rules : PayloadRules) (server : Server) (input : AcceptInput) (hello : Hello) (auth : AuthResult)
    (snapshot : Snapshot) (sessionID : String) : Prop where
  valid : hello.validate input.now.utc = none
  capabilities : ∃ capabilities, negotiateCapabilities hello.capabilities server.capabilities = .ok capabilities
  authenticated : input.authenticate = .ok auth ∧ auth.validate input.now.utc = none ∧ hello.admits auth
  offered : input.snapshot = .ok snapshot ∧ snapshot.validate rules = none ∧ snapshot.tunnelID = hello.tunnelID
  named : input.sessionID = .ok sessionID ∧ okIdentifier sessionID
  leased : (grantLease server auth sessionID input.now.utc).validate input.now.utc = none

def Hello.ref (hello : Hello) (sessionID : String) : SessionRef :=
  ⟨hello.tunnelID, hello.connectorID, sessionID, hello.processGeneration⟩

/-- Without its last step `Accept` fails and leaves the registry alone, or its checks pass. -/
theorem accept_cases (rules : PayloadRules) (server : Server) (registry : SessionRegistry) (input : AcceptInput) (hello : Hello) :
    (∃ err, accept rules server registry input hello = (registry, .error err)) ∨
    ∃ auth snapshot sessionID, Admits rules server input hello auth snapshot sessionID := by
  unfold accept
  dsimp only
  split
  iterate 4 exact .inl ⟨_, rfl⟩
  split
  · exact .inl ⟨_, rfl⟩
  rename_i ha
  split
  · exact .inl ⟨_, rfl⟩
  split
  · exact .inl ⟨_, rfl⟩
  rename_i hs
  split
  · exact .inl ⟨_, rfl⟩
  split
  · exact .inl ⟨_, rfl⟩
  rename_i hid
  split
  · exact .inl ⟨_, rfl⟩
  rename_i hl
  simp only [Bool.or_eq_true, not_or, Bool.not_eq_true, Option.isSome_eq_false_iff, Option.isNone_iff_eq_none,
    Bool.not_eq_eq_eq_not, Bool.not_true, Bool.not_eq_false, bne_eq_false_iff_eq] at ha hs hid hl
  exact .inr ⟨_, _, _, ‹_›, ⟨_, ‹_›⟩, ⟨‹_›, ha⟩, ⟨‹_›, hs⟩, ⟨‹_›, hid⟩, hl⟩

theorem Admits.accept {auth : AuthResult} {sessionID : String} (h : Admits rules server input hello auth snapshot sessionID)
    (registry : SessionRegistry) : ∃ welcome, welcome.lease = grantLease server auth welcome.sessionID input.now.utc ∧
      accept rules server registry input hello = ((registry.attach (hello.ref sessionID)).1,
        (registry.attach (hello.ref sessionID)).2.map fun _ =>
          let bound := bindSnapshot snapshot hello.accountID hello.connectorID sessionID hello.processGeneration
          (openSession server (hello.ref sessionID) auth welcome bound input.now.utc, welcome, bound)) := by
  obtain ⟨capabilities, hcap⟩ := h.capabilities
  obtain ⟨version, hver⟩ : ∃ version, negotiateVersion hello.minVersion hello.maxVersion = .ok version := by
    have hv := h.valid
    unfold Hello.validate at hv
    split at hv
    · cases hv
    split at hv
    · cases hv
    · exact ⟨_, ‹_›⟩
  refine ⟨⟨protocolName, version, sessionID, capabilities, grantLease server auth sessionID input.now.utc, true,
    input.now.utc⟩, rfl, ?_⟩
  simp only [Connector.accept, h.valid, hver, hcap, h.authenticated, h.offered, h.named, h.leased, Option.isSome_none, Bool.not_true,
    Bool.or_self, Bool.false_eq_true, if_false, bne_self_eq_false]
  rcases he : registry.attach (hello.ref sessionID) with ⟨r, _ | _⟩
  · simp only [Hello.ref] at he
    rw [he]
    rfl
  · simp only [Hello.ref] at he
    rw [he]
    rfl

/-- What `Accept` returns: a session with nothing but its first offer and the
lease granted for a valid credential, which the registry has attached. -/
theorem accept_ok (h : accept rules server registry input hello = (registry', .ok (s, welcome, snapshot))) :
    (∃ auth now, s = openSession server s.ref auth welcome snapshot now ∧ auth.validate now = none ∧
      welcome.lease = grantLease server auth welcome.sessionID now) ∧ snapshot.generation ≠ 0 ∧
      registry' = (registry.attach s.ref).1 := by
  obtain ⟨err, he⟩ | ⟨auth, offered, sessionID, ha⟩ := accept_cases rules server registry input hello
  · cases he.symm.trans h
  have hg := Snapshot.generation_ne_zero ha.offered.2.1
  obtain ⟨_, hl, he⟩ := ha.accept registry
  obtain ⟨hr, hs⟩ := Prod.mk.inj (he.symm.trans h)
  cases hat : (registry.attach (hello.ref sessionID)).2 with
  | error => simp [hat, Except.map] at hs
  | ok =>
    rw [hat] at hs
    cases hs
    exact ⟨⟨_, _, rfl, ha.authenticated.2.1, hl⟩, hg, hr.symm⟩

end Accepting

theorem Accepted.of_ok {server : Server} {registry : SessionRegistry} {input : AcceptInput} {hello : Hello}
    {welcome : Welcome} {snapshot : Snapshot}
    (h : (accept rules server registry input hello).2 = .ok (s, welcome, snapshot)) :
    Accepted rules ⟨s, (registry.attach s.ref).1, []⟩ := by
  have ha : accept rules server registry input hello = (_, .ok (s, welcome, snapshot)) := Prod.ext rfl h
  obtain ⟨-, -, hr⟩ := accept_ok ha
  exact ⟨server, registry, input, hello, welcome, snapshot, Prod.ext hr h, rfl⟩

theorem Accepted.reachable (h : Accepted rules w) : Reachable rules w := ⟨w, [], h, rfl⟩

theorem Reachable.run (h : Reachable rules w) (ops : List ServerOp) : Reachable rules (run (World.next rules) w ops) := by
  obtain ⟨w₀, ops0, h₀, rfl⟩ := h
  exact ⟨w₀, ops0 ++ ops, h₀, run_append _ _ _⟩

theorem Reachable.next (h : Reachable rules w) (op : ServerOp) : Reachable rules (w.next rules op) := h.run [op]

theorem Reachable.inv {I : ServerSession → Prop}
    (init : ∀ server ref auth welcome snapshot now, snapshot.generation ≠ 0 → auth.validate now = none →
      welcome.lease = grantLease server auth welcome.sessionID now → I (openSession server ref auth welcome snapshot now))
    (step : ∀ s op reply s', I s → Effect rules s op reply s' → I s') (h : Reachable rules w) : I w.session := by
  obtain ⟨w₀, ops, ⟨server, registry, input, hello, welcome, snapshot, h₀, -⟩, rfl⟩ := h
  obtain ⟨⟨auth, now, hw, ha, hl⟩, hg, -⟩ := accept_ok h₀
  refine run_inv' (I := fun w : World => I w.session) ?_ (by rw [hw]; exact init _ _ _ _ _ _ hg ha hl) ops
  intro w op hi
  exact step _ op _ _ hi (w.next_effect rules op)

/-! ## The invariant -/

theorem ServerSession.stage_ready {candidate : Snapshot} (h : (s.stage candidate).state = .ready) :
    s.activeIsReady ∧ s.state = .ready := by
  by_cases ha : s.activeIsReady <;> simp [stage, ha] at h
  exact ⟨ha, h⟩

structure SessionInv (s : ServerSession) : Prop where
  ready : s.state = .ready → s.hasActive ∧ s.readyGeneration = s.active.generation ∧ s.needsSnapshot = false
  one_offer : s.pendingSnapshot = none ∨ s.pendingDelta = none
  delta : ∀ d, s.pendingDelta = some d → s.hasCandidate = false ∧ s.hasActive ∧
    d.previousGeneration = s.active.generation ∧ d.previousContentHash = s.active.contentHash

theorem change_inv (hi : SessionInv s) (h : Change rules s op reply s') : SessionInv s' := by
  cases h with
  | refuseSnapshot =>
    rw [refuse_eq]
    exact ⟨nofun, .inl rfl, hi.delta⟩
  | @stageSnapshot _ _ pending _ hp =>
    -- the pending snapshot excludes a pending delta
    have hd : s.pendingDelta = none := hi.one_offer.resolve_left (by simp [hp])
    refine ⟨fun hr => ?_, .inl rfl, fun d h => by simp [stage, hd] at h⟩
    have ha := (stage_ready hr).1
    simp only [activeIsReady, Bool.and_eq_true, beq_iff_eq] at ha
    exact ⟨ha.1, ha.2, rfl⟩
  | refuseDelta =>
    rw [refuse_eq]
    exact ⟨nofun, .inr rfl, nofun⟩
  | gapDelta => exact ⟨hi.ready, .inr rfl, nofun⟩
  | stageDelta =>
    exact ⟨fun hr => hi.ready (stage_ready hr).2, .inr rfl, nofun⟩
  | @readied _ _ target _ ht hg =>
    by_cases hc : s.hasCandidate
    · obtain rfl : s.candidate = target := by simpa [readyTarget, hc] using ht
      have hd : s.pendingDelta = none := by
        cases hd : s.pendingDelta with
        | none => rfl
        | some d => simp [(hi.delta d hd).1] at hc
      simp only [promote, if_pos hc]
      exact ⟨fun _ => ⟨rfl, hg, rfl⟩, .inr hd, by simp [hd]⟩
    · have ha : s.hasActive ∧ s.active = target := by simpa [readyTarget, hc] using ht
      obtain rfl := ha.2
      simp only [promote, if_neg hc]
      exact ⟨fun _ => ⟨ha.1, hg, rfl⟩, hi.one_offer, hi.delta⟩
  | @offered _ _ =>
    refine ⟨fun hr => ?_, .inr rfl, nofun⟩
    simp only [propose] at hr ⊢
    split at hr
    · exact hi.ready hr
    · cases hr
  | deltaOffered _ ready _ hs _ hc _ _ hg hh =>
    refine ⟨hi.ready, .inl hs, fun d h => ?_⟩
    obtain rfl : s.bindDelta _ = d := by simpa using h
    simp only [activeIsReady, Bool.and_eq_true] at ready
    exact ⟨hc, ready.1, hg, hh⟩
  | withdrawn | drainBegun => exact ⟨nofun, hi.one_offer, hi.delta⟩
  | beat | drainAcked | renewed => exact ⟨hi.ready, hi.one_offer, hi.delta⟩
  | drainRefused =>
    refine ⟨fun hr => ?_, hi.one_offer, hi.delta⟩
    simp only [restoreState] at hr ⊢
    split at hr
    · rename_i ha
      simpa [and_assoc] using ha
    · cases hr

theorem effect_inv (hi : SessionInv s) (h : Effect rules s op reply s') : SessionInv s' := by
  cases h with
  | idle => exact hi
  | closed => exact ⟨nofun, hi.one_offer, hi.delta⟩
  | changed _ change => exact change_inv hi change

theorem Reachable.sessionInv (h : Reachable rules w) : SessionInv w.session :=
  h.inv (fun _ _ _ _ _ _ _ _ _ => ⟨nofun, .inr rfl, nofun⟩) fun _ _ _ _ => effect_inv

/-! ## The generation gap is never reported -/

theorem World.call_error {α : Type} {refusal : Option Err} {now : Time}
    {body : ServerSession → ServerSession × Except Err α} {err : Err} (h : (w.call refusal now body).2 = .error err) :
    refusal = some err ∨ (w.ensureActive now).2 = some err ∨ (body w.session).2 = .error err := by
  obtain ⟨w', e, he, hr | ha, -⟩ | ⟨-, -, -, he⟩ := w.call_cases refusal now body
  all_goals rw [he] at h
  · exact .inl (Except.error.inj h ▸ hr)
  · exact .inr (.inl (Except.error.inj h ▸ ha))
  · exact .inr (.inr h)

theorem SessionInv.ack_no_gap (hi : SessionInv s) (ack : Ack) :
    (s.handleAck ack).2 ≠ .error (codeError .generationGap .generationGap true none) := by
  unfold handleAck
  split
  · simp [codeError]
  split
  · unfold ackSnapshot
    split_ifs <;> simp [codeError]
  split
  · rename_i pending hp
    obtain ⟨-, -, hg, hh⟩ := hi.delta pending hp
    unfold ackDelta
    simp only [hg, hh, bne_self_eq_false, Bool.or_self, Bool.and_false, Bool.false_eq_true, if_false]
    split_ifs <;> simp [codeError]
  · unfold ackRepeated
    dsimp only
    split_ifs <;> simp [codeError]

/-! ## The active snapshot -/

theorem Effect.active_same (h : Effect rules s op reply s') (hop : ∀ now r, op ≠ .handleReadiness now r) :
    s'.active = s.active ∧ s'.hasActive = s.hasActive := by
  cases h with
  | idle | closed => exact ⟨rfl, rfl⟩
  | changed _ change =>
    cases change with
    | readied => exact absurd rfl (hop _ _)
    | _ => exact ⟨rfl, rfl⟩

theorem Effect.active_of_readiness {now : Time} {r : Readiness} (h : Effect rules s (.handleReadiness now r) reply s') :
    (s'.active = s.active ∧ s'.hasActive = s.hasActive) ∨
      (s'.active.generation = r.generation ∧ s'.active.contentHash = r.contentHash) := by
  cases h with
  | idle | closed => exact .inl ⟨rfl, rfl⟩
  | changed _ change =>
    cases change with
    | @readied _ _ target _ ht hg hh =>
      by_cases hc : s.hasCandidate
      · obtain rfl : s.candidate = target := by simpa [readyTarget, hc] using ht
        simp only [promote, if_pos hc]
        exact .inr ⟨hg.symm, hh.symm⟩
      · rw [promote, if_neg hc]
        exact .inl ⟨rfl, rfl⟩

/-! ## A closed session is final -/

theorem Effect.of_closed (hc : s.state = .closed) (h : Effect rules s op reply s') : s' = s := by
  cases h with
  | idle => rfl
  | closed live | changed live => exact absurd hc live

end Invariants

/-! ## A session

A connector that is accepted with generation 1 of a tunnel without routes. The
rules know the canonical payloads of its first generations and their hashes. -/

namespace Sample

def payloadText (digits : String) : String :=
  "\x7b\"access_mode\":\"public\",\"desired_state\":\"active\",\"expires_at\":null,\"generation\":" ++ digits ++
    ",\"kind\":\"tunnel_config_snapshot\",\"name\":\"demo\",\"routes\":[],\"schema\":\"paperboat.preview-tunnel/v1\"," ++
    "\"stable_endpoint\":\"https://demo.tunnels.example.test\",\"tunnel_id\":\"tunnel_1\"\x7d"

structure Payload where
  generation : UInt64
  (text digest : String)

def payloads : List Payload :=
  [⟨1, payloadText "1", "179d2f9894f929c71b3267ad1d108265705db55d1dc7e2b1a1bed4153be38c8c"⟩,
   ⟨2, payloadText "2", "e3ebf9a57a65aa27b7919d6d3f5162e8155edb68ab69781fd45cafcb95e86906"⟩,
   ⟨3, payloadText "3", "9a8a1f8dc5eae362f0e858f10ae0515e094075240243ecdcb17a3a77cf3a8696"⟩]

def rulesOf (payloads : List Payload) : PayloadRules where
  canonicalJSON text limit := if text.utf8ByteSize ≤ limit then .ok text else .error .invalidInput
  digest text := ((payloads.find? fun p => p.text == text).map (·.digest)).getD ""
  validateConfigSnapshotPayload text tunnelID generation :=
    if tunnelID == "tunnel_1" && payloads.any (fun p => p.generation == generation && p.text == text) then none
    else some (.sentinel .snapshotRejected)

def rules : PayloadRules := rulesOf payloads

def snapshotOf (payloads : List Payload) (generation : UInt64) : Snapshot :=
  match payloads.find? fun p => p.generation == generation with
  | some p => ⟨"", "tunnel_1", "", "", 0, p.generation, "sha256:" ++ p.digest, p.text⟩
  | none => .empty

def snapshot : UInt64 → Snapshot := snapshotOf payloads

def server : Server where
  capabilities := productionCapabilities
  leaseDuration := defaultLease
  heartbeatInterval := defaultHeartbeat
  lease_pos := defaultLease_pos
  lease_le := defaultLease_le
  heartbeat_pos := by decide
  heartbeat_lt := by decide
  capabilities_ok := by decide +kernel

def hello : Hello where
  protocol := protocolName
  minVersion := "1.0"
  maxVersion := "1.0"
  accountID := "account_1"
  tunnelID := "tunnel_1"
  connectorID := "connector_1"
  hostID := "host_1"
  processGeneration := 1
  capabilities := productionCapabilities
  auth := authRequest

def auth : AuthResult where
  accountID := "account_1"
  tunnelID := "tunnel_1"
  connectorID := "connector_1"
  sessionID := ""
  hostID := "host_1"
  identityKeyID := "ed25519:" ++ thumbprint
  identityKeyThumbprint := thumbprint
  processGeneration := 1
  credentialGeneration := 1
  credentialExpiresAt := now.add Duration.hour
  leaseExpiresAt := now.add Duration.hour

def ref : SessionRef := ⟨"tunnel_1", "connector_1", "session_1", 1⟩

def welcome : Welcome :=
  ⟨protocolName, protocolVersion, "session_1", productionCapabilities, grantLease server auth "session_1" now, true, now⟩

/-- The session `Accept` returns for a first snapshot. -/
def session (first : Snapshot) : ServerSession :=
  openSession server ref auth welcome (bindSnapshot first "account_1" "connector_1" "session_1" 1) now

def acceptInput (first : Snapshot) : AcceptInput := ⟨now, .ok auth, .ok first, .ok "session_1"⟩

def world (first : Snapshot) : World := ⟨session first, .set .new "connector_1" (some ref), []⟩

theorem accept_first : (accept rules server .new (acceptInput (snapshot 1)) hello).2 =
    .ok (session (snapshot 1), welcome, bindSnapshot (snapshot 1) "account_1" "connector_1" "session_1" 1) := by
  decide +kernel

theorem attach_ref : (SessionRegistry.attach .new ref).1 = .set .new "connector_1" (some ref) := by
  have hv : ref.validate = none := by decide
  unfold SessionRegistry.attach
  rfl

theorem accepted : Accepted rules (world (snapshot 1)) := by
  have h := Accepted.of_ok accept_first
  rwa [show (session (snapshot 1)).ref = ref from rfl, attach_ref] at h

def ack (kind : AckKind) (status : AckStatus) (generation : UInt64) : ServerOp :=
  .handleAck now ⟨"account_1", "tunnel_1", "connector_1", "session_1", 1, kind, status, generation,
    (snapshot generation).contentHash, if status = .rejected then .snapshotRejected else .empty⟩

def ready (generation : UInt64) : ServerOp :=
  .handleReadiness now ⟨"account_1", "session_1", "tunnel_1", "connector_1", 1, generation,
    (snapshot generation).contentHash, true, true, true⟩

def offer (generation : UInt64) : ServerOp := .offerSnapshot now (snapshot generation)

def live : World := run (World.next rules) (world (snapshot 1)) [ack .snapshot .applied 1, ready 1]

theorem live_reachable : Reachable rules live := accepted.reachable.run _

end Sample

/-! ## The representation of a session -/

theorem session_representation {rules : PayloadRules} {w : World} (h : Reachable rules w) :
    (w.session.state = .ready → w.session.hasActive ∧
      w.session.readyGeneration = w.session.active.generation ∧ w.session.needsSnapshot = false) ∧
    ¬(w.session.pendingSnapshot.isSome ∧ w.session.pendingDelta.isSome) ∧
    (∀ d, w.session.pendingDelta = some d → w.session.hasCandidate = false ∧ w.session.hasActive ∧
      d.previousGeneration = w.session.active.generation ∧ d.previousContentHash = w.session.active.contentHash) ∧
    (∀ now ack, (w.handleAck now ack).2 ≠ .error (codeError .generationGap .generationGap true none)) ∧
    (w.session.state = .closed → ∀ ops, (run (World.next rules) w ops).session = w.session) := by
  have hi := h.sessionInv
  refine ⟨hi.ready, ?_, hi.delta, fun now ack he => ?_, fun hc ops => ?_⟩
  · rintro ⟨hs, hd⟩
    rcases hi.one_offer with h0 | h0
    · simp [h0] at hs
    · simp [h0] at hd
  · rcases World.call_error he with hv | ha | hb
    · unfold Ack.validate at hv
      split_ifs at hv <;> cases hv
    · unfold World.ensureActive at ha
      dsimp only at ha
      split_ifs at ha <;> cases ha
    · exact hi.ack_no_gap ack hb
  · refine run_inv' (I := fun v : World => v.session = w.session) (fun v op hv => ?_) rfl ops
    rw [Effect.of_closed (by rw [hv]; exact hc) (v.next_effect rules op), hv]

open Sample

theorem session_representation_live : live.session.state = .ready ∧ live.session.hasActive ∧
      live.session.readyGeneration = live.session.active.generation :=
  have hr : live.session.state = .ready := by decide +kernel
  have ha := (session_representation live_reachable).1 hr
  ⟨hr, ha.1, ha.2.1⟩

end Paperboat.Connector

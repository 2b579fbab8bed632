import Paperboat.Lib.Runs
import Paperboat.Connector.RotationSteps
import Paperboat.Connector.Replay
/-!
# A credential is revoked only when every target is ready

The old credentials of a plan are revoked together or not at all: a revocation
is recorded only while no target has failed and each has had its readiness
recorded, and a rotation succeeds only when each target has acknowledged its own
revocation. The state of a target says which of its records the store has
accepted (`History`); the calls to the store, in order, are the log of a run.
-/

namespace Paperboat.Connector

open Lib RotationCoordinator

variable {rules : RotationRules}

structure RotationRun (rules : RotationRules) where
  coordinator : RotationCoordinator rules
  log : List RotationStoreCall

namespace RotationRun

def next (s : RotationRun rules) (op : RotationOp) : RotationRun rules :=
  let step := s.coordinator.step op
  ⟨step.1, s.log ++ step.2.1.toList⟩

def Started (s : RotationRun rules) (plan : RotationPlan) : Prop :=
  newRotationCoordinator rules plan = .ok s.coordinator ∧ s.log = []

end RotationRun

def ReadyRecorded (log : List RotationStoreCall) (connectorID : String) : Prop :=
  ∃ ready, .ready ready none ∈ log ∧ ready.connectorID = connectorID

/-- The store has accepted a revocation of the target and an acknowledgement of
it by the session it was sent to. -/
def RevokedRecorded (log : List RotationStoreCall) (connectorID : String) : Prop :=
  ∃ revoke ack summary, .revoke revoke none ∈ log ∧ .result ack summary none ∈ log ∧
    revoke.connectorID = connectorID ∧ ack.connectorID = connectorID ∧ ack.status = .revoked ∧
    ack.sessionID = revoke.sessionID ∧ ack.processGeneration = revoke.processGeneration

namespace RotationCoordinator

variable {call : Option RotationStoreCall} {err : Option Err}

variable {c c' : RotationCoordinator rules} {log : List RotationStoreCall}

structure TargetHistory (r : TargetRecord) (log : List RotationStoreCall) (connectorID : String) : Prop where
  ready : r.state = .ready ∨ r.state = .revoking ∨ r.state = .revoked → ReadyRecorded log connectorID
  revoke : r.state = .revoking ∨ r.state = .revoked → .revoke r.revoke none ∈ log ∧ r.revoke.connectorID = connectorID
  revoked : r.state = .revoked → RevokedRecorded log connectorID

def History (c : RotationCoordinator rules) (log : List RotationStoreCall) : Prop :=
  ∀ t ∈ c.plan.targets, TargetHistory (c.record t.connectorID) log t.connectorID

variable {r : TargetRecord} {connectorID : String}

theorem TargetHistory.mono {log' : List RotationStoreCall} (h : TargetHistory r log connectorID) (hs : log ⊆ log') :
    TargetHistory r log' connectorID where
  ready hp := by
    obtain ⟨ready, hm, hid⟩ := h.ready hp
    exact ⟨ready, hs hm, hid⟩
  revoke hp := ⟨hs (h.revoke hp).1, (h.revoke hp).2⟩
  revoked hp := by
    obtain ⟨revoke, ack, summary, hr, ha, hrest⟩ := h.revoked hp
    exact ⟨revoke, ack, summary, hs hr, hs ha, hrest⟩

theorem TargetHistory.of_early (h : r.state = .challenged ∨ r.state = .installed ∨ r.state = .failed) :
    TargetHistory r log connectorID where
  ready hp := by rcases h with h | h | h <;> simp [h] at hp
  revoke hp := by rcases h with h | h | h <;> simp [h] at hp
  revoked hp := by rcases h with h | h | h <;> simp [h] at hp

theorem move_history {t : RotationTarget} {call : RotationStoreCall} (h : TargetHistory (c.record t.connectorID) log t.connectorID)
    (move : Move c t t.connectorID r call) : TargetHistory r (log ++ [call]) t.connectorID := by
  have hold := h.mono (List.subset_append_left log [call])
  cases move with
  | challenged => exact .of_early (.inl rfl)
  | proofLost | readyLost | revokeLost | gaveUp | revokedLost => exact .of_early (.inr (.inr rfl))
  | installed => exact .of_early (.inr (.inl rfl))
  | @readied ready _ _ named => exact ⟨fun _ => ⟨ready, by simp, named⟩, by simp, by simp⟩
  | revoking state => exact ⟨fun _ => hold.ready (.inl state), fun _ => ⟨by simp, rfl⟩, by simp⟩
  | @revoked ack summary state named status addressed =>
    have hrv := hold.revoke (.inl state)
    refine ⟨fun _ => hold.ready (.inr (.inl state)), fun _ => hrv, fun _ => ?_⟩
    simp only [addresses, Bool.and_eq_true, beq_iff_eq] at addressed
    exact ⟨_, ack, summary, hrv.1, by simp, hrv.2, named, status, addressed.1, addressed.2⟩

theorem effect_history (h : History c log) (he : Effect c c' call) : History c' (log ++ call.toList) := by
  cases he with
  | idle => simpa using h
  | refused | started => exact fun t ht => (h t ht).mono (List.subset_append_left _ _)
  | @moved t _ r _ _ target plan record _ move =>
    intro u hu
    rw [plan] at hu
    obtain ⟨-, hid⟩ := target_mem target
    subst hid
    rw [record]
    by_cases hne : u.connectorID = t.connectorID
    · -- a plan names each connector once
      obtain rfl := RotationPlan.target_unique c.plan_ok target hu hne
      rw [set_record_self]
      exact move_history (h u hu) move
    · rw [set_record_ne c r hne]
      exact (h u hu).mono (List.subset_append_left _ _)

theorem effect_plan (he : Effect c c' call) : c'.plan = c.plan := by
  cases he with
  | idle | refused | started => rfl
  | moved _ plan => exact plan

theorem effect_revoke {revoke : CredentialRotationRevoke} (he : Effect c c' (some (.revoke revoke err))) : Revocable c := by
  cases he with
  | refused refused => exact absurd refused (by simp [Refused])
  | moved _ _ _ _ move =>
    cases move with
    | revokeLost _ revocable | revoking _ revocable => exact revocable

theorem effect_result {ack : CredentialRotationAck} {summary : RotationSummary}
    (he : Effect c c' (some (.result ack summary err))) (hs : summary.status = .succeeded) :
    ack.status = .revoked ∧ addresses ack (c.record ack.connectorID).revoke.toRotationEnvelope ∧
      ∀ u ∈ c.plan.targets, u.connectorID ≠ ack.connectorID → (c.record u.connectorID).state = .revoked := by
  cases he with
  | refused refused =>
    cases err with
    | none => exact absurd refused (by simp [Refused])
    | some =>
      have hf : summary.status = .failed := refused
      rw [hs] at hf
      cases hf
  | moved _ _ _ _ move =>
    cases move with
    | gaveUp _ _ status =>
      rw [hs] at status
      cases status
    | revoked _ named status addressed others | revokedLost _ named status addressed others =>
      subst named
      exact ⟨status, addressed, others hs⟩

end RotationCoordinator

/-! ## Runs -/

section Runs
variable {plan : RotationPlan} {s : RotationRun rules}

structure RotationRun.Inv (plan : RotationPlan) (s : RotationRun rules) : Prop where
  plan : s.coordinator.plan = plan
  history : s.coordinator.History s.log

theorem RotationRun.next_inv (h : s.Inv plan) (op : RotationOp) : (s.next op).Inv plan := by
  obtain ⟨he, -⟩ := s.coordinator.step_effect op
  exact ⟨(effect_plan he).trans h.plan, effect_history h.history he⟩

theorem RotationRun.Started.inv (h : s.Started plan) : s.Inv plan := by
  obtain ⟨hn, hl⟩ := h
  unfold newRotationCoordinator at hn
  split at hn
  · obtain ⟨c, log⟩ := s
    cases hn
    refine ⟨rfl, fun t _ => ?_⟩
    exact ⟨by simp [TargetRecord.new], by simp [TargetRecord.new], by simp [TargetRecord.new]⟩
  · cases hn

theorem RotationRun.Inv.succeeded (h : s.Inv plan) (hs : s.coordinator.summary.status = .succeeded) :
    ∀ t ∈ plan.targets, RevokedRecorded s.log t.connectorID := by
  intro t ht
  rw [← h.plan] at ht
  exact (h.history t ht).revoked (status_succeeded.1 hs t ht)

end Runs

/-- In every run of a coordinator a revocation is recorded only when every target has a recorded readiness and none
has failed, and a summary says succeeded only if each target was acknowledged as revoked, the last one possibly by the
acknowledgement just being recorded. -/
theorem rotation_safety {rules : RotationRules} {plan : RotationPlan} {s₀ : RotationRun rules} (h : s₀.Started plan)
    (ops : List RotationOp) (op : RotationOp) :
    let s := run RotationRun.next s₀ ops
    let step := s.coordinator.step op
    (∀ revoke err, step.2.1 = some (.revoke revoke err) → ∀ t ∈ plan.targets,
      ReadyRecorded s.log t.connectorID ∧ (s.coordinator.record t.connectorID).state ≠ .failed) ∧
    (s.coordinator.summary.status = .succeeded → ∀ t ∈ plan.targets, RevokedRecorded s.log t.connectorID) ∧
    (∀ summary err, step.2.2 = .summarised (some summary) err → summary.status = .succeeded →
      ∀ t ∈ plan.targets, RevokedRecorded (s.next op).log t.connectorID) ∧
    (∀ ack summary err, step.2.1 = some (.result ack summary err) → summary.status = .succeeded →
      ∀ t ∈ plan.targets, RevokedRecorded s.log t.connectorID ∨ (t.connectorID = ack.connectorID ∧
        ack.status = .revoked ∧ addresses ack (s.coordinator.record t.connectorID).revoke.toRotationEnvelope)) := by
  intro s step
  have hi : s.Inv plan := run_inv' (I := RotationRun.Inv plan) (fun _ op hi => RotationRun.next_inv hi op) h.inv ops
  have hn : (s.next op).Inv plan := RotationRun.next_inv hi op
  obtain ⟨he, hr⟩ : RotationCoordinator.StepEffect s.coordinator step := s.coordinator.step_effect op
  refine ⟨fun revoke err hcall t ht => ?_, hi.succeeded, fun summary err hreply hs => ?_, fun ack summary err hcall hs t ht => ?_⟩
  · rw [hcall] at he
    have hrev := effect_revoke he
    rw [← hi.plan] at ht
    exact ⟨(hi.history t ht).ready (hrev.all_ready t ht), hrev.none_failed t ht⟩
  · rw [hreply] at hr
    refine hn.succeeded ?_
    rw [← hs, show summary = (s.next op).coordinator.summary from hr]
  · rw [hcall] at he
    obtain ⟨hstatus, haddr, hothers⟩ := effect_result he hs
    rw [← hi.plan] at ht
    by_cases hne : t.connectorID = ack.connectorID
    · exact .inr ⟨hne, hstatus, by rw [hne]; exact haddr⟩
    · exact .inl ((hi.history t ht).revoked (hothers t ht hne))

/-! ## A rotation of one connector -/

namespace Sample

/-- The hash of a plan is its number of targets here; keys are named by what
they decode to. -/
def rotationRules : RotationRules where
  toProofRules := { proofRules with decodeBase64 := fun text => some (List.replicate (if text == "new_key" then 32 else 64) 0) }
  encodeBase64 _ := "new_key"
  parseURL _ := some ⟨"keychain", "paperboat", false, "", "", "", "/connector"⟩
  rotationPlanHash plan := .ok ("sha256:" ++ String.ofList (List.replicate 63 '0') ++ toString plan.targets.length)
  rotationTranscript proof := .ok proof.challengeNonce.toByteArray.data.toList

def rotationTarget : RotationTarget := ⟨"connector_1", "host_1", 1, 2⟩

def rotationPlan : RotationPlan where
  accountID := "account_1"
  tunnelID := "tunnel_1"
  operationID := "operation_1"
  targetSetHash := "sha256:0000000000000000000000000000000000000000000000000000000000000001"
  targets := [rotationTarget]

def bothTargets : RotationPlan :=
  { rotationPlan with
    targetSetHash := "sha256:0000000000000000000000000000000000000000000000000000000000000002"
    targets := [rotationTarget, ⟨"connector_2", "host_2", 1, 2⟩] }

def rotationOf (plan : RotationPlan) (h : plan.validate rotationRules = none) : RotationRun rotationRules :=
  ⟨⟨plan, h, false, .zero, fun _ => .new⟩, []⟩

theorem started_rotationOf {plan : RotationPlan} (h : plan.validate rotationRules = none) : (rotationOf plan h).Started plan := by
  refine ⟨?_, rfl⟩
  unfold newRotationCoordinator
  rw [dif_pos h]
  rfl

def rotation : RotationRun rotationRules := rotationOf rotationPlan (by decide +kernel)

theorem started_rotation : rotation.Started rotationPlan := started_rotationOf _

def oldThumbprint : String := "ABCDEFGHIJKLMNOPQRSTUVWXYZabcdefghijklmnopq"

section
variable (plan : RotationPlan) (n : String)

def rotationEnvelope (sessionID : String) (processGeneration : UInt64) : RotationEnvelope :=
  ⟨"account_1", "tunnel_1", "operation_1", "connector_" ++ n, "host_" ++ n, sessionID, processGeneration, plan.targetSetHash, 1, 2⟩

def rotationProof : CredentialRotationProof :=
  ⟨rotationEnvelope plan n "session_1" 1, "ed25519:" ++ oldThumbprint, oldThumbprint,
    "ed25519:" ++ thumbprint, thumbprint, "new_key", "keychain://paperboat/connector", "challenge_0123456", now, later 100,
    "proof_01234567890123456789012345", "proof_01234567890123456789012345"⟩

def readyReport : CredentialRotationReady :=
  ⟨rotationEnvelope plan n "session_2" 2, "session_1", "ed25519:" ++ thumbprint, thumbprint, "new_key",
    "keychain://paperboat/connector", later 100, 1, plan.targetSetHash, true, true, true, now⟩

def installing : List RotationOp :=
  [.challenge now none ⟨"connector_" ++ n, "session_1", 1, "ed25519:" ++ oldThumbprint, oldThumbprint, "challenge_0123456",
      now, later 5, later 10, later 100⟩ none none,
    .acceptProof now none (rotationProof plan n) none none, .markReady now none (readyReport plan n) none]

def revoking : List RotationOp :=
  [.revoke now none ("connector_" ++ n) (.ok "rotation-revoke_0") none,
    .handleAck none ⟨rotationEnvelope plan n "session_2" 2, .revoked, .empty, ""⟩ now none]

end

def rotationOps (plan : RotationPlan) (ns : List String) : List RotationOp :=
  .start none none :: (ns.flatMap (installing plan) ++ ns.flatMap (revoking plan))

end Sample

open Sample

theorem rotation_safety_succeeded :
    let s := run RotationRun.next (rotationOf bothTargets (by decide +kernel)) (rotationOps bothTargets ["1", "2"])
    s.coordinator.summary.status = .succeeded ∧ ∀ t ∈ bothTargets.targets, RevokedRecorded s.log t.connectorID := by
  intro s
  have hs : s.coordinator.summary.status = .succeeded := by decide +kernel
  exact ⟨hs, (rotation_safety (started_rotationOf _) _ (.start none none)).2.1 hs⟩

end Paperboat.Connector

import Paperboat.Connector.RotationSafety
/-!
# Every live rotation can be resumed

After a restart `Resume` rebuilds a coordinator from stored records and refuses
a target whose records do not fit together. The records of a target come in
phases: each message is recorded on top of the previous one, and a failed target
keeps those of the phase it failed in. `Phase.Holds` says what the records of a
phase satisfy; every move leads from one phase to the next, so the projection of
every target of every reachable coordinator passes the check.
-/

namespace Paperboat.Connector

open Lib RotationEnvelope CredentialRotationChallenge RotationCoordinator List RotationPlan

variable {rules : RotationRules} {now : Time} {r : TargetRecord} {i : CredentialRotationInstall} {v : CredentialRotationRevoke}
  {ready : CredentialRotationReady} {c : CredentialRotationChallenge}

/-! ## Recovery -/

structure RotationResumeTarget where
  target : RotationTarget
  state : RotationTargetState
  code : Code
  (overlapUntil newCredentialValidUntil : Time)
  challenge : CredentialRotationChallenge
  proof : CredentialRotationProof
  install : CredentialRotationInstall
  ready : CredentialRotationReady
  revoke : CredentialRotationRevoke

structure RotationResume where
  plan : RotationPlan
  started : Bool
  finishedAt : Time
  targets : List RotationResumeTarget

section Checks
variable (rules : RotationRules) (plan : RotationPlan) (t : RotationTarget)

def RotationEnvelope.belongs (e : RotationEnvelope) : Bool :=
  e.accountID == plan.accountID && e.tunnelID == plan.tunnelID && e.operationID == plan.operationID &&
    e.targetSetHash == plan.targetSetHash && e.connectorID == t.connectorID && e.hostID == t.hostID

def RotationEnvelope.rotates (e : RotationEnvelope) : Bool :=
  e.oldCredentialGeneration == t.oldCredentialGeneration && e.newCredentialGeneration == t.newCredentialGeneration

def CredentialRotationChallenge.recoverable (c : CredentialRotationChallenge) : Bool :=
  (c.validate .zero).isNone && c.toRotationEnvelope.belongs plan t && c.target == t

def CredentialRotationInstall.recoverable (i : CredentialRotationInstall) (challenge : CredentialRotationChallenge) : Bool :=
  (i.validate rules .zero).isNone && i.toRotationEnvelope.belongs plan t && i.toRotationEnvelope.rotates t &&
    i.sessionID == challenge.sessionID && i.processGeneration == challenge.processGeneration &&
    i.challengeNonce == challenge.challengeNonce

def CredentialRotationReady.recoverable (r : CredentialRotationReady) (install : CredentialRotationInstall) : Bool :=
  (r.validate rules .zero).isNone && r.toRotationEnvelope.belongs plan t && r.toRotationEnvelope.rotates t &&
    r.previousSessionID == install.sessionID && r.sessionID != install.sessionID &&
    decide (install.replacementProcessGeneration ≤ r.processGeneration) &&
    r.newIdentityKeyID == install.newIdentityKeyID && r.newIdentityKeyThumbprint == install.newIdentityKeyThumbprint &&
    r.newPublicKey == install.newPublicKey && r.newCredentialReference == install.newCredentialReference &&
    r.newCredentialValidUntil.equal install.newCredentialValidUntil

/-- The revocation went to the session that reported ready, or was bound again
to a newer one. -/
def CredentialRotationRevoke.recoverable (v : CredentialRotationRevoke) (ready : CredentialRotationReady) : Bool :=
  let sameReadySession := v.processGeneration == ready.processGeneration && v.sessionID == ready.sessionID
  let reboundSession := decide (ready.processGeneration < v.processGeneration) && v.sessionID != ready.sessionID
  (v.validate .zero).isNone && v.toRotationEnvelope.belongs plan t && v.toRotationEnvelope.rotates t &&
    (sameReadySession || reboundSession)

end Checks

namespace RotationResumeTarget

variable (rec : RotationResumeTarget)

def record : TargetRecord := ⟨rec.state, rec.code, rec.challenge, rec.proof, rec.install, rec.ready, rec.revoke⟩

def challengePresent : Bool := rec.challenge.sessionID != ""
def installPresent : Bool := rec.install.sessionID != ""
def readyPresent : Bool := rec.ready.sessionID != ""
def revokePresent : Bool := rec.revoke.sessionID != ""

/-- No message without its predecessor. -/
def inSequence : Bool :=
  (rec.challengePresent || !(rec.installPresent || rec.readyPresent || rec.revokePresent)) &&
    (rec.installPresent || !(rec.readyPresent || rec.revokePresent)) && (rec.readyPresent || !rec.revokePresent)

def phaseMatches : Bool :=
  match rec.state with
  | .pending => !(rec.challengePresent || rec.installPresent || rec.readyPresent || rec.revokePresent)
  | .challenged => rec.challengePresent && !(rec.installPresent || rec.readyPresent || rec.revokePresent)
  | .installed => rec.installPresent && !(rec.readyPresent || rec.revokePresent)
  | .ready => rec.readyPresent && !rec.revokePresent
  | .revoking | .revoked => rec.revokePresent
  | _ => true

def deadlinesOk : Bool :=
  rec.overlapUntil.isZero == rec.newCredentialValidUntil.isZero &&
    (rec.overlapUntil.isZero || rec.newCredentialValidUntil.after rec.overlapUntil)

def codeOk : Bool :=
  if rec.state = .failed then rec.code != .empty && validCode rec.code else rec.code == .empty

end RotationResumeTarget

def validateRotationResumeTarget (rules : RotationRules) (plan : RotationPlan) (rec : RotationResumeTarget) : Option Err :=
  rec.target.validate.or <|
    if plan.target rec.target.connectorID ≠ some rec.target then some .identityMismatch
    else if !validRotationTargetState rec.state then some .invalidInput
    else if !rec.codeOk then some .invalidInput
    else if !rec.deadlinesOk then some .invalidInput
    else if !rec.inSequence then some .invalidInput
    else if rec.challengePresent && !rec.challenge.recoverable plan rec.target then some .identityMismatch
    else if rec.installPresent && !rec.install.recoverable rules plan rec.target rec.challenge then some .identityMismatch
    else if rec.readyPresent && !rec.ready.recoverable rules plan rec.target rec.install then some .identityMismatch
    else if rec.revokePresent && !rec.revoke.recoverable plan rec.target rec.ready then some .identityMismatch
    else if !rec.phaseMatches then some .invalidInput
    else none

namespace RotationCoordinator

def resumeTarget (c : RotationCoordinator rules) (t : RotationTarget) : RotationResumeTarget :=
  let r := c.record t.connectorID
  ⟨t, r.state, r.code, r.challenge.overlapUntil, r.challenge.newCredentialValidUntil, r.challenge, r.proof, r.install,
    r.ready, r.revoke⟩

def project (c : RotationCoordinator rules) : RotationResume :=
  ⟨c.plan, c.started, c.finished, c.plan.targets.map c.resumeTarget⟩

def recoveryMismatch (message : String) : Err :=
  codeError .identityMismatch .credentialRotation false (some (.text message))

def scanRecovered (c : RotationCoordinator rules) (seen : List String) : List RotationResumeTarget → Option Err
  | [] => none
  | rec :: rest =>
    if seen.contains rec.target.connectorID then some (recoveryMismatch "rotation recovery contains duplicate target")
    else if c.plan.target rec.target.connectorID ≠ some rec.target || !validRotationTargetState rec.state ||
        (validateRotationResumeTarget rules c.plan rec).isSome then
      some (recoveryMismatch "rotation recovery target or phase mismatch")
    else c.scanRecovered (rec.target.connectorID :: seen) rest

def checkFinished (loaded : RotationResume) (clock : Time) : Option Err :=
  if loaded.finishedAt.isZero then none
  else if !(loaded.targets.any fun rec => rec.state == .failed) && !(loaded.targets.all fun rec => rec.state == .revoked) then
    some (recoveryMismatch "rotation recovery finished timestamp does not match target states")
  else if loaded.finishedAt.after (clock.utc.add maxClockSkew) then
    some (recoveryMismatch "rotation recovery finished timestamp is in the future")
  else none

def restore (c : RotationCoordinator rules) (rec : RotationResumeTarget) : RotationCoordinator rules :=
  c.set rec.target.connectorID rec.record

def samePlan (c : RotationCoordinator rules) (loaded : RotationResume) : Bool :=
  loaded.started && loaded.plan.accountID == c.plan.accountID && loaded.plan.tunnelID == c.plan.tunnelID &&
    loaded.plan.operationID == c.plan.operationID && loaded.plan.targetSetHash == c.plan.targetSetHash &&
    (loaded.plan.validate rules).isNone

/-- `answer` is none for a store that cannot recover. -/
def resume (c : RotationCoordinator rules) (ctxErr : Option Err) (answer : Option (Except Err RotationResume)) (clock : Time) :
    RotationCoordinator rules × Option Err :=
  match ctxErr, answer with
  | some err, _ => (c, some (canceled err))
  | none, none => (c, some (codeError .unsupportedMessage .credentialRotation false
      (some (.text "rotation persistence does not support recovery"))))
  | none, some (.error err) => (c, some (codeError .credentialRotationFailed .credentialRotation true (some err)))
  | none, some (.ok loaded) =>
    if !c.samePlan loaded then (c, some (recoveryMismatch "rotation recovery plan mismatch"))
    else if c.started then (c, none)
    else if loaded.targets.length != c.plan.targets.length then
      (c, some (recoveryMismatch "rotation recovery target count mismatch"))
    else match c.scanRecovered [] loaded.targets, checkFinished loaded clock with
    | some err, _ => (c, some err)
    | none, some err => (c, some err)
    | none, none =>
      let finished := if loaded.finishedAt.isZero then .zero else loaded.finishedAt
      ({ loaded.targets.foldl restore c with started := true, finished }, none)

end RotationCoordinator

/-! ## A checked message passes without the clock -/

theorem RotationEnvelope.sessionID_ne {e : RotationEnvelope} (h : e.ok) : e.sessionID ≠ "" := by
  intro he
  have hem : okIdentifier "" = false := by decide
  simp [ok, he, hem] at h

theorem CredentialRotationChallenge.validate_zero (h : c.validate now = none) :
    c.validate .zero = none ∧ c.wellFormed := by
  unfold validate at h ⊢
  split_ifs at h with hw ht hn
  rw [if_neg hw, if_neg ht]
  exact ⟨by simp, by simpa using hw⟩

theorem CredentialRotationInstall.validate_zero (h : i.validate rules now = none) :
    i.validate rules .zero = none ∧ i.toRotationEnvelope.ok := by
  unfold validate at h ⊢
  split at h
  · cases h
  rename_i hw
  split at h
  · cases h
  rw [if_neg hw]
  simp only [Bool.or_eq_true, not_or] at hw
  exact ⟨by simp, by simpa using hw.1.1.1.1.1.1.1.1⟩

theorem CredentialRotationReady.validate_zero {r : CredentialRotationReady} (h : r.validate rules now = none) :
    r.validate rules .zero = none ∧ r.toRotationEnvelope.ok := by
  unfold validate at h ⊢
  split at h
  · cases h
  rename_i hw
  split at h
  · cases h
  split at h
  · cases h
  rename_i hrd
  rw [if_neg hw, if_neg hrd]
  simp only [Bool.or_eq_true, not_or] at hw
  exact ⟨by simp, by simpa using hw.1.1.1.1.1.1.1⟩

theorem CredentialRotationRevoke.validate_zero (h : v.validate now = none) :
    v.validate .zero = none ∧ v.toRotationEnvelope.ok := by
  unfold validate at h ⊢
  split_ifs at h with hw hn
  rw [if_neg hw]
  simp only [Bool.or_eq_true, not_or] at hw
  exact ⟨by simp, by simpa using hw.1.1.1.1.1⟩

/-! ## Phases -/

/-- How many of the four messages of a target are recorded. -/
inductive Phase where
  | fresh | challenged | installed | ready | revoking

section Phases
variable (rules : RotationRules) (plan : RotationPlan) (t : RotationTarget)

structure Phase.Holds (phase : Phase) (r : TargetRecord) : Prop where
  challenge : match phase with
    | .fresh => r.challenge = .empty
    | _ => r.challenge.recoverable plan t
  install : match phase with
    | .fresh | .challenged => r.install = .empty
    | _ => r.install.recoverable rules plan t r.challenge
  ready : match phase with
    | .fresh | .challenged | .installed => r.ready = .empty
    | _ => r.ready.recoverable rules plan t r.install
  revoke : match phase with
    | .revoking => r.revoke.recoverable plan t r.ready
    | _ => r.revoke = .empty

def Phase.Fits : Phase → RotationTargetState → Prop
  | .fresh, state => state = .pending ∨ state = .failed
  | .challenged, state => state = .challenged ∨ state = .failed
  | .installed, state => state = .installed ∨ state = .failed
  | .ready, state => state = .ready ∨ state = .failed
  | .revoking, state => state = .revoking ∨ state = .revoked ∨ state = .failed

structure Resumable (r : TargetRecord) : Prop where
  phase : ∃ phase : Phase, phase.Fits r.state ∧ phase.Holds rules plan t r
  code : if r.state = .failed then validCode r.code = true else r.code = .empty

variable {rules plan t}

theorem Resumable.holds (h : Resumable rules plan t r) (phase : Phase) (hf : phase.Fits r.state)
    (hn : r.state ≠ .failed) : phase.Holds rules plan t r ∧ r.code = .empty := by
  obtain ⟨⟨phase', hf', hh⟩, hc⟩ := h
  obtain rfl : phase = phase' := by
    cases phase <;> cases phase' <;> grind [Phase.Fits]
  rw [if_neg hn] at hc
  exact ⟨hh, hc⟩

theorem Resumable.fail (h : Resumable rules plan t r) {code : Code} (hc : validCode code) :
    Resumable rules plan t (r.fail code) := by
  obtain ⟨phase, -, hh⟩ := h.phase
  refine ⟨⟨phase, ?_, ?_⟩, ?_⟩
  · cases phase <;> simp [Phase.Fits, TargetRecord.fail]
  · cases phase <;> exact ⟨hh.challenge, hh.install, hh.ready, hh.revoke⟩
  · simpa [TargetRecord.fail] using hc

end Phases

namespace RotationCoordinator

variable {challenge : CredentialRotationChallenge}

variable {c c' : RotationCoordinator rules} {t : RotationTarget}

theorem challengeFor_recoverable {input : ChallengeInput} (hid : input.connectorID = t.connectorID)
    (hv : (c.challengeFor t input).validate now = none) : (c.challengeFor t input).recoverable c.plan t := by
  have hb : (c.challengeFor t input).toRotationEnvelope.belongs c.plan t := by
    simp [challengeFor, envelope, belongs, hid]
  rw [recoverable, (validate_zero hv).1, hb]
  simp [challengeFor]

theorem installFor_recoverable {proof : CredentialRotationProof}
    (hc : challenge.recoverable c.plan t) (hm : rotationProofMatchesChallenge proof challenge t)
    (hv : (c.installFor challenge proof).validate rules now = none) :
    (c.installFor challenge proof).recoverable rules c.plan t challenge := by
  rw [CredentialRotationInstall.recoverable, (CredentialRotationInstall.validate_zero hv).1]
  simp only [recoverable, belongs, Bool.and_eq_true, beq_iff_eq] at hc
  simp only [rotationProofMatchesChallenge, Bool.and_eq_true, beq_iff_eq] at hm
  simp only [installFor, belongs, rotates, Bool.and_eq_true, beq_iff_eq,
    Option.isNone_none]
  grind

theorem ready_recoverable {ready : CredentialRotationReady} {install : CredentialRotationInstall}
    (hi : install.recoverable rules c.plan t challenge)
    (hm : c.readyMatches ready install) (hv : ready.validate rules now = none) :
    ready.recoverable rules c.plan t install := by
  rw [CredentialRotationReady.recoverable, (CredentialRotationReady.validate_zero hv).1]
  simp only [CredentialRotationInstall.recoverable, belongs, rotates,
    Bool.and_eq_true, beq_iff_eq] at hi
  simp only [readyMatches, Bool.and_eq_true, beq_iff_eq] at hm
  simp only [belongs, rotates, Bool.and_eq_true, beq_iff_eq, Time.equal_iff,
    Option.isNone_none]
  grind

theorem move_resumable {r : TargetRecord} {call : RotationStoreCall}
    (h : Resumable rules c.plan t (c.record t.connectorID)) (move : Move c t t.connectorID r call) :
    Resumable rules c.plan t r := by
  cases move with
  | challenged fresh named valid =>
    have hcl := challengeFor_recoverable named valid
    rcases fresh with hs | hs
    · obtain ⟨hh, hc⟩ := h.holds .fresh (.inl hs) (by simp [hs])
      exact ⟨⟨.challenged, .inl rfl, hcl, hh.install, hh.ready, hh.revoke⟩, by simpa using hc⟩
    · obtain ⟨hh, hc⟩ := h.holds .challenged (.inl hs) (by simp [hs])
      exact ⟨⟨.challenged, .inl rfl, hcl, hh.install, hh.ready, hh.revoke⟩, by simpa using hc⟩
  | proofLost | readyLost | revokeLost | revokedLost => exact h.fail rfl
  | installed state _ matched valid =>
    obtain ⟨hh, hc⟩ := h.holds .challenged (.inl state) (by simp [state])
    have hi := installFor_recoverable hh.challenge matched valid
    exact ⟨⟨.installed, .inl rfl, hh.challenge, hi, hh.ready, hh.revoke⟩, by simpa using hc⟩
  | readied state _ matched valid =>
    obtain ⟨hh, hc⟩ := h.holds .installed (.inl state) (by simp [state])
    have hr := ready_recoverable hh.install matched valid
    exact ⟨⟨.ready, .inl rfl, hh.challenge, hh.install, hr, hh.revoke⟩, by simpa using hc⟩
  | revoking state _ valid =>
    obtain ⟨hh, hc⟩ := h.holds .ready (.inl state) (by simp [state])
    refine ⟨⟨.revoking, .inl rfl, hh.challenge, hh.install, hh.ready, ?_⟩, by simpa using hc⟩
    rw [CredentialRotationRevoke.recoverable, (CredentialRotationRevoke.validate_zero valid).1]
    simp [revokeFor, envelope, belongs, rotates]
  | gaveUp _ code_ok => exact h.fail code_ok
  | revoked state =>
    obtain ⟨hh, hc⟩ := h.holds .revoking (.inl state) (by simp [state])
    exact ⟨⟨.revoking, .inr (.inl rfl), hh.challenge, hh.install, hh.ready, hh.revoke⟩, by simpa using hc⟩

end RotationCoordinator

/-! ## The check of a resumed target -/

section Check
variable {plan : RotationPlan} {t : RotationTarget}

theorem CredentialRotationChallenge.recoverable_sessionID (h : c.recoverable plan t) : c.sessionID ≠ "" := by
  simp only [recoverable, Bool.and_eq_true, Option.isNone_iff_eq_none] at h
  have hw := (validate_zero h.1.1).2
  simp only [wellFormed, Bool.and_eq_true] at hw
  exact sessionID_ne (by tauto)

theorem CredentialRotationInstall.recoverable_sessionID
    {challenge : CredentialRotationChallenge} (h : i.recoverable rules plan t challenge) : i.sessionID ≠ "" := by
  simp only [recoverable, Bool.and_eq_true, Option.isNone_iff_eq_none] at h
  exact sessionID_ne (validate_zero h.1.1.1.1.1).2

theorem CredentialRotationReady.recoverable_sessionID
    {install : CredentialRotationInstall} (h : ready.recoverable rules plan t install) : ready.sessionID ≠ "" := by
  simp only [recoverable, Bool.and_eq_true, Option.isNone_iff_eq_none] at h
  exact sessionID_ne (validate_zero h.1.1.1.1.1.1.1.1.1.1).2

theorem CredentialRotationRevoke.recoverable_sessionID (h : v.recoverable plan t ready) : v.sessionID ≠ "" := by
  simp only [recoverable, Bool.and_eq_true, Option.isNone_iff_eq_none] at h
  exact sessionID_ne (validate_zero h.1.1.1).2

def Phase.index : Phase → Nat
  | .fresh => 0
  | .challenged => 1
  | .installed => 2
  | .ready => 3
  | .revoking => 4

variable {c : RotationCoordinator rules} {phase : Phase}

theorem Phase.Holds.present (h : phase.Holds rules c.plan t (c.record t.connectorID)) :
    (c.resumeTarget t).challengePresent = decide (1 ≤ phase.index) ∧
      (c.resumeTarget t).installPresent = decide (2 ≤ phase.index) ∧
      (c.resumeTarget t).readyPresent = decide (3 ≤ phase.index) ∧
      (c.resumeTarget t).revokePresent = decide (4 ≤ phase.index) := by
  obtain ⟨hc, hi, hr, hv⟩ := h
  simp only [RotationResumeTarget.challengePresent, RotationResumeTarget.installPresent,
    RotationResumeTarget.readyPresent, RotationResumeTarget.revokePresent, resumeTarget]
  refine ⟨?_, ?_, ?_, ?_⟩ <;> cases phase
  -- Message by message: empty before its phase, and from then on with a session.
  any_goals simpa [index] using recoverable_sessionID hc
  any_goals simpa [index] using CredentialRotationInstall.recoverable_sessionID hi
  any_goals simpa [index] using CredentialRotationReady.recoverable_sessionID hr
  any_goals simpa [index] using CredentialRotationRevoke.recoverable_sessionID hv
  all_goals simp_all [index]
  all_goals rfl

theorem Phase.Holds.deadlinesOk (h : phase.Holds rules c.plan t (c.record t.connectorID)) :
    (c.resumeTarget t).deadlinesOk := by
  have hc := h.challenge
  simp only [RotationResumeTarget.deadlinesOk, resumeTarget]
  cases phase with
  | fresh =>
    rw [hc]
    rfl
  | challenged | installed | ready | revoking =>
    simp only [recoverable, Bool.and_eq_true, Option.isNone_iff_eq_none] at hc
    have hw := (validate_zero hc.1.1).2
    simp only [wellFormed, Bool.and_eq_true, Bool.not_eq_true'] at hw
    simp [hw]

theorem Phase.Holds.inSequence (h : phase.Holds rules c.plan t (c.record t.connectorID)) :
    (c.resumeTarget t).inSequence := by
  obtain ⟨hc, hi, hr, hv⟩ := h.present
  rw [RotationResumeTarget.inSequence, hc, hi, hr, hv]
  cases phase <;> rfl

theorem Phase.Holds.phaseMatches (h : phase.Holds rules c.plan t (c.record t.connectorID))
    (hf : phase.Fits (c.record t.connectorID).state) : (c.resumeTarget t).phaseMatches := by
  obtain ⟨hc, hi, hr, hv⟩ := h.present
  have hs : (c.resumeTarget t).state = (c.record t.connectorID).state := rfl
  rw [RotationResumeTarget.phaseMatches, hs, hc, hi, hr, hv]
  generalize (c.record t.connectorID).state = state at hf ⊢
  cases phase <;> simp only [Phase.Fits] at hf
  all_goals rcases hf with rfl | rfl | rfl <;> rfl

theorem Phase.Fits.valid {state : RotationTargetState} (h : phase.Fits state) : validRotationTargetState state := by
  cases phase <;> simp only [Phase.Fits] at h
  all_goals rcases h with rfl | rfl | rfl <;> rfl

theorem Resumable.codeOk (h : Resumable rules c.plan t (c.record t.connectorID)) : (c.resumeTarget t).codeOk := by
  have hcode := h.code
  simp only [RotationResumeTarget.codeOk, resumeTarget]
  split_ifs at hcode with hs
  · have hne : (c.record t.connectorID).code ≠ .empty := by
      intro he
      rw [he] at hcode
      cases hcode
    simp [hs, hne, hcode]
  · simp [hs, hcode]

theorem Phase.Holds.recoverable (h : phase.Holds rules c.plan t (c.record t.connectorID)) :
    ((c.resumeTarget t).challengePresent → (c.record t.connectorID).challenge.recoverable c.plan t) ∧
      ((c.resumeTarget t).installPresent →
        (c.record t.connectorID).install.recoverable rules c.plan t (c.record t.connectorID).challenge) ∧
      ((c.resumeTarget t).readyPresent →
        (c.record t.connectorID).ready.recoverable rules c.plan t (c.record t.connectorID).install) ∧
      ((c.resumeTarget t).revokePresent →
        (c.record t.connectorID).revoke.recoverable c.plan t (c.record t.connectorID).ready) := by
  obtain ⟨hc, hi, hr, hv⟩ := h.present
  obtain ⟨hc, hi, hr, hv⟩ := h
  cases phase <;> simp_all [index]

theorem Resumable.check (h : Resumable rules c.plan t (c.record t.connectorID)) (ht : t ∈ c.plan.targets) :
    validateRotationResumeTarget rules c.plan (c.resumeTarget t) = none := by
  obtain ⟨phase, hf, hh⟩ := h.phase
  have htg : (c.resumeTarget t).target = t := rfl
  have hvalid : t.validate = none := ((scanTargets_ok (scan_of_valid c.plan_ok)).1 t ht).1
  have hplan : c.plan.target t.connectorID = some t := (target_eq c.plan_ok).2 ht
  obtain ⟨hc, hi, hr, hv⟩ := hh.recoverable
  have hst : validRotationTargetState (c.resumeTarget t).state := hf.valid
  simp only [validateRotationResumeTarget, htg, hvalid, hplan, hst, h.codeOk, hh.deadlinesOk, hh.inSequence,
    hh.phaseMatches hf]
  simp only [Option.none_or, ne_eq, not_true_eq_false, if_false, Bool.not_true, Bool.false_eq_true]
  rw [if_neg, if_neg, if_neg, if_neg]
  all_goals simp only [Bool.and_eq_true, Bool.not_eq_true', not_and, Bool.not_eq_false]
  · exact hv
  · exact hr
  · exact hi
  · exact hc

end Check

/-! ## Runs and restarts -/

namespace RotationCoordinator

variable {id : String} {call : Option RotationStoreCall} {recs : List RotationResumeTarget} {clock : Time}

variable {c c' c0 : RotationCoordinator rules}

theorem Move.live {t : RotationTarget} {r : TargetRecord} {call : RotationStoreCall} (move : Move c t id r call) :
    (c.record id).state ≠ .failed ∧ (c.record id).state ≠ .revoked := by
  cases move with
  | challenged fresh => rcases fresh with h | h <;> simp [h]
  | gaveUp live => exact ⟨live.2, live.1⟩
  | proofLost state | installed state | readyLost state | readied state | revokeLost state | revoking state
  | revoked state | revokedLost state => simp [state]

theorem effect_terminal (h : Terminal c) (he : Effect c c' call) : Terminal c' := by
  cases he with
  | idle | refused | started => exact h
  | @moved t _ r _ _ target plan record _ move =>
    obtain ⟨hmem, rfl⟩ := target_mem target
    rcases h with ⟨u, hu, hf⟩ | hall
    · have hne : u.connectorID ≠ t.connectorID := by
        intro he
        rw [he] at hf
        exact move.live.1 hf
      exact .inl ⟨u, by rwa [plan], by rwa [record, set_record_ne c r hne]⟩
    · exact absurd (hall t hmem) move.live.2

structure Sound (c : RotationCoordinator rules) : Prop where
  targets : ∀ t ∈ c.plan.targets, Resumable rules c.plan t (c.record t.connectorID)
  finished : c.finished.isZero = false → Terminal c

theorem effect_sound (h : Sound c) (he : Effect c c' call) : Sound c' := by
  have hterm := fun hc : Terminal c => effect_terminal hc he
  cases he with
  | idle | refused => exact h
  | started => exact ⟨h.targets, h.finished⟩
  | @moved t _ r _ _ target plan record finish move =>
    refine ⟨fun u hu => ?_, fun hz => ?_⟩
    · rw [plan] at hu ⊢
      obtain ⟨-, rfl⟩ := target_mem target
      rw [record]
      by_cases hne : u.connectorID = t.connectorID
      · obtain rfl := target_unique c.plan_ok target hu hne
        rw [set_record_self]
        exact move_resumable (h.targets u hu) move
      · rw [set_record_ne c r hne]
        exact h.targets u hu
    · rcases finish with hfin | hfin
      · rw [hfin] at hz
        exact hterm (h.finished hz)
      · exact hfin

theorem restore_other
    (hid : id ∉ recs.map fun rec => rec.target.connectorID) : (recs.foldl restore c0).record id = c0.record id := by
  induction recs generalizing c0 with
  | nil => rfl
  | cons _ _ ih =>
    rw [map_cons, mem_cons, not_or] at hid
    rw [foldl_cons, ih hid.2, restore, set_record_ne _ _ hid.1]

theorem restore_all (hn : (recs.map fun rec => rec.target.connectorID).Nodup) : (recs.foldl restore c0).plan = c0.plan ∧
      ∀ rec ∈ recs, (recs.foldl restore c0).record rec.target.connectorID = rec.record := by
  induction recs generalizing c0 with
  | nil => exact ⟨rfl, by simp⟩
  | cons rec _ ih =>
    rw [map_cons, nodup_cons] at hn
    obtain ⟨hplan, hrec⟩ := @ih (c0.restore rec) hn.2
    refine ⟨hplan, fun rec' hmem => ?_⟩
    rcases mem_cons.1 hmem with rfl | hmem
    · rw [foldl_cons, restore_other hn.1, restore, set_record_self]
    · exact hrec rec' hmem

theorem scanRecovered_none (hplan : c0.plan = c.plan) (h : Sound c) {seen : List String} {ts : List RotationTarget}
    (hts : ∀ t ∈ ts, t ∈ c.plan.targets ∧ t.connectorID ∉ seen) (hn : (ts.map (·.connectorID)).Nodup) :
    c0.scanRecovered seen (ts.map c.resumeTarget) = none := by
  induction ts generalizing seen with
  | nil => rfl
  | cons t _ ih =>
    obtain ⟨hmem, hseen⟩ := hts t mem_cons_self
    rw [map_cons, nodup_cons] at hn
    have htg : (c.resumeTarget t).target = t := rfl
    have hck := (h.targets t hmem).check hmem
    have hfind : c.plan.target t.connectorID = some t := (target_eq c.plan_ok).2 hmem
    obtain ⟨phase, hf, -⟩ := (h.targets t hmem).phase
    have hst : validRotationTargetState (c.resumeTarget t).state := hf.valid
    rw [map_cons, scanRecovered, htg, hplan, hck, hfind, hst, if_neg (by simpa using hseen), if_neg (by simp)]
    refine ih (fun u hu => ⟨(hts u (mem_cons_of_mem _ hu)).1, ?_⟩) hn.2
    rw [mem_cons, not_or]
    refine ⟨fun he => hn.1 ?_, (hts u (mem_cons_of_mem _ hu)).2⟩
    rw [← he]
    exact mem_map_of_mem hu

theorem checkFinished_none (h : Sound c) (hc : c.finished.after (clock.utc.add maxClockSkew) = false) :
    checkFinished c.project clock = none := by
  have hp : c.project.finishedAt = c.finished ∧ c.project.targets = c.plan.targets.map c.resumeTarget := ⟨rfl, rfl⟩
  rw [checkFinished, hp.1, hp.2]
  by_cases hz : c.finished.isZero
  · rw [if_pos hz]
  rw [if_neg hz, if_neg, if_neg (by simp [hc])]
  simp only [Bool.and_eq_true, Bool.not_eq_true', not_and, Bool.not_eq_false, any_map, all_map]
  intro hf
  rcases h.finished (by rwa [Bool.not_eq_true] at hz) with ⟨t, ht, hs⟩ | hall
  · have hany : (c.plan.targets.any ((fun rec => rec.state == .failed) ∘ c.resumeTarget)) :=
      any_eq_true.2 ⟨t, ht, beq_iff_eq.2 hs⟩
    rw [hany] at hf
    cases hf
  · exact all_eq_true.2 fun t ht => beq_iff_eq.2 (hall t ht)

theorem Sound.resume (h : Sound c) (hplan : c0.plan = c.plan) (hfr : c0.started = false) (hst : c.started)
    (hc : c.finished.after (clock.utc.add maxClockSkew) = false) :
    ∃ c', c0.resume none (some (.ok c.project)) clock = (c', none) ∧ c'.started ∧
      c'.finished.ns = c.finished.ns ∧ ∀ t ∈ c.plan.targets, c'.record t.connectorID = c.record t.connectorID := by
  have hsame : c0.samePlan c.project := by
    simp [samePlan, project, hplan, hst, c.plan_ok]
  have hlen : (c.project.targets.length != c0.plan.targets.length) = false := by
    simp [project, hplan]
  have hn := (scanTargets_ok (scan_of_valid c.plan_ok)).2
  have hsc : c0.scanRecovered [] c.project.targets = none :=
    scanRecovered_none hplan h (fun t ht => ⟨ht, not_mem_nil⟩) hn
  rw [RotationCoordinator.resume, hsame, hfr, hlen, hsc, checkFinished_none h hc]
  refine ⟨_, rfl, rfl, ?_, fun t ht => ?_⟩
  · show (if c.finished.isZero = true then Time.zero else c.finished).ns = c.finished.ns
    split_ifs with hz
    · exact ((Time.isZero_iff _).1 hz).symm
    · rfl
  · have hids : c.project.targets.map (fun rec => rec.target.connectorID) = c.plan.targets.map (·.connectorID) := by
      rw [project, map_map]
      rfl
    exact (restore_all (by rw [hids]; exact hn)).2 (c.resumeTarget t) (mem_map_of_mem ht)

end RotationCoordinator

theorem RotationRun.Started.sound {rules : RotationRules} {plan : RotationPlan} {s : RotationRun rules} (h : s.Started plan) :
    s.coordinator.plan = plan ∧ s.coordinator.started = false ∧ s.coordinator.Sound := by
  obtain ⟨hn, -⟩ := h
  unfold newRotationCoordinator at hn
  split at hn
  · obtain ⟨c, log⟩ := s
    cases hn
    refine ⟨rfl, rfl, fun t _ => ?_, ?_⟩
    · exact ⟨⟨.fresh, .inl rfl, rfl, rfl, rfl, rfl⟩, rfl⟩
    · intro hz
      cases hz
  · cases hn

/-- Every state of every run can be resumed: each projection passes the check, and once the rotation is started a new
coordinator for the plan recovers the records of all targets, unless the clock has gone back behind the completion. -/
theorem rotation_resumable {rules : RotationRules} {plan : RotationPlan} {s₀ : RotationRun rules} (h : s₀.Started plan)
    (ops : List RotationOp) :
    let c := (run RotationRun.next s₀ ops).coordinator
    (∀ t ∈ plan.targets, validateRotationResumeTarget rules plan (c.resumeTarget t) = none) ∧
    (c.started → ∀ clock : Time, c.finished.after (clock.utc.add maxClockSkew) = false →
      ∃ c', s₀.coordinator.resume none (some (.ok c.project)) clock = (c', none) ∧ c'.started ∧
        c'.finished.ns = c.finished.ns ∧ ∀ t ∈ plan.targets, c'.record t.connectorID = c.record t.connectorID) := by
  obtain ⟨hplan₀, hfresh, hsound₀⟩ := h.sound
  obtain ⟨hplan, hsound⟩ : (run RotationRun.next s₀ ops).coordinator.plan = plan ∧
      (run RotationRun.next s₀ ops).coordinator.Sound :=
    run_inv' (I := fun s : RotationRun rules => s.coordinator.plan = plan ∧ s.coordinator.Sound)
      (fun s op hi => by
        obtain ⟨he, -⟩ := s.coordinator.step_effect op
        exact ⟨(effect_plan he).trans hi.1, effect_sound hi.2 he⟩)
      ⟨hplan₀, hsound₀⟩ ops
  intro c
  refine ⟨fun t ht => ?_, fun hstarted clock hc => ?_⟩
  · rw [← hplan] at ht ⊢
    exact (hsound.targets t ht).check ht
  · rw [← hplan]
    exact hsound.resume (hplan₀.trans hplan.symm) hfresh hstarted hc

open Sample

theorem rotation_resumable_installed :
    let c := (run RotationRun.next rotation ((rotationOps rotationPlan ["1"]).take 3)).coordinator
    (c.record "connector_1").state = .installed ∧
      validateRotationResumeTarget rotationRules rotationPlan (c.resumeTarget rotationTarget) = none ∧
      ∃ c', rotation.coordinator.resume none (some (.ok c.project)) Sample.now = (c', none) ∧ c'.started := by
  intro c
  have hs : (c.record "connector_1").state = .installed ∧ c.started ∧
      c.finished.after (Sample.now.utc.add maxClockSkew) = false := by decide +kernel
  have h := rotation_resumable started_rotation ((rotationOps rotationPlan ["1"]).take 3)
  obtain ⟨c', hr, hstarted, -⟩ := h.2 hs.2.1 Sample.now hs.2.2
  exact ⟨hs.1, h.1 rotationTarget mem_cons_self, c', hr, hstarted⟩

end Paperboat.Connector

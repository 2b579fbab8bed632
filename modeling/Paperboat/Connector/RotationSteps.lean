import Paperboat.Connector.RotationCoordinator
/-!
# What a call can do to a rotation

A call of the coordinator does nothing but maybe an unsuccessful call to the
store, starts the rotation, or moves one target on. `Move` lists the moves with
what was checked for each; `step_effect` is the only place that looks at the
calls themselves.
-/

namespace Paperboat.Connector

open Lib

namespace RotationCoordinator

variable {storeErr : Option Err} {ack : CredentialRotationAck}

variable {rules : RotationRules} {c c' : RotationCoordinator rules} {t : RotationTarget} {id : String}

/-! ## Summaries -/

theorem status_failed : c.summary.status = .failed ↔ ∃ t ∈ c.plan.targets, (c.record t.connectorID).state = .failed := by
  simp only [summary]
  split_ifs with hf hs <;> simpa using hf

theorem status_succeeded :
    c.summary.status = .succeeded ↔ ∀ t ∈ c.plan.targets, (c.record t.connectorID).state = .revoked := by
  simp only [summary]
  split_ifs with hf hs
  · simp only [List.any_map, List.any_eq_true, Function.comp_apply, beq_iff_eq] at hf
    obtain ⟨t, ht, hft⟩ := hf
    simp only [false_iff, not_forall]
    exact ⟨t, ht, by simp [hft]⟩
  · simpa using hs
  · simpa using hs

structure Revocable (c : RotationCoordinator rules) : Prop where
  none_failed : ∀ t ∈ c.plan.targets, (c.record t.connectorID).state ≠ .failed
  all_ready : ∀ t ∈ c.plan.targets, (c.record t.connectorID).state = .ready ∨
    (c.record t.connectorID).state = .revoking ∨ (c.record t.connectorID).state = .revoked

/-! ## Moves -/

inductive Move (c : RotationCoordinator rules) (t : RotationTarget) (id : String) :
    TargetRecord → RotationStoreCall → Prop
  | challenged {input : ChallengeInput} {now : Time} (fresh : (c.record id).state = .pending ∨ (c.record id).state = .challenged)
      (named : input.connectorID = id) (valid : (c.challengeFor t input).validate now = none) :
      Move c t id { c.record id with challenge := c.challengeFor t input, state := .challenged }
        (.challenge (c.challengeFor t input) none)
  | proofLost {proof : CredentialRotationProof} {install : CredentialRotationInstall} {err : Err}
      (state : (c.record id).state = .challenged) :
      Move c t id ((c.record id).fail .credentialRotationFailed) (.proof (c.record id).challenge proof install (some err))
  | installed {proof : CredentialRotationProof} {now : Time} (state : (c.record id).state = .challenged)
      (named : proof.connectorID = id) (matched : rotationProofMatchesChallenge proof (c.record id).challenge t)
      (valid : (c.installFor (c.record id).challenge proof).validate rules now = none) :
      Move c t id { c.record id with proof, install := c.installFor (c.record id).challenge proof, state := .installed }
        (.proof (c.record id).challenge proof (c.installFor (c.record id).challenge proof) none)
  | readyLost {ready : CredentialRotationReady} {err : Err} (state : (c.record id).state = .installed) :
      Move c t id ((c.record id).fail .credentialRotationFailed) (.ready ready (some err))
  | readied {ready : CredentialRotationReady} {now : Time} (state : (c.record id).state = .installed)
      (named : ready.connectorID = id) (matched : c.readyMatches ready (c.record id).install)
      (valid : ready.validate rules now = none) :
      Move c t id { c.record id with ready, state := .ready } (.ready ready none)
  | revokeLost {nonce : String} {now : Time} {err : Err} (state : (c.record id).state = .ready) (revocable : Revocable c) :
      Move c t id ((c.record id).fail .credentialRotationFailed) (.revoke (c.revokeFor t id nonce now) (some err))
  | revoking {nonce : String} {now at' : Time} (state : (c.record id).state = .ready) (revocable : Revocable c)
      (valid : (c.revokeFor t id nonce now).validate at' = none) :
      Move c t id { c.record id with revoke := c.revokeFor t id nonce now, state := .revoking }
        (.revoke (c.revokeFor t id nonce now) none)
  | gaveUp {ack : CredentialRotationAck} {code : Code} {summary : RotationSummary}
      (live : (c.record id).state ≠ .revoked ∧ (c.record id).state ≠ .failed)
      (code_ok : validCode code) (status : summary.status = .failed) :
      Move c t id ((c.record id).fail code) (.result ack summary none)
  | revoked {ack : CredentialRotationAck} {summary : RotationSummary} (state : (c.record id).state = .revoking)
      (named : ack.connectorID = id) (status : ack.status = .revoked)
      (addressed : addresses ack (c.record id).revoke.toRotationEnvelope)
      (others : summary.status = .succeeded →
        ∀ u ∈ c.plan.targets, u.connectorID ≠ id → (c.record u.connectorID).state = .revoked) :
      Move c t id { c.record id with state := .revoked } (.result ack summary none)
  | revokedLost {ack : CredentialRotationAck} {summary : RotationSummary} {err : Err}
      (state : (c.record id).state = .revoking) (named : ack.connectorID = id) (status : ack.status = .revoked)
      (addressed : addresses ack (c.record id).revoke.toRotationEnvelope)
      (others : summary.status = .succeeded →
        ∀ u ∈ c.plan.targets, u.connectorID ≠ id → (c.record u.connectorID).state = .revoked) :
      Move c t id ((c.record id).fail .credentialRotationFailed) (.result ack summary (some err))

def Refused : RotationStoreCall → Prop
  | .begin _ (some _) | .challenge _ (some _) => True
  | .result _ summary (some _) => summary.status = .failed
  | _ => False

def Terminal (c : RotationCoordinator rules) : Prop :=
  (∃ t ∈ c.plan.targets, (c.record t.connectorID).state = .failed) ∨
    ∀ t ∈ c.plan.targets, (c.record t.connectorID).state = .revoked

inductive Effect (c : RotationCoordinator rules) : RotationCoordinator rules → Option RotationStoreCall → Prop
  | idle : Effect c c none
  | refused {call : RotationStoreCall} (refused : Refused call) : Effect c c (some call)
  | started : Effect c { c with started := true } (some (.begin c.plan none))
  | moved {t : RotationTarget} {id : String} {r : TargetRecord} {call : RotationStoreCall} {c' : RotationCoordinator rules}
      (target : c.plan.target id = some t) (plan : c'.plan = c.plan) (record : c'.record = (c.set id r).record)
      (finish : c'.finished = c.finished ∨ Terminal c') (move : Move c t id r call) : Effect c c' (some call)

def Reports (c : RotationCoordinator rules) : RotationReply → Prop
  | .summarised (some summary) _ => summary = c.summary
  | _ => True

def StepEffect (c : RotationCoordinator rules) (step : Step rules) : Prop :=
  Effect c step.1 step.2.1 ∧ Reports step.1 step.2.2

theorem StepEffect.idle {reply : RotationReply} (h : Reports c reply) : StepEffect c (c, none, reply) := ⟨.idle, h⟩

theorem challenge_effect (c : RotationCoordinator rules) (now : Time) (ctxErr : Option Err) (input : ChallengeInput)
    (authorizeErr storeErr : Option Err) :
    StepEffect c (c.challengeWithCredentialExpiry now ctxErr input authorizeErr storeErr) := by
  unfold challengeWithCredentialExpiry
  split
  · exact .idle trivial
  split_ifs
  · exact .idle trivial
  split
  · exact .idle trivial
  rename_i t ht
  dsimp only
  split_ifs with hn
  · exact .idle trivial
  split
  · exact .idle trivial
  · exact .idle trivial
  · exact ⟨.refused trivial, trivial⟩
  rename_i hv
  refine ⟨.moved ht rfl rfl (.inl rfl) (.challenged ?_ rfl hv), trivial⟩
  simp only [TargetRecord.challengeable, Bool.not_eq_true', Bool.not_eq_false, Bool.or_eq_true,
    Bool.and_eq_true, beq_iff_eq] at hn
  exact hn.imp_right fun h => h.1.1

theorem acceptProof_effect (c : RotationCoordinator rules) (now : Time) (ctxErr : Option Err)
    (proof : CredentialRotationProof) (verifyErr storeErr : Option Err) :
    StepEffect c (c.acceptProof now ctxErr proof verifyErr storeErr) := by
  unfold acceptProof
  split
  · exact .idle trivial
  · exact .idle trivial
  split
  · exact .idle trivial
  rename_i t ht
  dsimp only
  split_ifs with hs hm
  · exact .idle trivial
  · exact .idle trivial
  have hst : (c.record proof.connectorID).state = .challenged := not_not.1 hs
  split
  · exact .idle trivial
  split
  · exact .idle trivial
  · exact ⟨.moved ht rfl rfl (.inl rfl) (.proofLost hst), trivial⟩
  · rename_i hv
    exact ⟨.moved ht rfl rfl (.inl rfl) (.installed hst rfl (by simpa using hm) hv), trivial⟩

theorem markReady_effect (c : RotationCoordinator rules) (now : Time) (ctxErr : Option Err)
    (ready : CredentialRotationReady) (storeErr : Option Err) : StepEffect c (c.markReady now ctxErr ready storeErr) := by
  unfold markReady
  split
  · exact .idle trivial
  · exact .idle trivial
  rename_i hv
  split_ifs with hs
  · exact .idle trivial
  simp only [Bool.or_eq_true, not_or, Option.isNone_iff_eq_none, decide_eq_true_eq, not_not] at hs
  obtain ⟨t, ht⟩ := Option.ne_none_iff_exists'.1 hs.1
  dsimp only
  split_ifs with hm
  · exact .idle trivial
  split
  · exact ⟨.moved ht rfl rfl (.inl rfl) (.readyLost hs.2), trivial⟩
  · exact ⟨.moved ht rfl rfl (.inl rfl) (.readied hs.2 rfl (by simpa using hm) hv), trivial⟩

theorem revoke_effect (c : RotationCoordinator rules) (now : Time) (ctxErr : Option Err) (connectorID : String)
    (revokeNonce : Except Err String) (storeErr : Option Err) :
    StepEffect c (c.revoke now ctxErr connectorID revokeNonce storeErr) := by
  unfold revoke
  split
  · exact .idle trivial
  split
  · exact .idle trivial
  rename_i t ht
  dsimp only
  split_ifs with hf hr hi hs
  · exact .idle trivial
  · exact .idle trivial
  · exact .idle trivial
  · exact .idle trivial
  have hall : c.allReady := by simpa using hr
  have hrv : Revocable c := ⟨fun t ht h => hf (status_failed.2 ⟨t, ht, h⟩), by simpa [allReady, or_assoc] using hall⟩
  have hst : (c.record connectorID).state = .ready := not_not.1 hs
  split
  · exact .idle trivial
  split
  · exact .idle trivial
  · exact ⟨.moved ht rfl rfl (.inl rfl) (.revokeLost hst hrv), trivial⟩
  · rename_i hv
    exact ⟨.moved ht rfl rfl (.inl rfl) (.revoking hst hrv hv), trivial⟩

@[simp] theorem set_record_self (c : RotationCoordinator rules) (id : String) (r : TargetRecord) :
    (c.set id r).record id = r := by simp [set]

theorem set_record_ne (c : RotationCoordinator rules) (r : TargetRecord) {id id' : String} (h : id' ≠ id) :
    (c.set id r).record id' = c.record id' := by simp [set, h]

@[simp] theorem complete_plan (c : RotationCoordinator rules) (clock : Time) : (c.complete clock).plan = c.plan := by
  unfold complete
  split <;> rfl

@[simp] theorem complete_record (c : RotationCoordinator rules) (clock : Time) : (c.complete clock).record = c.record := by
  unfold complete
  split <;> rfl

theorem target_mem (h : c.plan.target id = some t) : t ∈ c.plan.targets ∧ t.connectorID = id :=
  ⟨List.mem_of_find?_eq_some h, by simpa using List.find?_some h⟩

theorem set_fail_status (ht : c.plan.target id = some t) (code : Code) :
    (c.set id ((c.record id).fail code)).summary.status = .failed := by
  obtain ⟨hmem, hid⟩ := target_mem ht
  rw [status_failed]
  exact ⟨t, hmem, by rw [hid, set_record_self]; rfl⟩

theorem recordFailure_effect (ht : c.plan.target id = some t) {code : Code} {failure : Err → Err}
    (live : (c.record id).state ≠ .revoked ∧ (c.record id).state ≠ .failed) (hcode : validCode code) :
    StepEffect c (c.recordFailure id ack code failure storeErr) := by
  unfold recordFailure
  split
  · exact ⟨.refused (set_fail_status ht code), rfl⟩
  · exact ⟨.moved ht rfl rfl (.inl rfl) (.gaveUp live hcode (set_fail_status ht code)), rfl⟩

theorem recordRevoked_effect (ht : c.plan.target id = some t) {clock : Time}
    (hst : (c.record id).state = .revoking) (hid : ack.connectorID = id)
    (hs : ack.status = .revoked) (ha : addresses ack (c.record id).revoke.toRotationEnvelope) :
    StepEffect c (c.recordRevoked id ack clock storeErr) := by
  have others : ∀ revoked : RotationCoordinator rules, revoked.plan = c.plan →
      revoked.record = (c.set id { c.record id with state := .revoked }).record → revoked.summary.status = .succeeded →
      ∀ u ∈ c.plan.targets, u.connectorID ≠ id → (c.record u.connectorID).state = .revoked := by
    intro revoked hplan hrec hsum u hu hne
    have hu' := status_succeeded.1 hsum u (by rwa [hplan])
    rwa [hrec, set_record_ne c _ hne] at hu'
  unfold recordRevoked
  generalize hrev : (c.set id { c.record id with state := .revoked }).complete clock = revoked
  have hplan : revoked.plan = c.plan := by rw [← hrev, complete_plan]; rfl
  have hrec : revoked.record = (c.set id { c.record id with state := .revoked }).record := by rw [← hrev, complete_record]
  split
  · have hlost : Terminal (revoked.set id ((c.record id).fail .credentialRotationFailed)) := by
      obtain ⟨hmem, htid⟩ := target_mem ht
      exact .inl ⟨t, by rw [← hplan] at hmem; exact hmem, by rw [htid, set_record_self]; rfl⟩
    refine ⟨.moved ht hplan ?_ (.inr hlost) (.revokedLost hst hid hs ha (others revoked hplan hrec)), rfl⟩
    funext id'
    by_cases he : id' = id
    · subst he
      simp
    · rw [set_record_ne _ _ he, set_record_ne _ _ he, hrec, set_record_ne _ _ he]
  · have hfin : revoked.finished = c.finished ∨ Terminal revoked := by
      by_cases hsum : (c.set id { c.record id with state := .revoked }).summary.status = .succeeded
      · refine .inr (.inr ?_)
        rw [hplan, hrec]
        exact status_succeeded.1 hsum
      · rw [← hrev, complete, if_neg hsum]
        exact .inl rfl
    exact ⟨.moved ht hplan hrec hfin (.revoked hst hid hs ha (others revoked hplan hrec)), rfl⟩

theorem negative_code (hv : ack.validate = none)
    (hs : ack.status = .rejected ∨ ack.status = .failed) : validCode ack.code := by
  unfold CredentialRotationAck.validate at hv
  split at hv
  · cases hv
  rcases hs with hs | hs
  all_goals
    rw [hs] at hv
    simp only [ite_eq_right_iff, reduceCtorEq, imp_false, Bool.or_eq_true, not_or, Bool.not_eq_true',
      Bool.not_eq_false] at hv
    exact hv.2

theorem handleAck_effect (c : RotationCoordinator rules) (ctxErr : Option Err) (ack : CredentialRotationAck) (clock : Time)
    (storeErr : Option Err) : StepEffect c (c.handleAck ctxErr ack clock storeErr) := by
  unfold handleAck
  split
  · exact .idle trivial
  · exact .idle trivial
  rename_i hv
  split
  · exact .idle trivial
  rename_i t ht
  dsimp only
  split
  · exact .idle trivial
  split
  · exact .idle rfl
  rename_i hs
  have live := not_or.1 hs
  split
  · rename_i hst
    split
    · exact .idle trivial
    · exact recordFailure_effect ht live (negative_code hv (.inl hst))
  · rename_i hst
    split
    · exact .idle trivial
    · exact recordFailure_effect ht live (negative_code hv (.inr hst))
  · split
    · exact .idle rfl
    · exact .idle trivial
  · split
    · exact .idle rfl
    · exact .idle trivial
  · rename_i hst
    split
    · rename_i hr
      exact recordRevoked_effect ht hr.1 rfl hst hr.2
    · exact .idle trivial
  · exact .idle trivial

theorem fail_effect (c : RotationCoordinator rules) (connectorID : String) (code : Code) (storeErr : Option Err) :
    StepEffect c (c.fail connectorID code storeErr) := by
  unfold fail
  split_ifs with hc
  · exact .idle trivial
  split
  · exact .idle trivial
  rename_i t ht
  dsimp only
  split_ifs with hr hf
  · exact .idle rfl
  · exact .idle rfl
  · have hcode : validCode code ∧ ¬code = .empty := by simpa using hc
    exact recordFailure_effect ht ⟨hr, hf⟩ hcode.1

theorem step_effect (c : RotationCoordinator rules) (op : RotationOp) : StepEffect c (c.step op) := by
  cases op with
  | start ctxErr storeErr =>
    change StepEffect c (c.start ctxErr storeErr)
    unfold start
    split
    · exact .idle trivial
    split_ifs
    · exact .idle trivial
    split
    · exact ⟨.refused trivial, trivial⟩
    · exact ⟨.started, trivial⟩
  | challenge => exact c.challenge_effect ..
  | acceptProof => exact c.acceptProof_effect ..
  | markReady => exact c.markReady_effect ..
  | revoke => exact c.revoke_effect ..
  | handleAck => exact c.handleAck_effect ..
  | fail => exact c.fail_effect ..

end RotationCoordinator

end Paperboat.Connector

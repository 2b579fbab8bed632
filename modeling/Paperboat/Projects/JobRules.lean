import Paperboat.Projects.JobCalls
/-!
# Rules for the orchestrator's helpers

What `Safe` takes to hold of the helpers every job is made of. The helpers only
wrap a change in bookkeeping, so a fact that the other workers keep, and that
does not speak about the bookkeeping, goes through them.
-/

namespace Paperboat.Projects

variable {there row : Option α} {s : Slice} {mutate : Action α} {c : Cmd} {e : Err} {p : Action α}

open Lib Lib.Prog

def Ends (A : α → Slice → Prop) (N : Slice → Prop) : Except Err α → Slice → Prop
  | .ok a, s => A a s
  | .error .notFound, s => N s
  | .error _, _ => True

namespace Cmd

/-- Calls that leave the configuration, the resources and the rows that name them alone. -/
def keepsAssets : Cmd → Bool
  | .insertFlyVolumeRecord .. | .upsertFlyMachineRecord _ | .removeMachine | .removeVolume
  | .markProvisionedStopped _ | .applyRuntimeConfig _ | .createVolume .. | .createMachine _ | .updateMachine ..
  | .destroyMachine _ | .destroyVolume _ => false
  | _ => true

theorem keepsAssets_of_logs {c : Cmd} (h : c.logs) : c.keepsAssets := by
  cases c <;> simp_all [logs, keepsAssets]

end Cmd

theorem exec_snd (c : Cmd) (x : Choice) (s : Slice) : (exec c x s).2 = c.effect x s ∨ (exec c x s).2 = s := by
  unfold exec
  split
  · split
    · exact .inl rfl
    · exact .inr rfl
  · exact .inl rfl

def Cmd.Writes : Cmd → ProjectState → ProjectState → Prop
  | .markProvisionedStopped _, old, new => old ≠ .deleted ∧ new = .stopped
  | .recordMachineState state, old, new => old ≠ .deleted ∧ new = state
  | .blockJobAndRestoreProject _ _ previous, old, new =>
    old = .restarting ∧ new = (previous.filter (· ≠ .restarting)).getD .ready
  | .markDeletedAndReleaseStorage, _, new => new = .deleted
  | _, _, _ => False

theorem exec_state (c : Cmd) (x : Choice) (s : Slice) : (exec c x s).2.project.state = s.project.state ∨
    c.Writes s.project.state (exec c x s).2.project.state := by
  have hset {selected : Prop} [Decidable selected] {state : ProjectState} :
      (s.project.setStateIf selected state).state = s.project.state ∨
        selected ∧ (s.project.setStateIf selected state).state = state := by
    unfold Project.setStateIf
    split_ifs with h
    · exact .inr ⟨h, rfl⟩
    · exact .inl rfl
  rcases exec_snd c x s with he | he
  · rw [he]
    cases c with
    | markProvisionedStopped | recordMachineState => exact hset
    | markDeletedAndReleaseStorage => exact .inr rfl
    | completeJob key leaseToken | failJob key leaseToken | updateMachine =>
      simp only [Cmd.effect]
      split <;> exact .inl rfl
    | blockJobAndRestoreProject =>
      simp only [Cmd.effect]
      split
      · exact hset
      · exact .inl rfl
    | _ => exact .inl rfl
  · exact .inl (by rw [he])

theorem exec_userID (c : Cmd) (x : Choice) (s : Slice) : (exec c x s).2.project.userID = s.project.userID := by
  rcases exec_snd c x s with he | he
  · rw [he]
    cases c with
    | markProvisionedStopped | recordMachineState => exact Project.setStateIf_userID ..
    | completeJob | failJob | updateMachine =>
      simp only [Cmd.effect]
      split <;> rfl
    | blockJobAndRestoreProject =>
      simp only [Cmd.effect]
      split
      · exact Project.setStateIf_userID ..
      · rfl
    | _ => rfl
  · rw [he]

theorem exec_jobs (c : Cmd) (x : Choice) (s : Slice) : (exec c x s).2.jobs = s.jobs ∨
    ∃ key leaseToken state, s.holdsLease key leaseToken ∧ (exec c x s).2.jobs = (s.leave key state).jobs := by
  rcases exec_snd c x s with he | he
  · rw [he]
    cases c with
    | completeJob key leaseToken | failJob key leaseToken | blockJobAndRestoreProject key leaseToken previousState =>
      simp only [Cmd.effect]
      split
      · exact .inr ⟨key, leaseToken, _, ‹_›, rfl⟩
      · exact .inl rfl
    | updateMachine =>
      simp only [Cmd.effect]
      split <;> exact .inl rfl
    | _ => exact .inl rfl
  · exact .inl (by rw [he])

/-- A call is answered, or fails by an accident, which never looks like something missing. -/
theorem exec_fst (c : Cmd) (x : Choice) (s : Slice) : ((exec c x s).1 = c.answer x s ∧ (exec c x s).2 = c.effect x s) ∨
      ∃ e, (exec c x s).1 = .error e ∧ e ≠ .notFound ∧ e ≠ .noRows := by
  unfold exec
  split
  · rename_i e he
    refine .inr ⟨e, rfl, ?_⟩
    unfold Choice.failure at he
    split at he
    · cases he
      simp
    · cases he
      simp
    · cases he
  · exact .inl ⟨rfl, rfl⟩

theorem found_eq_ok {f : α → β} {b : β} (h : (found there).map f = .ok b) : ∃ a, there = some a ∧ f a = b := by
  cases there with
  | none => simp [found, Except.map] at h
  | some a => exact ⟨a, rfl, Except.ok.inj h⟩

theorem found_eq_notFound {f : α → β} (h : (found there).map f = .error .notFound) : there = none := by
  cases there with
  | none => rfl
  | some => simp [found, Except.map] at h

theorem answerRows_eq_ok {a : α} (h : answerRows row = .ok a) : row = some a := by
  cases row with
  | none => simp [answerRows] at h
  | some => exact congrArg some (Except.ok.inj h)

theorem answerRows_eq_noRows (h : answerRows row = .error .noRows) : row = none := by
  cases row with
  | none => rfl
  | some => simp [answerRows] at h

theorem answerRows_ne_notFound (row : Option α) : answerRows row ≠ .error .notFound := by
  cases row <;> simp [answerRows]

theorem effect_keepsAssets (h : c.keepsAssets) (x : Choice) (s : Slice) :
    ∃ project jobs operations, c.effect x s = { s with project, jobs, operations } := by
  cases c with
  | completeJob key leaseToken | failJob key leaseToken | blockJobAndRestoreProject key leaseToken previousState =>
    simp only [Cmd.effect]
    split <;> exact ⟨_, _, _, rfl⟩
  | insertFlyVolumeRecord | upsertFlyMachineRecord | removeMachine | removeVolume | markProvisionedStopped
  | applyRuntimeConfig | createVolume | createMachine | updateMachine | destroyMachine | destroyVolume => cases h
  | _ => exact ⟨_, _, _, rfl⟩

theorem answer_logs (h : c.logs) (x : Choice) (s : Slice) :
    c.answer x s ≠ .error .notFound ∧ c.answer x s ≠ .error .noRows := by
  cases c with
  | reserveOperation =>
    simp only [Cmd.answer]
    split <;> simp
  | outside | resetOperation | startOperation | completeOperation | resolveOperation | failOperation
  | operationSucceeded => simp [Cmd.answer]
  | _ => cases h

structure Rely (R : Slice → Slice → Prop) : Prop where
  refl : ∀ s, R s s
  trans : ∀ a b c, R a b → R b c → R a c
  /-- `R` is about the assets. -/
  assets : ∀ s project jobs operations, R s { s with project, jobs, operations }

/-- What the other workers may do while a job runs, and which calls it may make. -/
class Protocol (R : Slice → Slice → Prop) (P : Cmd → Slice → Prop) : Prop extends Rely R where
  logs : ∀ c : Cmd, c.logs → ∀ s, P c s
  calls : ∀ c x s, P c s → R s (exec c x s).2

/-- A fact that the other workers keep. -/
def Stable (R : Slice → Slice → Prop) (K : Slice → Prop) : Prop := ∀ s s', R s s' → K s → K s'

section Rules
variable {R : Slice → Slice → Prop} {P : Cmd → Slice → Prop} {K N : Slice → Prop} {A : α → Slice → Prop}
  {job : JobKey} {step : OpStep} {request : OpRequest} {s : Slice}

theorem Rely.keeps (hr : Rely R) (h : c.keepsAssets) (x : Choice) (s : Slice) : R s (exec c x s).2 := by
  rcases exec_snd c x s with he | he
  · obtain ⟨project, jobs, operations, heff⟩ := effect_keepsAssets h x s
    rw [he, heff]
    exact hr.assets s project jobs operations
  · exact he.symm ▸ hr.refl s

theorem ends_fail (he : e ≠ .notFound) : Ends A N (.error e) s := by
  cases e <;> trivial

theorem safe_change (hK : Stable R K) {A : c.Answer → Slice → Prop} (hP : ∀ s, K s → P c s) (hs : K s)
    (hok : ∀ x s s' a, K s → c.answer x s = .ok a → R (c.effect x s) s' → A a s')
    (hnf : ∀ x s s', K s → c.answer x s = .error .notFound → R (c.effect x s) s' → N s') :
    (issue c).Safe exec R P (Ends A N) s := by
  refine safe_perform fun s1 h1 => ⟨hP s1 (hK _ _ h1 hs), fun x s2 h2 => ?_⟩
  have hK1 := hK _ _ h1 hs
  rcases exec_fst c x s1 with ⟨ha, he⟩ | ⟨e, he, hne, -⟩
  · rw [he] at h2
    rw [ha]
    cases hc : c.answer x s1 with
    | ok a => exact hok x s1 s2 a hK1 hc h2
    | error e =>
      by_cases hne : e = .notFound
      · subst hne
        exact hnf x s1 s2 hK1 hc h2
      · exact ends_fail hne
  · rw [he]
    exact ends_fail hne

theorem Ends.mono {A' : α → Slice → Prop} {N' : Slice → Prop} {r : Except Err α} (h : Ends A N r s)
    (hA : ∀ a, A a s → A' a s) (hN : N s → N' s) : Ends A' N' r s := by
  match r with
  | .ok a => exact hA a h
  | .error .notFound => exact hN h
  | .error .noRows | .error (.provider _) | .error .operationConflict | .error .leaseLost
  | .error .volumeResizeRequiresApproval | .error .failed => trivial

theorem Ends.error {B : β → Slice → Prop} (h : Ends A N (.error e) s) : Ends B N (.error e) s := by
  cases e <;> exact h

theorem safe_fail_ends (he : e ≠ .notFound) : (.fail e : Action α).Safe exec R P (Ends A N) s :=
  fun _ _ => ends_fail he

theorem safe_ends (h : p.Safe exec R P (fun _ => K) s) : p.Safe exec R P (Ends (fun _ => K) fun _ => True) s :=
  h.weaken (fun _ _ h => h) fun r _ hs => by
    match r with
    | .ok _ => exact hs
    | .error e => cases e <;> trivial

theorem safe_of_allowed (h : p.Makes fun c => ∀ s, P c s) (s : Slice) :
    p.Safe exec R P (fun _ _ => True) s := (h.safe s).weaken (fun _ s hc => hc s) fun _ _ h => h

variable [pr : Protocol R P]

/-- What a call that leaves the assets alone is answered, it is answered about a state in
which `K` held, and `K` still holds. -/
theorem safe_read (hK : Stable R K) (hc : c.keepsAssets) (hP : ∀ s, K s → P c s) (hs : K s) :
    (issue c).Safe exec R P (fun r s' => K s' ∧ ((∃ x s, K s ∧ R s s' ∧ c.answer x s = r) ∨
      ∃ e, r = .error e ∧ e ≠ .notFound ∧ e ≠ .noRows)) s := by
  refine safe_perform fun s1 h1 => ⟨hP s1 (hK _ _ h1 hs), fun x s2 h2 => ?_⟩
  have hK1 := hK _ _ h1 hs
  have hR2 := pr.trans _ _ _ (pr.keeps hc x s1) h2
  refine ⟨hK _ _ hR2 hK1, ?_⟩
  rcases exec_fst c x s1 with ⟨he, -⟩ | he
  · exact .inl ⟨x, s1, hK1, hR2, he.symm⟩
  · exact .inr he

theorem safe_issue (hK : Stable R K) (hc : c.keepsAssets) {A : c.Answer → Slice → Prop}
    (hP : ∀ s, K s → P c s) (hs : K s) (hok : ∀ x s s' a, K s → c.answer x s = .ok a → R s s' → K s' → A a s')
    (hnf : ∀ x s s', K s → c.answer x s = .error .notFound → R s s' → K s' → N s') :
    (issue c).Safe exec R P (Ends A N) s := by
  refine (safe_read hK hc hP hs).weaken (fun _ _ hp => hp) fun r s' ⟨hs', hr'⟩ => ?_
  rcases hr' with ⟨x, s, hs, hR, he⟩ | ⟨e, rfl, he, -⟩
  · match r with
    | .ok a => exact hok x s s' a hs he hR hs'
    | .error e =>
      by_cases hn : e = .notFound
      · subst hn
        exact hnf x s s' hs he hR hs'
      · exact ends_fail hn
  · exact ends_fail he

theorem safe_looked (hK : Stable R K) (hN : Stable R N) (hc : c.keepsAssets) (hP : ∀ s, K s → P c s)
    (hnf : ∀ x s, K s → c.answer x s = .error .notFound → N s) (hs : K s) :
    (issue c).Safe exec R P (Ends (fun _ => K) N) s :=
  safe_issue hK hc hP hs (fun _ _ _ _ _ _ _ hs' => hs') fun x s s' hs he hR _ => hN s s' hR (hnf x s hs he)

theorem safe_then {B : β → Slice → Prop} {p : Action β} {f : β → Action α}
    (h : p.Safe exec R P (Ends B N) s) (hok : ∀ b s, B b s → (f b).Safe exec R P (Ends A N) s) :
    (p >>= f).Safe exec R P (Ends A N) s :=
  Safe.bind pr.refl h hok fun _ _ he => he.error

theorem safe_attempt {M : Except Err β → Slice → Prop} {Q : Except Err α → Slice → Prop} {p : Action β}
    {f : Except Err β → Action α} (h : p.Safe exec R P M s) (hf : ∀ r s, M r s → (f r).Safe exec R P Q s) :
    (p.attempt >>= f).Safe exec R P Q s := h.attempt_bind pr.refl hf

theorem safe_orNotFound (hN : Stable R N) {remove : Action Unit}
    (h : remove.Safe exec R P (Ends (fun _ => N) N) s) : (orNotFound remove).Safe exec R P (Ends (fun _ => N) N) s := by
  refine safe_attempt h fun r s hs => ?_
  match r with
  | .ok () => exact fun s' hr' => hN _ _ hr' hs
  | .error e =>
    by_cases he : e = .notFound
    · subst he
      exact fun s' hr' => hN _ _ hr' hs
    · simp only [if_neg he]
      exact safe_fail_ends he

theorem safe_orNoRows (hK : Stable R K) {L : Slice → Prop} (hL : Stable R L)
    (hc : c.keepsAssets) (hP : ∀ s, K s → P c s) {next : c.Answer → Action Unit} (hs : K s)
    (hok : ∀ x s s' a, K s → c.answer x s = .ok a → R s s' → K s' → (next a).Safe exec R P (Ends (fun _ => L) N) s')
    (hno : ∀ x s, K s → c.answer x s = .error .noRows → L s) (hnf : ∀ x s, c.answer x s ≠ .error .notFound) :
    (orNoRows (issue c) next).Safe exec R P (Ends (fun _ => L) N) s := by
  refine safe_attempt (safe_read hK hc hP hs) fun r s' ⟨hs', hr'⟩ => ?_
  rcases hr' with ⟨x, s, hs, hR, he⟩ | ⟨e, rfl, he, hne⟩
  · match r with
    | .ok a => exact hok x s s' a hs he hR hs'
    | .error e =>
      by_cases hn : e = .noRows
      · subst hn
        exact fun s'' h'' => hL _ _ h'' (hL _ _ hR (hno x s hs he))
      · simp only [if_neg hn]
        exact safe_fail_ends fun hf => hnf x s (hf ▸ he)
  · simp only [if_neg hne]
    exact safe_fail_ends he

theorem safe_seq {M : Except Err β → Slice → Prop} {p : Action β} {f : β → Action α}
    (h : p.Safe exec R P M s) (hok : ∀ b s, M (.ok b) s → (f b).Safe exec R P (fun _ _ => True) s) :
    (p >>= f).Safe exec R P (fun _ _ => True) s :=
  Safe.bind pr.refl h hok fun _ _ _ => trivial

section Bookkeeping
variable (hK : Stable R K)
include pr hK

theorem safe_log_kept (hc : c.logs) (hs : K s) : (issue c).Safe exec R P (Ends (fun _ => K) N) s :=
  safe_issue hK (Cmd.keepsAssets_of_logs hc) (fun s _ => pr.logs c hc s) hs (fun _ _ _ _ _ _ _ hK' => hK')
    fun x s _ _ he => absurd he (answer_logs hc x s).1

theorem safe_log_then (hc : c.logs) (hs : K s) {f : c.Answer → Action α} (h : ∀ a s, K s → (f a).Safe exec R P (Ends A N) s) :
    (issue c >>= f).Safe exec R P (Ends A N) s :=
  safe_then (safe_log_kept hK hc hs) h

theorem safe_log_attempt_then (hc : c.logs) (hs : K s) {Q : Except Err α → Slice → Prop} {f : Except Err c.Answer → Action α}
    (h : ∀ r s, K s → (f r).Safe exec R P Q s) : ((issue c).attempt >>= f).Safe exec R P Q s := by
  have his : (issue c).Safe exec R P (fun _ => K) s :=
    safe_perform fun s1 h1 => ⟨pr.logs c hc s1, fun x s2 h2 =>
      hK _ _ (pr.trans _ _ _ h1 (pr.trans _ _ _ (pr.keeps (Cmd.keepsAssets_of_logs hc) x s1) h2)) hs⟩
  exact safe_attempt his h

theorem safe_failMutation (h : Ends (α := α) A K (.error e) s) :
    (failMutation job step e : Action α).Safe exec R P (Ends A K) s := by
  by_cases he : e = .notFound
  · subst he
    exact safe_log_attempt_then hK rfl h fun _ s hs s' hs' => hK _ _ hs' hs
  · exact safe_log_attempt_then (K := fun _ => True) (fun _ _ _ _ => trivial) rfl trivial
      fun _ _ _ => safe_fail_ends he

theorem safe_runMutation (hA : ∀ a, Stable R (A a)) (hN : Stable R N)
    (hm : ∀ s, K s → mutate.Safe exec R P (Ends A N) s) (hs : K s) :
    (runMutation job step mutate).Safe exec R P (Ends A N) s := by
  refine safe_log_then hK rfl hs fun _ s hs => ?_
  refine safe_attempt (hm s hs) fun r s h => ?_
  match r with
  | .ok a => exact safe_log_then (hA a) rfl h fun _ s hs s' hs' => hA a _ _ hs' hs
  | .error e => exact safe_failMutation hN h

theorem safe_executeProviderMutation (hA : ∀ a, Stable R (A a)) (hN : Stable R N)
    (hm : ∀ s, K s → mutate.Safe exec R P (Ends A N) s) (hs : K s) :
    (executeProviderMutation job step request mutate).Safe exec R P (Ends A N) s := by
  refine safe_log_then hK rfl hs fun operation s hs => ?_
  split_ifs
  · exact safe_fail_ends (by simp)
  · exact safe_runMutation hK hA hN hm hs
  · exact safe_log_then hK rfl hs fun _ s hs => safe_runMutation hK hA hN hm hs

/-- The observation of an operation tried before has to bear out what the change would have done. -/
theorem safe_executeMachineMutation {A : ObservedMachine → Slice → Prop} (hA : ∀ a, Stable R (A a)) (hN : Stable R N)
    {machineID : String}
    {applied : ObservedMachine → Bool} {mutate : Action ObservedMachine} (hget : ∀ s, K s → P (.getMachine machineID) s)
    (happlied : ∀ s m state, K s → s.findMachine machineID = some m → applied ⟨m, state⟩ → A ⟨m, state⟩ s)
    (hgone : ∀ s, K s → s.findMachine machineID = none → N s)
    (hm : ∀ s, K s → mutate.Safe exec R P (Ends A N) s) (hs : K s) :
    (executeMachineMutation job step request machineID applied mutate).Safe exec R P (Ends A N) s := by
  refine safe_log_then hK rfl hs fun operation s hs => ?_
  split
  · exact safe_runMutation hK hA hN hm hs
  have hlook : (issue (.getMachine machineID)).Safe exec R P
      (Ends (fun m s => K s ∧ (applied m → A m s)) N) s := by
    refine safe_issue hK rfl hget hs ?_ ?_
    · intro x s s' m hs he hrs hs'
      obtain ⟨m', hf, rfl⟩ := found_eq_ok he
      exact ⟨hs', fun happ => hA _ _ _ hrs (happlied s m' x.observed hs hf happ)⟩
    · intro x s s' hs he hrs _
      exact hN _ _ hrs (hgone s hs (found_eq_notFound he))
  refine safe_then hlook fun m s hm' => ?_
  split_ifs with happ
  · exact safe_log_then (hA m) rfl (hm'.2 happ) fun _ s hs s' hs' => hA m _ _ hs' hs
  · exact safe_fail_ends (by simp)
  · exact safe_log_then hK rfl hm'.1 fun _ s hs => safe_runMutation hK hA hN hm hs

/-- A destruction ends well when the resource is gone, however that was found out. -/
theorem safe_runDestroy (hN : Stable R N) {mutate : Action Unit} (hm : ∀ s, K s → mutate.Safe exec R P (Ends (fun _ => N) N) s)
    (hs : K s) :
    (runDestroy job step mutate).Safe exec R P (Ends (fun _ => N) N) s := by
  refine safe_log_then hK rfl hs fun _ s hs => ?_
  refine safe_attempt (hm s hs) fun r s h => ?_
  match r with
  | .ok () => exact safe_log_kept hN rfl h
  | .error e =>
    by_cases he : e = .notFound
    · subst he
      exact safe_log_kept hN rfl h
    · simp only [if_neg he]
      exact safe_failMutation hN (ends_fail he)

theorem safe_executeDestroyMutation (hN : Stable R N) {observe mutate : Action Unit}
    (ho : ∀ s, K s → observe.Safe exec R P (Ends (fun _ => K) N) s)
    (hm : ∀ s, K s → mutate.Safe exec R P (Ends (fun _ => N) N) s) (hs : K s) :
    (executeDestroyMutation job step observe mutate).Safe exec R P (Ends (fun _ => N) N) s := by
  refine safe_log_then hK rfl hs fun operation s hs => ?_
  split_ifs
  · exact safe_fail_ends (by simp)
  · exact safe_runDestroy hK hN hm hs
  refine safe_attempt (ho s hs) fun r s h => ?_
  match r with
  | .ok () => exact safe_log_then hK rfl h fun _ s hs => safe_runDestroy hK hN hm hs
  | .error e =>
    by_cases he : e = .notFound
    · subst he
      exact safe_log_kept hN rfl h
    · simp only [if_neg he]
      exact safe_fail_ends he

section Machines
variable (hN : Stable R N) {machineID : String} (hget : ∀ s, K s → P (.getMachine machineID) s)
  (hgone : ∀ s, K s → s.findMachine machineID = none → N s)
include hN hget hgone

theorem safe_startMachine (hst : ∀ s, K s → P (.startMachine machineID) s) (hs : K s) :
    (startMachine job machineID).Safe exec R P (Ends (fun _ => K) N) s := by
  refine safe_executeMachineMutation hK (fun _ => hK) hN hget (fun _ _ _ hs _ _ => hs) hgone (fun s hs => ?_) hs
  exact safe_looked hK hN rfl hst (fun _ s hs he => hgone s hs (found_eq_notFound he)) hs

theorem safe_stopMachine (hstop : ∀ s, K s → P (.stopMachine machineID) s) (hs : K s) :
    (stopMachine job machineID).Safe exec R P (Ends (fun _ => K) N) s := by
  refine safe_executeMachineMutation hK (fun _ => hK) hN hget (fun _ _ _ hs _ _ => hs) hgone (fun s hs => ?_) hs
  exact safe_looked hK hN rfl hstop (fun _ s hs he => hgone s hs (found_eq_notFound he)) hs

theorem safe_destroyMachine (hdst : ∀ s, K s → P (.destroyMachine machineID) s)
    (hdes : ∀ x s, K s → N ((Cmd.destroyMachine machineID).effect x s)) (hs : K s) :
    (destroyMachine job machineID).Safe exec R P (Ends (fun _ => N) N) s := by
  refine safe_executeDestroyMutation hK hN (fun s hs => ?_) (fun s hs => ?_) hs
  · refine safe_then (B := fun _ => K) ?_ fun _ s hs s' hR => hK s s' hR hs
    exact safe_looked hK hN rfl hget (fun _ s hs he => hgone s hs (found_eq_notFound he)) hs
  · exact safe_change hK hdst hs (fun x s s' _ hs _ hR => hN _ _ hR (hdes x s hs))
      fun x s s' hs _ hR => hN _ _ hR (hdes x s hs)

theorem safe_stopAndDestroy (hstop : ∀ s, K s → P (.stopMachine machineID) s)
    (hdst : ∀ s, K s → P (.destroyMachine machineID) s)
    (hdes : ∀ x s, K s → N ((Cmd.destroyMachine machineID).effect x s)) (hs : K s) :
    (stopAndDestroy job machineID).Safe exec R P (Ends (fun _ => N) N) s := by
  refine safe_attempt (safe_stopMachine hK hN hget hgone hstop hs) fun r s hs => ?_
  match r with
  | .ok _ => exact safe_orNotFound hN (safe_destroyMachine hK hN hget hgone hdst hdes hs)
  | .error e =>
    by_cases he : e = .notFound
    · subst he
      exact fun s' hR => hN _ _ hR hs
    · simp only [if_neg he]
      exact safe_fail_ends he

end Machines

end Bookkeeping

theorem safe_kept (hK : Stable R K) (hP : ∀ s, K s → P c s) (hs : K s) : (issue c).Safe exec R P (fun _ => K) s := by
  refine safe_perform fun s1 h1 => ?_
  have hs1 := hK _ _ h1 hs
  exact ⟨hP s1 hs1, fun x s2 h2 => hK _ _ (pr.trans _ _ _ (pr.calls c x s1 (hP s1 hs1)) h2) hs1⟩

theorem safe_of_makes (hK : Stable R K) (h : p.Makes fun c => ∀ s, P c s) (hs : K s) : p.Safe exec R P (fun _ => K) s := by
  have hsafe := (safe_of_allowed (R := R) h s).frame hs hK fun c x s hc => hK _ _ (pr.calls c x s hc)
  exact hsafe.weaken (fun _ _ h => h) fun _ _ h => h.2

theorem safe_runOnce {svc : Service} {leaseToken : String} {previousState : Option ProjectState}
    (hlv : ∀ s, P (.completeJob job leaseToken) s ∧ P (.failJob job leaseToken) s ∧
      P (.blockJobAndRestoreProject job leaseToken previousState) s)
    (h : (process svc job).Safe exec R P (fun _ _ => True) s) :
    (runOnce svc job leaseToken previousState).Safe exec R P (fun _ _ => True) s := by
  have hlast {c : Cmd} (hc : ∀ s, P c s) (s : Slice) : (issue c).Safe exec R P (fun _ _ => True) s :=
    safe_perform fun s _ => ⟨hc s, fun _ _ _ => trivial⟩
  refine safe_attempt h fun r s _ => ?_
  split
  · exact hlast (fun s => (hlv s).1) s
  split_ifs
  · exact safe_attempt (hlast (fun s => (hlv s).2.2) s) fun _ _ _ _ _ => trivial
  · exact safe_attempt (hlast (fun s => (hlv s).2.1) s) fun _ _ _ _ _ => trivial

end Rules

end Paperboat.Projects

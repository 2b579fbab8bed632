import Paperboat.Projects.Workers
/-!
# The applied configuration is the one that was deployed

A job reads the intent, sends the machine spec and marks the configuration
applied in three separate calls, and the last one copies whatever the desired
columns hold by then. An `Update` between them is marked applied without having
been sent, and so is one that comes while a machine with the old spec waits to be
adopted. Where no job is executed when an `Update` is committed, every machine has
its row, and an unfinished creation has made no machine, the applied hash was sent
and a later `Update` stays pending.
-/

namespace Paperboat.Projects

variable {K N : Slice → Prop}

open Lib Lib.Prog Slice List

namespace Slice

/-- The provider took a spec with the desired configuration. -/
def Sent (s : Slice) : Prop := s.config.desired.configHash ∈ s.sent

structure Traceable (s : Slice) : Prop where
  hashes : ∀ m ∈ s.machines, m.configHash ∈ s.sent
  /-- A machine without a row could be adopted for a configuration it does not have. -/
  recorded : s.Sent ∨ ∀ m ∈ s.machines, s.machine = some m.id
  applied : ∀ applied ∈ s.config.applied, applied.configHash ∈ s.sent
  seen : s.config.pendingRestartApply = false → s.appliedUpdates = s.updates

/-- What jobs do between two `Update`s. -/
structure Deploys (s s' : Slice) : Prop where
  desired : s'.config.desired = s.config.desired
  updates : s'.updates = s.updates
  sent : s.sent ⊆ s'.sent
  machines : s'.Sent ∨ (s'.machines ⊆ s.machines ∧ (s'.machine = s.machine ∨ s'.machine = none))
  traceable : s.Traceable → s'.Traceable

variable {s s' : Slice}

theorem Deploys.keepsSent (h : s.Deploys s') (hs : s.Sent) : s'.Sent := by
  unfold Sent
  rw [h.desired]
  exact h.sent hs

theorem rely_deploys : Rely Deploys where
  refl s := ⟨rfl, rfl, List.Subset.refl _, .inr ⟨List.Subset.refl _, .inl rfl⟩, fun h => h⟩
  trans a b c h h' := by
    refine ⟨h'.desired.trans h.desired, h'.updates.trans h.updates, List.Subset.trans h.sent h'.sent, ?_,
      fun ht => h'.traceable (h.traceable ht)⟩
    rcases h.machines with hs | ⟨hm, hrow⟩
    · exact .inl (h'.keepsSent hs)
    rcases h'.machines with hs' | ⟨hm', hrow'⟩
    · exact .inl hs'
    refine .inr ⟨List.Subset.trans hm' hm, ?_⟩
    rcases hrow' with he | he
    · exact he ▸ hrow
    · exact .inr he
  assets s project jobs operations :=
    ⟨rfl, rfl, List.Subset.refl _, .inr ⟨List.Subset.refl _, .inl rfl⟩,
      fun h => ⟨h.hashes, h.recorded, h.applied, h.seen⟩⟩

theorem deploys_loseMachine (s : Slice) (machineID : String) : s.Deploys (s.loseMachine machineID) := by
  have hsub : (s.loseMachine machineID).machines ⊆ s.machines := fun _ h => (mem_filter.mp h).1
  refine ⟨rfl, rfl, List.Subset.refl _, .inr ⟨hsub, .inl rfl⟩, fun h => ?_⟩
  exact ⟨fun m hm => h.hashes m (hsub hm), h.recorded.imp_right fun hr m hm => hr m (hsub hm), h.applied, h.seen⟩

theorem deploys_volumes (s : Slice) (volume : Option VolumeRow) (volumes : List ProviderVolume) :
    s.Deploys { s with volume, volumes } :=
  ⟨rfl, rfl, List.Subset.refl _, .inr ⟨List.Subset.refl _, .inl rfl⟩,
    fun h => ⟨h.hashes, h.recorded, h.applied, h.seen⟩⟩

end Slice

/-- When a job may make which call: it sends and marks applied what is desired now. -/
def Cmd.Deploys : Cmd → Slice → Prop
  | .upsertFlyMachineRecord _, s => s.Sent
  | .removeMachine, s => s.Sent ∨ s.machines = []
  | .markProvisionedStopped intent, s | .applyRuntimeConfig intent, s => s.Sent ∧ intent.updates = s.updates
  | .createMachine spec, s | .updateMachine _ spec, s => spec.configHash = s.config.desired.configHash
  | _, _ => True

namespace Slice

variable {s : Slice}

theorem deploys_applyProjectRuntimeConfig {intent : ProjectIntent} (h : s.Sent ∧ intent.updates = s.updates) :
    s.Deploys (s.applyProjectRuntimeConfig intent) := by
  refine ⟨rfl, rfl, List.Subset.refl _, .inr ⟨List.Subset.refl _, .inl rfl⟩, fun ht => ?_⟩
  refine ⟨ht.hashes, ht.recorded, fun applied ha => ?_, fun _ => h.2⟩
  obtain rfl : s.config.desired = applied := by simpa [applyProjectRuntimeConfig] using ha
  exact h.1

theorem deploys_sent {spec : MachineSpec} (h : spec.configHash = s.config.desired.configHash)
    {machines : List ProviderMachine} (hm : ∀ m ∈ machines, m ∈ s.machines ∨ m.configHash = spec.configHash) :
    s.Deploys { s with machines, sent := s.sent ++ [spec.configHash] } := by
  have hsent : ({ s with machines, sent := s.sent ++ [spec.configHash] } : Slice).Sent := by simp [Sent, h]
  refine ⟨rfl, rfl, subset_append_left _ _, .inl hsent, fun ht => ?_⟩
  refine ⟨fun m hmem => ?_, .inl hsent, fun a ha => mem_append_left _ (ht.applied a ha), ht.seen⟩
  rcases hm m hmem with hold | hnew
  · exact mem_append_left _ (ht.hashes m hold)
  · simp [hnew]

theorem deploys_effect (c : Cmd) (x : Choice) (s : Slice) (h : c.Deploys s) : s.Deploys (c.effect x s) := by
  by_cases hc : c.keepsAssets
  · obtain ⟨project, jobs, operations, he⟩ := effect_keepsAssets hc x s
    exact he ▸ rely_deploys.assets s project jobs operations
  cases c with
  | insertFlyVolumeRecord | removeVolume | createVolume | destroyVolume => exact deploys_volumes s _ _
  | destroyMachine id => exact deploys_loseMachine s id
  | upsertFlyMachineRecord =>
    exact ⟨rfl, rfl, List.Subset.refl _, .inl h, fun ht => ⟨ht.hashes, .inl h, ht.applied, ht.seen⟩⟩
  | removeMachine =>
    refine ⟨rfl, rfl, List.Subset.refl _, .inr ⟨List.Subset.refl _, .inr rfl⟩, fun ht => ?_⟩
    exact ⟨ht.hashes, h.imp_right fun hm m hmem => by simp_all [Cmd.effect], ht.applied, ht.seen⟩
  | markProvisionedStopped =>
    exact rely_deploys.trans _ _ _ (deploys_applyProjectRuntimeConfig h) (rely_deploys.assets _ _ _ _)
  | applyRuntimeConfig => exact deploys_applyProjectRuntimeConfig h
  | createMachine =>
    refine deploys_sent h fun m hm => ?_
    rcases mem_append.mp hm with hm | hm
    · exact .inl hm
    · exact .inr (by rw [mem_singleton.mp hm]; rfl)
  | updateMachine =>
    simp only [Cmd.effect]
    split
    · refine deploys_sent h fun m hm => ?_
      obtain ⟨old, hold, rfl⟩ := mem_map.mp hm
      split_ifs
      · exact .inr rfl
      · exact .inl hold
    · exact rely_deploys.refl s
  | _ => exact absurd rfl hc

theorem deploys_exec (c : Cmd) (x : Choice) (s : Slice) (h : c.Deploys s) : s.Deploys (exec c x s).2 := by
  rcases exec_snd c x s with he | he
  · rw [he]
    exact deploys_effect c x s h
  · rw [he]
    exact rely_deploys.refl s

end Slice

/-! ## The jobs -/

open Slice

abbrev Deploying (p : Action α) (Q : Except Err α → Slice → Prop) (s : Slice) : Prop := p.Safe exec Slice.Deploys Cmd.Deploys Q s

section Jobs
variable {s : Slice} {svc : Service} {job : JobKey} {machineID volumeID : String} {intent : ProjectIntent}

def Fresh (intent : ProjectIntent) (s : Slice) : Prop :=
  s.Traceable ∧ intent.desired = s.config.desired ∧ intent.updates = s.updates

/-- The machine the project has, or will have, has the desired configuration. -/
def Deployed (s : Slice) : Prop := s.Traceable ∧ s.Sent

def Only (machineID : String) (s : Slice) : Prop := s.Traceable ∧ (s.Sent ∨ ∀ m ∈ s.machines, m.id = machineID)

def Gone (s : Slice) : Prop := s.Traceable ∧ (s.Sent ∨ s.machines = [])

def Empty (s : Slice) : Prop := s.Traceable ∧ (s.Sent ∨ s.machine = none ∧ s.machines = [])

theorem stable_fresh (intent : ProjectIntent) : Stable Deploys (Fresh intent) :=
  fun _ _ h hs => ⟨h.traceable hs.1, hs.2.1.trans h.desired.symm, hs.2.2.trans h.updates.symm⟩

theorem stable_deployed : Stable Deploys Deployed := fun _ _ h hs => ⟨h.traceable hs.1, h.keepsSent hs.2⟩

theorem stable_unsent (hK : ∀ s s', s.Deploys s' → s'.machines ⊆ s.machines →
    (s'.machine = s.machine ∨ s'.machine = none) → K s → K s') : Stable Deploys fun s => s.Traceable ∧ (s.Sent ∨ K s) := by
  intro s s' h hs
  refine ⟨h.traceable hs.1, ?_⟩
  rcases hs.2 with hs | hs
  · exact .inl (h.keepsSent hs)
  rcases h.machines with hs' | ⟨hm, hrow⟩
  · exact .inl hs'
  · exact .inr (hK s s' h hm hrow hs)

theorem stable_only (machineID : String) : Stable Deploys (Only machineID) :=
  stable_unsent fun _ _ _ hm _ hs m hmem => hs m (hm hmem)

theorem stable_gone : Stable Deploys Gone :=
  stable_unsent fun _ _ _ hm _ hs => subset_nil.mp (hs ▸ hm)

theorem stable_empty : Stable Deploys Empty := by
  refine stable_unsent fun _ _ _ hm hrow hs => ⟨?_, subset_nil.mp (hs.2 ▸ hm)⟩
  rcases hrow with he | he
  · exact he.trans hs.1
  · exact he

theorem Stable.and {R : Slice → Slice → Prop} {L : Slice → Prop} (hK : Stable R K) (hL : Stable R L) :
    Stable R fun s => K s ∧ L s := fun s s' hr hs => ⟨hK s s' hr hs.1, hL s s' hr hs.2⟩

theorem gone_of_only (hs : Only machineID s) (h : s.findMachine machineID = none) : Gone s := by
  refine ⟨hs.1, hs.2.imp_right fun hm => eq_nil_iff_forall_not_mem.mpr fun m hmem => ?_⟩
  simpa [hm m hmem] using List.find?_eq_none.mp h m hmem

theorem Deployed.only (h : Deployed s) (machineID : String) : Only machineID s := ⟨h.1, .inl h.2⟩

theorem deploys_of_neutral (c : Cmd) (h : c.neutral) (s : Slice) : c.Deploys s := by
  cases c <;> trivial

theorem deploys_of_logs (c : Cmd) (h : c.logs) (s : Slice) : c.Deploys s :=
  neutral_logs deploys_of_neutral c h s

instance protocol_deploys : Protocol Deploys Cmd.Deploys :=
  { rely_deploys with logs := deploys_of_logs, calls := deploys_exec }

theorem fresh_of_answer {x : Choice} (h : Cmd.projectIntent.answer x s = .ok intent) (hs : s.Traceable) :
    Fresh intent s := by
  simp only [Cmd.answer] at h
  split_ifs at h
  cases h
  exact ⟨hs, rfl, rfl⟩

theorem projectIntent_ne_notFound (x : Choice) (s : Slice) : Cmd.projectIntent.answer x s ≠ .error .notFound := by
  simp only [Cmd.answer]
  split_ifs <;> simp

theorem safe_projectIntent (hK : Stable Deploys K) (hT : ∀ s, K s → s.Traceable) (hs : K s) :
    Deploying (issue .projectIntent)
      (Ends (fun intent s => Fresh intent s ∧ K s) N) s :=
  safe_issue hK rfl (fun _ _ => trivial) hs
    (fun _ s _ _ hs he hR hs' => ⟨stable_fresh _ _ _ hR (fresh_of_answer he (hT s hs)), hs'⟩)
    fun x s _ _ he => absurd he (projectIntent_ne_notFound x s)

theorem safe_recordMachine {id : String} (hs : Deployed s) : Deploying (recordMachine id) (fun _ => Deployed) s := by
  have hups : Deploying (issue (.upsertFlyMachineRecord id)) (fun _ => Deployed) s :=
    safe_kept stable_deployed (fun _ hs => hs.2) hs
  refine Safe.bind rely_deploys.refl hups (fun _ s hs => ?_) fun _ _ h => h
  exact safe_kept stable_deployed (fun _ _ => trivial) hs

theorem safe_adoptOrCreateMachine (hs : Fresh intent s ∧ Empty s) :
    Deploying (adoptOrCreateMachine job (svc.machineSpec intent volumeID))
      (Ends (fun _ => Deployed) fun _ => True) s := by
  have hK := (stable_fresh intent).and stable_empty
  have hlist : Deploying (issue .listMachines)
      (Ends (fun machines s => (Fresh intent s ∧ Empty s) ∧ (machines ≠ [] → Deployed s)) fun _ => True) s := by
    refine safe_issue hK rfl (fun _ _ => trivial) hs (fun x s s' machines hs he hR hs' => ?_) fun _ _ _ _ _ _ _ => trivial
    refine ⟨hs', fun hne => stable_deployed _ _ hR ⟨hs.1.1, ?_⟩⟩
    obtain rfl : s.machines = machines := Except.ok.inj he
    exact hs.2.2.resolve_right fun hem => hne hem.2
  have hrec {id : String} (s : Slice) (hs : Deployed s) : Deploying (recordMachine id)
      (Ends (fun _ => Deployed) fun _ => True) s :=
    safe_ends (safe_recordMachine hs)
  refine safe_then hlist fun machines s hs => ?_
  split
  · rename_i adopted hadopted
    have hdeployed := hs.2 (ne_nil_of_mem (mem_of_mem_head? hadopted))
    refine safe_then (safe_ends ?_) fun _ s hs => hrec s hs
    exact safe_of_makes stable_deployed (makes_resolve deploys_of_logs) hdeployed
  · refine safe_then (B := fun _ => Deployed) ?_ fun _ s hs => hrec s hs
    refine safe_executeProviderMutation hK (fun _ => stable_deployed) (fun _ _ _ _ => trivial)
      (fun s hs => ?_) hs.1
    have hsp (s : Slice) (hs : Fresh intent s ∧ Empty s) :
        (Cmd.createMachine (svc.machineSpec intent volumeID)).Deploys s := congrArg ConfigColumns.configHash hs.1.2.1
    refine safe_change hK hsp hs (fun x s s' _ hs _ hR => stable_deployed _ _ hR ?_) fun _ _ _ _ _ _ => trivial
    have hdp := deploys_effect _ x s (hsp s hs)
    refine ⟨hdp.traceable hs.1.1, ?_⟩
    simp [Sent, Cmd.effect, MachineSpec.configHash, Service.machineSpec, hs.1.2.1]

theorem safe_ensureMachine (hs : Fresh intent s ∧ Empty s) : Deploying (ensureMachine svc job intent volumeID)
      (Ends (fun _ => Deployed) fun _ => True) s := by
  have hK := (stable_fresh intent).and stable_empty
  refine safe_attempt (safe_read hK rfl (fun _ _ => trivial) hs) fun r s ⟨hs, hread⟩ => ?_
  match r with
  | .ok machineID =>
    -- Where a machine has a row, the desired spec was sent.
    rcases hread with ⟨x, s0, hs0, hR, he⟩ | ⟨e, he, -⟩
    · have hrow : s0.machine = some machineID := answerRows_eq_ok he
      have hsent : s0.Sent := hs0.2.2.resolve_right fun hem => by simp [hem.1] at hrow
      exact fun s' hR' => stable_deployed _ _ hR' (stable_deployed _ _ hR ⟨hs0.1.1, hsent⟩)
    · cases he
  | .error e =>
    simp only
    split_ifs
    · exact safe_adoptOrCreateMachine hs
    · exact fun _ _ => by cases e <;> trivial

theorem safe_recreateMissingMachine (hs : Gone s) :
    Deploying (recreateMissingMachine svc job) (Ends (fun _ => Deployed) fun _ => True) s := by
  refine safe_then (safe_projectIntent stable_gone (fun _ hs => hs.1) hs) fun intent s hs => ?_
  have hK := (stable_fresh intent).and stable_gone
  refine safe_then (safe_ends (safe_kept hK (fun _ _ => trivial) hs)) fun volume s hs => ?_
  have hremove : Deploying (issue .removeMachine)
      (Ends (fun _ s => Fresh intent s ∧ Empty s) fun _ => True) s := by
    refine safe_change hK (fun _ hs => hs.2.2) hs (fun x s s' _ hs _ hR => ?_) fun _ _ _ _ _ _ => trivial
    have hdp := deploys_effect .removeMachine x s hs.2.2
    refine ((stable_fresh intent).and stable_empty) _ _ hR ⟨stable_fresh intent _ _ hdp hs.1, ?_⟩
    exact ⟨hdp.traceable hs.1.1, hs.2.2.imp_right fun hm => ⟨rfl, hm⟩⟩
  refine safe_then hremove fun _ s hs => safe_then (safe_ensureMachine hs) fun machineID s hs => ?_
  exact safe_then (safe_ends (safe_kept stable_deployed (fun _ _ => trivial) hs))
    fun _ s hs s' hR => stable_deployed _ _ hR hs

theorem safe_updateMachine (hs : Fresh intent s ∧ Only machineID s) :
    Deploying (updateMachine job machineID (svc.machineSpec intent volumeID))
      (Ends (fun _ => Deployed) Gone) s := by
  have hK := (stable_fresh intent).and (stable_only machineID)
  have hsp (s : Slice) (hs : Fresh intent s) : (svc.machineSpec intent volumeID).configHash =
      s.config.desired.configHash := congrArg ConfigColumns.configHash hs.2.1
  refine safe_executeMachineMutation hK (fun _ => stable_deployed) stable_gone
    (fun _ _ => trivial) (fun s m state hs hf happ => ?_) (fun s hs hf => gone_of_only hs.2 hf) (fun s hs => ?_) hs
  · have hhash : m.configHash = s.config.desired.configHash := (of_decide_eq_true happ).trans (hsp s hs.1)
    have hsent := hs.1.1.hashes m (mem_of_find?_eq_some hf)
    rw [hhash] at hsent
    exact ⟨hs.1.1, hsent⟩
  · refine safe_change hK (fun s hs => hsp s hs.1) hs (fun x s s' m hs he hR => stable_deployed _ _ hR ?_)
      fun x s s' hs he hR => stable_gone _ _ hR ?_
    · obtain ⟨old, hf, -⟩ := found_eq_ok he
      have hdp := deploys_effect (.updateMachine machineID (svc.machineSpec intent volumeID)) x s (hsp s hs.1)
      refine ⟨hdp.traceable hs.1.1, ?_⟩
      simp [Cmd.effect, hf, Sent, hsp s hs.1]
    · have hf := found_eq_notFound he
      simpa [Cmd.effect, hf] using gone_of_only hs.2 hf

theorem safe_applyMachineSpecDrift (hs : Fresh intent s ∧ Only machineID s) :
    Deploying (applyMachineSpecDrift svc job intent machineID volumeID)
      (Ends (fun _ => Only machineID) Gone) s := by
  have hK := (stable_fresh intent).and (stable_only machineID)
  have hget : Deploying (issue (.getMachine machineID))
      (Ends (fun _ s => Fresh intent s ∧ Only machineID s) Gone) s :=
    safe_looked hK stable_gone rfl (fun _ _ => trivial) (fun _ _ hs he => gone_of_only hs.2 (found_eq_notFound he)) hs
  refine safe_then hget fun observed s hs => ?_
  split_ifs
  · exact fun s' hR => stable_only machineID _ _ hR hs.2
  · refine safe_then (safe_updateMachine hs) fun _ s hs => ?_
    exact safe_log_kept (stable_only machineID) rfl (hs.only machineID)

theorem safe_projectMachine (hK : Stable Deploys K) (hT : ∀ s, K s → s.Traceable) (hs : K s) :
    Deploying (issue .projectMachine)
      (Ends (fun machineID s => K s ∧ Only machineID s) N) s := by
  refine safe_issue hK rfl (fun _ _ => trivial) hs (fun x s s' machineID hs he hR hs' => ?_)
    fun x s s' _ he => absurd he (answerRows_ne_notFound s.machine)
  have hrow : s.machine = some machineID := answerRows_eq_ok he
  refine ⟨hs', stable_only machineID _ _ hR ⟨hT s hs, (hT s hs).recorded.imp_right fun hm m hmem => ?_⟩⟩
  exact Option.some.inj ((hm m hmem).symm.trans hrow)

theorem safe_machineToStart (hs : s.Traceable) :
    Deploying (machineToStart svc job) (Ends (fun machineID => Only machineID) fun _ => True) s := by
  have hT : Stable Deploys Traceable := fun _ _ h => h.traceable
  refine safe_then (safe_projectMachine hT (fun _ h => h) hs) fun machineID s hs => ?_
  have hdrift : Deploying (reconcileMachineSpecDrift svc job machineID)
      (Ends (fun _ => Only machineID) Gone) s := by
    refine safe_orNoRows (stable_only machineID) (stable_only machineID) rfl (fun _ _ => trivial) hs.2 ?_
      (fun _ _ hs _ => hs) projectIntent_ne_notFound
    intro x s s' intent hs he hR hs'
    have hfr := stable_fresh intent _ _ hR (fresh_of_answer he hs.1)
    split_ifs
    · exact fun s'' hR => stable_only machineID _ _ hR hs'
    refine safe_orNoRows ((stable_fresh intent).and (stable_only machineID)) (stable_only machineID) rfl
      (fun _ _ => trivial) ⟨hfr, hs'⟩ ?_ (fun _ _ hs _ => hs.2) fun x s => answerRows_ne_notFound s.volume
    exact fun x s s' volume hs he hR hs' => safe_applyMachineSpecDrift hs'
  refine safe_attempt hdrift fun r s hs => ?_
  match r with
  | .ok () => exact fun s' hR => stable_only machineID _ _ hR hs
  | .error e =>
    by_cases he : e = .notFound
    · subst he
      exact (safe_recreateMissingMachine hs).weaken (fun _ _ h => h) fun _ _ h =>
        h.mono (fun machineID hd => hd.only machineID) fun h => h
    · simp only [if_neg he]
      exact safe_fail_ends he

theorem safe_startProject (hs : s.Traceable) : Deploying (startProject svc job) (fun _ _ => True) s := by
  refine safe_seq (safe_machineToStart hs) fun machineID s hs => ?_
  have hst : Deploying (startOrRecreate svc job machineID) (fun _ _ => True) s := by
    refine safe_attempt (safe_startMachine (stable_only machineID) stable_gone (fun _ _ => trivial)
      (fun _ hs => gone_of_only hs) (fun _ _ => trivial) hs) fun r s hs => ?_
    match r with
    | .ok _ => exact fun _ _ => trivial
    | .error e =>
      by_cases he : e = .notFound
      · subst he
        refine safe_seq (safe_recreateMissingMachine hs) fun machineID s _ => ?_
        exact safe_of_allowed (makes_startMachine deploys_of_neutral) s
      · simp only [if_neg he]
        exact fun _ _ => trivial
  refine safe_seq hst fun _ s _ => ?_
  refine safe_of_allowed (.bind (makes_checkReadiness deploys_of_neutral) fun _ => ?_) s
  exact .perform fun _ => trivial

theorem safe_stoppedMachine (hs : Only machineID s) : Deploying (stoppedMachine svc job machineID)
      (Ends (fun stopped s => Only stopped.1 s ∧ (stopped.2 → Deployed s)) fun _ => True) s := by
  have hK := stable_only machineID
  have hkept (s : Slice) (hs : Only machineID s) : Deploying (pure (machineID, false) : Action (String × Bool))
      (Ends (fun stopped s => Only stopped.1 s ∧ (stopped.2 = true → Deployed s))
        fun _ => True) s := fun s' hR => ⟨hK _ _ hR hs, fun h => by cases h⟩
  refine safe_log_then hK rfl hs fun stopSucceeded s hs => ?_
  split_ifs
  · exact hkept s hs
  refine safe_then (safe_ends (safe_of_makes hK (makes_snapshotBeforeStop deploys_of_neutral) hs))
    fun _ s hs => ?_
  refine safe_attempt (safe_stopMachine hK stable_gone (fun _ _ => trivial) (fun _ hs => gone_of_only hs)
    (fun _ _ => trivial) hs) fun r s hs => ?_
  match r with
  | .ok _ =>
    exact safe_then (safe_ends (safe_kept hK (fun _ _ => trivial) hs)) fun _ s hs => hkept s hs
  | .error e =>
    by_cases he : e = .notFound
    · subst he
      refine safe_then (safe_recreateMissingMachine hs) fun machineID s hs s' hR => ?_
      have hs' := stable_deployed _ _ hR hs
      exact ⟨hs'.only machineID, fun _ => hs'⟩
    · simp only [if_neg he]
      exact safe_fail_ends he

theorem safe_sendSpec {recreated : Bool} (hs : Fresh intent s ∧ Only machineID s) (hnew : recreated = true → Deployed s) :
    Deploying (sendSpec svc job intent recreated machineID volumeID)
      (Ends (fun _ s => intent.pendingRestartApply → Deployed s) fun _ => True) s := by
  unfold sendSpec
  split_ifs with hrec hpd
  · exact fun s' hR _ => stable_deployed _ _ hR (hnew hrec)
  · refine safe_then (B := fun _ => Deployed) ?_ fun _ s hs s' hR _ => stable_deployed _ _ hR hs
    exact (safe_updateMachine hs).weaken (fun _ _ h => h) fun _ _ h => h.mono (fun _ h => h) fun _ => trivial
  · exact (safe_applyMachineSpecDrift hs).weaken (fun _ _ h => h)
      fun _ _ h => h.mono (fun _ _ hp => absurd hp hpd) fun _ => trivial

theorem safe_restartMachine (hs : Fresh intent s ∧ Only machineID s) :
    Deploying (restartMachine svc job intent machineID volumeID) (fun _ _ => True) s := by
  have hfr := stable_fresh intent
  have hsent : Stable Deploys fun s => intent.pendingRestartApply → Deployed s :=
    fun s s' hR hs hp => stable_deployed s s' hR (hs hp)
  have hK := hfr.and hsent
  have hcalls (c : Cmd) (x : Choice) (s : Slice) (hc : c.Deploys s) := hfr _ _ (deploys_exec c x s hc)
  refine safe_seq ((safe_stoppedMachine hs.2).frame hs.1 hfr hcalls) fun stopped s hs => ?_
  refine safe_seq ((safe_sendSpec ⟨hs.2, hs.1.1⟩ hs.1.2).frame hs.2 hfr hcalls) fun _ s hs => ?_
  refine safe_seq (safe_of_makes hK (makes_startMachine deploys_of_neutral) hs.symm) fun _ s hs => ?_
  refine safe_seq (safe_of_makes hK (makes_checkReadiness deploys_of_neutral) hs) fun _ s hs => ?_
  have happly : Deploying (applyPending intent) (fun _ _ => True) s := by
    unfold applyPending
    split_ifs with hp
    · refine safe_perform fun s' hR => ⟨?_, fun _ _ _ => trivial⟩
      exact ⟨(hK _ _ hR hs).2 hp |>.2, (hK _ _ hR hs).1.2.2⟩
    · exact fun _ _ => trivial
  refine safe_seq happly fun _ s _ => ?_
  exact safe_perform fun _ _ => ⟨trivial, fun _ _ _ => trivial⟩

theorem safe_restartProject (hs : s.Traceable) : Deploying (restartProject svc job) (fun _ _ => True) s := by
  have hT : Stable Deploys Traceable := fun _ _ h => h.traceable
  refine safe_seq (safe_projectIntent (N := fun _ => True) hT (fun _ h => h) hs) fun intent s hs => ?_
  refine safe_seq (safe_projectMachine (N := fun _ => True) (stable_fresh intent) (fun _ h => h.1) hs.1)
    fun machineID s hs => ?_
  have hK := (stable_fresh intent).and (stable_only machineID)
  refine safe_seq (safe_kept hK (fun _ _ => trivial) hs) fun volume s hs => ?_
  split_ifs
  · exact safe_of_allowed (.bind (.perform fun _ => trivial) fun _ => .fail _) s
  · exact safe_restartMachine hs

/-- A creation that has made no machine before the last `Update` marks what it sends. -/
theorem safe_provisionProject (hs : Empty s) : Deploying (provisionProject svc job) (fun _ _ => True) s := by
  refine safe_seq (safe_projectIntent (N := fun _ => True) stable_empty (fun _ h => h.1) hs) fun intent s hs => ?_
  have hK := (stable_fresh intent).and stable_empty
  have hfr := stable_fresh intent
  refine safe_seq (safe_kept hK (fun _ _ => trivial) hs) fun _ s hs => ?_
  refine safe_seq (safe_of_makes hK (makes_hook (deploys_of_logs _ rfl)) hs) fun _ s hs => ?_
  refine safe_seq (safe_of_makes hK (makes_ensureVolume deploys_of_neutral) hs) fun volume s hs => ?_
  have hcalls (c : Cmd) (x : Choice) (s : Slice) (hc : c.Deploys s) := hfr _ _ (deploys_exec c x s hc)
  refine safe_seq ((safe_ensureMachine hs).frame hs.1 hfr hcalls) fun _ s hs => ?_
  refine safe_perform fun s' hR => ⟨?_, fun _ _ _ => trivial⟩
  exact ⟨(stable_deployed _ _ hR hs.1).2, (hfr _ _ hR hs.2).2.2⟩

theorem safe_stopProject (s : Slice) : Deploying (stopProject svc job) (fun _ _ => True) s := by
  refine safe_of_allowed (.bind (.perform fun _ => trivial) fun machineID => ?_) s
  refine .bind (makes_snapshotBeforeStop deploys_of_neutral) fun _ => ?_
  refine .bind (makes_stopMachine deploys_of_logs (fun _ => trivial) fun _ => trivial) fun _ => ?_
  exact .bind (.perform fun _ => trivial) fun _ => .perform fun _ => trivial

theorem safe_removesMachine (hs : Only machineID s) :
    Deploying (removeProviderMachine job machineID) (fun _ _ => True) s := by
  have hdes (x : Choice) (s : Slice) (hs : Only machineID s) : Gone ((Cmd.destroyMachine machineID).effect x s) := by
    have hlost : Only machineID (s.loseMachine machineID) :=
      stable_only machineID _ _ (deploys_loseMachine s machineID) hs
    exact gone_of_only hlost (by simp [findMachine, Cmd.effect])
  refine safe_seq (safe_stopAndDestroy (stable_only machineID) stable_gone (fun _ _ => trivial)
    (fun _ hs => gone_of_only hs) (fun _ _ => trivial) (fun _ _ => trivial) hdes hs) fun _ s hs => ?_
  exact safe_perform fun s' hR => ⟨(stable_gone _ _ hR hs).2, fun _ _ _ => trivial⟩

theorem safe_deletesProject (hs : s.Traceable) : Deploying (deleteProject job) (fun _ _ => True) s := by
  have hT : Stable Deploys Traceable := fun _ _ h => h.traceable
  refine safe_seq (safe_kept hT (fun _ _ => trivial) hs) fun _ s hs => ?_
  refine safe_attempt (safe_kept hT (fun _ _ => trivial) hs) fun intent s hs => ?_
  have hmc : Deploying (orNoRows (issue .projectMachine) (removeProviderMachine job))
      (fun _ _ => True) s := by
    refine safe_attempt (safe_projectMachine (N := fun _ => True) hT (fun _ h => h) hs) fun r s hs => ?_
    match r with
    | .ok machineID => exact safe_removesMachine hs.2
    | .error e => simp only; split_ifs <;> exact fun _ _ => trivial
  -- What is left is about secrets, volumes and the project's state.
  refine safe_seq hmc fun _ s _ => safe_of_allowed ?_ s
  refine .bind (makes_orNoRows ?_ fun _ => ?_) fun _ => .bind (makes_orNoRows ?_ fun volume => ?_) fun _ => ?_
  · cases intent <;> trivial
  · exact makes_deleteProviderSecrets deploys_of_logs (fun _ _ => trivial) _
  · exact .perform fun _ => trivial
  · refine .bind (makes_orNotFound (makes_executeDestroyMutation deploys_of_logs ?_ ?_)) fun _ => ?_
    all_goals exact .perform fun _ => trivial
  · exact .bind (.perform fun _ => trivial) fun _ => .perform fun _ => trivial

theorem safe_process (hs : s.Traceable) (hcre : job = .create → Empty s) :
    Deploying (process svc job) (fun _ _ => True) s := by
  match job with
  | .create => exact safe_provisionProject (hcre rfl)
  | .lifecycle .start _ => exact safe_startProject hs
  | .lifecycle .stop _ => exact safe_stopProject s
  | .lifecycle .restart _ => exact safe_restartProject hs
  | .enforcement _ => exact safe_stopProject s
  | .delete => exact safe_deletesProject hs

end Jobs

/-! ## The creation -/

namespace Slice

variable {userID : String} {s : Slice}

def Unfinished (s : Slice) : Prop := ∃ job, s.jobs .create = some job ∧ (job.state = .queued ∨ job.state = .running)

theorem unfinished_of_eq {s' : Slice} (h : s'.Unfinished) (he : s'.jobs .create = s.jobs .create) : s.Unfinished :=
  h.imp fun _ hj => ⟨he ▸ hj.1, hj.2⟩

theorem unfinished_of_setJob {key : JobKey} {change : Job → Job} (h : (s.setJob key change).Unfinished)
    (hc : ∀ job, s.jobs .create = some job → key = .create → job.state = .queued ∨ job.state = .running) : s.Unfinished := by
  obtain ⟨job, hj, hst⟩ := h
  by_cases hk : key = .create
  · subst hk
    simp only [setJob, Function.update_self, Option.map_eq_some_iff] at hj
    obtain ⟨old, hold, rfl⟩ := hj
    exact ⟨old, hold, hc old hold rfl⟩
  · exact ⟨job, by simpa [setJob, Function.update_of_ne (Ne.symm hk)] using hj, hst⟩

theorem unfinished_of_exec {c : Cmd} {x : Choice} (h : (exec c x s).2.Unfinished) : s.Unfinished := by
  rcases exec_jobs c x s with he | ⟨key, leaseToken, state, hl, he⟩
  · exact unfinished_of_eq h (by rw [he])
  refine unfinished_of_setJob (unfinished_of_eq (s := s.leave key state) h (by rw [he])) fun job hj hk => ?_
  subst hk
  simp only [holdsLease, hj, Bool.and_eq_true, beq_iff_eq] at hl
  exact .inr hl.1

theorem unfinished_of_queueLifecycleJob {request : Request}
    (h : (s.queueLifecycleJob userID request).Unfinished) : s.Unfinished := by
  unfold Slice.queueLifecycleJob at h
  split at h
  · exact h
  split_ifs at h
  · exact h
  · exact unfinished_of_eq h (by simp [requeueJob])

theorem unfinished_of_markDeleting (h : (s.markDeleting userID).Unfinished) : s.Unfinished := by
  have hsup (h : (s.setProject (.markProjectDeleting userID)).supersedeQueuedJobs.Unfinished) : s.Unfinished := by
    obtain ⟨job, hj, hst⟩ := h
    simp only [supersedeQueuedJobs, setProject, Option.map_eq_some_iff] at hj
    obtain ⟨old, hold, rfl⟩ := hj
    refine ⟨old, hold, ?_⟩
    split_ifs at hst with hq
    · exact .inl hq.1
    · exact hst
  unfold markDeleting at h
  simp only at h
  split_ifs at h
  · exact hsup (unfinished_of_eq h (by simp [insertDeleteJob]))
  · exact hsup (unfinished_of_eq h rfl)
  · exact h

end Slice

/-! ## Runs -/

namespace System

variable {svc : Service} {s : System}

/-- An `Update` is committed only while no job of the project is executed, every machine the
provider has is the one the row names, and a creation that is not finished has made none. -/
def UpdatesAlone (s : System) : SystemOp → Prop
  | .update userID _ expectedVersion storageAccepted =>
    s.slice.canUpdate userID expectedVersion storageAccepted → (∀ i, s.workers i = none) ∧
      (∀ m ∈ s.slice.machines, s.slice.machine = some m.id) ∧
      (s.slice.Unfinished → s.slice.machine = none ∧ s.slice.machines = [])
  | _ => True

structure Consistent (s : System) : Prop where
  guarded : s.Guarded Slice.Deploys fun _ => Cmd.Deploys
  traceable : s.slice.Traceable
  provisioning : s.slice.Unfinished → Empty s.slice

theorem Consistent.claim (h : s.Consistent) (i : Nat) (key : JobKey) (leaseToken : String) :
    (s.claim svc i key leaseToken).Consistent := by
  have hr := rely_deploys
  have hst {job : Job} (hjob : s.slice.claimable key = some job) :
      s.slice.jobs key = some job ∧ (job.state = .queued ∨ job.state = .running) := by
    obtain ⟨hrow, hsel⟩ := Option.filter_eq_some_iff.mp hjob
    exact ⟨hrow, (of_decide_eq_true hsel).1⟩
  have hgd : (s.claim svc i key leaseToken).Guarded Slice.Deploys fun _ => Cmd.Deploys := by
    refine h.guarded.claim hr fun job hjob slice hR => ?_
    refine safe_runOnce (fun _ => ⟨trivial, trivial, trivial⟩) (safe_process (hR.traceable h.traceable) ?_)
    rintro rfl
    exact stable_empty _ _ hR (h.provisioning ⟨job, (hst hjob).1, (hst hjob).2⟩)
  rcases claim_cases svc s i key leaseToken with he | ⟨job, _, hjob, he⟩
  · rwa [he]
  refine ⟨hgd, ?_, ?_⟩
  all_goals rw [he]
  · exact (hr.assets s.slice s.slice.project _ s.slice.operations).traceable h.traceable
  · intro hu
    refine stable_empty _ _ (hr.assets s.slice s.slice.project _ s.slice.operations) (h.provisioning ?_)
    refine unfinished_of_setJob hu fun job' hj hk => ?_
    subst hk
    obtain rfl : job' = job := Option.some.inj (hj.symm.trans (hst hjob).1)
    exact (hst hjob).2

theorem Consistent.update (h : s.Consistent) {userID : String} {change : ConfigChange} {expectedVersion : Option Nat}
    {storageAccepted : Bool} (hop : s.UpdatesAlone (.update userID change expectedVersion storageAccepted)) :
    (s.step svc (.update userID change expectedVersion storageAccepted)).Consistent := by
  by_cases hc : s.slice.canUpdate userID expectedVersion storageAccepted
  · obtain ⟨hw, hm, hu⟩ := hop hc
    have he : s.slice.updateDesiredConfig userID change expectedVersion storageAccepted = _ := if_pos hc
    refine ⟨fun i w hi => ?_, ?_, fun hun => ?_⟩
    · have hnone : (s.step svc (.update userID change expectedVersion storageAccepted)).workers i = none := hw i
      simp [hnone] at hi
    all_goals
      simp only [System.step, onSlice, he] at *
    · exact ⟨h.traceable.hashes, .inr hm, h.traceable.applied, by simp⟩
    · exact ⟨⟨h.traceable.hashes, .inr hm, h.traceable.applied, by simp⟩, .inr (hu hun)⟩
  · have he : s.step svc (.update userID change expectedVersion storageAccepted) = s := by
      simp [System.step, onSlice, updateDesiredConfig, hc]
    rwa [he]

theorem Consistent.step (h : s.Consistent) {op : SystemOp} (hop : s.UpdatesAlone op) : (s.step svc op).Consistent := by
  have hr := rely_deploys
  have hsl (change : Slice → Slice) (hR : s.slice.Deploys (change s.slice))
      (hu : (change s.slice).Unfinished → s.slice.Unfinished) : (s.onSlice change).Consistent :=
    ⟨h.guarded.onSlice hr hR, hR.traceable h.traceable, fun hun => stable_empty _ _ hR (h.provisioning (hu hun))⟩
  cases op with
  | queue userID request =>
    refine hsl (·.queueLifecycleJob userID request) ?_ unfinished_of_queueLifecycleJob
    unfold Slice.queueLifecycleJob
    split
    · exact hr.refl _
    split_ifs
    · exact hr.refl _
    · exact hr.assets s.slice _ _ s.slice.operations
  | update => exact h.update hop
  | markDeleting userID =>
    refine hsl (·.markDeleting userID) ?_ unfinished_of_markDeleting
    obtain ⟨project, jobs, he⟩ := s.slice.markDeleting_assets userID
    exact he ▸ hr.assets s.slice project jobs s.slice.operations
  | enforce reason =>
    refine hsl (·.queueSystemStop reason) (hr.assets s.slice _ _ s.slice.operations) fun hu => ?_
    exact unfinished_of_eq hu (by simp [queueSystemStop, requeueJob, setProject])
  | claim i key leaseToken => exact h.claim i key leaseToken
  | work i x =>
    obtain ⟨hgd, hR⟩ := h.guarded.work hr (i := i) (x := x) fun _ c => deploys_exec c x _
    refine ⟨hgd, hR.traceable h.traceable, fun hu => stable_empty _ _ hR (h.provisioning ?_)⟩
    rcases h.guarded.called hr i x with he | ⟨_, c, _, _, he⟩
    · exact he ▸ hu
    · exact unfinished_of_exec (he ▸ hu)
  | crash i => exact ⟨h.guarded.crash i, h.traceable, h.provisioning⟩
  | loseMachine id => exact hsl (·.loseMachine id) (s.slice.deploys_loseMachine id) fun hu => hu
  | loseVolume id => exact hsl (·.loseVolume id) (s.slice.deploys_volumes _ _) fun hu => hu

section Applied
variable (svc : Service) (id userID : String) (desired : ConfigColumns) (assignedGB : Int)

theorem consistent_created : (created id userID desired assignedGB).Consistent where
  guarded i w hi := by simp [created] at hi
  traceable := ⟨by simp [created], .inr (by simp [created]), by simp [created], by simp [created]⟩
  provisioning _ := ⟨⟨by simp [created], .inr (by simp [created]), by simp [created], by simp [created]⟩, .inr ⟨rfl, rfl⟩⟩

/-- What is applied was sent, and what no job had seen when it marked the configuration applied is still pending, in
every run whose updates are alone. -/
theorem applied_config_was_sent (ops : List SystemOp)
    (h : EachStep (step svc) UpdatesAlone (created id userID desired assignedGB) ops) :
    let s := run (step svc) (created id userID desired assignedGB) ops
    (∀ applied ∈ s.slice.config.applied, applied.configHash ∈ s.slice.sent) ∧
      (s.slice.config.pendingRestartApply = false → s.slice.appliedUpdates = s.slice.updates) := by
  intro s
  have hinv : s.Consistent :=
    run_inv (P := UpdatesAlone) (fun _ _ hs hop => hs.step hop) (consistent_created id userID desired assignedGB) h
  exact ⟨hinv.traceable.applied, hinv.traceable.seen⟩

open Sample

theorem applied_config_was_sent_after_restart :
    let ops := (.claim 0 .create "l1" :: calls 10 "v1" ++ calls 10 "m1") ++
      .update "u1" change none true :: .queue "u1" .restart :: .claim 0 (.lifecycle .restart 4) "l2" ::
        calls 20 ""
    let s := run (step service) project ops
    s.slice.config = ⟨columns.changed change, some (columns.changed change), false⟩ ∧
      (∀ applied ∈ s.slice.config.applied, applied.configHash ∈ s.slice.sent) ∧
      (s.slice.config.pendingRestartApply = false → s.slice.appliedUpdates = s.slice.updates) := by
  intro ops s
  refine ⟨by decide +kernel, applied_config_was_sent service "p1" "u1" columns 10 ops ?_⟩
  refine (eachStep_append _ _ _ _).mpr ⟨eachStep_of_always (by simp [calls, UpdatesAlone]) _, fun _ => ⟨?_, ?_, ?_⟩,
    eachStep_of_always (by simp [calls, UpdatesAlone]) _⟩
  · intro i
    match i with
    | 0 => rfl
    | i + 1 => rfl
  · decide +kernel
  · rintro ⟨job, hj, hstate⟩
    obtain rfl : ⟨.succeeded, "", none⟩ = job := Option.some.inj hj
    rcases hstate with h | h <;> cases h

/-- The creation has sent the first configuration when the second is committed; it then marks the second as applied,
which was never sent. -/
theorem applied_config_not_sent :
    let ops := (.claim 0 .create "l1" :: calls 10 "v1" ++ calls 8 "m1") ++
      .update "u1" change none true :: calls 1 ""
    let s := run (step service) project ops
    s.slice.config.applied.map ConfigColumns.configHash = some "h2" ∧ s.slice.sent = ["h1"] ∧
      s.slice.config.pendingRestartApply = false ∧ s.slice.updates = 1 ∧ s.slice.appliedUpdates = 0 := by
  decide +kernel

end Applied

end System

end Paperboat.Projects

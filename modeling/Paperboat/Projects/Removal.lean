import Paperboat.Projects.Deletion
/-!
# A deleted project owns nothing

`MarkDeleting` deletes a project in place when it finds no row of a provider
resource, and a delete job removes what the rows name. Neither sees a resource
that is made, or is there, without a row. Where every resource is the one its row
names and nothing but deletions is executed when a deletion is committed, what is
left only ever shrinks, and `deleted` is written when nothing is left.
-/

namespace Paperboat.Projects

variable {machineID : String} {volumeID : String}

open Lib Lib.Prog Slice List

namespace Slice

structure Recorded (s : Slice) : Prop where
  machines : ∀ m ∈ s.machines, s.machine = some m.id
  volumes : ∀ v ∈ s.volumes, s.volume.map VolumeRow.flyVolumeID = some v.id

structure OwnsNothing (s : Slice) : Prop where
  machine : s.machine = none
  volume : s.volume = none
  machines : s.machines = []
  volumes : s.volumes = []

structure Shrinks (s s' : Slice) : Prop where
  machines : s'.machines ⊆ s.machines
  volumes : s'.volumes ⊆ s.volumes
  machine : s'.machine = s.machine ∨ s'.machine = none
  volume : s'.volume = s.volume ∨ s'.volume = none
  recorded : s.Recorded → s'.Recorded

variable {s s' : Slice}

theorem Recorded.machines_nil (h : s.Recorded) (hm : s.machine = none) : s.machines = [] :=
  eq_nil_iff_forall_not_mem.mpr fun m hmem => by simpa [hm] using h.machines m hmem

theorem Recorded.volumes_nil (h : s.Recorded) (hv : s.volume = none) : s.volumes = [] :=
  eq_nil_iff_forall_not_mem.mpr fun v hmem => by simpa [hv] using h.volumes v hmem

theorem Recorded.ownsNothing (h : s.Recorded) (hm : s.machine = none) (hv : s.volume = none) : s.OwnsNothing :=
  ⟨hm, hv, h.machines_nil hm, h.volumes_nil hv⟩

theorem rely_shrinks : Rely Shrinks where
  refl s := ⟨List.Subset.refl _, List.Subset.refl _, .inl rfl, .inl rfl, fun h => h⟩
  trans a b c h h' := by
    refine ⟨List.Subset.trans h'.machines h.machines, List.Subset.trans h'.volumes h.volumes, ?_, ?_,
      fun hr => h'.recorded (h.recorded hr)⟩
    · rcases h'.machine with he | he
      · exact he ▸ h.machine
      · exact .inr he
    · rcases h'.volume with he | he
      · exact he ▸ h.volume
      · exact .inr he
  assets s project jobs operations :=
    ⟨List.Subset.refl _, List.Subset.refl _, .inl rfl, .inl rfl, fun h => ⟨h.machines, h.volumes⟩⟩

theorem shrinks_loseMachine (s : Slice) (machineID : String) : s.Shrinks (s.loseMachine machineID) :=
  ⟨fun _ h => (mem_filter.mp h).1, List.Subset.refl _, .inl rfl, .inl rfl,
    fun h => ⟨fun m hm => h.machines m ((mem_filter.mp hm).1), h.volumes⟩⟩

theorem shrinks_loseVolume (s : Slice) (volumeID : String) : s.Shrinks (s.loseVolume volumeID) :=
  ⟨List.Subset.refl _, fun _ h => (mem_filter.mp h).1, .inl rfl, .inl rfl,
    fun h => ⟨h.machines, fun v hv => h.volumes v ((mem_filter.mp hv).1)⟩⟩

end Slice

def Cmd.Removes : Cmd → Slice → Prop
  | .removeMachine, s => s.machines = []
  | .removeVolume, s => s.volumes = []
  | .markDeletedAndReleaseStorage, s => s.OwnsNothing
  | c, _ => c.ofDeletion

namespace Slice

variable {s : Slice}

theorem shrinks_exec (c : Cmd) (x : Choice) (s : Slice) (h : c.Removes s) : s.Shrinks (exec c x s).2 := by
  have hef : s.Shrinks (c.effect x s) := by
    by_cases hc : c.keepsAssets
    · obtain ⟨project, jobs, operations, he⟩ := effect_keepsAssets hc x s
      exact he ▸ rely_shrinks.assets s project jobs operations
    cases c with
    | removeMachine =>
      exact ⟨List.Subset.refl _, List.Subset.refl _, .inr rfl, .inl rfl, fun hr =>
        ⟨fun m hm => by simp_all [Cmd.effect, Cmd.Removes], hr.volumes⟩⟩
    | removeVolume =>
      exact ⟨List.Subset.refl _, List.Subset.refl _, .inl rfl, .inr rfl, fun hr =>
        ⟨hr.machines, fun v hv => by simp_all [Cmd.effect, Cmd.Removes]⟩⟩
    | destroyMachine id => exact shrinks_loseMachine s id
    | destroyVolume id => exact shrinks_loseVolume s id
    | insertFlyVolumeRecord | upsertFlyMachineRecord | markProvisionedStopped | applyRuntimeConfig | createVolume
    | createMachine | updateMachine => cases h
    | _ => exact absurd rfl hc
  rcases exec_snd c x s with he | he
  · rwa [he]
  · rw [he]
    exact rely_shrinks.refl s

end Slice

/-! ## The delete job -/

section DeleteJob
variable {s : Slice} {job : JobKey}

theorem removes_of_logs (c : Cmd) (h : c.logs) (s : Slice) : c.Removes s := by
  cases c <;> first | rfl | cases h

instance protocol_shrinks : Protocol Slice.Shrinks Cmd.Removes :=
  { rely_shrinks with logs := removes_of_logs, calls := shrinks_exec }

abbrev Shrinking (p : Action α) (Q : Except Err α → Slice → Prop) (s : Slice) : Prop :=
  p.Safe exec Slice.Shrinks Cmd.Removes Q s

def OfMachine (machineID : String) (s : Slice) : Prop := s.Recorded ∧ (s.machine = some machineID ∨ s.machine = none)

def OfVolume (volumeID : String) (s : Slice) : Prop :=
  s.Recorded ∧ (s.volume.map VolumeRow.flyVolumeID = some volumeID ∨ s.volume = none)

def NoMachines (s : Slice) : Prop := s.Recorded ∧ s.machines = []

def NoVolumes (s : Slice) : Prop := s.Recorded ∧ s.volumes = []

theorem stable_recorded : Stable Slice.Shrinks Slice.Recorded := fun _ _ h hr => h.recorded hr

theorem stable_ofMachine (machineID : String) : Stable Slice.Shrinks (OfMachine machineID) := by
  intro s s' h hs
  refine ⟨h.recorded hs.1, ?_⟩
  rcases h.machine with he | he
  · exact he ▸ hs.2
  · exact .inr he

theorem stable_ofVolume (volumeID : String) : Stable Slice.Shrinks (OfVolume volumeID) := by
  intro s s' h hs
  refine ⟨h.recorded hs.1, ?_⟩
  rcases h.volume with he | he
  · exact he ▸ hs.2
  · exact .inr he

theorem stable_noMachines : Stable Slice.Shrinks NoMachines :=
  fun _ _ h hs => ⟨h.recorded hs.1, subset_nil.mp (hs.2 ▸ h.machines)⟩

theorem stable_noVolumes : Stable Slice.Shrinks NoVolumes :=
  fun _ _ h hs => ⟨h.recorded hs.1, subset_nil.mp (hs.2 ▸ h.volumes)⟩

theorem noMachines_of_gone (hs : OfMachine machineID s) (h : s.findMachine machineID = none) : NoMachines s := by
  refine ⟨hs.1, eq_nil_iff_forall_not_mem.mpr fun m hm => ?_⟩
  have hrow := hs.1.machines m hm
  rcases hs.2 with he | he
  · have hid : m.id = machineID := Option.some.inj (hrow.symm.trans he)
    simpa [hid] using List.find?_eq_none.mp h m hm
  · simp [he] at hrow

theorem noVolumes_of_gone (hs : OfVolume volumeID s) (h : s.findVolume volumeID = none) : NoVolumes s := by
  refine ⟨hs.1, eq_nil_iff_forall_not_mem.mpr fun v hv => ?_⟩
  have hrow := hs.1.volumes v hv
  rcases hs.2 with he | he
  · have hid : v.id = volumeID := Option.some.inj (hrow.symm.trans he)
    simpa [hid] using List.find?_eq_none.mp h v hv
  · simp [he] at hrow

theorem safe_destroyVolume (hs : OfVolume volumeID s) :
    Shrinking (destroyVolume job volumeID) (Ends (fun _ => NoVolumes) NoVolumes) s := by
  refine safe_executeDestroyMutation (stable_ofVolume volumeID) stable_noVolumes (fun s hs => ?_) (fun s hs => ?_) hs
  · exact safe_looked (stable_ofVolume volumeID) stable_noVolumes rfl (fun _ _ => rfl)
      (fun _ _ hs he => noVolumes_of_gone hs (found_eq_notFound he)) hs
  · have hgone : ∀ x s s', OfVolume volumeID s → Slice.Shrinks ((Cmd.destroyVolume volumeID).effect x s) s' →
        NoVolumes s' := by
      intro x s s' hs hr
      have hlost : OfVolume volumeID (s.loseVolume volumeID) :=
        stable_ofVolume volumeID _ _ (shrinks_loseVolume s volumeID) hs
      refine stable_noVolumes _ _ hr (noVolumes_of_gone hlost ?_)
      simp [findVolume, Cmd.effect]
    exact safe_change (stable_ofVolume volumeID) (fun _ _ => rfl) hs (fun x s s' _ hs _ => hgone x s s' hs)
      fun x s s' hs _ => hgone x s s' hs

def MachineRemoved (s : Slice) : Prop := s.Recorded ∧ s.machine = none

theorem stable_machineRemoved : Stable Slice.Shrinks MachineRemoved := by
  intro s s' h hs
  refine ⟨h.recorded hs.1, ?_⟩
  rcases h.machine with he | he
  · exact he.trans hs.2
  · exact he

theorem stable_ownsNothing : Stable Slice.Shrinks Slice.OwnsNothing := by
  intro s s' h hs
  refine ⟨?_, ?_, subset_nil.mp (hs.machines ▸ h.machines), subset_nil.mp (hs.volumes ▸ h.volumes)⟩
  · rcases h.machine with he | he
    · exact he.trans hs.machine
    · exact he
  · rcases h.volume with he | he
    · exact he.trans hs.volume
    · exact he

theorem safe_removeProviderMachine (hs : OfMachine machineID s) :
    Shrinking (removeProviderMachine job machineID) (Ends (fun _ => MachineRemoved) fun _ => True) s := by
  -- Destroyed or not found: the one machine there could be is not there.
  have hdes (x : Choice) (s : Slice) (hs : OfMachine machineID s) :
      NoMachines ((Cmd.destroyMachine machineID).effect x s) := by
    have hlost : OfMachine machineID (s.loseMachine machineID) :=
      stable_ofMachine machineID _ _ (shrinks_loseMachine s machineID) hs
    exact noMachines_of_gone hlost (by simp [findMachine, Cmd.effect])
  have hstop : Shrinking (stopAndDestroy job machineID) (Ends (fun _ => NoMachines) NoMachines) s :=
    safe_stopAndDestroy (stable_ofMachine machineID) stable_noMachines (fun _ _ => rfl)
      (fun _ hs => noMachines_of_gone hs) (fun _ _ => rfl) (fun _ _ => rfl) hdes hs
  refine Safe.bind rely_shrinks.refl hstop (fun _ s hs => ?_) fun e s _ => by cases e <;> trivial
  refine safe_change stable_noMachines (fun s hs => hs.2) hs (fun x s s' _ hs _ hr => ?_) fun _ _ _ _ _ _ => trivial
  exact stable_machineRemoved _ _ hr ⟨⟨fun m hm => by simp_all [Cmd.effect, NoMachines], hs.1.volumes⟩, rfl⟩

theorem safe_removeProviderVolume (hs : MachineRemoved s) (hv : OfVolume volumeID s) :
    Shrinking (removeProviderVolume job volumeID) (Ends (fun _ => Slice.OwnsNothing) fun _ => True) s := by
  have hdst : Shrinking (orNotFound (destroyVolume job volumeID))
      (fun r s => Ends (fun _ => NoVolumes) NoVolumes r s ∧ MachineRemoved s) s :=
    (safe_orNotFound stable_noVolumes (safe_destroyVolume hv)).frame hs stable_machineRemoved
      fun c x s hc => stable_machineRemoved _ _ (shrinks_exec c x s hc)
  refine Safe.bind rely_shrinks.refl hdst (fun _ s hs => ?_) fun e s _ => by cases e <;> trivial
  have hstable : Stable Slice.Shrinks fun s => NoVolumes s ∧ MachineRemoved s :=
    fun s s' hr hs => ⟨stable_noVolumes s s' hr hs.1, stable_machineRemoved s s' hr hs.2⟩
  refine safe_change hstable (fun s hs => hs.1.2) hs (fun x s s' _ hs _ hr => ?_) fun _ _ _ _ _ _ => trivial
  exact stable_ownsNothing _ _ hr ⟨hs.2.2, rfl, hs.2.1.machines_nil hs.2.2, hs.1.2⟩

theorem safe_deleteProject (hs : s.Recorded) : Shrinking (deleteProject job) (fun _ _ => True) s := by
  have hmc (s : Slice) (hs : s.Recorded) : Shrinking (orNoRows (issue .projectMachine) (removeProviderMachine job))
      (Ends (fun _ => MachineRemoved) fun _ => True) s := by
    refine safe_orNoRows stable_recorded stable_machineRemoved rfl (fun _ _ => rfl) hs ?_ ?_ ?_
    · intro x s s' machineID hs he hR _
      exact safe_removeProviderMachine (stable_ofMachine machineID _ _ hR ⟨hs, .inl (answerRows_eq_ok he)⟩)
    · exact fun x s hs he => ⟨hs, answerRows_eq_noRows he⟩
    · exact fun x s => answerRows_ne_notFound s.machine
  have hvo (s : Slice) (hs : MachineRemoved s) : Shrinking (orNoRows (issue .projectVolume)
      fun volume => removeProviderVolume job volume.flyVolumeID) (Ends (fun _ => Slice.OwnsNothing) fun _ => True) s := by
    refine safe_orNoRows stable_machineRemoved stable_ownsNothing rfl (fun _ _ => rfl) hs ?_ ?_ ?_
    · intro x s s' volume hs he hR hs'
      refine safe_removeProviderVolume hs' (stable_ofVolume _ _ _ hR ⟨hs.1, .inl ?_⟩)
      exact congrArg (Option.map VolumeRow.flyVolumeID) (answerRows_eq_ok he)
    · exact fun x s hs he => hs.1.ownsNothing hs.2 (answerRows_eq_noRows he)
    · exact fun x s => answerRows_ne_notFound s.volume
  have hsecrets (intent : Except Err ProjectIntent) (s : Slice) (hs : MachineRemoved s) :
      Shrinking (orNoRows (Prog.ofExcept intent) fun _ => deleteProviderSecrets job [.setup, .enrollment, .github])
        (fun _ => MachineRemoved) s := by
    refine safe_of_makes stable_machineRemoved (makes_orNoRows ?_ fun _ => ?_) hs
    · cases intent <;> trivial
    · exact makes_deleteProviderSecrets removes_of_logs (fun _ _ => rfl) _
  refine safe_seq (safe_kept stable_recorded (fun _ _ => rfl) hs) fun _ s hs => ?_
  refine safe_attempt (safe_kept stable_recorded (fun _ _ => rfl) hs) fun intent s hs => ?_
  refine safe_seq (hmc s hs) fun _ s hs => ?_
  refine safe_seq (hsecrets intent s hs) fun _ s hs => ?_
  refine safe_seq (hvo s hs) fun _ s hs => ?_
  have hmark : Shrinking (issue .markDeletedAndReleaseStorage) (fun _ _ => True) s :=
    safe_perform fun s' hr' => ⟨stable_ownsNothing _ _ hr' hs, fun _ _ _ => trivial⟩
  refine safe_seq hmark fun _ s _ => ?_
  exact safe_perform fun _ _ => ⟨rfl, fun _ _ _ => trivial⟩

end DeleteJob

/-! ## Before the deletion -/

namespace Slice

variable {s : Slice}

structure Undeleted (s : Slice) : Prop where
  state : s.project.state.kept
  noDeletion : s.jobs .delete = none

theorem exec_noDeletion (h : s.jobs .delete = none) (c : Cmd) (x : Choice) : (exec c x s).2.jobs .delete = none := by
  rcases exec_jobs c x s with he | ⟨key, _, state, -, he⟩
  · rw [he, h]
  by_cases hk : key = .delete
  · simp [he, leave, setJob, hk, h]
  · simp [he, leave, setJob, Function.update_of_ne (Ne.symm hk), h]

theorem exec_ofLifecycle_kept (h : s.project.state.kept) {c : Cmd} (hc : c.ofLifecycle) (x : Choice) :
    (exec c x s).2.project.state.kept := by
  rcases exec_state c x s with he | hw
  · rw [he, h]
  cases c with
  | markProvisionedStopped => rw [hw.2]; rfl
  | recordMachineState => rw [hw.2]; exact hc
  | blockJobAndRestoreProject _ _ previousState =>
    rw [hw.2]
    cases previousState with
    | none => rfl
    | some state =>
      by_cases hs : state = .restarting
      · simp [hs, Option.filter, ProjectState.kept]
      · simpa [hs, Option.filter, Cmd.ofLifecycle] using hc
  | markDeletedAndReleaseStorage => cases hc
  | _ => cases hw

theorem Undeleted.queueLifecycleJob (h : s.Undeleted) (userID : String) (request : Request) :
    (s.queueLifecycleJob userID request).Undeleted := by
  unfold Slice.queueLifecycleJob
  split
  · exact h
  rename_i project hp
  split_ifs
  · exact h
  · exact ⟨(queueLifecycleJob_kept hp).2, by simpa [requeueJob] using h.noDeletion⟩

theorem Undeleted.updateDesiredConfig (h : s.Undeleted) (userID : String) (change : ConfigChange)
    (expectedVersion : Option Nat) (storageAccepted : Bool) :
    (s.updateDesiredConfig userID change expectedVersion storageAccepted).Undeleted := by
  unfold Slice.updateDesiredConfig
  split_ifs
  · exact ⟨h.state, h.noDeletion⟩
  · exact h

theorem Undeleted.queueSystemStop (h : s.Undeleted) (reason : String) : (s.queueSystemStop reason).Undeleted := by
  refine ⟨?_, by simpa [Slice.queueSystemStop, requeueJob, setProject] using h.noDeletion⟩
  rcases s.project.markProjectStoppingForEnforcement_cases with he | ⟨-, he⟩
  · exact (congrArg (·.state.kept) he).trans h.state
  · exact congrArg (·.state.kept) he

theorem shrinks_markDeleting (s : Slice) (userID : String) : s.Shrinks (s.markDeleting userID) := by
  obtain ⟨project, jobs, he⟩ := s.markDeleting_assets userID
  exact he ▸ rely_shrinks.assets s project jobs s.operations

theorem markDeleting_in_place {userID : String} (h : s.canDelete userID) (hr : s.Recorded)
    (hd : (s.markDeleting userID).project.state = .deleted) : (s.markDeleting userID).OwnsNothing := by
  refine stable_ownsNothing _ _ (s.shrinks_markDeleting userID) (hr.ownsNothing ?_ ?_)
  all_goals
    unfold markDeleting at hd
    simp only at hd
    split_ifs at hd with hres
  · simp [insertDeleteJob, supersedeQueuedJobs, setProject, Project.markProjectDeleting_state h] at hd
  · simp_all [hasProviderResources, supersedeQueuedJobs, setProject]
  · simp [insertDeleteJob, supersedeQueuedJobs, setProject, Project.markProjectDeleting_state h] at hd
  · simp_all [hasProviderResources, supersedeQueuedJobs, setProject]

end Slice

/-! ## Runs -/

namespace System

variable {svc : Service} {s : System}

structure Early (s : System) : Prop where
  dutiful : s.Dutiful
  undeleted : s.slice.Undeleted
  workers : s.Executes (· ≠ .delete)

structure Removing (s : System) : Prop where
  marked : s.Marked
  guarded : s.Guarded Slice.Shrinks fun _ => Cmd.Removes
  recorded : s.slice.Recorded
  deleted : s.slice.project.state = .deleted → s.slice.OwnsNothing

/-- A deletion is committed only while no other job of the project is executed and its rows
name every resource it has at the provider. -/
def DeletesRecorded (s : System) : SystemOp → Prop
  | .markDeleting userID => s.slice.canDelete userID → s.OnlyDeletes ∧ s.slice.Recorded
  | _ => True

theorem Early.markDeleting (h : s.Early) {userID : String} (hc : s.slice.canDelete userID) (hw : s.OnlyDeletes)
    (hr : s.slice.Recorded) : (s.step svc (.markDeleting userID)).Removing where
  marked := h.dutiful.marked hc hw
  guarded i w hi := absurd (hw i w hi) (h.workers i w hi)
  recorded := (s.slice.shrinks_markDeleting userID).recorded hr
  deleted := markDeleting_in_place hc hr

theorem Early.step (h : s.Early) {op : SystemOp} (hop : s.DeletesRecorded op) :
    (s.step svc op).Early ∨ (s.step svc op).Removing := by
  have hd : (s.step svc op).Dutiful := h.dutiful.step op
  have hsl (change : Slice → Slice) (hd : (s.onSlice change).Dutiful) (hs : (change s.slice).Undeleted) :
      (s.onSlice change).Early := ⟨hd, hs, h.workers⟩
  cases op with
  | queue userID request =>
    exact .inl (hsl (·.queueLifecycleJob userID request) hd (h.undeleted.queueLifecycleJob userID request))
  | update userID change expectedVersion storageAccepted =>
    exact .inl (hsl (·.updateDesiredConfig userID change expectedVersion storageAccepted) hd
      (h.undeleted.updateDesiredConfig userID change expectedVersion storageAccepted))
  | markDeleting userID =>
    by_cases hc : s.slice.canDelete userID
    · obtain ⟨hw, hr⟩ := hop hc
      exact .inr (h.markDeleting hc hw hr)
    refine .inl (hsl (·.markDeleting userID) hd ?_)
    rw [markDeleting_of_not hc]
    exact h.undeleted
  | enforce reason => exact .inl (hsl (·.queueSystemStop reason) hd (h.undeleted.queueSystemStop reason))
  | claim i key leaseToken =>
    have hkey (job : Job) (hjob : s.slice.claimable key = some job) : key ≠ .delete := by
      rintro rfl
      simp [claimable, h.undeleted.noDeletion] at hjob
    refine .inl ⟨hd, ?_, h.workers.claim hkey⟩
    rcases claim_cases svc s i key leaseToken with he | ⟨job, _, hjob, he⟩
    · rw [System.step, he]
      exact h.undeleted
    rw [System.step, he]
    refine ⟨h.undeleted.state, ?_⟩
    simpa [setJob, Function.update_of_ne (hkey job hjob).symm] using h.undeleted.noDeletion
  | work i x =>
    refine .inl ⟨hd, ?_, h.workers.work i x⟩
    rcases h.dutiful.calls.called rely_anything i x with he | ⟨w, c, hw, hc, he⟩
    · rw [System.step, he]
      exact h.undeleted
    rw [Cmd.ofJob_of_ne (h.workers i w hw)] at hc
    rw [System.step, he]
    exact ⟨exec_ofLifecycle_kept h.undeleted.state hc x, exec_noDeletion h.undeleted.noDeletion c x⟩
  | crash i => exact .inl ⟨hd, h.undeleted, h.workers.crash i⟩
  | loseMachine id => exact .inl (hsl (·.loseMachine id) hd ⟨h.undeleted.state, h.undeleted.noDeletion⟩)
  | loseVolume id => exact .inl (hsl (·.loseVolume id) hd ⟨h.undeleted.state, h.undeleted.noDeletion⟩)

theorem Removing.step (h : s.Removing) (op : SystemOp) : (s.step svc op).Removing := by
  have hm : (s.step svc op).Marked := h.marked.step op
  have hsl (change : Slice → Slice) (hm : (s.onSlice change).Marked) (hr : s.slice.Shrinks (change s.slice))
      (hd : (change s.slice).project.state = .deleted → s.slice.project.state = .deleted ∨ (change s.slice).OwnsNothing) :
      (s.onSlice change).Removing := by
    refine ⟨hm, h.guarded.onSlice rely_shrinks hr, hr.recorded h.recorded, fun hs => ?_⟩
    rcases hd hs with hs | hs
    · exact stable_ownsNothing _ _ hr (h.deleted hs)
    · exact hs
  cases op with
  | queue userID request =>
    have he := queueLifecycleJob_of_deleted h.marked.state userID request
    refine hsl (·.queueLifecycleJob userID request) hm ?_ ?_
    · exact he.symm ▸ rely_shrinks.refl s.slice
    · exact fun hs => .inl (he ▸ hs)
  | update userID change expectedVersion storageAccepted =>
    have he := updateDesiredConfig_of_deleted h.marked.state userID change expectedVersion storageAccepted
    refine hsl (·.updateDesiredConfig userID change expectedVersion storageAccepted) hm ?_ ?_
    · exact he.symm ▸ rely_shrinks.refl s.slice
    · exact fun hs => .inl (he ▸ hs)
  | markDeleting userID =>
    refine hsl (·.markDeleting userID) hm (s.slice.shrinks_markDeleting userID) fun hs => ?_
    by_cases hc : s.slice.canDelete userID
    · exact .inr (markDeleting_in_place hc h.recorded hs)
    · exact .inl (markDeleting_of_not hc ▸ hs)
  | enforce reason =>
    refine hsl (·.queueSystemStop reason) hm (rely_shrinks.assets s.slice _ _ s.slice.operations) fun hs => ?_
    exact .inl ((congrArg (·.state) (Project.markProjectStoppingForEnforcement_state h.marked.state)).symm.trans hs)
  | claim i key leaseToken =>
    have hgd : (s.claim svc i key leaseToken).Guarded Slice.Shrinks fun _ => Cmd.Removes := by
      refine h.guarded.claim rely_shrinks fun job hjob slice hr => ?_
      obtain rfl := h.marked.claimed hjob
      exact safe_runOnce (fun _ => ⟨rfl, rfl, rfl⟩) (safe_deleteProject (hr.recorded h.recorded))
    rcases claim_cases svc s i key leaseToken with he | ⟨job, _, _, he⟩
    · rwa [System.step, he]
    refine ⟨hm, hgd, ?_, ?_⟩
    all_goals rw [System.step, he]
    · exact ⟨h.recorded.machines, h.recorded.volumes⟩
    · intro hs
      exact ⟨(h.deleted hs).machine, (h.deleted hs).volume, (h.deleted hs).machines, (h.deleted hs).volumes⟩
  | work i x =>
    obtain ⟨hgd, hr⟩ := h.guarded.work rely_shrinks (i := i) (x := x) fun _ c => shrinks_exec c x _
    refine ⟨hm, hgd, hr.recorded h.recorded, fun hs => ?_⟩
    suffices hd : s.slice.project.state = .deleted ∨ s.slice.OwnsNothing by
      rcases hd with hd | hd
      · exact stable_ownsNothing _ _ hr (h.deleted hd)
      · exact stable_ownsNothing _ _ hr hd
    rcases h.guarded.called rely_shrinks i x with he | ⟨w, c, hw, hc, he⟩
    · exact .inl (he ▸ hs)
    have hof : c.ofDeletion := by cases c <;> first | rfl | exact hc
    rcases exec_ofDeletion_state h.marked.state hof x with hst | ⟨rfl, -⟩
    · exact .inl (hst.symm.trans (he ▸ hs))
    · exact .inr hc
  | crash i => exact ⟨hm, h.guarded.crash i, h.recorded, h.deleted⟩
  | loseMachine id => exact hsl (·.loseMachine id) hm (s.slice.shrinks_loseMachine id) .inl
  | loseVolume id => exact hsl (·.loseVolume id) hm (s.slice.shrinks_loseVolume id) .inl

section OwnsNothing
variable (svc : Service) (id userID : String) (desired : ConfigColumns) (assignedGB : Int)

/-- A project that is deleted owns nothing, in every run in which a deletion is committed only while no other job of
the project is executed and its rows name every resource at the provider. -/
theorem deleted_project_owns_nothing (ops : List SystemOp)
    (h : EachStep (step svc) DeletesRecorded (created id userID desired assignedGB) ops) :
    let s := run (step svc) (created id userID desired assignedGB) ops
    s.slice.project.state = .deleted → s.slice.OwnsNothing := by
  intro s hs
  have hinv : s.Early ∨ s.Removing := by
    refine run_inv (I := fun t => t.Early ∨ t.Removing) (P := DeletesRecorded) (fun t op ht hop => ?_)
      (.inl ⟨dutiful_created id userID desired assignedGB, ⟨rfl, rfl⟩, fun _ _ hw => by simp [created] at hw⟩) h
    rcases ht with ht | ht
    · exact ht.step hop
    · exact .inr (ht.step op)
  rcases hinv with hearly | hremoving
  · have hkept := hearly.undeleted.state
    rw [hs] at hkept
    cases hkept
  · exact hremoving.deleted hs

open Sample

theorem deleted_project_owns_nothing_once_created :
    let ops := (.claim 0 .create "l1" :: calls 10 "v1" ++ calls 10 "m1") ++
      .markDeleting "u1" :: .claim 0 .delete "l2" :: calls 33 ""
    let s := run (step service) project ops
    s.slice.project.state = .deleted ∧ s.slice.OwnsNothing := by
  intro ops s
  have hdeleted : s.slice.project.state = .deleted := by decide +kernel
  refine ⟨hdeleted, deleted_project_owns_nothing service "p1" "u1" columns 10 ops ?_ hdeleted⟩
  refine (eachStep_append _ _ _ _).mpr ⟨eachStep_of_always (by simp [calls, DeletesRecorded]) _, fun _ => ⟨?_, ?_⟩,
    eachStep_of_always (by simp [calls, DeletesRecorded]) _⟩
  · intro i w hi
    match i with
    | 0 => cases hi
    | i + 1 => cases hi
  · exact ⟨by decide +kernel, by decide +kernel⟩

/-- The deletion finds no row and is done at once; the create job that was claimed before
goes on, to its end. -/
theorem deleted_project_owns_machine :
    let ops := .claim 0 .create "l1" :: calls 3 "" ++ [.markDeleting "u1"] ++ calls 7 "v1" ++
      calls 10 "m1"
    let s := run (step service) project ops
    s.slice.project.state = .deleted ∧ (∀ i, s.workers i = none) ∧ s.slice.volume = some ⟨"v1", 10⟩ ∧
      s.slice.machine = some "m1" ∧ s.slice.volumes = [⟨"v1", "ams", 10⟩] ∧
      s.slice.machines = [⟨"m1", "h1", "h1v1"⟩] := by
  intro ops s
  refine ⟨by decide +kernel, fun i => ?_, by decide +kernel⟩
  match i with
  | 0 => rfl
  | i + 1 => rfl

end OwnsNothing

end System

end Paperboat.Projects

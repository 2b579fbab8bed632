import Paperboat.Projects.Jobs
/-!
# The calls each kind of job makes

Which calls can come up in the processing of a job at all, whatever the answers:
a lifecycle job never deletes, and a deletion makes nothing at the provider and
never says what state the project is in.
-/

namespace Paperboat.Projects

variable {p : Cmd → Prop} {job : JobKey} {svc : Service} {machineID volumeID : String} {intent : ProjectIntent}
  {mutate : Action Unit}

open Lib Lib.Prog

def ProjectState.kept : ProjectState → Bool
  | .deleting | .deleted => false
  | _ => true

namespace Cmd

def logs : Cmd → Bool
  | .outside _ | .reserveOperation .. | .resetOperation .. | .startOperation .. | .completeOperation ..
  | .resolveOperation .. | .failOperation .. | .operationSucceeded .. => true
  | _ => false

def neutral : Cmd → Bool
  | .projectIntent | .projectMachine | .projectVolume | .insertFlyVolumeRecord .. | .listVolumes | .listMachines
  | .getVolume _ | .getMachine _ | .waitMachineStopped _ | .createVolume .. | .startMachine _ | .stopMachine _ => true
  | c => c.logs

def ofLifecycle : Cmd → Bool
  | .markDeletedAndReleaseStorage => false
  | .recordMachineState state => state.kept
  | .blockJobAndRestoreProject _ _ previousState => previousState.all (·.kept)
  | _ => true

def ofDeletion : Cmd → Bool
  | .insertFlyVolumeRecord .. | .upsertFlyMachineRecord _ | .markProvisionedStopped _ | .applyRuntimeConfig _
  | .recordMachineState _ | .createVolume .. | .createMachine _ | .updateMachine .. => false
  | _ => true

def ofJob : JobKey → Cmd → Bool
  | .delete, c => c.ofDeletion
  | _, c => c.ofLifecycle

theorem ofJob_of_ne {key : JobKey} (h : key ≠ .delete) (c : Cmd) : c.ofJob key = c.ofLifecycle := by
  cases key with
  | delete => exact absurd rfl h
  | _ => rfl

end Cmd

section Calls
variable {step : OpStep} {request : OpRequest}

theorem makes_hook {configured : Bool} {call : Outside} (h : p (.outside call)) : (Service.hook configured call).Makes p := by
  cases configured with
  | true => exact .perform h
  | false => exact .pure _

theorem makes_orNoRows {read : Action α} {next : α → Action Unit} (hr : read.Makes p) (hn : ∀ a, (next a).Makes p) :
    (orNoRows read next).Makes p := by
  refine hr.attempt.bind fun r => ?_
  split
  · exact hn _
  split_ifs
  · exact .pure _
  · exact .fail _

section Bookkeeping
variable (hlog : ∀ c : Cmd, c.logs → p c)
include hlog

theorem makes_failMutation {e : Err} : (failMutation job step e : Action α).Makes p :=
  .bind (.attempt (.perform (hlog _ rfl))) fun _ => .fail _

theorem makes_runMutation {mutate : Action α} (hm : mutate.Makes p) : (runMutation job step mutate).Makes p := by
  refine .bind (.perform (hlog _ rfl)) fun _ => hm.attempt.bind fun r => ?_
  split
  · exact .bind (.perform (hlog _ rfl)) fun _ => .pure _
  · exact makes_failMutation hlog

theorem makes_executeProviderMutation {mutate : Action α} (hm : mutate.Makes p) :
    (executeProviderMutation job step request mutate).Makes p := by
  refine .bind (.perform (hlog _ rfl)) fun operation => ?_
  split_ifs
  · exact .fail _
  · exact makes_runMutation hlog hm
  · exact .bind (.perform (hlog _ rfl)) fun _ => makes_runMutation hlog hm

theorem makes_resolve : (resolveProviderMutationByObservation job step request).Makes p :=
  .bind (.perform (hlog _ rfl)) fun _ => .perform (hlog _ rfl)

theorem makes_executeMachineMutation {machineID : String} {applied : ObservedMachine → Bool}
    {mutate : Action ObservedMachine} (hg : p (.getMachine machineID)) (hm : mutate.Makes p) :
    (executeMachineMutation job step request machineID applied mutate).Makes p := by
  refine .bind (.perform (hlog _ rfl)) fun operation => ?_
  split
  · exact makes_runMutation hlog hm
  refine .bind (.perform hg) fun observed => ?_
  split_ifs
  · exact .bind (.perform (hlog _ rfl)) fun _ => .pure _
  · exact .fail _
  · exact .bind (.perform (hlog _ rfl)) fun _ => makes_runMutation hlog hm

theorem makes_runDestroy (hm : mutate.Makes p) : (runDestroy job step mutate).Makes p := by
  refine .bind (.perform (hlog _ rfl)) fun _ => hm.attempt.bind fun r => ?_
  split
  · exact .perform (hlog _ rfl)
  split_ifs
  · exact .perform (hlog _ rfl)
  · exact makes_failMutation hlog

theorem makes_executeDestroyMutation {observe : Action Unit} (ho : observe.Makes p) (hm : mutate.Makes p) :
    (executeDestroyMutation job step observe mutate).Makes p := by
  refine .bind (.perform (hlog _ rfl)) fun operation => ?_
  split_ifs
  · exact .fail _
  · exact makes_runDestroy hlog hm
  refine ho.attempt.bind fun r => ?_
  split
  · split_ifs
    · exact .perform (hlog _ rfl)
    · exact .fail _
  · exact .bind (.perform (hlog _ rfl)) fun _ => makes_runDestroy hlog hm

theorem makes_executeNonObservableMutation (hm : mutate.Makes p) :
    (executeNonObservableMutation job step mutate).Makes p := by
  refine .bind (.perform (hlog _ rfl)) fun operation => ?_
  split
  · exact .pure _
  · exact .fail _
  · exact .fail _
  · exact .fail _
  · exact makes_runDestroy hlog hm

end Bookkeeping

end Calls

/-! ## Neutral parts -/

section Neutral
theorem makes_stopMachine (hlog : ∀ c : Cmd, c.logs → p c) (hget : p (.getMachine machineID))
    (hstop : p (.stopMachine machineID)) : (stopMachine job machineID).Makes p :=
  makes_executeMachineMutation hlog hget (.perform hstop)

variable (hp : ∀ c : Cmd, c.neutral → p c)
include hp

theorem neutral_logs (c : Cmd) (h : c.logs) : p c := hp c (by cases c <;> first | rfl | exact h)

theorem makes_startMachine : (startMachine job machineID).Makes p :=
  makes_executeMachineMutation (neutral_logs hp) (hp _ rfl) (.perform (hp _ rfl))

theorem makes_recordVolume {id : String} {sizeGB : Int} : (recordVolume id sizeGB).Makes p :=
  .bind (.perform (hp _ rfl)) fun _ => .perform (hp _ rfl)

theorem makes_ensureVolume : (ensureVolume job intent).Makes p := by
  refine .bind (.attempt (.perform (hp _ rfl))) fun r => ?_
  split
  · exact .pure _
  split_ifs
  · refine .bind (.perform (hp _ rfl)) fun volumes => ?_
    split
    · exact (makes_resolve (neutral_logs hp)).bind fun _ => makes_recordVolume hp
    · exact (makes_executeProviderMutation (neutral_logs hp) (.perform (hp _ rfl))).bind
        fun _ => makes_recordVolume hp
  · exact .fail _

theorem makes_checkReadiness : (checkReadiness svc).Makes p := by
  unfold checkReadiness
  split_ifs
  · refine .bind (.attempt (.perform (hp _ rfl))) fun r => ?_
    split
    · exact .perform (hp _ rfl)
    · exact .bind (.attempt (.perform (hp _ rfl))) fun _ => .fail _
  · exact .pure _

theorem makes_snapshotBeforeStop : (snapshotBeforeStop svc).Makes p :=
  (makes_hook (hp _ rfl)).attempt.bind fun _ => .pure _

end Neutral

/-! ## Lifecycle jobs -/

theorem ofLifecycle_of_neutral (c : Cmd) (h : c.neutral) : c.ofLifecycle := by
  cases c <;> first | rfl | cases h

theorem ofLifecycle_of_logs (c : Cmd) (h : c.logs) : c.ofLifecycle :=
  neutral_logs ofLifecycle_of_neutral c h

theorem makes_recordMachine {id : String} : (recordMachine id).Makes (·.ofLifecycle) :=
  .bind (.perform rfl) fun _ => .perform rfl

theorem makes_ensureMachine : (ensureMachine svc job intent volumeID).Makes (·.ofLifecycle) := by
  refine .bind (.attempt (.perform rfl)) fun r => ?_
  split
  · exact .pure _
  split_ifs
  · refine .bind (.perform rfl) fun machines => ?_
    split
    · exact (makes_resolve ofLifecycle_of_logs).bind fun _ => makes_recordMachine
    · exact (makes_executeProviderMutation ofLifecycle_of_logs (.perform rfl)).bind fun _ => makes_recordMachine
  · exact .fail _

theorem makes_updateMachine {spec : MachineSpec} : (updateMachine job machineID spec).Makes (·.ofLifecycle) :=
  makes_executeMachineMutation ofLifecycle_of_logs rfl (.perform rfl)

theorem makes_applyMachineSpecDrift : (applyMachineSpecDrift svc job intent machineID volumeID).Makes (·.ofLifecycle) := by
  refine .bind (.perform rfl) fun observed => ?_
  split_ifs
  · exact .pure _
  · exact makes_updateMachine.bind fun _ => .perform rfl

theorem makes_recreateMissingMachine : (recreateMissingMachine svc job).Makes (·.ofLifecycle) :=
  .bind (.perform rfl) fun _ => .bind (.perform rfl) fun _ => .bind (.perform rfl) fun _ =>
    makes_ensureMachine.bind fun _ => .bind (.perform rfl) fun _ => .pure _

theorem makes_machineToStart : (machineToStart svc job).Makes (·.ofLifecycle) := by
  refine .bind (.perform rfl) fun machineID => ?_
  have hdrift : (reconcileMachineSpecDrift svc job machineID).Makes (·.ofLifecycle) := by
    refine makes_orNoRows (.perform rfl) fun intent => ?_
    split_ifs
    · exact .pure _
    · exact makes_orNoRows (.perform rfl) fun _ => makes_applyMachineSpecDrift
  refine hdrift.attempt.bind fun r => ?_
  split
  · exact .pure _
  split_ifs
  · exact makes_recreateMissingMachine
  · exact .fail _

theorem makes_startProject : (startProject svc job).Makes (·.ofLifecycle) := by
  refine makes_machineToStart.bind fun machineID => ?_
  have hst : (startOrRecreate svc job machineID).Makes (·.ofLifecycle) := by
    refine (makes_startMachine ofLifecycle_of_neutral).attempt.bind fun r => ?_
    split
    · exact .pure _
    split_ifs
    · exact makes_recreateMissingMachine.bind fun _ => makes_startMachine ofLifecycle_of_neutral
    · exact .fail _
  exact hst.bind fun _ => (makes_checkReadiness ofLifecycle_of_neutral).bind fun _ => .perform rfl

theorem makes_stopProject : (stopProject svc job).Makes (·.ofLifecycle) :=
  .bind (.perform rfl) fun _ => (makes_snapshotBeforeStop ofLifecycle_of_neutral).bind fun _ =>
    (makes_stopMachine ofLifecycle_of_logs rfl rfl).bind fun _ =>
      .bind (.perform rfl) fun _ => .perform rfl

theorem makes_stoppedMachine : (stoppedMachine svc job machineID).Makes (·.ofLifecycle) := by
  refine .bind (.perform rfl) fun stopSucceeded => ?_
  split_ifs
  · exact .pure _
  refine (makes_snapshotBeforeStop ofLifecycle_of_neutral).bind fun _ =>
    (makes_stopMachine ofLifecycle_of_logs rfl rfl).attempt.bind fun r => ?_
  split
  · exact .bind (.perform rfl) fun _ => .pure _
  split_ifs
  · exact makes_recreateMissingMachine.bind fun _ => .pure _
  · exact .fail _

theorem makes_sendSpec {recreated : Bool} : (sendSpec svc job intent recreated machineID volumeID).Makes (·.ofLifecycle) := by
  unfold sendSpec
  split_ifs
  · exact .pure _
  · exact makes_updateMachine.bind fun _ => .pure _
  · exact makes_applyMachineSpecDrift

theorem makes_restartProject : (restartProject svc job).Makes (·.ofLifecycle) := by
  refine .bind (.perform rfl) fun intent => .bind (.perform rfl) fun _ => .bind (.perform rfl) fun _ => ?_
  split_ifs
  · exact .bind (.perform rfl) fun _ => .fail _
  refine makes_stoppedMachine.bind fun _ => makes_sendSpec.bind fun _ => (makes_startMachine ofLifecycle_of_neutral).bind fun _ =>
    (makes_checkReadiness ofLifecycle_of_neutral).bind fun _ => .bind ?_ fun _ => .perform rfl
  unfold applyPending
  split_ifs
  · exact .perform rfl
  · exact .pure _

theorem makes_process (h : job ≠ .delete) : (process svc job).Makes (·.ofLifecycle) := by
  match job with
  | .create =>
    exact .bind (.perform rfl) fun _ => .bind (.perform rfl) fun _ => .bind (makes_hook rfl) fun _ =>
      (makes_ensureVolume ofLifecycle_of_neutral).bind fun _ => makes_ensureMachine.bind fun _ => .perform rfl
  | .lifecycle .start _ => exact makes_startProject
  | .lifecycle .stop _ => exact makes_stopProject
  | .lifecycle .restart _ => exact makes_restartProject
  | .enforcement _ => exact makes_stopProject
  | .delete => exact absurd rfl h

/-! ## Deletion -/

theorem ofDeletion_of_logs (c : Cmd) (h : c.logs) : c.ofDeletion := by
  cases c <;> first | rfl | cases h

theorem makes_orNotFound {p : Cmd → Prop} {remove : Action Unit} (h : remove.Makes p) : (orNotFound remove).Makes p := by
  refine h.attempt.bind fun r => ?_
  split
  · exact .pure _
  split_ifs
  · exact .pure _
  · exact .fail _

theorem makes_removeProviderMachine : (removeProviderMachine job machineID).Makes (·.ofDeletion) := by
  have hdst : (destroyMachine job machineID).Makes (·.ofDeletion) :=
    makes_executeDestroyMutation ofDeletion_of_logs (.bind (.perform rfl) fun _ => .pure _) (.perform rfl)
  refine .bind ((makes_stopMachine ofDeletion_of_logs rfl rfl).attempt.bind fun r => ?_) fun _ => .perform rfl
  split
  · exact makes_orNotFound hdst
  split_ifs
  · exact .pure _
  · exact .fail _

theorem makes_deleteProviderSecrets {p : Cmd → Prop} (hlog : ∀ c : Cmd, c.logs → p c)
    (hsecret : ∀ name, p (.deleteSecret name)) (names : List SecretName) : (deleteProviderSecrets job names).Makes p := by
  induction names with
  | nil => exact .pure _
  | cons name _ ih =>
    exact .bind (makes_orNotFound (makes_executeNonObservableMutation hlog (.perform (hsecret name)))) fun _ => ih

theorem makes_deleteProject : (deleteProject job).Makes (·.ofDeletion) := by
  refine .bind (.perform rfl) fun _ => .bind (.attempt (.perform rfl)) fun intent => ?_
  have hread : (Prog.ofExcept intent : Action ProjectIntent).Makes (·.ofDeletion) := by cases intent <;> trivial
  exact .bind (makes_orNoRows (.perform rfl) fun _ => makes_removeProviderMachine) fun _ =>
    .bind (makes_orNoRows hread fun _ => makes_deleteProviderSecrets ofDeletion_of_logs (fun _ => rfl) _) fun _ =>
      .bind (makes_orNoRows (.perform rfl) fun _ => .bind (makes_orNotFound
        (makes_executeDestroyMutation ofDeletion_of_logs (.perform rfl) (.perform rfl))) fun _ => .perform rfl) fun _ =>
          .bind (.perform rfl) fun _ => .perform rfl

theorem makes_runOnce {svc : Service} {key : JobKey} {leaseToken : String} {previousState : Option ProjectState}
    (h : previousState.all (·.kept)) : (runOnce svc key leaseToken previousState).Makes (·.ofJob key) := by
  have hproc : (process svc key).Makes (·.ofJob key) := by
    by_cases hk : key = .delete
    · subst hk
      exact makes_deleteProject
    · simp only [Cmd.ofJob_of_ne hk]
      exact makes_process hk
  refine hproc.attempt.bind fun r => ?_
  have hlv : ∀ c : Cmd, c.ofLifecycle → c.ofDeletion → c.ofJob key := by
    intro c hl hd
    cases key <;> assumption
  split
  · exact .perform (hlv _ rfl rfl)
  split_ifs
  · exact .bind (.attempt (.perform (hlv (.blockJobAndRestoreProject ..) h rfl))) fun _ => .fail _
  · exact .bind (.attempt (.perform (hlv _ rfl rfl))) fun _ => .fail _

end Paperboat.Projects

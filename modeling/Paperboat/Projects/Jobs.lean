import Paperboat.Projects.Orchestrator
/-!
# The processing of a job

`Service.process` and what it calls, as programs over `Cmd`: what a job does next
depends on the answers it has had, and everything else can happen between two of
its calls. The helpers of `provider_operations.go` wrap each change at the
provider in the rows of `hosted_provider_operations`.
-/

namespace Paperboat.Projects

open Lib Lib.Prog

abbrev Action (α : Type) : Type := Prog Cmd.Answer Err α

def issue (c : Cmd) : Action c.Answer := perform c

structure Service where
  /-- The digest of the spec rendered from the desired columns and a volume. -/
  specHash : ConfigColumns → String → String
  (hostedRoute readiness beforeStop : Bool)

namespace Service

def machineSpec (svc : Service) (intent : ProjectIntent) (volumeID : String) : MachineSpec where
  desired := intent.desired
  volumeID := volumeID
  specHash := svc.specHash intent.desired volumeID

def hook (configured : Bool) (call : Outside) : Action Unit := if configured then issue (.outside call) else pure ()

end Service

/-! ## `provider_operations.go` -/

variable (svc : Service) (job : JobKey) (machineID : String) (step : OpStep) (request : OpRequest)
  (intent : ProjectIntent)

/-- `FailProviderOperation`; the error of the mutation is the error of the step, recorded or not. -/
def failMutation (e : Err) : Action α := do
  let _ ← (issue (.failOperation job step e.outcome)).attempt
  .fail e

def runMutation (mutate : Action α) : Action α := do
  issue (.startOperation job step)
  match ← mutate.attempt with
  | .ok result =>
    issue (.completeOperation job step)
    pure result
  | .error e => failMutation job step e

/-- The caller has just looked for the resource and found none. -/
def executeProviderMutation (mutate : Action α) : Action α := do
  let operation ← issue (.reserveOperation job step request)
  if operation.state = .failed then .fail (.provider operation.outcome)
  else if operation.state = .pending then runMutation job step mutate
  else do
    issue (.resetOperation job step)
    runMutation job step mutate

def resolveProviderMutationByObservation : Action Unit := do
  let _ ← issue (.reserveOperation job step request)
  issue (.resolveOperation job step)

def executeMachineMutation (machineID : String)
    (applied : ObservedMachine → Bool) (mutate : Action ObservedMachine) : Action ObservedMachine := do
  let operation ← issue (.reserveOperation job step request)
  if operation.state = .pending then runMutation job step mutate
  else do
    let observed ← issue (.getMachine machineID)
    if applied observed then do
      issue (.resolveOperation job step)
      pure observed
    else if operation.state = .failed ∧ operation.outcome ≠ .conflict then .fail (.provider operation.outcome)
    else do
      issue (.resetOperation job step)
      runMutation job step mutate

def runDestroy (mutate : Action Unit) : Action Unit := do
  issue (.startOperation job step)
  match ← mutate.attempt with
  | .ok () => issue (.completeOperation job step)
  | .error e => if e = .notFound then issue (.resolveOperation job step) else failMutation job step e

def executeDestroyMutation (observe mutate : Action Unit) : Action Unit := do
  let operation ← issue (.reserveOperation job step .ofStep)
  if operation.state = .failed then .fail (.provider operation.outcome)
  else if operation.state = .pending then runDestroy job step mutate
  else do
    match ← observe.attempt with
    | .error e => if e = .notFound then issue (.resolveOperation job step) else .fail e
    | .ok () =>
      issue (.resetOperation job step)
      runDestroy job step mutate

/-- What cannot be observed is not tried twice. -/
def executeNonObservableMutation (mutate : Action Unit) : Action Unit := do
  let operation ← issue (.reserveOperation job step .ofStep)
  match operation.state with
  | .succeeded => pure ()
  | .running | .uncertain => .fail (.provider .uncertain)
  | .failed => .fail (.provider operation.outcome)
  | .pending => runDestroy job step mutate

/-! ## Machines and volumes -/

def startMachine (job : JobKey) (machineID : String) : Action ObservedMachine :=
  executeMachineMutation job (.startMachine machineID) .ofStep machineID
    (fun observed => observed.state = .running ∨ observed.state = .started) (issue (.startMachine machineID))

def stopMachine (job : JobKey) (machineID : String) : Action ObservedMachine :=
  executeMachineMutation job (.stopMachine machineID) .ofStep machineID
    (fun observed => observed.state = .stopped) (issue (.stopMachine machineID))

def updateMachine (job : JobKey) (machineID : String) (spec : MachineSpec) : Action ObservedMachine :=
  executeMachineMutation job (.updateMachine machineID) (.machine spec) machineID
    (fun observed => observed.machine.configHash = spec.configHash) (issue (.updateMachine machineID spec))

def destroyMachine (job : JobKey) (machineID : String) : Action Unit :=
  executeDestroyMutation job (.destroyMachine machineID)
    (do let _ ← issue (.getMachine machineID)) (issue (.destroyMachine machineID))

def destroyVolume (job : JobKey) (volumeID : String) : Action Unit :=
  executeDestroyMutation job (.destroyVolume volumeID) (issue (.getVolume volumeID)) (issue (.destroyVolume volumeID))

/-- `RecordVolume`: the row is written in a transaction and read back after it. -/
def recordVolume (flyVolumeID : String) (sizeGB : Int) : Action VolumeRow := do
  issue (.insertFlyVolumeRecord flyVolumeID sizeGB)
  issue .projectVolume

def recordMachine (flyMachineID : String) : Action String := do
  issue (.upsertFlyMachineRecord flyMachineID)
  issue .projectMachine

/-- `findProviderVolume`: the name says the project, so region and size are left to compare. -/
def matchingVolume (volume : ProviderVolume) : Bool :=
  volume.regionID = intent.desired.regionID ∧ volume.sizeGB = intent.storageGB

/-- A volume the provider has under the project's name is taken over, otherwise one is made. -/
def adoptOrCreateVolume : Action VolumeRow := do
  let volumes ← issue .listVolumes
  match volumes.find? (matchingVolume intent) with
  | some adopted =>
    resolveProviderMutationByObservation job .createVolume (.volume intent.desired.regionID intent.storageGB)
    recordVolume adopted.id intent.storageGB
  | none =>
    let created ← executeProviderMutation job .createVolume (.volume intent.desired.regionID intent.storageGB)
      (issue (.createVolume intent.desired.regionID intent.storageGB))
    recordVolume created.id intent.storageGB

def ensureVolume : Action VolumeRow := do
  match ← (issue .projectVolume).attempt with
  | .ok volume => pure volume
  | .error e => if e = .noRows then adoptOrCreateVolume job intent else .fail e

def adoptOrCreateMachine (spec : MachineSpec) : Action String := do
  let machines ← issue .listMachines
  match machines.head? with
  | some adopted =>
    resolveProviderMutationByObservation job .createMachine (.machine spec)
    recordMachine adopted.id
  | none =>
    let created ← executeProviderMutation job .createMachine (.machine spec) (issue (.createMachine spec))
    recordMachine created.machine.id

def ensureMachine (volumeID : String) : Action String := do
  match ← (issue .projectMachine).attempt with
  | .ok machineID => pure machineID
  | .error e => if e = .noRows then adoptOrCreateMachine job (svc.machineSpec intent volumeID) else .fail e

def applyMachineSpecDrift (machineID volumeID : String) : Action Unit := do
  let spec := svc.machineSpec intent volumeID
  let observed ← issue (.getMachine machineID)
  if observed.machine.specHash = spec.specHash then pure ()
  else do
    let _ ← updateMachine job machineID spec
    issue (.outside .recordProjectEvent)

def orNoRows (read : Action α) (next : α → Action Unit) : Action Unit := do
  match ← read.attempt with
  | .ok a => next a
  | .error e => if e = .noRows then pure () else .fail e

def reconcileMachineSpecDrift : Action Unit :=
  orNoRows (issue .projectIntent) fun intent =>
    if intent.pendingRestartApply then pure ()
    else orNoRows (issue .projectVolume) fun volume =>
      applyMachineSpecDrift svc job intent machineID volume.flyVolumeID

def recreateMissingMachine : Action String := do
  let intent ← issue .projectIntent
  let volume ← issue .projectVolume
  issue .removeMachine
  let machineID ← ensureMachine svc job intent volume.flyVolumeID
  issue (.outside .recordProjectEvent)
  pure machineID

/-! ## The jobs -/

def provisionProject : Action Unit := do
  let intent ← issue .projectIntent
  issue (.outside .ensureHostedRuntimeAuthority)
  Service.hook svc.hostedRoute .ensureHostedRoute
  let volume ← ensureVolume job intent
  let _ ← ensureMachine svc job intent volume.flyVolumeID
  issue (.markProvisionedStopped intent)

def checkReadiness : Action Unit :=
  if svc.readiness then do
    match ← (issue (.outside .verifyReadiness)).attempt with
    | .ok () => issue (.outside .recordReadinessSuccess)
    | .error e =>
      let _ ← (issue (.outside .recordReadinessFailure)).attempt
      .fail e
  else pure ()

def machineToStart : Action String := do
  let machineID ← issue .projectMachine
  match ← (reconcileMachineSpecDrift svc job machineID).attempt with
  | .ok () => pure machineID
  | .error e => if e = .notFound then recreateMissingMachine svc job else .fail e

def startOrRecreate : Action ObservedMachine := do
  match ← (startMachine job machineID).attempt with
  | .ok observed => pure observed
  | .error e =>
    if e = .notFound then do
      let machineID ← recreateMissingMachine svc job
      startMachine job machineID
    else .fail e

def startProject : Action Unit := do
  let machineID ← machineToStart svc job
  let _ ← startOrRecreate svc job machineID
  checkReadiness svc
  issue (.recordMachineState .running)

/-- `snapshotBeforeStop` only logs its failure. -/
def snapshotBeforeStop (svc : Service) : Action Unit := do
  let _ ← (Service.hook svc.beforeStop .snapshotBeforeStop).attempt

def stopProject : Action Unit := do
  let machineID ← issue .projectMachine
  snapshotBeforeStop svc
  let _ ← stopMachine job machineID
  issue (.waitMachineStopped machineID)
  issue (.recordMachineState .stopped)

/-- The machine of a restart, stopped: the recorded one, or one made anew with the
desired spec, which the flag tells. -/
def stoppedMachine : Action (String × Bool) := do
  let stopSucceeded : Bool ← issue (.operationSucceeded job (.stopMachine machineID))
  if stopSucceeded then pure (machineID, false)
  else do
    snapshotBeforeStop svc
    match ← (stopMachine job machineID).attempt with
    | .ok _ =>
      issue (.waitMachineStopped machineID)
      pure (machineID, false)
    | .error e =>
      if e = .notFound then do
        let machineID ← recreateMissingMachine svc job
        pure (machineID, true)
      else .fail e

def sendSpec (recreated : Bool) (machineID volumeID : String) : Action Unit :=
  if recreated then pure ()
  else if intent.pendingRestartApply then do
    let _ ← updateMachine job machineID (svc.machineSpec intent volumeID)
  else applyMachineSpecDrift svc job intent machineID volumeID

def applyPending : Action Unit :=
  if intent.pendingRestartApply then issue (.applyRuntimeConfig intent) else pure ()

def restartMachine (machineID volumeID : String) : Action Unit := do
  let stopped ← stoppedMachine svc job machineID
  sendSpec svc job intent stopped.2 stopped.1 volumeID
  let _ ← startMachine job stopped.1
  checkReadiness svc
  applyPending intent
  issue (.recordMachineState .running)

def restartProject : Action Unit := do
  let intent ← issue .projectIntent
  let machineID ← issue .projectMachine
  let volume ← issue .projectVolume
  if intent.storageGB ≠ volume.sizeGB then do
    issue (.outside .recordProjectEvent)
    .fail .volumeResizeRequiresApproval
  else restartMachine svc job intent machineID volume.flyVolumeID

def orNotFound (remove : Action Unit) : Action Unit := do
  match ← remove.attempt with
  | .ok () => pure ()
  | .error e => if e = .notFound then pure () else .fail e

def stopAndDestroy : Action Unit := do
  match ← (stopMachine job machineID).attempt with
  | .ok _ => orNotFound (destroyMachine job machineID)
  | .error e => if e = .notFound then pure () else .fail e

def removeProviderMachine : Action Unit := do
  stopAndDestroy job machineID
  issue .removeMachine

def removeProviderVolume (volumeID : String) : Action Unit := do
  orNotFound (destroyVolume job volumeID)
  issue .removeVolume

def deleteProviderSecrets (job : JobKey) : List SecretName → Action Unit
  | [] => pure ()
  | name :: names => do
    orNotFound (executeNonObservableMutation job (.deleteSecret name) (issue (.deleteSecret name)))
    deleteProviderSecrets job names

def deleteProject : Action Unit := do
  issue (.outside .beginHostedEnvironmentDelete)
  let intent ← (issue .projectIntent).attempt
  orNoRows (issue .projectMachine) (removeProviderMachine job)
  orNoRows (Prog.ofExcept intent) fun _ => deleteProviderSecrets job [.setup, .enrollment, .github]
  orNoRows (issue .projectVolume) fun volume => removeProviderVolume job volume.flyVolumeID
  issue .markDeletedAndReleaseStorage
  issue (.outside .completeHostedEnvironmentDelete)

def process : Action Unit :=
  match job with
  | .create => provisionProject svc job
  | .lifecycle .start _ => startProject svc job
  | .lifecycle .stop _ | .enforcement _ => stopProject svc job
  | .lifecycle .restart _ => restartProject svc job
  | .delete => deleteProject job

/-- `Service.RunOnce` once the job is claimed. -/
def runOnce (leaseToken : String) (previousState : Option ProjectState) : Action Unit := do
  match ← (process svc job).attempt with
  | .ok () => issue (.completeJob job leaseToken)
  | .error e =>
    if e = .volumeResizeRequiresApproval then do
      let _ ← (issue (.blockJobAndRestoreProject job leaseToken previousState)).attempt
      .fail e
    else do
      let _ ← (issue (.failJob job leaseToken)).attempt
      .fail e

end Paperboat.Projects

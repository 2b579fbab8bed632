import Mathlib.Logic.Function.Basic
import Paperboat.Lib.Programs
import Paperboat.Projects.Lifecycle
/-!
# One project's rows and what the orchestrator's calls do to them

Every statement of the orchestrator and of the lifecycle requests names the one
project it is about, so the model is one project's slice of the tables, with what
the provider holds for it. A call the job processing makes is a `Cmd`; `exec`
is what it does, given what the environment chooses: whether it fails, whether a
failed call took effect anyway, and what the provider hands out or shows.

An answer "not found" or "no rows" is never a choice: the provider and the
database give it when the thing is not there.
-/

namespace Paperboat.Projects

open Lib

/-! ## Rows -/

/-- The columns of `project_runtime_configs` that are kept twice, as desired and as applied. -/
structure ConfigColumns where
  machineTypeVersionID : String
  presetVersionIDs : List String
  (setupScriptRef regionID configHash : String)
  deriving DecidableEq

structure RuntimeConfig where
  desired : ConfigColumns
  applied : Option ConfigColumns
  pendingRestartApply : Bool
  deriving DecidableEq

structure VolumeRow where
  flyVolumeID : String
  sizeGB : Int
  deriving DecidableEq

/-- A job row is found by its idempotency key, which says its type. -/
inductive JobKey where
  | create
  | lifecycle (request : Request) (version : Nat)
  | enforcement (reason : String)
  | delete
  deriving DecidableEq

inductive JobState where
  | queued | running | succeeded | blocked | superseded
  deriving DecidableEq

structure Job where
  state : JobState
  leaseToken : String
  previousState : Option ProjectState

/-! ## The provider -/

structure MachineSpec where
  desired : ConfigColumns
  volumeID : String
  /-- The digest of the whole rendered spec, which the machine carries as a tag. -/
  specHash : String
  deriving DecidableEq

namespace MachineSpec

/-- `ConfigHash: intent.DesiredConfigHash`. -/
def configHash (spec : MachineSpec) : String := spec.desired.configHash

end MachineSpec

structure ProviderVolume where
  (id regionID : String)
  sizeGB : Int
  deriving DecidableEq

structure ProviderMachine where
  (id configHash specHash : String)
  deriving DecidableEq

inductive MachineState where
  | running | started | stopped | other
  deriving DecidableEq

structure ObservedMachine where
  machine : ProviderMachine
  state : MachineState

/-! ## Provider operations -/

/-- `fly.Outcome`, with the two values the operations table has besides. -/
inductive Outcome where
  | retryable | capacity | notFound | conflict | uncertain | permanent
  | pending | success
  deriving DecidableEq

inductive SecretName where
  | setup | enrollment | github
  deriving DecidableEq

inductive OpStep where
  | createVolume
  | createMachine
  | startMachine (machineID : String)
  | stopMachine (machineID : String)
  | updateMachine (machineID : String)
  | destroyMachine (machineID : String)
  | destroyVolume (volumeID : String)
  | deleteSecret (name : SecretName)
  deriving DecidableEq

/-- What `request_hash` is a digest of. -/
inductive OpRequest where
  | volume (regionID : String) (sizeGB : Int)
  | machine (spec : MachineSpec)
  /-- Everything in the request is already in the step's name. -/
  | ofStep
  deriving DecidableEq

inductive OpState where
  | pending | running | succeeded | uncertain | failed
  deriving DecidableEq

structure Operation where
  request : OpRequest
  state : OpState
  outcome : Outcome

/-! ## The slice -/

structure Slice where
  project : Project
  config : RuntimeConfig
  assignedGB : Int
  /-- The row of `fly_volumes`. -/
  volume : Option VolumeRow
  /-- `fly_machine_id` of the row of `fly_machines`. -/
  machine : Option String
  /-- Whether `provider_routes` has a row. -/
  route : Bool
  jobs : JobKey → Option Job
  operations : JobKey → OpStep → Option Operation
  /-- Provider volumes and machines that carry the project's name and tags. -/
  volumes : List ProviderVolume
  machines : List ProviderMachine
  /-- The config hash of every spec that was sent to the provider and taken by it. -/
  sent : List String
  /-- Committed `Update` requests, and how many of them the intent last marked applied had seen. -/
  (updates appliedUpdates : Nat)

structure ProjectIntent where
  userID : String
  storageGB : Int
  desired : ConfigColumns
  pendingRestartApply : Bool
  /-- The `Update` requests committed before it was read. -/
  updates : Nat

inductive Err where
  | noRows
  | notFound
  | provider (outcome : Outcome)
  | operationConflict
  | leaseLost
  | volumeResizeRequiresApproval
  | failed
  deriving DecidableEq

/-- `FailProviderOperation`: an error that is no provider error counts as permanent. -/
def Err.outcome : Err → Outcome
  | .notFound => .notFound
  | .provider outcome => outcome
  | _ => .permanent

/-! ## Calls -/

inductive Outside where
  | ensureHostedRuntimeAuthority | ensureHostedRoute | beginHostedEnvironmentDelete | completeHostedEnvironmentDelete
  | snapshotBeforeStop | verifyReadiness | recordReadinessSuccess | recordReadinessFailure | recordProjectEvent

inductive Cmd where
  | projectIntent
  | projectMachine
  | projectVolume
  | insertFlyVolumeRecord (flyVolumeID : String) (sizeGB : Int)
  | upsertFlyMachineRecord (flyMachineID : String)
  | removeMachine
  | removeVolume
  | markProvisionedStopped (intent : ProjectIntent)
  | applyRuntimeConfig (intent : ProjectIntent)
  | recordMachineState (projectState : ProjectState)
  | markDeletedAndReleaseStorage
  | outside (call : Outside)
  | reserveOperation (job : JobKey) (step : OpStep) (request : OpRequest)
  | resetOperation (job : JobKey) (step : OpStep)
  | startOperation (job : JobKey) (step : OpStep)
  | completeOperation (job : JobKey) (step : OpStep)
  | resolveOperation (job : JobKey) (step : OpStep)
  | failOperation (job : JobKey) (step : OpStep) (outcome : Outcome)
  | operationSucceeded (job : JobKey) (step : OpStep)
  | listVolumes
  | listMachines
  | getVolume (volumeID : String)
  | getMachine (machineID : String)
  | waitMachineStopped (machineID : String)
  | createVolume (regionID : String) (sizeGB : Int)
  | createMachine (spec : MachineSpec)
  | updateMachine (machineID : String) (spec : MachineSpec)
  | startMachine (machineID : String)
  | stopMachine (machineID : String)
  | destroyMachine (machineID : String)
  | destroyVolume (volumeID : String)
  | deleteSecret (name : SecretName)
  | completeJob (job : JobKey) (leaseToken : String)
  | failJob (job : JobKey) (leaseToken : String)
  | blockJobAndRestoreProject (job : JobKey) (leaseToken : String) (previousState : Option ProjectState)

@[reducible] def Cmd.Answer : Cmd → Type
  | .projectIntent => ProjectIntent
  | .projectMachine => String
  | .projectVolume => VolumeRow
  | .reserveOperation .. => Operation
  | .operationSucceeded .. => Bool
  | .listVolumes => List ProviderVolume
  | .listMachines => List ProviderMachine
  | .getMachine _ | .createMachine _ | .updateMachine .. | .startMachine _ | .stopMachine _ => ObservedMachine
  | .createVolume .. => ProviderVolume
  | _ => Unit

structure Choice where
  fails : Option Err
  /-- A call that fails may have taken effect. -/
  took : Bool
  id : String
  observed : MachineState
  /-- Rows and secrets this model does not hold may be gone. -/
  missing : Bool

/-- Neither a call that found nothing nor a lost lease is an accident. -/
def Choice.failure (x : Choice) : Option Err :=
  match x.fails with
  | some (.provider outcome) => some (.provider outcome)
  | some _ => some .failed
  | none => none

namespace Slice

variable (s : Slice) (key : JobKey) (job : JobKey) (step : OpStep)

def putOperation (operation : Option Operation) : Slice :=
  { s with operations := Function.update s.operations job (Function.update (s.operations job) step operation) }

def setOperation (change : Operation → Operation) : Slice :=
  s.putOperation job step ((s.operations job step).map change)

def setJob (change : Job → Job) : Slice :=
  { s with jobs := Function.update s.jobs key ((s.jobs key).map change) }

def setProject (change : Project → Project) : Slice := { s with project := change s.project }

/-- `WHERE id=... AND state='running' AND lease_token=...` selects the job. -/
def holdsLease (leaseToken : String) : Bool :=
  match s.jobs key with
  | some job => job.state == .running && job.leaseToken == leaseToken
  | none => false

def leave (state : JobState) : Slice :=
  s.setJob key fun job => { job with state, leaseToken := "" }

def findVolume (volumeID : String) : Option ProviderVolume := s.volumes.find? (·.id = volumeID)

def findMachine (machineID : String) : Option ProviderMachine := s.machines.find? (·.id = machineID)

def projectIntent : ProjectIntent where
  userID := s.project.userID
  storageGB := s.assignedGB
  desired := s.config.desired
  pendingRestartApply := s.config.pendingRestartApply
  updates := s.updates

/-- `ApplyProjectRuntimeConfig` copies the desired columns as they are now. -/
def applyProjectRuntimeConfig (intent : ProjectIntent) : Slice :=
  { s with
    config := { s.config with applied := some s.config.desired, pendingRestartApply := false }
    appliedUpdates := intent.updates }

def reserved (request : OpRequest) : Operation :=
  (s.operations job step).getD ⟨request, .pending, .pending⟩

end Slice

def machineOf (spec : MachineSpec) (id : String) : ProviderMachine := ⟨id, spec.configHash, spec.specHash⟩

def found (there : Option α) : Except Err α :=
  match there with
  | some a => .ok a
  | none => .error .notFound

def answerRows (row : Option α) : Except Err α :=
  match row with
  | some a => .ok a
  | none => .error .noRows

namespace Cmd

def answer (x : Choice) (s : Slice) : (c : Cmd) → Except Err c.Answer
  | .projectIntent => if x.missing then .error .noRows else .ok s.projectIntent
  | .projectMachine => answerRows s.machine
  | .projectVolume => answerRows s.volume
  | .reserveOperation job step request =>
    let operation := s.reserved job step request
    if operation.request = request then .ok operation else .error .operationConflict
  | .operationSucceeded job step => .ok ((s.operations job step).any (·.state = .succeeded))
  | .listVolumes => .ok s.volumes
  | .listMachines => .ok s.machines
  | .getVolume id => (found (s.findVolume id)).map fun _ => ()
  | .getMachine id | .startMachine id | .stopMachine id => (found (s.findMachine id)).map (⟨·, x.observed⟩)
  | .waitMachineStopped id | .destroyMachine id => (found (s.findMachine id)).map fun _ => ()
  | .destroyVolume id => (found (s.findVolume id)).map fun _ => ()
  | .createVolume regionID sizeGB => .ok ⟨x.id, regionID, sizeGB⟩
  | .createMachine spec => .ok ⟨machineOf spec x.id, x.observed⟩
  | .updateMachine id spec => (found (s.findMachine id)).map fun _ => ⟨machineOf spec id, x.observed⟩
  | .deleteSecret _ => if x.missing then .error .notFound else .ok ()
  | .completeJob key leaseToken | .failJob key leaseToken | .blockJobAndRestoreProject key leaseToken _ =>
    if s.holdsLease key leaseToken then .ok () else .error .leaseLost
  | .insertFlyVolumeRecord .. | .upsertFlyMachineRecord _ | .removeMachine | .removeVolume
  | .markProvisionedStopped _ | .applyRuntimeConfig _ | .recordMachineState _ | .markDeletedAndReleaseStorage
  | .outside _ | .resetOperation .. | .startOperation .. | .completeOperation .. | .resolveOperation ..
  | .failOperation .. => .ok ()

def effect (x : Choice) (s : Slice) : Cmd → Slice
  | .insertFlyVolumeRecord id sizeGB => { s with volume := s.volume.getD ⟨id, sizeGB⟩ }
  | .upsertFlyMachineRecord id => { s with machine := some id }
  | .removeMachine => { s with machine := none }
  | .removeVolume => { s with volume := none }
  | .markProvisionedStopped intent => (s.applyProjectRuntimeConfig intent).setProject .markProvisionedProjectStopped
  | .applyRuntimeConfig intent => s.applyProjectRuntimeConfig intent
  | .recordMachineState state => s.setProject (.updateOrchestratedProjectState state)
  | .markDeletedAndReleaseStorage => s.setProject .markProjectDeleted
  | .reserveOperation job step request => s.putOperation job step (s.reserved job step request)
  | .resetOperation job step =>
    s.setOperation job step fun o => if o.state = .pending then o else { o with state := .pending, outcome := .pending }
  | .startOperation job step =>
    s.setOperation job step fun o => if o.state ∈ [.pending, .uncertain] then { o with state := .running } else o
  | .completeOperation job step =>
    s.setOperation job step fun o => if o.state = .running then { o with state := .succeeded, outcome := .success } else o
  | .resolveOperation job step =>
    s.setOperation job step fun o => if o.state = .failed then o else { o with state := .succeeded, outcome := .success }
  | .failOperation job step outcome =>
    s.setOperation job step fun o =>
      if o.state ≠ .running then o
      else if outcome = .uncertain then { o with state := .uncertain, outcome }
      else if outcome ∈ [.retryable, .capacity] then { o with state := .pending, outcome }
      else { o with state := .failed, outcome }
  | .createVolume regionID sizeGB => { s with volumes := s.volumes ++ [⟨x.id, regionID, sizeGB⟩] }
  | .createMachine spec => { s with machines := s.machines ++ [machineOf spec x.id], sent := s.sent ++ [spec.configHash] }
  | .updateMachine id spec =>
    match s.findMachine id with
    | some _ =>
      { s with
        machines := s.machines.map fun m => if m.id = id then machineOf spec id else m
        sent := s.sent ++ [spec.configHash] }
    | none => s
  | .destroyMachine id => { s with machines := s.machines.filter (·.id ≠ id) }
  | .destroyVolume id => { s with volumes := s.volumes.filter (·.id ≠ id) }
  | .completeJob key leaseToken => if s.holdsLease key leaseToken then s.leave key .succeeded else s
  | .failJob key leaseToken => if s.holdsLease key leaseToken then s.leave key .queued else s
  | .blockJobAndRestoreProject key leaseToken previousState =>
    if s.holdsLease key leaseToken then
      -- A job that does not say what to restore, or would restore `restarting`, restores `ready`.
      let previous := previousState.filter (· ≠ .restarting)
      (s.leave key .blocked).setProject (.restoreRestartingProjectState (previous.getD .ready))
    else s
  | _ => s

end Cmd

def exec (c : Cmd) (x : Choice) (s : Slice) : Except Err c.Answer × Slice :=
  match x.failure with
  | some e => (.error e, if x.took then c.effect x s else s)
  | none => (c.answer x s, c.effect x s)

end Paperboat.Projects

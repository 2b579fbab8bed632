import Mathlib.Order.Basic
/-!
# The state column of a project

Three writers share `projects.state`: lifecycle requests (`projects.go`),
orchestration jobs (`orchestrator.go`) and metering enforcement (`runtime.go`).
Each statement here is what it does to the row it selects; a guard that does not
hold leaves the row alone.
-/

namespace Paperboat.Projects

inductive ProjectState where
  | creating | provisioningStorage | provisioningMachine | stopped | starting | running | ready | stopping | restarting
  | suspended | failed | deleting | deleted
  deriving DecidableEq

structure Project where
  (id userID : String)
  state : ProjectState
  version : Nat

namespace Project

/-- `SET state=..., version=version+1`. -/
def setState (p : Project) (state : ProjectState) : Project := { p with state, version := p.version + 1 }

/-- An `UPDATE` of the state whose `WHERE` clause asks for more than the id. -/
def setStateIf (selected : Prop) [Decidable selected] (state : ProjectState) (p : Project) : Project :=
  if selected then p.setState state else p

@[simp] theorem setStateIf_id (selected : Prop) [Decidable selected] (state : ProjectState) (p : Project) :
    (p.setStateIf selected state).id = p.id := by
  unfold setStateIf
  split_ifs <;> rfl

@[simp] theorem setStateIf_userID (selected : Prop) [Decidable selected] (state : ProjectState) (p : Project) :
    (p.setStateIf selected state).userID = p.userID := by
  unfold setStateIf
  split_ifs <;> rfl

def markProjectProvisioningStorage (userID : String) (p : Project) : Project :=
  p.setStateIf (p.userID = userID) .provisioningStorage

def markProvisionedProjectStopped (p : Project) : Project := p.setStateIf (p.state ≠ .deleted) .stopped

/-- `RecordMachineState` ends a start or restart job with `running` and a stop job with `stopped`. -/
def updateOrchestratedProjectState (state : ProjectState) (p : Project) : Project :=
  p.setStateIf (p.state ≠ .deleted) state

def restoreRestartingProjectState (previous : ProjectState) (p : Project) : Project :=
  p.setStateIf (p.state = .restarting) previous

def markProjectStoppingForEnforcement (p : Project) : Project :=
  p.setStateIf (p.state ∉ [.deleted, .deleting, .stopping, .stopped]) .stopping

def markProjectDeleting (userID : String) (p : Project) : Project :=
  p.setStateIf (p.userID = userID ∧ p.state ≠ .deleted) .deleting

def markProjectDeleted (p : Project) : Project := p.setState .deleted

end Project

/-! ## Lifecycle requests -/

inductive Request where
  | start | stop | restart
  deriving DecidableEq

def Request.nextState : Request → ProjectState
  | .start => .starting
  | .stop => .stopping
  | .restart => .restarting

inductive LifecycleError where
  | notFound | deleted | invalidState

/-- The row `QueueLifecycleJob` leaves. A project already in the wanted state is not written. -/
def queueLifecycleJob (userID : String) (request : Request) (p : Project) : Except LifecycleError Project :=
  if p.userID ≠ userID then .error .notFound
  else if p.state = .deleted ∨ p.state = .deleting then .error .deleted
  else if p.state ∈ [.creating, .provisioningStorage, .provisioningMachine, .failed, .suspended] then .error .invalidState
  else if p.state = request.nextState then .ok p
  else .ok (p.setState request.nextState)

/-! ## All writers but metering -/

inductive LifecycleOp where
  | queue (userID : String) (request : Request)
  | markProvisioningStorage (userID : String)
  | markProvisionedStopped
  | recordMachineState (state : ProjectState)
  | restoreProject (previousState : ProjectState)
  | markDeleting (userID : String)
  | markDeleted

def LifecycleOp.apply (op : LifecycleOp) (p : Project) : Project :=
  match op with
  | .queue userID request =>
    match queueLifecycleJob userID request p with
    | .ok p' => p'
    | .error _ => p
  | .markProvisioningStorage userID => p.markProjectProvisioningStorage userID
  | .markProvisionedStopped => p.markProvisionedProjectStopped
  | .recordMachineState state => p.updateOrchestratedProjectState state
  | .restoreProject previousState =>
    -- `BlockJobAndRestoreProject`: a job that does not say what to restore restores `ready`.
    p.restoreRestartingProjectState (if previousState = .restarting then .ready else previousState)
  | .markDeleting userID => p.markProjectDeleting userID
  | .markDeleted => p.markProjectDeleted

@[simp] theorem LifecycleOp.apply_id (op : LifecycleOp) (p : Project) : (op.apply p).id = p.id := by
  cases op with
  | queue =>
    simp only [apply, queueLifecycleJob]
    split_ifs <;> rfl
  | markDeleted => rfl
  | markProvisioningStorage | markProvisionedStopped | recordMachineState | restoreProject | markDeleting =>
    exact Project.setStateIf_id _ _ _

theorem Project.markProjectStoppingForEnforcement_id (p : Project) : p.markProjectStoppingForEnforcement.id = p.id :=
  setStateIf_id _ _ _

theorem Project.markProjectStoppingForEnforcement_cases (p : Project) : p.markProjectStoppingForEnforcement = p ∨
      p.state ≠ .stopped ∧ p.markProjectStoppingForEnforcement = p.setState .stopping := by
  unfold markProjectStoppingForEnforcement setStateIf
  split_ifs with h
  · exact .inl rfl
  · exact .inr ⟨fun hs => h (by simp [hs]), rfl⟩

end Paperboat.Projects

import Paperboat.Lib.Runs
import Paperboat.Projects.JobRules
/-!
# Requests, workers and the jobs they have claimed

A run is any interleaving of lifecycle requests, metering, claims of jobs, single
calls of the workers, crashes, and resources that vanish at the provider. A claim
may take a running job at any time: its lease may have expired.
-/

namespace Paperboat.Projects

open Lib Lib.Prog

variable {svc : Service} {i : Nat}

structure Worker where
  job : JobKey
  program : Action Unit

structure System where
  slice : Slice
  workers : Nat → Option Worker

/-! ## Requests -/

structure ConfigChange where
  storageGB : Int
  machineTypeVersionID : String
  presetVersionIDs : List String
  regionID : String
  /-- The reference of a new setup script, if there is one. -/
  setup : Option String
  configHash : String

def ConfigColumns.changed (columns : ConfigColumns) (change : ConfigChange) : ConfigColumns where
  machineTypeVersionID := change.machineTypeVersionID
  presetVersionIDs := change.presetVersionIDs
  setupScriptRef := change.setup.getD columns.setupScriptRef
  regionID := change.regionID
  configHash := change.configHash

namespace Slice

variable (s : Slice) (userID : String)

/-- `INSERT ... ON CONFLICT (idempotency_key) DO UPDATE SET state='queued', payload=...`. -/
def requeueJob (key : JobKey) (previousState : Option ProjectState) : Slice :=
  let leaseToken := ((s.jobs key).map Job.leaseToken).getD ""
  { s with jobs := Function.update s.jobs key (some ⟨.queued, leaseToken, previousState⟩) }

def queueLifecycleJob (s : Slice) (userID : String) (request : Request) : Slice :=
  match Projects.queueLifecycleJob userID request s.project with
  | .error _ => s
  | .ok project =>
    if s.project.state = request.nextState then s
    else { s with project }.requeueJob (.lifecycle request s.project.version) (some s.project.state)

/-- Whether `updateDesiredConfigOnce` commits; `storageAccepted` is what the storage account says to the new size. -/
def canUpdate (s : Slice) (userID : String) (expectedVersion : Option Nat) (storageAccepted : Bool) : Prop :=
  s.project.userID = userID ∧ (∀ v ∈ expectedVersion, s.project.version = v) ∧ s.project.state ≠ .deleting ∧
    s.project.state ≠ .deleted ∧ storageAccepted

instance (s : Slice) (userID : String) (expectedVersion : Option Nat) (storageAccepted : Bool) :
    Decidable (s.canUpdate userID expectedVersion storageAccepted) := by unfold canUpdate; infer_instance

def updateDesiredConfig (change : ConfigChange) (expectedVersion : Option Nat) (storageAccepted : Bool) : Slice :=
  if s.canUpdate userID expectedVersion storageAccepted then
    { s with
      config := { s.config with desired := s.config.desired.changed change, pendingRestartApply := true }
      assignedGB := change.storageGB
      project := { s.project with version := s.project.version + 1 }
      updates := s.updates + 1 }
  else s

def supersedeQueuedJobs : Slice :=
  { s with jobs := fun key =>
      (s.jobs key).map fun job => if job.state = .queued ∧ key ≠ .delete then { job with state := .superseded } else job }

def hasProviderResources : Bool := s.volume.isSome || s.machine.isSome || s.route

/-- `InsertProjectDeleteJob`, which leaves a delete job that is there alone. -/
def insertDeleteJob : Slice :=
  { s with jobs := Function.update s.jobs .delete (some ((s.jobs .delete).getD ⟨.queued, "", none⟩)) }

/-- Whether `MarkDeleting` finds a row to write. -/
def canDelete (s : Slice) (userID : String) : Prop := s.project.userID = userID ∧ s.project.state ≠ .deleted

instance (s : Slice) (userID : String) : Decidable (s.canDelete userID) := by unfold canDelete; infer_instance

/-- `MarkDeleting`: with nothing recorded at the provider the project is deleted in place. -/
def markDeleting : Slice :=
  if s.canDelete userID then
    let marked := (s.setProject (.markProjectDeleting userID)).supersedeQueuedJobs
    if marked.hasProviderResources then marked.insertDeleteJob else marked.setProject .markProjectDeleted
  else s

def queueSystemStop (reason : String) : Slice :=
  (s.setProject .markProjectStoppingForEnforcement).requeueJob (.enforcement reason) (some .running)

def loseMachine (machineID : String) : Slice :=
  { s with machines := s.machines.filter (·.id ≠ machineID) }

def loseVolume (volumeID : String) : Slice :=
  { s with volumes := s.volumes.filter (·.id ≠ volumeID) }

/-- The job the claim finds, if the claim may take it: a job of a project that is
being deleted is left alone, unless it is the deletion. -/
def claimable (key : JobKey) : Option Job :=
  (s.jobs key).filter fun job =>
    (job.state = .queued ∨ job.state = .running) ∧ ¬(s.project.state ∈ [.deleted, .deleting] ∧ key ≠ .delete)

theorem markDeleting_assets : ∃ project jobs, s.markDeleting userID = { s with project, jobs } := by
  unfold Slice.markDeleting
  simp only
  split_ifs <;> exact ⟨_, _, rfl⟩

end Slice

/-! ## Steps -/

/-- Requests, metering (`enforce`; nothing calls `UpdateObservedProjectState`), workers and what the provider loses. -/
inductive SystemOp where
  | queue (userID : String) (request : Request)
  | update (userID : String) (change : ConfigChange) (expectedVersion : Option Nat) (storageAccepted : Bool)
  | markDeleting (userID : String)
  | enforce (reason : String)
  | claim (worker : Nat) (job : JobKey) (leaseToken : String)
  | work (worker : Nat) (x : Choice)
  | crash (worker : Nat)
  | loseMachine (machineID : String)
  | loseVolume (volumeID : String)

def SystemOp.requester : SystemOp → Option String
  | .queue userID _ | .update userID .. | .markDeleting userID => some userID
  | _ => none

def Worker.remaining (w : Worker) : Option Worker :=
  match w.program with
  | .call .. => some w
  | _ => none

namespace System

variable {key : JobKey} {leaseToken : String}

def claim (svc : Service) (s : System) (i : Nat) (key : JobKey) (leaseToken : String) : System :=
  match s.workers i, s.slice.claimable key with
  | none, some job =>
    { slice := s.slice.setJob key fun job => { job with state := .running, leaseToken }
      workers := Function.update s.workers i (some ⟨key, runOnce svc key leaseToken job.previousState⟩) }
  | _, _ => s

def work (s : System) (i : Nat) (x : Choice) : System :=
  match s.workers i with
  | none => s
  | some w =>
    let next := w.program.step exec x s.slice
    { slice := next.2, workers := Function.update s.workers i (Worker.remaining { w with program := next.1 }) }

def onSlice (s : System) (change : Slice → Slice) : System := { s with slice := change s.slice }

def step (svc : Service) (s : System) : SystemOp → System
  | .queue userID request => s.onSlice (·.queueLifecycleJob userID request)
  | .update userID change expectedVersion storageAccepted =>
    s.onSlice (·.updateDesiredConfig userID change expectedVersion storageAccepted)
  | .markDeleting userID => s.onSlice (·.markDeleting userID)
  | .enforce reason => s.onSlice (·.queueSystemStop reason)
  | .claim i key leaseToken => s.claim svc i key leaseToken
  | .work i x => s.work i x
  | .crash i => { s with workers := Function.update s.workers i none }
  | .loseMachine id => s.onSlice (·.loseMachine id)
  | .loseVolume id => s.onSlice (·.loseVolume id)

/-- A project as `CreateIntent` leaves it. -/
def created (id userID : String) (desired : ConfigColumns) (assignedGB : Int) : System where
  slice :=
    { project := ⟨id, userID, .provisioningStorage, 2⟩
      config := ⟨desired, none, true⟩
      assignedGB
      volume := none
      machine := none
      route := false
      jobs := Function.update (fun _ => none) .create (some ⟨.queued, "", none⟩)
      operations := fun _ _ => none
      volumes := []
      machines := []
      sent := []
      updates := 0
      appliedUpdates := 0 }
  workers := fun _ => none

/-! ### What a step can do -/

section Steps
variable {s : System}

theorem claim_cases (svc : Service) (s : System) (i : Nat) (key : JobKey) (leaseToken : String) :
    s.claim svc i key leaseToken = s ∨ ∃ job, s.workers i = none ∧ s.slice.claimable key = some job ∧
      s.claim svc i key leaseToken =
        { slice := s.slice.setJob key fun job => { job with state := .running, leaseToken }
          workers := Function.update s.workers i (some ⟨key, runOnce svc key leaseToken job.previousState⟩) } := by
  unfold claim
  split
  · exact .inr ⟨_, ‹_›, ‹_›, rfl⟩
  · exact .inl rfl

theorem work_cases (s : System) (i : Nat) (x : Choice) :
    s.work i x = s ∨ (∃ w, s.workers i = some w ∧ (s.work i x).slice = s.slice ∧
        (s.work i x).workers = Function.update s.workers i none) ∨
      ∃ key c next, s.workers i = some ⟨key, .call c next⟩ ∧ (s.work i x).slice = (exec c x s.slice).2 ∧
        (s.work i x).workers = Function.update s.workers i
          (Worker.remaining ⟨key, next (exec c x s.slice).1⟩) := by
  unfold work
  split
  · exact .inl rfl
  rename_i w hw
  obtain ⟨key, program⟩ := w
  cases program with
  | ret | fail => exact .inr (.inl ⟨_, hw, rfl, rfl⟩)
  | call c next => exact .inr (.inr ⟨key, c, next, hw, rfl, rfl⟩)

theorem remaining_eq_some {w w' : Worker} (h : w.remaining = some w') : w' = w := by
  unfold Worker.remaining at h
  split at h
  · exact (Option.some.inj h).symm
  · cases h

end Steps

/-! ### Workers that keep to a protocol -/

section Protocols
variable {R : Slice → Slice → Prop} {P : JobKey → Cmd → Slice → Prop} {s : System}

/-- Every worker makes only the calls `P` allows its job, as long as the others move the slice within `R`. -/
def Guarded (R : Slice → Slice → Prop) (P : JobKey → Cmd → Slice → Prop) (s : System) : Prop :=
  ∀ i w, s.workers i = some w → w.program.Safe exec R (P w.job) (fun _ _ => True) s.slice

theorem Guarded.onSlice (hr : Rely R) (h : s.Guarded R P) {change : Slice → Slice} (hc : R s.slice (change s.slice)) :
    (s.onSlice change).Guarded R P := fun i w hw => (h i w hw).later hr.trans hc

theorem Guarded.crash (h : s.Guarded R P) (i : Nat) :
    ({ s with workers := Function.update s.workers i none } : System).Guarded R P := by
  intro j w hw
  by_cases hj : j = i
  · simp [hj] at hw
  · exact h j w (by simpa [hj] using hw)

theorem Guarded.claim (hr : Rely R) (h : s.Guarded R P)
    (hnew : ∀ job, s.slice.claimable key = some job → ∀ slice, R s.slice slice →
      (runOnce svc key leaseToken job.previousState).Safe exec R (P key) (fun _ _ => True) slice) :
    (s.claim svc i key leaseToken).Guarded R P := by
  rcases claim_cases svc s i key leaseToken with he | ⟨job, _, hjob, he⟩
  · rwa [he]
  rw [he]
  have hset : R s.slice (s.slice.setJob key fun job => { job with state := .running, leaseToken }) :=
    hr.assets s.slice s.slice.project _ s.slice.operations
  intro j w hw
  by_cases hj : j = i
  · obtain rfl : _ = w := by simpa [hj] using hw
    exact hnew job hjob _ hset
  · exact (h j w (by simpa [hj] using hw)).later hr.trans hset

/-- A call that a job may make moves the slice within `R`, so the others stay safe. -/
theorem Guarded.work (hr : Rely R) (h : s.Guarded R P) {x : Choice}
    (hg : ∀ key c, P key c s.slice → R s.slice (exec c x s.slice).2) :
    (s.work i x).Guarded R P ∧ R s.slice (s.work i x).slice := by
  rcases work_cases s i x with he | ⟨w, _, hs, hw⟩ | ⟨key, c, next, hi, hs, hw⟩
  · rw [he]
    exact ⟨h, hr.refl _⟩
  · refine ⟨fun j w hj => ?_, hs ▸ hr.refl _⟩
    rw [hs]
    rw [hw] at hj
    exact h.crash i j w hj
  · have hcall := h i _ hi
    have hm := hg key c (hcall.allowed hr.refl)
    refine ⟨fun j w hj => ?_, hs ▸ hm⟩
    rw [hs]
    rw [hw] at hj
    by_cases hji : j = i
    · obtain rfl := remaining_eq_some (by simpa [hji] using hj)
      exact hcall.step hr.refl x
    · exact (h j w (by simpa [hji] using hj)).later hr.trans hm

theorem Guarded.called (hr : Rely R) (h : s.Guarded R P) (i : Nat) (x : Choice) : (s.work i x).slice = s.slice ∨
      ∃ w c, s.workers i = some w ∧ P w.job c s.slice ∧ (s.work i x).slice = (exec c x s.slice).2 := by
  rcases work_cases s i x with he | ⟨_, _, hs, _⟩ | ⟨key, c, next, hi, hs, _⟩
  · exact .inl (by rw [he])
  · exact .inl hs
  · exact .inr ⟨_, c, hi, (h i _ hi).allowed hr.refl, hs⟩

end Protocols

/-! ### Jobs of the workers -/

section JobsHeld
variable {s : System} {J : JobKey → Prop}

def Executes (J : JobKey → Prop) (s : System) : Prop := ∀ i w, s.workers i = some w → J w.job

theorem Executes.crash (h : s.Executes J) (i : Nat) :
    ({ s with workers := Function.update s.workers i none } : System).Executes J := by
  intro j w hw
  by_cases hj : j = i
  · simp [hj] at hw
  · exact h j w (by simpa [hj] using hw)

theorem Executes.claim (h : s.Executes J)
    (hnew : ∀ job, s.slice.claimable key = some job → J key) : (s.claim svc i key leaseToken).Executes J := by
  rcases claim_cases svc s i key leaseToken with he | ⟨job, _, hjob, he⟩
  · rwa [he]
  rw [he]
  intro j w hw
  by_cases hj : j = i
  · obtain rfl : _ = w := by simpa [hj] using hw
    exact hnew job hjob
  · exact h j w (by simpa [hj] using hw)

theorem Executes.work (h : s.Executes J) (i : Nat) (x : Choice) : (s.work i x).Executes J := by
  rcases work_cases s i x with he | ⟨_, _, _, hw⟩ | ⟨key, c, next, hi, _, hw⟩
  · rwa [he]
  · intro j w hj
    rw [hw] at hj
    exact h.crash i j w hj
  · intro j w hj
    rw [hw] at hj
    by_cases hji : j = i
    · obtain rfl := remaining_eq_some (by simpa [hji] using hj)
      exact h i ⟨key, .call c next⟩ hi
    · exact h j w (by simpa [hji] using hj)

end JobsHeld

/-! ### The owner of the project -/

theorem step_userID (s : System) (op : SystemOp) : (s.step svc op).slice.project.userID = s.slice.project.userID := by
  cases op with
  | queue =>
    simp only [step, onSlice, Slice.queueLifecycleJob, Projects.queueLifecycleJob]
    split_ifs <;> rfl
  | update =>
    simp only [step, onSlice, Slice.updateDesiredConfig]
    split_ifs <;> rfl
  | markDeleting =>
    simp only [step, onSlice, Slice.markDeleting]
    split_ifs
    · exact Project.setStateIf_userID ..
    · exact Project.setStateIf_userID ..
    · rfl
  | enforce => exact Project.setStateIf_userID ..
  | claim i key leaseToken =>
    rcases claim_cases svc s i key leaseToken with he | ⟨_, _, _, he⟩ <;> rw [step, he]
    rfl
  | work i x =>
    rcases work_cases s i x with he | ⟨_, _, he, _⟩ | ⟨_, c, _, _, he, _⟩ <;> rw [step, he]
    exact exec_userID c x _
  | crash | loseMachine | loseVolume => rfl

theorem step_stranger {s : System} {op : SystemOp} {userID : String} (hop : op.requester = some userID)
    (h : s.slice.project.userID ≠ userID) : s.step svc op = s := by
  cases op <;> cases hop
  · simp [step, onSlice, Slice.queueLifecycleJob, Projects.queueLifecycleJob, h]
  · simp [step, onSlice, Slice.updateDesiredConfig, Slice.canUpdate, h]
  · simp [step, onSlice, Slice.markDeleting, Slice.canDelete, h]

/-- A run is the same without what others than the owner of the project ask for. -/
theorem strangers_change_nothing (svc : Service) (id userID : String) (desired : ConfigColumns) (assignedGB : Int)
    (ops : List SystemOp) :
    run (step svc) (created id userID desired assignedGB) (ops.filter fun op => op.requester.all (· == userID)) =
      run (step svc) (created id userID desired assignedGB) ops := by
  refine run_filter (I := fun s => s.slice.project.userID = userID) (fun s op h => (step_userID s op).trans h)
    (fun s op h hop => ?_) rfl ops
  cases hrequester : op.requester with
  | none => simp [hrequester] at hop
  | some other =>
    have hne : other ≠ userID := by simpa [hrequester] using hop
    exact step_stranger hrequester (h ▸ hne.symm)

end System

/-! ## A service and a project -/

namespace Sample

def service : Service where
  specHash columns volumeID := columns.configHash ++ volumeID
  hostedRoute := false
  readiness := false
  beforeStop := false

def columns : ConfigColumns := ⟨"small", [], "", "ams", "h1"⟩

def project : System := .created "p1" "u1" columns 10

def change : ConfigChange := ⟨10, "large", [], "ams", none, "h2"⟩

def fine (id : String) : Choice := ⟨none, false, id, .stopped, false⟩

/-- The first worker's next `n` calls, all of them going well. -/
def calls (n : Nat) (id : String) : List SystemOp := List.replicate n (.work 0 (fine id))

end Sample

end Paperboat.Projects

import Paperboat.Projects.Workers
/-!
# Deletion is irreversible

Two statements of the orchestrator write a project's state over anything but
`deleted`: a job claimed before the deletion takes a project that is being deleted
back to `stopped` or `running`. Where no such job is in flight when a deletion is
committed, the state stays `deleting` or `deleted`.
-/

namespace Paperboat.Projects

open Lib Lib.Prog Slice ProjectState

/-! ## Requests -/

theorem queueLifecycleJob_kept {userID : String} {request : Request} {p project : Project}
    (h : queueLifecycleJob userID request p = .ok project) : p.state.kept ∧ project.state.kept := by
  unfold queueLifecycleJob at h
  split_ifs at h with _ hdel _ hsame
  all_goals
    have hk : p.state.kept := by
      cases hp : p.state <;> simp_all [kept]
    cases h
    refine ⟨hk, ?_⟩
  · exact hk
  · cases request <;> rfl

/-! ## The calls of each job along a run -/

/-- A job never says to go back to a deletion. -/
def Slice.Restorable (s : Slice) : Prop :=
  ∀ key job, s.jobs key = some job → job.previousState.all (·.kept)

namespace Slice

variable {key : JobKey} {s : Slice}

theorem Restorable.setJob (h : s.Restorable) {change : Job → Job}
    (hc : ∀ job, (change job).previousState = job.previousState) : (s.setJob key change).Restorable := by
  intro k job hk
  by_cases he : k = key
  · subst he
    simp only [Slice.setJob, Function.update_self, Option.map_eq_some_iff] at hk
    obtain ⟨old, hold, rfl⟩ := hk
    exact hc old ▸ h k old hold
  · exact h k job (by simpa [Slice.setJob, he] using hk)

theorem Restorable.requeueJob (h : s.Restorable) {state : ProjectState}
    (hs : state.kept) : (s.requeueJob key (some state)).Restorable := by
  intro k job hk
  by_cases he : k = key
  · subst he
    obtain rfl : _ = job := by simpa [Slice.requeueJob] using hk
    simpa using hs
  · exact h k job (by simpa [Slice.requeueJob, he] using hk)

theorem Restorable.queueLifecycleJob (h : s.Restorable) (userID : String) (request : Request) :
    (s.queueLifecycleJob userID request).Restorable := by
  unfold Slice.queueLifecycleJob
  split
  · exact h
  rename_i project hp
  split_ifs
  · exact h
  · refine Restorable.requeueJob h ?_
    exact (queueLifecycleJob_kept hp).1

theorem Restorable.markDeleting (h : s.Restorable) (userID : String) : (s.markDeleting userID).Restorable := by
  have hq : (s.setProject (.markProjectDeleting userID)).supersedeQueuedJobs.Restorable := by
    intro k job hk
    obtain ⟨old, hold, rfl⟩ := Option.map_eq_some_iff.mp hk
    have := h k old hold
    split_ifs <;> exact this
  unfold Slice.markDeleting
  simp only
  split_ifs
  · intro k job hk
    by_cases he : k = .delete
    · subst he
      simp only [insertDeleteJob, Function.update_self, Option.some.injEq] at hk
      cases hd : (s.setProject (.markProjectDeleting userID)).supersedeQueuedJobs.jobs .delete with
      | none => simp [← hk, hd]
      | some => exact hq .delete job (by simpa [hd] using hk)
    · exact hq k job (by simpa [insertDeleteJob, he] using hk)
  · exact hq
  · exact h

theorem Restorable.exec (h : s.Restorable) (c : Cmd) (x : Choice) : (exec c x s).2.Restorable := by
  intro k job hk
  rcases exec_jobs c x s with he | ⟨key, _, state, -, he⟩
  · exact h k job (he ▸ hk)
  · have hleft : (s.leave key state).Restorable := Restorable.setJob h fun _ => rfl
    exact hleft k job (he ▸ hk)

end Slice

theorem rely_anything : Rely fun _ _ => True := ⟨fun _ => trivial, fun _ _ _ _ _ => trivial, fun _ _ _ _ => trivial⟩

namespace System

structure Dutiful (s : System) : Prop where
  calls : s.Guarded (fun _ _ => True) fun key c _ => c.ofJob key
  restorable : s.slice.Restorable

variable {svc : Service} {s : System}

theorem Dutiful.step (h : s.Dutiful) (op : SystemOp) : (s.step svc op).Dutiful := by
  have hsl (change : Slice → Slice) (hc : (change s.slice).Restorable) : (s.onSlice change).Dutiful :=
    ⟨h.calls.onSlice rely_anything trivial, hc⟩
  cases op with
  | queue userID request => exact hsl (·.queueLifecycleJob userID request) (h.restorable.queueLifecycleJob userID request)
  | update userID change expectedVersion storageAccepted =>
    refine hsl (·.updateDesiredConfig userID change expectedVersion storageAccepted) ?_
    unfold updateDesiredConfig
    split_ifs <;> exact h.restorable
  | markDeleting userID => exact hsl (·.markDeleting userID) (h.restorable.markDeleting userID)
  | enforce reason => exact hsl (·.queueSystemStop reason) (Slice.Restorable.requeueJob h.restorable rfl)
  | claim i key leaseToken =>
    refine ⟨h.calls.claim rely_anything fun job hjob slice _ => (makes_runOnce ?_).safe slice, ?_⟩
    · obtain ⟨hrow, -⟩ := Option.filter_eq_some_iff.mp hjob
      exact h.restorable key job hrow
    · rcases claim_cases svc s i key leaseToken with he | ⟨job, _, _, he⟩
      · rw [System.step, he]
        exact h.restorable
      · rw [System.step, he]
        exact Slice.Restorable.setJob h.restorable fun _ => rfl
  | work i x =>
    refine ⟨(h.calls.work rely_anything fun _ _ _ => trivial).1, ?_⟩
    rcases h.calls.called rely_anything i x with he | ⟨_, c, _, _, he⟩
    · exact he ▸ h.restorable
    · exact he ▸ h.restorable.exec c x
  | crash i => exact ⟨h.calls.crash i, h.restorable⟩
  | loseMachine id => exact hsl (·.loseMachine id) h.restorable
  | loseVolume id => exact hsl (·.loseVolume id) h.restorable

theorem dutiful_created (id userID : String) (desired : ConfigColumns) (assignedGB : Int) :
    (created id userID desired assignedGB).Dutiful := by
  refine ⟨fun i w hw => by simp [created] at hw, fun key job hk => ?_⟩
  by_cases he : key = .create
  · obtain rfl : _ = job := by simpa [created, he] using hk
    rfl
  · simp [created, he] at hk

end System

/-! ## Writers of the state column -/

namespace Project

variable {p : Project}

theorem markProjectDeleting_state {userID : String} (h : p.userID = userID ∧ p.state ≠ .deleted) :
    (p.markProjectDeleting userID).state = .deleting := by
  simp [markProjectDeleting, setStateIf, h, setState]

theorem markProjectStoppingForEnforcement_state (h : p.state.kept = false) : p.markProjectStoppingForEnforcement = p := by
  unfold markProjectStoppingForEnforcement setStateIf
  split_ifs with hs
  · rfl
  · cases hp : p.state <;> simp_all [kept]

end Project

namespace Slice

variable {userID : String} {s : Slice}

/-- A deletion writes `deleting`, or `deleted` where nothing is recorded at the provider. -/
theorem markDeleting_state (h : s.canDelete userID) : (s.markDeleting userID).project.state.kept = false := by
  unfold Slice.markDeleting
  simp only
  split_ifs
  · exact congrArg kept (Project.markProjectDeleting_state h)
  · rfl

theorem markDeleting_of_not (h : ¬s.canDelete userID) : s.markDeleting userID = s := if_neg h

theorem queueLifecycleJob_of_deleted (h : s.project.state.kept = false) (userID : String) (request : Request) :
    s.queueLifecycleJob userID request = s := by
  unfold Slice.queueLifecycleJob
  split
  · rfl
  · rename_i project hp
    simp [(queueLifecycleJob_kept hp).1] at h

theorem updateDesiredConfig_of_deleted (h : s.project.state.kept = false) (userID : String) (change : ConfigChange)
    (expectedVersion : Option Nat) (storageAccepted : Bool) :
    s.updateDesiredConfig userID change expectedVersion storageAccepted = s := by
  refine if_neg fun hc => ?_
  obtain ⟨-, -, hdel, hdeleted, -⟩ := hc
  cases hs : s.project.state <;> simp_all [kept]

theorem exec_ofDeletion_state (h : s.project.state.kept = false) {c : Cmd} (hc : c.ofDeletion) (x : Choice) :
    (exec c x s).2.project.state = s.project.state ∨
      c = .markDeletedAndReleaseStorage ∧ (exec c x s).2.project.state = .deleted := by
  refine (exec_state c x s).imp_right fun hw => ?_
  cases c with
  | markDeletedAndReleaseStorage => exact ⟨rfl, hw⟩
  | markProvisionedStopped | recordMachineState => cases hc
  | blockJobAndRestoreProject => simp [hw.1, kept] at h
  | _ => cases hw

theorem exec_deleted (h : s.project.state = .deleted) (c : Cmd) (x : Choice) : (exec c x s).2.project.state = .deleted := by
  rcases exec_state c x s with he | hw
  · exact he.trans h
  cases c with
  | markDeletedAndReleaseStorage => exact hw
  | markProvisionedStopped | recordMachineState => exact absurd h hw.1
  | blockJobAndRestoreProject => cases h.symm.trans hw.1
  | _ => cases hw

end Slice

/-! ## Runs -/

namespace System

variable {svc : Service} {s : System}

/-- No worker is executing a create, start, stop or restart job. -/
def OnlyDeletes (s : System) : Prop := s.Executes (· = .delete)

/-- The project is being deleted, and by nothing else than its deletion. -/
structure Marked (s : System) : Prop where
  dutiful : s.Dutiful
  state : s.slice.project.state.kept = false
  workers : s.OnlyDeletes

theorem Marked.claimed (h : s.Marked) {key : JobKey} {job : Job} (hjob : s.slice.claimable key = some job) :
    key = .delete := by
  obtain ⟨-, hsel⟩ := Option.filter_eq_some_iff.mp hjob
  by_contra hk
  have hst := h.state
  cases hs : s.slice.project.state <;> simp_all [kept]

theorem Marked.step (h : s.Marked) (op : SystemOp) : (s.step svc op).Marked := by
  have hsl (change : Slice → Slice) (hc : (change s.slice).project.state.kept = false)
      (hd : (s.onSlice change).Dutiful) : (s.onSlice change).Marked := ⟨hd, hc, h.workers⟩
  have hd : (s.step svc op).Dutiful := h.dutiful.step op
  cases op with
  | queue userID request =>
    refine hsl (·.queueLifecycleJob userID request) ?_ hd
    simp only [queueLifecycleJob_of_deleted h.state, h.state]
  | update userID change expectedVersion storageAccepted =>
    refine hsl (·.updateDesiredConfig userID change expectedVersion storageAccepted) ?_ hd
    simp only [updateDesiredConfig_of_deleted h.state, h.state]
  | markDeleting userID =>
    refine hsl (·.markDeleting userID) ?_ hd
    by_cases hc : s.slice.canDelete userID
    · exact markDeleting_state hc
    · rw [markDeleting_of_not hc]
      exact h.state
  | enforce reason =>
    refine hsl (·.queueSystemStop reason) ?_ hd
    exact (congrArg (·.state.kept) (Project.markProjectStoppingForEnforcement_state h.state)).trans h.state
  | claim i key leaseToken =>
    refine ⟨hd, ?_, h.workers.claim fun _ hjob => h.claimed hjob⟩
    rcases claim_cases svc s i key leaseToken with he | ⟨job, _, _, he⟩
    · rw [System.step, he]
      exact h.state
    · rw [System.step, he]
      exact h.state
  | work i x =>
    refine ⟨hd, ?_, h.workers.work i x⟩
    show (s.work i x).slice.project.state.kept = false
    rcases h.dutiful.calls.called rely_anything i x with he | ⟨w, c, hw, hc, he⟩
    · rw [he]
      exact h.state
    rw [h.workers i w hw] at hc
    rcases exec_ofDeletion_state h.state hc x with hs | ⟨-, hs⟩
    · rw [he, hs]
      exact h.state
    · rw [he, hs]
      rfl
  | crash i => exact ⟨hd, h.state, h.workers.crash i⟩
  | loseMachine id => exact hsl (·.loseMachine id) h.state hd
  | loseVolume id => exact hsl (·.loseVolume id) h.state hd

theorem Dutiful.marked (h : s.Dutiful) {userID : String} (hc : s.slice.canDelete userID) (hw : s.OnlyDeletes) :
    (s.step svc (.markDeleting userID)).Marked :=
  ⟨h.step _, markDeleting_state hc, hw⟩

theorem step_deleted (h : s.slice.project.state = .deleted) (op : SystemOp) :
    (s.step svc op).slice.project.state = .deleted := by
  have hkept : s.slice.project.state.kept = false := by rw [h]; rfl
  cases op with
  | queue userID request =>
    exact (congrArg (·.project.state) (queueLifecycleJob_of_deleted hkept userID request)).trans h
  | update =>
    exact (congrArg (·.project.state) (updateDesiredConfig_of_deleted hkept ..)).trans h
  | markDeleting =>
    exact (congrArg (·.project.state) (markDeleting_of_not fun hc => hc.2 h)).trans h
  | enforce =>
    exact (congrArg (·.state) (Project.markProjectStoppingForEnforcement_state hkept)).trans h
  | claim i key leaseToken =>
    rcases claim_cases svc s i key leaseToken with he | ⟨job, _, _, he⟩
    · rwa [System.step, he]
    · rwa [System.step, he]
  | work i x =>
    show (s.work i x).slice.project.state = .deleted
    rcases work_cases s i x with he | ⟨_, _, hs, _⟩ | ⟨_, c, _, _, hs, _⟩
    · rwa [he]
    · rwa [hs]
    · rw [hs]
      exact exec_deleted h c x
  | crash i | loseMachine id | loseVolume id => exact h

section Irreversible
variable (svc : Service) (id userID : String) (desired : ConfigColumns) (assignedGB : Int)

/-- A deletion that is committed while no other job of the project is executed leaves it
`deleting` or `deleted` ever after, and `deleted` is final in any case. -/
theorem deletion_is_irreversible (pre post : List SystemOp) (requester : String) :
    let s := run (step svc) (created id userID desired assignedGB) pre
    (s.slice.canDelete requester → s.OnlyDeletes →
      (run (step svc) s (.markDeleting requester :: post)).slice.project.state ∈ [.deleting, .deleted]) ∧
    (s.slice.project.state = .deleted → (run (step svc) s post).slice.project.state = .deleted) := by
  intro s
  refine ⟨fun hc hw => ?_, fun hs => ?_⟩
  · have hmarked : (s.step svc (.markDeleting requester)).Marked :=
      (run_inv' (fun _ op h => h.step op) (dutiful_created id userID desired assignedGB) pre).marked hc hw
    have hrun : (run (step svc) (s.step svc (.markDeleting requester)) post).Marked :=
      run_inv' (fun _ op h => h.step op) hmarked post
    have hstate := hrun.state
    cases he : (run (step svc) (s.step svc (.markDeleting requester)) post).slice.project.state <;>
      simp_all [kept]
  · exact run_inv' (I := fun t : System => t.slice.project.state = .deleted) (fun _ op h => step_deleted h op) hs post

open Sample

theorem deletion_is_irreversible_after_crash :
    let s := run (step service) project (.claim 0 .create "l1" :: calls 10 "v1" ++ [.crash 0])
    s.slice.volume = some ⟨"v1", 10⟩ ∧ s.slice.canDelete "u1" ∧ s.OnlyDeletes ∧
      (run (step service) s [.markDeleting "u1", .claim 1 .delete "l2"]).slice.project.state ∈
        [.deleting, .deleted] := by
  have hc : (run (step service) project
      (.claim 0 .create "l1" :: calls 10 "v1" ++ [.crash 0])).slice.canDelete "u1" := by
    decide +kernel
  have hw : (run (step service) project
      (.claim 0 .create "l1" :: calls 10 "v1" ++ [.crash 0])).OnlyDeletes := by
    intro i w hi
    match i with
    | 0 => cases hi
    | i + 1 => cases hi
  exact ⟨by decide +kernel, hc, hw,
    (deletion_is_irreversible service "p1" "u1" columns 10 _ [.claim 1 .delete "l2"] "u1").1 hc hw⟩

/-- A create job that was claimed before the deletion goes on after it: it makes and records
a machine and says that the project is stopped. -/
theorem deletion_undone_by_create_job :
    let s := run (step service) project (.claim 0 .create "l1" :: calls 10 "v1")
    let deleting := s.step service (.markDeleting "u1")
    s.slice.canDelete "u1" ∧ deleting.slice.project.state = .deleting ∧
      (run (step service) deleting (calls 9 "m1")).slice.project.state = .stopped := by
  decide +kernel

end Irreversible

end System

end Paperboat.Projects

import Paperboat.Metering.Poll
/-!
# What a step of the worker does

A query finds what its `WHERE` clause says, and a step of `RunOnce` changes the
tables in one of eight ways (`Effect`). What is true of the worker's local
variables whatever else runs (`Worker.Sane`) is kept by every step.
-/

namespace Paperboat.Metering

variable {i interval : RuntimeInterval} {intervalID random : String} {c : Checkpoint} {poll : Poll}

open Lib Projects List

variable {db db' : DB}

/-! ## Queries -/

theorem DB.openInterval_some {projectID : String} (h : db.openInterval projectID = some i) :
    i ∈ db.intervals.rows ∧ i.projectID = projectID ∧ i.stoppedAt = none := by
  refine ⟨mem_of_find?_eq_some h, ?_⟩
  simpa [Option.isNone_iff_eq_none] using List.find?_some h

theorem DB.mem_pendingOf {r : CheckpointRow} :
    r ∈ db.pendingOf intervalID ↔ r ∈ db.checkpoints.rows ∧ r.runtimeIntervalID = intervalID ∧ r.pending := by
  simp [pendingOf]

theorem DB.pendingCheckpoint_none (h : db.pendingCheckpoint intervalID = none) : db.pendingOf intervalID = [] := by
  have hs : byPeriodEnd (db.pendingOf intervalID) = [] := by simpa [pendingCheckpoint] using h
  have hperm := perm_insertionSort (fun r r' : CheckpointRow => r.periodEnd ≤ r'.periodEnd) (db.pendingOf intervalID)
  rw [show List.insertionSort _ _ = [] from hs] at hperm
  exact nil_perm.1 hperm

theorem DB.pendingCheckpoints_spec (db : DB) :
    (∀ c ∈ db.pendingCheckpoints, ∃ r ∈ db.checkpoints.rows, r.pending ∧ r.toCheckpoint = c) ∧
      (db.pendingCheckpoints.map (·.id)).Nodup := by
  have hperm := perm_insertionSort (fun r r' : CheckpointRow => r.periodEnd ≤ r'.periodEnd)
    (db.checkpoints.rows.filter (·.pending))
  constructor
  · intro c hc
    obtain ⟨r, hr, rfl⟩ := mem_map.1 hc
    obtain ⟨hr, hp⟩ := mem_filter.1 (hperm.mem_iff.1 (mem_of_mem_take hr))
    exact ⟨r, hr, hp, rfl⟩
  · have hn : ((byPeriodEnd (db.checkpoints.rows.filter (·.pending))).map (·.id)).Nodup := by
      refine (hperm.map _).nodup_iff.2 ?_
      exact db.checkpoints.keys.sublist (filter_sublist.map _)
    rw [pendingCheckpoints, map_map]
    exact hn.sublist ((take_sublist _ _).map _)

theorem DB.tailStart_spec (db : DB) (i : RuntimeInterval) : i.lastMeteredAt ≤ db.tailStart i ∧
      (∀ r ∈ db.checkpoints.rows, r.runtimeIntervalID = i.id → r.periodEnd ≤ db.tailStart i) ∧
      (db.tailStart i = i.lastMeteredAt ∨
        ∃ r ∈ db.checkpoints.rows, r.runtimeIntervalID = i.id ∧ db.tailStart i = r.periodEnd) := by
  unfold tailStart
  cases hl : db.latestCheckpointEnd i.id with
  | none =>
    refine ⟨le_refl _, fun r hr hi => ?_, .inl rfl⟩
    have hnone := List.max?_eq_none_iff.1 hl
    simp only [map_eq_nil_iff, filter_eq_nil_iff] at hnone
    exact absurd (by simpa using hi) (hnone r hr)
  | some =>
    obtain ⟨hmem, hmax⟩ := List.max?_eq_some_iff.1 hl
    obtain ⟨r', hr', rfl⟩ := mem_map.1 hmem
    obtain ⟨hr', hi'⟩ := mem_filter.1 hr'
    have hle : ∀ r ∈ db.checkpoints.rows, r.runtimeIntervalID = i.id → r.periodEnd ≤ r'.periodEnd := fun r hr hi =>
      hmax _ (mem_map.2 ⟨r, mem_filter.2 ⟨hr, by simpa using hi⟩, rfl⟩)
    dsimp only
    split_ifs with hlt
    · exact ⟨hlt.le, hle, .inr ⟨r', hr', by simpa using hi', rfl⟩⟩
    · exact ⟨le_refl _, fun r hr hi => (hle r hr hi).trans (not_lt.1 hlt), .inl rfl⟩

/-! ## Statements -/

theorem DB.mem_changeProjects {at_ : Int} {selected : Project → Bool} {f : Project → Project}
    (keeps : ∀ p, (f p).id = p.id) {p' : ProjectRow} : p' ∈ (db.changeProjects at_ selected f keeps).projects.rows ↔
      (∃ p ∈ db.projects.rows, selected p.project ∧ p' = p.change at_ (f p.project)) ∨
        (p' ∈ db.projects.rows ∧ selected p'.project = false) := by
  simp only [changeProjects, Table.mem_update]

theorem DB.mem_updateIntervals {selected : RuntimeInterval → Bool} {f : RuntimeInterval → RuntimeInterval}
    (keeps : ∀ i, (f i).id = i.id) {i' : RuntimeInterval} : i' ∈ (db.updateIntervals selected f keeps).intervals.rows ↔
      (∃ i ∈ db.intervals.rows, selected i ∧ i' = f i) ∨ (i' ∈ db.intervals.rows ∧ selected i' = false) := by
  rw [updateIntervals, Table.mem_update]

theorem DB.mem_updateCheckpoint {id : String} {f : CheckpointRow → CheckpointRow} (keeps : ∀ r, (f r).id = r.id)
    {r' : CheckpointRow} : r' ∈ (db.updateCheckpoint id f keeps).checkpoints.rows ↔
      (∃ r ∈ db.checkpoints.rows, r.id = id ∧ r' = f r) ∨ (r' ∈ db.checkpoints.rows ∧ r'.id ≠ id) := by
  rw [updateCheckpoint, Table.mem_update]
  simp

def DebitAnswer.mark : DebitAnswer → CheckpointRow → CheckpointRow
  | .ok => CheckpointRow.markProcessed
  | .insufficientCredits => CheckpointRow.markFailed "insufficient credits"
  | .failed cause => CheckpointRow.markFailed cause

theorem DebitAnswer.mark_id (debit : DebitAnswer) (r : CheckpointRow) : (debit.mark r).id = r.id := by
  cases debit <;> rfl

variable (clock : Int)

theorem DB.settle_checkpoints (c : Checkpoint) (debit : DebitAnswer) :
    (db.settle clock c debit).checkpoints = (db.updateCheckpoint c.id debit.mark debit.mark_id).checkpoints := by
  cases debit <;> rfl

theorem DB.mem_settle {clock : Int} {debit : DebitAnswer} {r' : CheckpointRow} :
    r' ∈ (db.settle clock c debit).checkpoints.rows ↔
      (∃ r ∈ db.checkpoints.rows, r.id = c.id ∧ r' = debit.mark r) ∨ (r' ∈ db.checkpoints.rows ∧ r'.id ≠ c.id) := by
  rw [settle_checkpoints]
  exact mem_updateCheckpoint _

theorem DB.insertRuntimeInterval_spec (h : db.insertRuntimeInterval i = some db') :
    (∀ i' ∈ db.intervals.rows, i'.id ≠ i.id) ∧ db'.projects = db.projects ∧ db'.checkpoints = db.checkpoints ∧
      db'.intervals.rows = db.intervals.rows ++ [i] := by
  obtain ⟨intervals, hins, rfl⟩ := Option.map_eq_some_iff.1 h
  obtain ⟨hnew, hrows⟩ := Table.insert_eq_some.1 hins
  exact ⟨hnew, rfl, rfl, hrows⟩

theorem DB.insertMeteringCheckpoint_spec (h : db.insertMeteringCheckpoint c = some db') :
    (∀ r ∈ db.checkpoints.rows, r.id ≠ c.id) ∧ db'.projects = db.projects ∧ db'.intervals = db.intervals ∧
      (db'.checkpoints.rows = db.checkpoints.rows ∨ db'.checkpoints.rows = db.checkpoints.rows ++ [c.row]) := by
  simp only [insertMeteringCheckpoint] at h
  split at h
  · simp at h
  rename_i checkpoints hins
  obtain ⟨hnew, hrows⟩ := Table.insert_eq_some.1 hins
  split_ifs at h with hkey
  · cases h
    exact ⟨hnew, rfl, rfl, .inl rfl⟩
  · cases h
    exact ⟨hnew, rfl, rfl, .inr hrows⟩

/-! ## Effects -/

inductive Effect (clock : Int) (db : DB) : Worker → DB → Prop
  | nothing (w : Worker) : Effect clock db w db
  | running (poll : Poll) (machine : MeterableMachine) (id : String) :
      Effect clock db (.ensuring poll machine)
        (db.updateIntervals (·.id == id) RuntimeInterval.markRunning RuntimeInterval.markRunning_id)
  | opened (poll : Poll) (machine : MeterableMachine) (random : String) (db' : DB)
      (hnone : db.openInterval machine.projectID = none)
      (hins : db.insertRuntimeInterval (DB.newInterval machine poll.now random) = some db') :
      Effect clock db (.ensuring poll machine) db'
  | created (poll : Poll) (interval i : RuntimeInterval) (random credits : String) (db' : DB)
      (hi : i ∈ db.intervals.rows) (hid : i.id = interval.id) (hnone : db.pendingOf i.id = [])
      (hlong : 0 < secondsBetween i.lastMeteredAt poll.now)
      (hins : db.insertMeteringCheckpoint (DB.newCheckpoint i i.lastMeteredAt poll.now random credits) = some db') :
      Effect clock db (.creating poll interval) db'
  | finished (poll : Poll) (seen : Stopped) (interval i : RuntimeInterval) (random credits : String) (db' : DB)
      (hi : i ∈ db.intervals.rows) (hid : i.id = interval.id) (hlong : 0 < secondsBetween (db.tailStart i) poll.now)
      (hins : db.insertMeteringCheckpoint (DB.newCheckpoint i (db.tailStart i) poll.now random credits) = some db') :
      Effect clock db (.finishing poll seen interval) db'
  | settled (c : Checkpoint) (debit : DebitAnswer) (caller : Caller) :
      Effect clock db (.marking c debit caller) (db.settle clock c debit)
  | closed (poll : Poll) (seen : Stopped) : Effect clock db (.closing poll seen)
        (db.closeOpenInterval seen.projectID poll.now "fly_poll" seen.confidence seen.observedState)
  | enforced (poll : Poll) (ids : List String) : Effect clock db (.observing poll) (db.queueSystemStop clock ids)

theorem DB.ensureOpenInterval_effect {machine : MeterableMachine} {isNew : Bool}
    (h : db.ensureOpenInterval machine poll.now random = some (interval, isNew, db')) :
    Effect clock db (.ensuring poll machine) db' := by
  unfold ensureOpenInterval at h
  cases ho : db.openInterval machine.projectID with
  | some i =>
    simp only [ho, Option.some.injEq, Prod.mk.injEq] at h
    obtain ⟨_, _, rfl⟩ := h
    exact .running poll machine i.id
  | none =>
    simp only [ho, Option.map_eq_some_iff, Prod.mk.injEq] at h
    obtain ⟨db'', hins, _, _, rfl⟩ := h
    exact .opened poll machine random db'' ho hins

theorem DB.createCheckpoint_effect {credits : String}
    {c : Option Checkpoint} (h : db.createCheckpoint interval poll.now random credits = some (c, db')) :
    Effect clock db (.creating poll interval) db' := by
  unfold createCheckpoint at h
  split_ifs at h
  · cases h
    exact .nothing _
  split at h
  · cases h
    exact .nothing _
  rename_i i hfind
  obtain ⟨hi, _⟩ := Option.filter_eq_some_iff.1 hfind
  obtain ⟨hi, hid⟩ := Table.find_eq_some.1 hi
  split at h
  · cases h
    exact .nothing _
  rename_i hnone
  split_ifs at h with hshort
  · cases h
    exact .nothing _
  obtain ⟨db'', hins, he⟩ := Option.map_eq_some_iff.1 h
  obtain ⟨_, rfl⟩ := Prod.mk.inj he
  exact .created poll interval i random credits db'' hi hid (pendingCheckpoint_none hnone) (by omega) hins

theorem DB.ensureFinalCheckpoint_effect {seen : Stopped} {credits : String} {c : Option Checkpoint}
    (h : db.ensureFinalCheckpoint interval poll.now random credits = some (c, db')) :
    Effect clock db (.finishing poll seen interval) db' := by
  unfold ensureFinalCheckpoint at h
  split at h
  · cases h
    exact .nothing _
  rename_i i hfind
  obtain ⟨hi, hid⟩ := Table.find_eq_some.1 hfind
  simp only at h
  split_ifs at h with hshort
  · cases h
    exact .nothing _
  obtain ⟨db'', hins, he⟩ := Option.map_eq_some_iff.1 h
  obtain ⟨_, rfl⟩ := Prod.mk.inj he
  exact .finished poll seen interval i random credits db'' hi hid (not_le.1 hshort) hins

theorem Worker.step_effect (db : DB) (a : Answers) (w : Worker) : Effect clock db w (w.step clock db a).1 := by
  cases w with
  | idle | debiting => exact .nothing _
  | started | listing | finding =>
    simp only [step]
    repeat' split
    all_goals exact .nothing _
  | observing poll =>
    obtain ⟨now, rest⟩ := poll
    cases rest with
    | nil =>
      simp only [step]
      split
      · exact .nothing _
      · exact .enforced _ _
    | cons =>
      simp only [step]
      repeat' split
      all_goals exact .nothing _
  | ensuring =>
    simp only [step]
    split
    · exact .nothing _
    all_goals
      rename_i h
      split_ifs at h
      exact DB.ensureOpenInterval_effect clock h
  | creating =>
    simp only [step]
    split
    · exact .nothing _
    all_goals
      rename_i h
      split_ifs at h
      exact DB.createCheckpoint_effect clock h
  | finishing =>
    simp only [step]
    split
    · exact .nothing _
    all_goals
      rename_i h
      split_ifs at h
      exact DB.ensureFinalCheckpoint_effect clock h
  | closing poll seen =>
    simp only [step]
    split
    · exact .nothing _
    · exact .closed poll seen
  | marking c debit caller =>
    simp only [step]
    split
    · exact .nothing _
    · exact .settled c debit caller

end Paperboat.Metering

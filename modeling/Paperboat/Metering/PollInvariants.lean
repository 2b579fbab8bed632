import Paperboat.Metering.PollSteps
/-!
# What holds of the worker whatever else runs

The tables keep microseconds, a checkpoint's period is not empty and has ended,
and a project's log ends with its state. The worker's local variables still mean
what they meant when they were read: its checkpoint is still to be processed, its
interval is still open, and a project of its poll that is stopped by now was
stopped after the poll's time. None of this asks anything of the environment.
-/

namespace Paperboat.Metering

variable {i : RuntimeInterval} {s : System}

variable {now : Int} {random credits projectID : String} {poll : Poll} {c : Checkpoint} {caller : Caller} {w : Worker}
  {interval : RuntimeInterval}

open Lib Projects DB List

variable {clock clock' : Int} {db db' : DB}

/-! ## The tables -/

structure ProjectRow.Logged (clock : Int) (p : ProjectRow) : Prop where
  newest : ∃ since rest, p.log = (since, p.project.state) :: rest
  past : ∀ e ∈ p.log, e.1 ≤ clock

structure CheckpointRow.Sane (clock : Int) (r : CheckpointRow) : Prop where
  nonempty : r.periodStart < r.periodEnd
  past : r.periodEnd ≤ clock
  storedStart : stored r.periodStart = r.periodStart
  storedEnd : stored r.periodEnd = r.periodEnd

structure DB.Sane (clock : Int) (db : DB) : Prop where
  projects : ∀ p ∈ db.projects.rows, p.Logged clock
  intervals : ∀ i ∈ db.intervals.rows, stored i.lastMeteredAt = i.lastMeteredAt
  checkpoints : ∀ r ∈ db.checkpoints.rows, r.Sane clock

theorem ProjectRow.Logged.change {p : ProjectRow} (h : p.Logged clock) (hle : clock ≤ clock') (project : Project) :
    (p.change clock' project).Logged clock' := by
  unfold ProjectRow.change
  obtain ⟨since, rest, hlog⟩ := h.newest
  by_cases hs : project.state = p.project.state
  · simp only [if_pos hs]
    exact ⟨⟨since, rest, by rw [hlog, hs]⟩, fun e he => (h.past e he).trans hle⟩
  simp only [if_neg hs]
  refine ⟨⟨clock', p.log, rfl⟩, fun e he => ?_⟩
  rcases mem_cons.1 he with rfl | he
  · exact le_refl clock'
  · exact (h.past e he).trans hle

theorem DB.Sane.later (h : db.Sane clock) (hle : clock ≤ clock') : db.Sane clock' where
  projects p hp := ⟨(h.projects p hp).newest, fun e he => ((h.projects p hp).past e he).trans hle⟩
  intervals := h.intervals
  checkpoints r hr :=
    { nonempty := (h.checkpoints r hr).nonempty
      past := (h.checkpoints r hr).past.trans hle
      storedStart := (h.checkpoints r hr).storedStart
      storedEnd := (h.checkpoints r hr).storedEnd }

theorem DB.Sane.changeProjects (h : db.Sane clock) (selected : Project → Bool) {f : Project → Project}
    (keeps : ∀ p, (f p).id = p.id) : (db.changeProjects clock selected f keeps).Sane clock where
  projects p' hp' := by
    rcases (mem_changeProjects keeps).1 hp' with ⟨p, hp, _, rfl⟩ | ⟨hp, _⟩
    · exact (h.projects p hp).change (le_refl clock) _
    · exact h.projects p' hp
  intervals := h.intervals
  checkpoints := h.checkpoints

theorem DB.Sane.queueSystemStop (h : db.Sane clock) (ids : List String) : (db.queueSystemStop clock ids).Sane clock :=
  h.changeProjects _ _

theorem DB.Sane.updateIntervals (h : db.Sane clock) {selected : RuntimeInterval → Bool}
    {f : RuntimeInterval → RuntimeInterval} (keeps : ∀ i, (f i).id = i.id)
    (hf : ∀ i, stored i.lastMeteredAt = i.lastMeteredAt → stored (f i).lastMeteredAt = (f i).lastMeteredAt) :
    (db.updateIntervals selected f keeps).Sane clock where
  projects := h.projects
  intervals i' hi' := by
    rcases (mem_updateIntervals keeps).1 hi' with ⟨i, hi, _, rfl⟩ | ⟨hi, _⟩
    · exact hf i (h.intervals i hi)
    · exact h.intervals i' hi
  checkpoints := h.checkpoints

theorem DB.Sane.updateCheckpoint (h : db.Sane clock) {id : String} {f : CheckpointRow → CheckpointRow}
    (keeps : ∀ r, (f r).id = r.id) (hf : ∀ r : CheckpointRow, r.Sane clock → (f r).Sane clock) :
    (db.updateCheckpoint id f keeps).Sane clock where
  projects := h.projects
  intervals := h.intervals
  checkpoints r' hr' := by
    rcases (mem_updateCheckpoint keeps).1 hr' with ⟨r, hr, _, rfl⟩ | ⟨hr, _⟩
    · exact hf r (h.checkpoints r hr)
    · exact h.checkpoints r' hr

theorem DB.Sane.markFailed (h : db.Sane clock) (id lastError : String) : (db.markCheckpointFailed id lastError).Sane clock :=
  h.updateCheckpoint _ fun _ hr => ⟨hr.nonempty, hr.past, hr.storedStart, hr.storedEnd⟩

theorem DB.Sane.insertCheckpoint (h : db.Sane clock) {start : Int}
    (hst : stored start = start) (hnow : now ≤ clock) (hlg : 0 < secondsBetween start now)
    (hins : db.insertMeteringCheckpoint (newCheckpoint i start now random credits) = some db') : db'.Sane clock := by
  obtain ⟨_, hp, hi, hrows⟩ := insertMeteringCheckpoint_spec hins
  refine ⟨fun p hp' => h.projects p (hp ▸ hp'), fun i hi' => h.intervals i (hi ▸ hi'), ?_⟩
  rcases hrows with hrows | hrows
  · exact fun r hr => h.checkpoints r (hrows ▸ hr)
  intro r hr
  rw [hrows] at hr
  rcases mem_append.1 hr with hr | hr
  · exact h.checkpoints r hr
  obtain rfl := mem_singleton.1 hr
  refine ⟨?_, (stored_le now).trans hnow, stored_stored _, stored_stored _⟩
  change stored start < stored now
  rw [hst]
  exact lt_stored_of_seconds hlg

theorem DB.Sane.tailStart (h : db.Sane clock) (hi : i ∈ db.intervals.rows) : stored (db.tailStart i) = db.tailStart i := by
  obtain ⟨_, _, heq | ⟨r, hr, _, heq⟩⟩ := db.tailStart_spec i
  · rw [heq]
    exact h.intervals i hi
  · rw [heq]
    exact (h.checkpoints r hr).storedEnd

/-! ## The worker -/

/-- The project is not stopped now, or has been only since a time after `now`. -/
def DB.Follows (db : DB) (now : Int) (projectID : String) : Prop :=
  ∀ p ∈ db.projects.rows, p.id = projectID → ∀ since rest, p.log = (since, .stopped) :: rest → now ≤ since

def DB.IsOpen (db : DB) (interval : RuntimeInterval) : Prop :=
  ∃ i ∈ db.intervals.rows, i.id = interval.id ∧ i.projectID = interval.projectID ∧ i.stoppedAt = none

def DB.Pending (db : DB) (c : Checkpoint) : Prop :=
  ∃ r ∈ db.checkpoints.rows, r.pending ∧ r.id = c.id ∧ r.runtimeIntervalID = c.runtimeIntervalID ∧
    r.periodStart = stored c.periodStart ∧ r.periodEnd = stored c.periodEnd

/-- So it is, or it was not inserted because its key was taken; then its interval has nothing else to process. -/
def DB.Held (db : DB) (c : Checkpoint) : Prop :=
  db.Pending c ∨ (∀ r ∈ db.checkpoints.rows, r.id ≠ c.id) ∧ db.pendingOf c.runtimeIntervalID = [] ∧
    stored c.periodStart < stored c.periodEnd

structure Poll.Sane (clock : Int) (db : DB) (poll : Poll) : Prop where
  now_le : poll.now ≤ clock
  follows : ∀ m ∈ poll.rest, db.Follows poll.now m.projectID

def Caller.Sane (clock : Int) (db : DB) (c : Checkpoint) : Caller → Prop
  | .processPendingCheckpoints now rest =>
    now ≤ clock ∧ (∀ c' ∈ rest, db.Pending c') ∧ ((c :: rest).map (·.id)).Nodup
  | .observeRunning poll | .observeStopped poll _ => poll.Sane clock db

def Worker.Sane (clock : Int) (db : DB) : Worker → Prop
  | .idle => True
  | .started now | .listing now => now ≤ clock
  | .observing poll | .closing poll _ => poll.Sane clock db
  | .ensuring poll machine => poll.Sane clock db ∧ db.Follows poll.now machine.projectID
  | .finding poll seen => poll.Sane clock db ∧ db.Follows poll.now seen.projectID
  | .creating poll interval | .finishing poll _ interval =>
    poll.Sane clock db ∧ db.Follows poll.now interval.projectID ∧ db.IsOpen interval
  | .debiting c caller | .marking c _ caller => db.Held c ∧ caller.Sane clock db c

/-! ## What others do to it -/

theorem DB.Follows.congr (h : db.Follows now projectID) (he : db'.projects = db.projects) : db'.Follows now projectID := by
  unfold Follows
  rwa [he]

theorem Poll.Sane.congr (h : poll.Sane clock db) (he : db'.projects = db.projects) : poll.Sane clock db' :=
  ⟨h.now_le, fun m hm => (h.follows m hm).congr he⟩

section Changed
variable (selected : Project → Bool) {f : Project → Project} (keeps : ∀ p, (f p).id = p.id)

/-- What stops a project now stops it after every `now` that was read before. -/
theorem DB.Follows.changed (h : db.Follows now projectID) (hnow : now ≤ clock) :
    (db.changeProjects clock selected f keeps).Follows now projectID := by
  intro p' hp' hid since rest hlog
  rcases (mem_changeProjects keeps).1 hp' with ⟨p, hp, _, rfl⟩ | ⟨hp, _⟩
  · rw [ProjectRow.change_id clock keeps] at hid
    simp only [ProjectRow.change] at hlog
    split_ifs at hlog
    · exact h p hp hid since rest hlog
    · obtain ⟨he, _⟩ := List.cons.inj hlog
      exact (Prod.mk.inj he).1 ▸ hnow
  · exact h p' hp hid since rest hlog

theorem Poll.Sane.changed (h : poll.Sane clock db) : poll.Sane clock (db.changeProjects clock selected f keeps) :=
  ⟨h.now_le, fun m hm => (h.follows m hm).changed selected keeps h.now_le⟩

theorem Caller.Sane.changed (h : caller.Sane clock db c) :
    caller.Sane clock (db.changeProjects clock selected f keeps) c := by
  cases caller with
  | processPendingCheckpoints => exact h
  | observeRunning | observeStopped => exact Poll.Sane.changed selected keeps h

theorem Worker.Sane.changed (h : w.Sane clock db) : w.Sane clock (db.changeProjects clock selected f keeps) := by
  cases w with
  | idle | started | listing => exact h
  | observing | closing => exact Poll.Sane.changed selected keeps h
  | ensuring | finding => exact ⟨h.1.changed selected keeps, h.2.changed selected keeps h.1.now_le⟩
  | creating | finishing => exact ⟨h.1.changed selected keeps, h.2.1.changed selected keeps h.1.now_le, h.2.2⟩
  | debiting | marking => exact ⟨h.1, h.2.changed selected keeps⟩

end Changed

theorem Poll.Sane.later (h : poll.Sane clock db) (hle : clock ≤ clock') : poll.Sane clock' db :=
  ⟨h.now_le.trans hle, h.follows⟩

theorem Caller.Sane.later (h : caller.Sane clock db c) (hle : clock ≤ clock') : caller.Sane clock' db c := by
  cases caller with
  | processPendingCheckpoints => exact ⟨h.1.trans hle, h.2⟩
  | observeRunning | observeStopped => exact Poll.Sane.later h hle

theorem Worker.Sane.later (h : w.Sane clock db) (hle : clock ≤ clock') : w.Sane clock' db := by
  cases w with
  | idle => trivial
  | started | listing => exact le_trans h hle
  | observing | closing => exact Poll.Sane.later h hle
  | ensuring | finding | creating | finishing => exact ⟨h.1.later hle, h.2⟩
  | debiting | marking => exact ⟨h.1, h.2.later hle⟩

/-! ## What its own steps do -/

theorem Effect.sane (he : Effect clock db w db') (hdb : db.Sane clock) (hw : w.Sane clock db) : db'.Sane clock := by
  cases he with
  | nothing => exact hdb
  | running | closed => exact hdb.updateIntervals _ fun _ h => h
  | opened _ _ _ _ _ hins =>
    obtain ⟨_, hp, hc, hrows⟩ := insertRuntimeInterval_spec hins
    refine ⟨fun p hp' => hdb.projects p (hp ▸ hp'), fun i hi => ?_, fun r hr => hdb.checkpoints r (hc ▸ hr)⟩
    rcases mem_append.1 (hrows ▸ hi) with hi | hi
    · exact hdb.intervals i hi
    · obtain rfl := mem_singleton.1 hi
      exact stored_stored _
  | created _ _ i _ _ _ hi _ _ hlg hins =>
    exact hdb.insertCheckpoint (hdb.intervals i hi) hw.1.now_le hlg hins
  | finished _ _ _ _ _ _ _ hi _ hlg hins =>
    exact hdb.insertCheckpoint (hdb.tailStart hi) hw.1.now_le hlg hins
  | settled c debit =>
    cases debit with
    | ok =>
      refine (hdb.updateCheckpoint _ fun _ hr => ?_).updateIntervals _ fun _ _ => stored_stored _
      exact ⟨hr.nonempty, hr.past, hr.storedStart, hr.storedEnd⟩
    | insufficientCredits => exact (hdb.markFailed c.id _).queueSystemStop [c.projectID]
    | failed => exact hdb.markFailed _ _
  | enforced _ ids => exact hdb.queueSystemStop ids

theorem DB.Sane.pending (h : db.Sane clock) {r : CheckpointRow} (hr : r ∈ db.checkpoints.rows) (hp : r.pending) :
    db.Pending r.toCheckpoint :=
  ⟨r, hr, hp, rfl, rfl, (h.checkpoints r hr).storedStart.symm, (h.checkpoints r hr).storedEnd.symm⟩

theorem DB.Sane.held_nonempty (h : db.Sane clock) (hc : db.Held c) : stored c.periodStart < stored c.periodEnd := by
  rcases hc with ⟨r, hr, _, _, _, hs, he⟩ | ⟨_, _, hlt⟩
  · rw [← hs, ← he]
    exact (h.checkpoints r hr).nonempty
  · exact hlt

theorem DB.Sane.pending_pendingCheckpoint (h : db.Sane clock) {intervalID : String}
    (hc : db.pendingCheckpoint intervalID = some c) : db.Pending c := by
  obtain ⟨r, hr, rfl⟩ := Option.map_eq_some_iff.1 hc
  obtain ⟨hr, _, hp⟩ := mem_pendingOf.1 ((perm_insertionSort _ _).mem_iff.1 (mem_of_head? hr))
  exact h.pending hr hp

theorem DB.Pending.settle {c' : Checkpoint} (h : db.Pending c') (hne : c'.id ≠ c.id) (debit : DebitAnswer) :
    (db.settle clock c debit).Pending c' := by
  obtain ⟨r, hr, hp, hid, hrest⟩ := h
  exact ⟨r, mem_settle.2 (.inr ⟨hr, hid ▸ hne⟩), hp, hid, hrest⟩

theorem Poll.Sane.settle (h : poll.Sane clock db) (c : Checkpoint) (debit : DebitAnswer) :
    poll.Sane clock (db.settle clock c debit) := by
  cases debit with
  | ok | failed => exact h.congr rfl
  | insufficientCredits =>
    have hs : poll.Sane clock (db.queueSystemStop clock [c.projectID]) := h.changed _ _
    exact hs.congr rfl

theorem processNext_sane {rest : List Checkpoint} (hnow : now ≤ clock) (hpend : ∀ c ∈ rest, db.Pending c)
    (hn : (rest.map (·.id)).Nodup) : (processNext now rest).Sane clock db := by
  cases rest with
  | nil => exact hnow
  | cons c =>
    exact ⟨.inl (hpend c mem_cons_self), hnow, fun c' hc' => hpend c' (mem_cons_of_mem _ hc'), hn⟩

theorem Caller.Sane.resume (h : caller.Sane clock db c) (debit : DebitAnswer) :
    caller.resume.Sane clock (db.settle clock c debit) := by
  cases caller with
  | processPendingCheckpoints =>
    obtain ⟨hnow, hpend, hn⟩ := h
    obtain ⟨hc, hn⟩ := nodup_cons.1 hn
    refine processNext_sane hnow (fun c' hc' => (hpend c' hc').settle (fun he => hc ?_) debit) hn
    exact mem_map.2 ⟨c', hc', he⟩
  | observeRunning | observeStopped => exact Poll.Sane.settle h c debit

theorem Caller.Sane.abandon (h : caller.Sane clock db c) : caller.abandon.Sane clock db := by
  cases caller with
  | processPendingCheckpoints => trivial
  | observeRunning | observeStopped => exact h

theorem DB.Sane.follows_meterable (h : db.Sane clock) (now : Int) {joined : List MeterableMachine} {m : MeterableMachine}
    (hm : m ∈ db.meterableMachines joined) : db.Follows now m.projectID := by
  obtain ⟨_, hany⟩ := mem_filter.1 hm
  obtain ⟨p', hp', hmet⟩ := (Option.any_eq_true _ _).1 hany
  intro p hp hid since rest hlog
  have hfind : db.projects.find m.projectID = some p := Table.find_eq_some.2 ⟨hp, hid⟩
  obtain rfl : p = p' := by rw [hfind] at hp'; exact Option.some.inj hp'
  obtain ⟨since', rest', hlog'⟩ := (h.projects p hp).newest
  rw [hlog] at hlog'
  have hst : p.project.state = .stopped := (Prod.mk.inj (List.cons.inj hlog').1).2.symm
  rw [hst] at hmet
  cases hmet

theorem DB.follows_effect (h : db.Follows now projectID) (hnow : now ≤ clock)
    (he : Effect clock db w db') : db'.Follows now projectID := by
  cases he with
  | nothing => exact h
  | running | closed => exact h.congr rfl
  | opened _ _ _ _ _ hins => exact h.congr (insertRuntimeInterval_spec hins).2.1
  | created _ _ _ _ _ _ _ _ _ _ hins | finished _ _ _ _ _ _ _ _ _ _ hins => exact h.congr (insertMeteringCheckpoint_spec hins).2.1
  | settled c debit =>
    cases debit with
    | ok | failed => exact h.congr rfl
    | insufficientCredits =>
      have hs : (db.queueSystemStop clock [c.projectID]).Follows now projectID := h.changed _ _ hnow
      exact hs.congr rfl
  | enforced => exact h.changed _ _ hnow

theorem Poll.Sane.effect (h : poll.Sane clock db) (he : Effect clock db w db') : poll.Sane clock db' :=
  ⟨h.now_le, fun m hm => follows_effect (h.follows m hm) h.now_le he⟩

theorem DB.isOpen_ensureOpenInterval {machine : MeterableMachine}
    (h : db.ensureOpenInterval machine now random = some (interval, false, db')) :
    db'.IsOpen interval ∧ interval.projectID = machine.projectID := by
  unfold ensureOpenInterval at h
  cases ho : db.openInterval machine.projectID with
  | some i =>
    simp only [ho, Option.some.injEq, Prod.mk.injEq, true_and] at h
    obtain ⟨rfl, rfl⟩ := h
    obtain ⟨hi, hp, hs⟩ := openInterval_some ho
    refine ⟨⟨i.markRunning, ?_, rfl, rfl, hs⟩, hp⟩
    rw [mem_updateIntervals]
    exact .inl ⟨i, hi, beq_self_eq_true i.id, rfl⟩
  | none => simp [ho] at h

theorem DB.Sane.held_createCheckpoint (hdb : db.Sane clock)
    (h : db.createCheckpoint interval now random credits = some (some c, db')) : db'.Held c := by
  unfold createCheckpoint at h
  split_ifs at h
  · simp at h
  split at h
  · simp at h
  rename_i i hfind
  obtain ⟨hi, _⟩ := Table.find_eq_some.1 (Option.filter_eq_some_iff.1 hfind).1
  split at h
  · rename_i existing hexisting
    obtain ⟨rfl, rfl⟩ := h
    exact .inl (hdb.pending_pendingCheckpoint hexisting)
  · rename_i hnone
    split_ifs at h with hshort
    · simp at h
    obtain ⟨db'', hins, he⟩ := Option.map_eq_some_iff.1 h
    obtain ⟨rfl, rfl⟩ := he
    obtain ⟨hnew, _, _, hrows | hrows⟩ := insertMeteringCheckpoint_spec hins
    · refine .inr ⟨by rw [hrows]; exact hnew, ?_, ?_⟩
      · rw [pendingOf, hrows]
        exact pendingCheckpoint_none hnone
      · change stored i.lastMeteredAt < stored now
        rw [hdb.intervals i hi]
        exact lt_stored_of_seconds (by omega)
    · exact .inl ⟨_, by rw [hrows]; exact mem_append_right _ mem_cons_self, rfl, rfl, rfl, rfl, rfl⟩

theorem DB.pendingCheckpoint_of_ensureFinalCheckpoint
    (h : db.ensureFinalCheckpoint interval now random credits = some (some c, db')) :
    ∃ intervalID, db'.pendingCheckpoint intervalID = some c := by
  unfold ensureFinalCheckpoint at h
  split at h
  · simp at h
  rename_i i _
  simp only at h
  split_ifs at h
  · simp only [Option.some.injEq, Prod.mk.injEq] at h
    obtain ⟨hc, rfl⟩ := h
    exact ⟨i.id, hc⟩
  · obtain ⟨db'', _, he⟩ := Option.map_eq_some_iff.1 h
    obtain ⟨hc, rfl⟩ := Prod.mk.inj he
    exact ⟨i.id, hc⟩

theorem Worker.step_sane (hdb : db.Sane clock) (a : Answers) (h : w.Sane clock db) :
    (w.step clock db a).2.Sane clock (w.step clock db a).1 := by
  cases w with
  | idle => exact le_refl clock
  | started =>
    simp only [step]
    split
    · trivial
    obtain ⟨hrows, hn⟩ := db.pendingCheckpoints_spec
    refine processNext_sane h (fun c hc => ?_) hn
    obtain ⟨r, hr, hp, rfl⟩ := hrows c hc
    exact hdb.pending hr hp
  | listing now =>
    simp only [step]
    split
    · trivial
    · exact ⟨h, fun m hm => hdb.follows_meterable now hm⟩
  | observing poll =>
    obtain ⟨now, rest⟩ := poll
    cases rest with
    | nil => trivial
    | cons machine rest =>
      have hrest : Poll.Sane clock db ⟨now, rest⟩ := ⟨h.now_le, fun m hm => h.follows m (mem_cons_of_mem _ hm)⟩
      have hm : db.Follows now machine.projectID := h.follows machine mem_cons_self
      simp only [step]
      repeat' split
      · exact ⟨hrest, hm⟩
      · exact hrest
      · exact ⟨hrest, hm⟩
      · exact ⟨hrest, hm⟩
  | ensuring =>
    simp only [step]
    split
    · exact h.1
    all_goals
      rename_i hens
      split_ifs at hens
    · exact h.1.effect (ensureOpenInterval_effect clock hens)
    have he := ensureOpenInterval_effect clock hens
    obtain ⟨ho, hp⟩ := isOpen_ensureOpenInterval hens
    exact ⟨h.1.effect he, hp ▸ follows_effect h.2 h.1.now_le he, ho⟩
  | creating =>
    simp only [step]
    split
    · exact h.1
    all_goals
      rename_i hcre
      split_ifs at hcre
    · exact h.1.effect (createCheckpoint_effect clock hcre)
    · exact ⟨hdb.held_createCheckpoint hcre, h.1.effect (createCheckpoint_effect clock hcre)⟩
  | finding =>
    simp only [step]
    repeat' split
    · exact h.1
    · exact h.1
    rename_i interval ho
    obtain ⟨hi, hp, hs⟩ := openInterval_some ho
    exact ⟨h.1, hp ▸ h.2, interval, hi, rfl, rfl, hs⟩
  | finishing poll seen interval =>
    simp only [step]
    split
    · exact h.1
    all_goals
      rename_i hfin
      split_ifs at hfin
    · exact h.1.effect (w := .finishing poll seen interval) (ensureFinalCheckpoint_effect clock hfin)
    have he : Effect clock db (.finishing poll seen interval) _ := ensureFinalCheckpoint_effect clock hfin
    obtain ⟨intervalID, hc⟩ := pendingCheckpoint_of_ensureFinalCheckpoint hfin
    exact ⟨.inl ((he.sane hdb h).pending_pendingCheckpoint hc), h.1.effect he⟩
  | closing =>
    simp only [step]
    split
    · exact h
    · exact h.congr rfl
  | debiting => exact h
  | marking _ debit =>
    simp only [step]
    split
    · exact h.2.abandon
    · exact h.2.resume debit

/-! ## Every run -/

structure System.Sane (s : System) : Prop where
  db : s.db.Sane s.clock
  worker : s.worker.Sane s.clock s.db

theorem System.Initial.sane (h : s.Initial) : s.Sane where
  db := {
    projects := fun p hp => by
      obtain ⟨since, hle, hlog⟩ := h.projects p hp
      exact ⟨⟨since, [], hlog⟩, by simpa [hlog] using hle⟩
    intervals := by simp [h.intervals]
    checkpoints := by simp [h.checkpoints] }
  worker := by
    rw [h.worker]
    trivial

theorem System.Sane.act (h : s.Sane) (hle : s.clock ≤ clock) (action : Action) : (s.act clock action).Sane := by
  have hdb := h.db.later hle
  have hw := h.worker.later hle
  cases action with
  | poll answers => exact ⟨(Worker.step_effect _ _ answers _).sane hdb hw, Worker.step_sane hdb answers hw⟩
  | crash => exact ⟨hdb, trivial⟩
  | lifecycle projectID op =>
    exact ⟨hdb.changeProjects (·.id == projectID) op.apply_id, hw.changed (·.id == projectID) op.apply_id⟩

end Paperboat.Metering

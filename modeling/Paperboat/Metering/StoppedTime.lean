import Paperboat.Metering.BilledOnce
/-!
# Stopped time is not billed

An open interval bills everything since it was last metered, so while it is open
its project must not have been stopped and started again. Polls do not see to
that: a project that is stopped between two polls leaves the list of meterable
machines with its interval open, and the first poll after the next start bills
the time in between. What the polls need is that the interval is closed before
the project leaves `stopped`, and that no interval is opened at a time at which
the project was still stopped.
-/

namespace Paperboat.Metering

variable {s : System}

open Lib Projects ProjectRow

variable {clock : Int} {db db' : DB}

/-! ## Histories -/

namespace ProjectRow

variable {t : Int} {p : ProjectRow}

/-- Whether the project was in `stopped` at the instant `t` or at a later one. -/
def stoppedSince (t : Int) : List (Int × ProjectState) → Bool
  | [] => false
  | (since, state) :: rest => state == .stopped || (decide (t < since) && stoppedSince t rest)

/-- It is stopped now, and was at `t`. -/
def StoppedNow (p : ProjectRow) (t : Int) : Prop := ∃ since rest, p.log = (since, .stopped) :: rest ∧ since ≤ t

theorem stateAt_of_log {since : Int} {state : ProjectState} {rest : List (Int × ProjectState)}
    (h : p.log = (since, state) :: rest) (t : Int) :
    p.stateAt t = if since ≤ t then some state else (⟨p.project, rest⟩ : ProjectRow).stateAt t := by
  simp only [stateAt, h, List.find?_cons]
  by_cases hle : since ≤ t <;> simp [hle]

theorem stateAt_of_stoppedSince {t0 : Int} (h : stoppedSince t0 p.log = false) (ht : t0 ≤ t) :
    p.stateAt t ≠ some .stopped := by
  obtain ⟨project, log⟩ := p
  induction log with
  | nil => simp [stateAt]
  | cons e _ ih =>
    obtain ⟨since, state⟩ := e
    simp only [stoppedSince, Bool.or_eq_false_iff, beq_eq_false_iff_ne, Bool.and_eq_false_iff, decide_eq_false_iff_not] at h
    rw [stateAt_of_log rfl]
    split_ifs with hle
    · simpa using h.1
    · exact ih (h.2.resolve_left (by omega))

theorem stateAt_change {project : Project} (ht : t < clock) : (p.change clock project).stateAt t = p.stateAt t := by
  by_cases hs : project.state = p.project.state
  · simp [change, stateAt, hs]
  · rw [stateAt_of_log (by rw [change, if_neg hs]), if_neg (by omega)]
    rfl

end ProjectRow

/-! ## What one statement leaves -/

structure DB.Clean (db : DB) : Prop where
  covered : ∀ r ∈ db.checkpoints.rows, ∀ p ∈ db.projects.rows, p.id = r.projectID →
    ∀ t, r.period.Covers t → p.stateAt t ≠ some .stopped
  /-- While an interval is open, its project has not been stopped and started again. -/
  running : ∀ i ∈ db.intervals.rows, i.stoppedAt = none → ∀ p ∈ db.projects.rows, p.id = i.projectID →
    ∀ t, i.lastMeteredAt ≤ t → p.stateAt t = some .stopped → p.StoppedNow t

namespace DB.Clean

variable {now : Int} {random : String}

theorem changeProjects (h : db.Clean) (hdb : db.Sane clock) (selected : Project → Bool) {f : Project → Project}
    (keeps : ∀ p, (f p).id = p.id) (hlv : ∀ p ∈ db.projects.rows, selected p.project → p.project.state = .stopped →
      (f p.project).state ≠ .stopped → db.openInterval p.id = none) : (db.changeProjects clock selected f keeps).Clean := by
  refine ⟨fun r hr p' hp' hid t ht => ?_, fun i hi ho p' hp' hid t ht hstop => ?_⟩
  · rcases (DB.mem_changeProjects keeps).1 hp' with ⟨p, hp, _, rfl⟩ | ⟨hp, _⟩
    · rw [change_id clock keeps] at hid
      rw [stateAt_change (ht.2.trans_le (hdb.checkpoints r hr).past)]
      exact h.covered r hr p hp hid t ht
    · exact h.covered r hr p' hp hid t ht
  · rcases (DB.mem_changeProjects keeps).1 hp' with ⟨p, hp, hsel, rfl⟩ | ⟨hp, _⟩
    · rw [change_id clock keeps] at hid
      by_cases hs : (f p.project).state = p.project.state
      · -- The state stays, and so does the log.
        have hlog : (p.change clock (f p.project)).log = p.log := if_pos hs
        have hold : p.StoppedNow t := h.running i hi ho p hp hid t ht (by rwa [stateAt, hlog] at hstop)
        rwa [ProjectRow.StoppedNow, hlog]
      · have hlog : (p.change clock (f p.project)).log = (clock, (f p.project).state) :: p.log := if_neg hs
        by_cases hnow : clock ≤ t
        · rw [stateAt_of_log hlog, if_pos hnow] at hstop
          exact ⟨clock, p.log, by rw [hlog, Option.some.inj hstop], hnow⟩
        -- It was stopped before, so it leaves `stopped` now: its interval is closed.
        rw [stateAt_change (not_le.1 hnow)] at hstop
        obtain ⟨since, rest, hold, _⟩ := h.running i hi ho p hp hid t ht hstop
        obtain ⟨since', rest', hnewest⟩ := (hdb.projects p hp).newest
        rw [hold] at hnewest
        have hst : p.project.state = .stopped := (Prod.mk.inj (List.cons.inj hnewest).1).2.symm
        simpa [hid, ho] using List.find?_eq_none.1 (hlv p hp hsel hst (hst ▸ hs)) i hi
    · exact h.running i hi ho p' hp hid t ht hstop

theorem queueSystemStop (h : db.Clean) (hdb : db.Sane clock) (ids : List String) : (db.queueSystemStop clock ids).Clean := by
  refine h.changeProjects hdb _ Project.markProjectStoppingForEnforcement_id fun p _ _ hs hne => ?_
  rcases p.project.markProjectStoppingForEnforcement_cases with he | ⟨hns, _⟩
  · rw [he] at hne
    exact absurd hs hne
  · exact absurd hs hns

theorem updateIntervals (h : db.Clean) {selected : RuntimeInterval → Bool} {f : RuntimeInterval → RuntimeInterval}
    (keeps : ∀ i, (f i).id = i.id) (hf : ∀ i, selected i → (f i).stoppedAt = none →
      i.stoppedAt = none ∧ (f i).projectID = i.projectID ∧ i.lastMeteredAt ≤ (f i).lastMeteredAt) :
    (db.updateIntervals selected f keeps).Clean := by
  refine ⟨h.covered, fun i' hi' ho p hp hid t ht hstop => ?_⟩
  rcases (DB.mem_updateIntervals keeps).1 hi' with ⟨i, hi, hsel, rfl⟩ | ⟨hi, _⟩
  · obtain ⟨hold, hproj, hlast⟩ := hf i hsel ho
    exact h.running i hi hold p hp (hid.trans hproj) t (hlast.trans ht) hstop
  · exact h.running i' hi ho p hp hid t ht hstop

theorem updateCheckpoint (h : db.Clean) {id : String} {f : CheckpointRow → CheckpointRow} (keeps : ∀ r, (f r).id = r.id)
    (hf : ∀ r, (f r).projectID = r.projectID ∧ (f r).period = r.period) : (db.updateCheckpoint id f keeps).Clean := by
  refine ⟨fun r' hr' p hp hid t ht => ?_, h.running⟩
  rcases (DB.mem_updateCheckpoint keeps).1 hr' with ⟨r, hr, _, rfl⟩ | ⟨hr, _⟩
  · rw [(hf r).1] at hid
    rw [(hf r).2] at ht
    exact h.covered r hr p hp hid t ht
  · exact h.covered r' hr p hp hid t ht

theorem insert (h : db.Clean) {interval i : RuntimeInterval} {start : Int} {credits : String}
    (hfo : db.Follows now interval.projectID) (hisOpen : db.IsOpen interval) (hi : i ∈ db.intervals.rows)
    (hid : i.id = interval.id) (hst : i.lastMeteredAt ≤ stored start)
    (hins : db.insertMeteringCheckpoint (DB.newCheckpoint i start now random credits) = some db') : db'.Clean := by
  obtain ⟨i', hi', hid', hproj, ho⟩ := hisOpen
  obtain rfl : i = i' := Table.eq_of_key hi hi' (hid.trans hid'.symm)
  obtain ⟨_, hp, hint, hrows⟩ := DB.insertMeteringCheckpoint_spec hins
  refine ⟨fun r hr p hp' hpid t ht hstop => ?_, ?_⟩
  · rw [hp] at hp'
    have hcases : r ∈ db.checkpoints.rows ∨ r = (DB.newCheckpoint i start now random credits).row := by
      rcases hrows with hrows | hrows
      · exact .inl (hrows ▸ hr)
      · rw [hrows] at hr
        simpa using hr
    rcases hcases with hr | rfl
    · exact h.covered r hr p hp' hpid t ht hstop
    -- The project is stopped now at most, and has been only since after the poll's time.
    obtain ⟨since, rest, hlog, hle⟩ := h.running i hi ho p hp' hpid t (hst.trans ht.1) hstop
    have hnow : now ≤ since := hfo p hp' (hpid.trans hproj) since rest hlog
    have hlt : t < stored now := ht.2
    exact absurd (hnow.trans hle) (not_le.2 (hlt.trans_le (stored_le now)))
  · rw [hp, hint]
    exact h.running

theorem opened (h : db.Clean) {machine : MeterableMachine}
    (hup : ∀ p ∈ db.projects.rows, p.id = machine.projectID → stoppedSince (stored now) p.log = false)
    (hins : db.insertRuntimeInterval (DB.newInterval machine now random) = some db') : db'.Clean := by
  obtain ⟨_, hp, hc, hrows⟩ := DB.insertRuntimeInterval_spec hins
  refine ⟨by rw [hp, hc]; exact h.covered, fun i hi ho p hp' hid t ht hstop => ?_⟩
  rw [hp] at hp'
  rw [hrows] at hi
  rcases List.mem_append.1 hi with hi | hi
  · exact h.running i hi ho p hp' hid t ht hstop
  · obtain rfl := List.mem_singleton.1 hi
    exact absurd hstop (stateAt_of_stoppedSince (hup p hp' hid) ht)

end DB.Clean

/-! ## Every run -/

/-- The interval of a project is closed before an operation takes it out of `stopped`, and a poll opens one only for a
project that was not stopped at the poll's time or since. -/
def stopsObserved (s : System) (op : Op) : Bool :=
  match op.action, s.worker with
  | .lifecycle projectID op, _ =>
    s.db.projects.rows.all fun p =>
      !(p.id == projectID && p.project.state == .stopped && (op.apply p.project).state != .stopped) ||
        (s.db.openInterval p.id).isNone
  | .poll answers, .ensuring poll machine =>
    answers.fails || (s.db.openInterval machine.projectID).isSome ||
      s.db.projects.rows.all fun p => p.id != machine.projectID || !stoppedSince (stored poll.now) p.log
  | _, _ => true

theorem Effect.clean {w : Worker} (he : Effect clock db w db') (h : db.Clean) (hdb : db.Sane clock) (hw : w.Sane clock db)
    (hup : ∀ poll machine, w = .ensuring poll machine → db.openInterval machine.projectID = none → db' ≠ db →
      ∀ p ∈ db.projects.rows, p.id = machine.projectID → stoppedSince (stored poll.now) p.log = false) :
    db'.Clean := by
  cases he with
  | nothing => exact h
  | running => exact h.updateIntervals _ fun i _ ho => ⟨ho, rfl, le_refl _⟩
  | opened poll machine _ _ hnone hins =>
    refine h.opened (hup poll machine rfl hnone fun heq => ?_) hins
    have hrows := (DB.insertRuntimeInterval_spec hins).2.2.2
    rw [heq] at hrows
    exact absurd hrows (by simp)
  | created _ _ i _ _ _ hi hid _ _ hins =>
    exact h.insert hw.2.1 hw.2.2 hi hid (hdb.intervals i hi).ge hins
  | finished _ _ _ i _ _ _ hi hid _ hins =>
    exact h.insert hw.2.1 hw.2.2 hi hid ((db.tailStart_spec i).1.trans (hdb.tailStart hi).ge) hins
  | settled c debit =>
    cases debit with
    | ok =>
      have hlt := hdb.held_nonempty hw.1
      refine (h.updateCheckpoint CheckpointRow.markProcessed_id fun _ => ⟨rfl, rfl⟩).updateIntervals _ fun i hsel ho => ?_
      have hlast : i.lastMeteredAt = stored c.periodStart := by simpa using (Bool.and_eq_true_iff.1 hsel).2
      exact ⟨ho, rfl, hlast ▸ hlt.le⟩
    | insufficientCredits =>
      have hf : (db.markCheckpointFailed c.id "insufficient credits").Clean :=
        h.updateCheckpoint (CheckpointRow.markFailed_id _) fun _ => ⟨rfl, rfl⟩
      exact hf.queueSystemStop (hdb.markFailed c.id _) [c.projectID]
    | failed cause => exact h.updateCheckpoint (CheckpointRow.markFailed_id cause) fun _ => ⟨rfl, rfl⟩
  | closed => exact h.updateIntervals _ fun i _ ho => by cases ho
  | enforced _ ids => exact h.queueSystemStop hdb ids

structure System.Unbilled (s : System) : Prop where
  sane : s.Sane
  clean : s.db.Clean

theorem System.Unbilled.step (h : s.Unbilled) {op : Op} (hop : stopsObserved s op) : (s.step op).Unbilled := by
  have hle : s.clock ≤ s.clock + op.elapsed := by omega
  have hdb := h.sane.db.later hle
  refine ⟨h.sane.act hle op.action, ?_⟩
  obtain ⟨elapsed, action⟩ := op
  cases action with
  | poll answers =>
    have he := Worker.step_effect (s.clock + elapsed) s.db answers s.worker
    refine he.clean h.clean hdb (h.sane.worker.later hle) fun poll machine hw hnone hne p hp hid => ?_
    have hfails : answers.fails = false := by
      by_contra hf
      exact hne (by simp [hw, Worker.step, hf])
    have hall : ∀ p ∈ s.db.projects.rows, p.id ≠ machine.projectID ∨
        stoppedSince (stored poll.now) p.log = false := by
      simpa [stopsObserved, hw, hfails, hnone] using hop
    exact (hall p hp).resolve_left (not_not.2 hid)
  | crash => exact h.clean
  | lifecycle projectID op =>
    refine h.clean.changeProjects hdb (·.id == projectID) op.apply_id fun p hp hsel hs hne => ?_
    have hall := List.all_eq_true.1 hop p hp
    have hid : p.id = projectID := by simpa [ProjectRow.id] using hsel
    simpa [hid, hs, hne] using hall

/-- No checkpoint covers an instant at which its project was stopped, in every run whose intervals are closed before
the project leaves `stopped` and opened only for a time at which it was not. -/
theorem stopped_time_unbilled {s : System} (h : s.Initial) {ops : List Op}
    (hops : EachStep System.step (fun s op => stopsObserved s op) s ops) :
    ∀ r ∈ (run System.step s ops).db.checkpoints.rows, ∀ p ∈ (run System.step s ops).db.projects.rows, p.id = r.projectID →
      ∀ t, r.period.Covers t → p.stateAt t ≠ some .stopped := by
  have hinv : (run System.step s ops).Unbilled := run_inv (fun _ _ hs hop => hs.step hop)
    ⟨h.sane, by simp [h.checkpoints], by simp [h.intervals]⟩ hops
  exact hinv.clean.covered

/-! ## A stop between two polls -/

namespace Sample

/-- A job or request commits after `elapsed` seconds. -/
def lifecycle (elapsed : Nat) (op : LifecycleOp) : Op := ⟨elapsed * 1000000000, .lifecycle "prj" op⟩

def unseenStop : List Op :=
  opening ++
  [lifecycle 0 (.queue "usr" .stop), lifecycle 10 (.recordMachineState .stopped), lifecycle 3600 (.queue "usr" .start),
    lifecycle 0 (.recordMachineState .running)] ++
  poll 50 [{}, {}, listed, running, {}, { random := "c" }]

def seenStop : List Op :=
  opening ++
  [lifecycle 0 (.queue "usr" .stop)] ++
  poll 10 [{}, {}, listed, { machine := .found "stopped" }, {}, { random := "c" }, {}, {}, {}, {}] ++
  [lifecycle 0 (.recordMachineState .stopped), lifecycle 3600 (.queue "usr" .start),
    lifecycle 0 (.recordMachineState .running)] ++
  poll 50 [{}, {}, listed, running, { random := "b" }, {}] ++
  poll 60 [{}, {}, listed, running, {}, { random := "d" }]

end Sample

open Sample

theorem stopped_time_billed : unmetered.Initial ∧ ∃ r ∈ (run System.step unmetered unseenStop).db.checkpoints.rows,
        ∃ p ∈ (run System.step unmetered unseenStop).db.projects.rows,
          p.id = r.projectID ∧ r.period.Covers 1800000000000 ∧ p.stateAt 1800000000000 = some .stopped :=
  ⟨unmetered_initial, by decide +kernel⟩

theorem stopped_time_unbilled_seen : (run System.step unmetered seenStop).db.checkpoints.rows.map (·.period) =
        [⟨0, 10000000000⟩, ⟨3660000000000, 3720000000000⟩] ∧
      ∀ r ∈ (run System.step unmetered seenStop).db.checkpoints.rows,
        ∀ p ∈ (run System.step unmetered seenStop).db.projects.rows, p.id = r.projectID →
          ∀ t, r.period.Covers t → p.stateAt t ≠ some .stopped :=
  ⟨by decide +kernel, stopped_time_unbilled unmetered_initial (by decide +kernel)⟩

end Paperboat.Metering

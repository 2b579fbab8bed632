import Mathlib.Data.List.Sort
import Paperboat.Lib.Spans
import Paperboat.Lib.Table
import Paperboat.Projects.Lifecycle
/-!
# The metering tables and their transactions

`RuntimeRepository` of `runtime.go`. Instants are nanoseconds since the epoch, as
`s.now()` returns them; a `timestamptz` column keeps the microsecond. Each
function is one transaction: what it returns and the tables it commits.
-/

namespace Paperboat.Metering

open Lib Projects

/-- An instant as the database keeps it. -/
def stored (t : Int) : Int := t / 1000 * 1000

theorem stored_le (t : Int) : stored t ≤ t := by unfold stored; omega

@[simp] theorem stored_stored (t : Int) : stored (stored t) = stored t := by unfold stored; omega

/-- `int(later.Sub(earlier).Seconds())`. -/
def secondsBetween (earlier later : Int) : Int := (later - earlier).tdiv 1000000000

theorem lt_stored_of_seconds {start now : Int} (h : 0 < secondsBetween start now) : start < stored now := by
  unfold secondsBetween at h
  have hs : 1000000000 ≤ now - start := by
    by_contra hlt
    rcases Int.lt_or_le (now - start) 0 with hneg | hpos
    · have hn : 0 ≤ (-(now - start)).tdiv 1000000000 := Int.tdiv_nonneg (by omega) (by decide)
      rw [Int.neg_tdiv] at hn
      omega
    · rw [Int.tdiv_eq_zero_of_lt hpos (by omega)] at h
      exact absurd h (lt_irrefl 0)
  unfold stored
  omega

/-! ## Rows -/

structure ProjectRow where
  project : Project
  log : List (Int × ProjectState)

namespace ProjectRow

def id (p : ProjectRow) : String := p.project.id

/-- The row is rewritten at the instant `at_`; the log has an entry for each change of state. -/
def change (p : ProjectRow) (at_ : Int) (project : Project) : ProjectRow where
  project := project
  log := if project.state = p.project.state then p.log else (at_, project.state) :: p.log

theorem change_id (at_ : Int) {f : Project → Project} (keeps : ∀ p, (f p).id = p.id) (p : ProjectRow) :
    (p.change at_ (f p.project)).id = p.id := keeps p.project

def stateAt (p : ProjectRow) (t : Int) : Option ProjectState := (p.log.find? (·.1 ≤ t)).map (·.2)

end ProjectRow

structure MeterableMachine where
  (projectID userID flyMachineID machineTypeVersionID creditWeight : String)

structure RuntimeInterval where
  (id projectID userID flyMachineID machineTypeVersionID creditWeight : String)
  startedAt : Int
  stoppedAt : Option Int
  lastMeteredAt : Int
  (observedState observationSource confidence : String)

namespace RuntimeInterval

def markRunning (i : RuntimeInterval) : RuntimeInterval :=
  { i with observedState := "running", observationSource := "fly_poll", confidence := "high" }

def advance (lastMeteredAt : Int) (i : RuntimeInterval) : RuntimeInterval := { i with lastMeteredAt }

def close (stoppedAt : Int) (source confidence observedState : String) (i : RuntimeInterval) : RuntimeInterval :=
  { i with stoppedAt := some stoppedAt, observedState, observationSource := source, confidence }

theorem markRunning_id (i : RuntimeInterval) : i.markRunning.id = i.id := rfl

theorem advance_id (lastMeteredAt : Int) (i : RuntimeInterval) : (i.advance lastMeteredAt).id = i.id := rfl

end RuntimeInterval

structure Checkpoint where
  (id runtimeIntervalID projectID userID : String)
  (periodStart periodEnd runtimeSeconds : Int)
  (creditWeight creditsDebited idempotencyKey : String)

inductive CheckpointState where
  | created | failed | processed
  deriving DecidableEq

structure CheckpointRow extends Checkpoint where
  state : CheckpointState
  lastError : String

def Checkpoint.row (c : Checkpoint) : CheckpointRow :=
  { c with periodStart := stored c.periodStart, periodEnd := stored c.periodEnd, state := .created, lastError := "" }

namespace CheckpointRow

variable (r : CheckpointRow)

/-- `state IN ('created','failed')`. -/
def pending : Bool := r.state == .created || r.state == .failed

def period : Span Int := ⟨r.periodStart, r.periodEnd⟩

def markProcessed : CheckpointRow := { r with state := .processed }

def markFailed (lastError : String) (r : CheckpointRow) : CheckpointRow := { r with state := .failed, lastError }

theorem markProcessed_id : r.markProcessed.id = r.id := rfl

theorem markFailed_id (lastError : String) (r : CheckpointRow) : (r.markFailed lastError).id = r.id := rfl

end CheckpointRow

structure DB where
  projects : Table ProjectRow.id
  intervals : Table RuntimeInterval.id
  checkpoints : Table fun r : CheckpointRow => r.id

/-- `prefix + "_" + hex`, where the digits are random. -/
def newID (kind random : String) : String := kind ++ "_" ++ random

namespace DB

variable (db : DB)

/-! ## Queries -/

def openInterval (projectID : String) : Option RuntimeInterval :=
  db.intervals.rows.find? fun i => i.projectID == projectID && i.stoppedAt.isNone

/-- `ORDER BY period_end ASC,created_at ASC`; the rows are in the order of their creation. -/
def byPeriodEnd (rows : List CheckpointRow) : List CheckpointRow :=
  rows.insertionSort fun r r' => r.periodEnd ≤ r'.periodEnd

def pendingCheckpoints : List Checkpoint :=
  ((byPeriodEnd (db.checkpoints.rows.filter (·.pending))).take 100).map (·.toCheckpoint)

variable (i : RuntimeInterval) (at_ : Int) (c : Checkpoint) (intervalID : String)

def pendingOf : List CheckpointRow :=
  db.checkpoints.rows.filter fun r => r.runtimeIntervalID == intervalID && r.pending

def pendingCheckpoint : Option Checkpoint :=
  ((byPeriodEnd (db.pendingOf intervalID)).head?).map (·.toCheckpoint)

/-- `ORDER BY period_end DESC LIMIT 1`. -/
def latestCheckpointEnd : Option Int :=
  ((db.checkpoints.rows.filter fun r => r.runtimeIntervalID == intervalID).map (·.periodEnd)).max?

def meterable : ProjectState → Bool
  | .ready | .running | .starting | .stopping | .restarting | .suspended => true
  | _ => false

/-- `ListMeterableMachines`. The join with `fly_machines`, `project_runtime_configs` and
`machine_type_versions` is `joined`. -/
def meterableMachines (joined : List MeterableMachine) : List MeterableMachine :=
  joined.filter fun m => (db.projects.find m.projectID).any fun p => meterable p.project.state

/-! ## Statements -/

def changeProjects (selected : Project → Bool) (f : Project → Project) (keeps : ∀ p, (f p).id = p.id) : DB where
  projects := db.projects.update (fun p => selected p.project) (fun p => p.change at_ (f p.project))
    (ProjectRow.change_id at_ keeps)
  intervals := db.intervals
  checkpoints := db.checkpoints

def updateIntervals (selected : RuntimeInterval → Bool) (f : RuntimeInterval → RuntimeInterval)
    (keeps : ∀ i, (f i).id = i.id) : DB :=
  { db with intervals := db.intervals.update selected f keeps }

def updateCheckpoint (id : String) (f : CheckpointRow → CheckpointRow) (keeps : ∀ r, (f r).id = r.id) : DB :=
  { db with checkpoints := db.checkpoints.update (·.id == id) f keeps }

def insertRuntimeInterval : Option DB :=
  (db.intervals.insert i).map fun intervals => { db with intervals }

/-- `ON CONFLICT (idempotency_key) DO NOTHING`. -/
def insertMeteringCheckpoint : Option DB :=
  match db.checkpoints.insert c.row with
  | none => none
  | some checkpoints =>
    if db.checkpoints.rows.any (·.idempotencyKey == c.idempotencyKey) then some db else some { db with checkpoints }

/-! ## Transactions

A statement that violates a unique index fails the transaction, and then nothing
of it is committed (`none`). -/

/-- The interval `EnsureOpenInterval` opens for a running machine. -/
def newInterval (machine : MeterableMachine) (now : Int) (random : String) : RuntimeInterval where
  id := newID "rti" random
  projectID := machine.projectID
  userID := machine.userID
  flyMachineID := machine.flyMachineID
  machineTypeVersionID := machine.machineTypeVersionID
  creditWeight := machine.creditWeight
  startedAt := stored now
  stoppedAt := none
  lastMeteredAt := stored now
  observedState := "running"
  observationSource := "fly_poll"
  confidence := "high"

def ensureOpenInterval (machine : MeterableMachine) (now : Int) (random : String) : Option (RuntimeInterval × Bool × DB) :=
  match db.openInterval machine.projectID with
  | some i => some (i.markRunning, false, db.updateIntervals (·.id == i.id) RuntimeInterval.markRunning RuntimeInterval.markRunning_id)
  | none =>
    let i := newInterval machine now random
    (db.insertRuntimeInterval i).map fun db' => ({ i with startedAt := now, lastMeteredAt := now }, true, db')

/-- A checkpoint of the interval for `[periodStart, periodEnd)`. -/
def newCheckpoint (periodStart periodEnd : Int) (random credits : String) : Checkpoint where
  id := newID "mchk" random
  runtimeIntervalID := i.id
  projectID := i.projectID
  userID := i.userID
  periodStart := periodStart
  periodEnd := periodEnd
  runtimeSeconds := secondsBetween periodStart periodEnd
  creditWeight := i.creditWeight
  creditsDebited := credits
  idempotencyKey := "metering.runtime:" ++ i.id ++ ":" ++ toString periodStart ++ ":" ++ toString periodEnd

def createCheckpoint (interval : RuntimeInterval) (now : Int) (random credits : String) : Option (Option Checkpoint × DB) :=
  if now ≤ interval.lastMeteredAt then some (none, db)
  else
    match (db.intervals.find interval.id).filter (·.stoppedAt.isNone) with
    | none => some (none, db)
    | some i =>
      match db.pendingCheckpoint i.id with
      | some existing => some (some existing, db)
      | none =>
        if now ≤ i.lastMeteredAt ∨ secondsBetween i.lastMeteredAt now ≤ 0 then some (none, db)
        else
          let checkpoint := newCheckpoint i i.lastMeteredAt now random credits
          (db.insertMeteringCheckpoint checkpoint).map fun db' => (some checkpoint, db')

def tailStart : Int :=
  match db.latestCheckpointEnd i.id with
  | some latestEnd => if i.lastMeteredAt < latestEnd then latestEnd else i.lastMeteredAt
  | none => i.lastMeteredAt

def ensureFinalCheckpoint (interval : RuntimeInterval) (stoppedAt : Int) (random credits : String) :
    Option (Option Checkpoint × DB) :=
  match db.intervals.find interval.id with
  | none => some (none, db)
  | some i =>
    let periodStart := db.tailStart i
    if secondsBetween periodStart stoppedAt ≤ 0 then some (db.pendingCheckpoint i.id, db)
    else
      (db.insertMeteringCheckpoint (newCheckpoint i periodStart stoppedAt random credits)).map fun db' =>
        (db'.pendingCheckpoint i.id, db')

def markCheckpointProcessed : DB :=
  (db.updateCheckpoint c.id CheckpointRow.markProcessed CheckpointRow.markProcessed_id).updateIntervals
    (fun i => i.id == c.runtimeIntervalID && i.lastMeteredAt == stored c.periodStart)
    (RuntimeInterval.advance (stored c.periodEnd)) (RuntimeInterval.advance_id _)

def markCheckpointFailed (id lastError : String) : DB :=
  db.updateCheckpoint id (CheckpointRow.markFailed lastError) (CheckpointRow.markFailed_id lastError)

/-- `queueSystemStopTx`, as far as the project's row. -/
def queueSystemStop (projectIDs : List String) : DB :=
  db.changeProjects at_ (projectIDs.contains ·.id) Project.markProjectStoppingForEnforcement
    Project.markProjectStoppingForEnforcement_id

def markCheckpointFailedAndQueueCreditStop (lastError : String) : DB :=
  (db.markCheckpointFailed c.id lastError).queueSystemStop at_ [c.projectID]

def closeOpenInterval (projectID : String) (stoppedAt : Int) (source confidence observedState : String) : DB :=
  db.updateIntervals (fun i => i.projectID == projectID && i.stoppedAt.isNone)
    (RuntimeInterval.close (stored stoppedAt) source confidence observedState) fun _ => rfl

/-- `ListEntitlementLostProjectsForUpdate`; `lost` are the projects whose users have no subscription and whose
rows are not locked. -/
def entitlementLostProjects (lost : List String) : List String :=
  (db.projects.rows.filter fun p =>
    p.project.state == .running && (db.openInterval p.id).isSome && lost.contains p.id).map ProjectRow.id

def enforceEntitlementState (lost : List String) : DB :=
  db.queueSystemStop at_ (db.entitlementLostProjects lost)

end DB

end Paperboat.Metering

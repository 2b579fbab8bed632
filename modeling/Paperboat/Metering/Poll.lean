import Paperboat.Lib.Runs
import Paperboat.Metering.Runtime
/-!
# The metering worker

`RuntimeService.RunOnce`, cut at its transactions and calls: between any two of
them other writers of the database may run, and the process may crash. A worker
is what is left of the call with its local variables. Whatever the worker cannot
compute itself is one record of answers per step.
-/

namespace Paperboat.Metering

open Lib Projects

/-! ## The call and its local variables -/

/-- The poll's `now` and the machines it has still to observe. -/
structure Poll where
  now : Int
  rest : List MeterableMachine

/-- The arguments of `observeStopped`. -/
structure Stopped where
  (projectID observedState confidence : String)

inductive DebitAnswer where
  | ok
  | insufficientCredits
  | failed (cause : String)
  deriving DecidableEq

/-- Where `processCheckpoint` was called from. -/
inductive Caller where
  | processPendingCheckpoints (now : Int) (rest : List Checkpoint)
  | observeRunning (poll : Poll)
  | observeStopped (poll : Poll) (seen : Stopped)

inductive Worker where
  | idle
  | started (now : Int)
  | listing (now : Int)
  | observing (poll : Poll)
  | ensuring (poll : Poll) (machine : MeterableMachine)
  | creating (poll : Poll) (interval : RuntimeInterval)
  | finding (poll : Poll) (seen : Stopped)
  | finishing (poll : Poll) (seen : Stopped) (interval : RuntimeInterval)
  | closing (poll : Poll) (seen : Stopped)
  | debiting (checkpoint : Checkpoint) (caller : Caller)
  | marking (checkpoint : Checkpoint) (debit : DebitAnswer) (caller : Caller)

/-! ## Answers -/

inductive MachineAnswer where
  | notFound
  | failed
  | found (state : String)

structure Answers where
  /-- The query or transaction of the step fails, and nothing of it is committed. -/
  fails : Bool := false
  machine : MachineAnswer := .failed
  debit : DebitAnswer := .ok
  joined : List MeterableMachine := []
  lost : List String := []
  random : String := ""
  credits : String := ""

def isProviderRunning (state : String) : Bool := state == "running" || state == "started"

/-! ## Steps -/

/-- `processPendingCheckpoints` goes on to its next checkpoint, and `RunOnce` to its machines. -/
def processNext (now : Int) : List Checkpoint → Worker
  | [] => .listing now
  | checkpoint :: rest => .debiting checkpoint (.processPendingCheckpoints now rest)

/-- `processCheckpoint` returned without an error. `RecordObservedProjectState`, which comes last in
`observeRunning`, writes only `fly_machines`. -/
def Caller.resume : Caller → Worker
  | .processPendingCheckpoints now rest => processNext now rest
  | .observeRunning poll => .observing poll
  | .observeStopped poll seen => .closing poll seen

/-- It returned an error: that ends `RunOnce` before its machines, and the observation of one machine. -/
def Caller.abandon : Caller → Worker
  | .processPendingCheckpoints _ _ => .idle
  | .observeRunning poll | .observeStopped poll _ => .observing poll

def DB.settle (db : DB) (clock : Int) (c : Checkpoint) : DebitAnswer → DB
  | .ok => db.markCheckpointProcessed c
  | .insufficientCredits => db.markCheckpointFailedAndQueueCreditStop clock c "insufficient credits"
  | .failed cause => db.markCheckpointFailed c.id cause

/-- The next step of the call, at the time `clock`. -/
def Worker.step (clock : Int) (db : DB) (a : Answers) : Worker → DB × Worker
  | .idle => (db, .started clock)
  | .started now => if a.fails then (db, .idle) else (db, processNext now db.pendingCheckpoints)
  | .listing now => if a.fails then (db, .idle) else (db, .observing ⟨now, db.meterableMachines a.joined⟩)
  | .observing ⟨_, []⟩ => (if a.fails then db else db.enforceEntitlementState clock a.lost, .idle)
  | .observing ⟨now, machine :: rest⟩ =>
    match a.machine with
    | .notFound => (db, .finding ⟨now, rest⟩ ⟨machine.projectID, "missing", "low"⟩)
    | .failed => (db, .observing ⟨now, rest⟩)
    | .found state =>
      if isProviderRunning state then (db, .ensuring ⟨now, rest⟩ machine)
      else (db, .finding ⟨now, rest⟩ ⟨machine.projectID, state, "high"⟩)
  | .ensuring poll machine =>
    match if a.fails then none else db.ensureOpenInterval machine poll.now a.random with
    | none => (db, .observing poll)
    | some (_, true, db') => (db', .observing poll)
    | some (interval, false, db') => (db', .creating poll interval)
  | .creating poll interval =>
    match if a.fails then none else db.createCheckpoint interval poll.now a.random a.credits with
    | none => (db, .observing poll)
    | some (none, db') => (db', .observing poll)
    | some (some checkpoint, db') => (db', .debiting checkpoint (.observeRunning poll))
  | .finding poll seen =>
    if a.fails then (db, .observing poll)
    else
      match db.openInterval seen.projectID with
      | none => (db, .closing poll seen)
      | some interval => (db, .finishing poll seen interval)
  | .finishing poll seen interval =>
    match if a.fails then none else db.ensureFinalCheckpoint interval poll.now a.random a.credits with
    | none => (db, .observing poll)
    | some (none, db') => (db', .closing poll seen)
    | some (some checkpoint, db') => (db', .debiting checkpoint (.observeStopped poll seen))
  | .closing poll seen =>
    (if a.fails then db else db.closeOpenInterval seen.projectID poll.now "fly_poll" seen.confidence seen.observedState,
      .observing poll)
  | .debiting checkpoint caller => (db, .marking checkpoint a.debit caller)
  | .marking checkpoint debit caller =>
    if a.fails then (db, caller.abandon) else (db.settle clock checkpoint debit, caller.resume)

/-! ## The system -/

structure System where
  clock : Int
  db : DB
  worker : Worker

inductive Action where
  /-- The next step of the running `RunOnce`, or the start of one. -/
  | poll (answers : Answers)
  /-- The process stops, or its context is cancelled. -/
  | crash
  /-- A lifecycle request or an orchestration job commits. -/
  | lifecycle (projectID : String) (op : LifecycleOp)

/-- Time passes before an action; it never goes back. -/
structure Op where
  elapsed : Nat
  action : Action

namespace System

/-- The action takes place at the time `clock`. -/
def act (clock : Int) (s : System) : Action → System
  | .poll answers => ⟨clock, (s.worker.step clock s.db answers).1, (s.worker.step clock s.db answers).2⟩
  | .crash => ⟨clock, s.db, .idle⟩
  | .lifecycle projectID op => ⟨clock, s.db.changeProjects clock (·.id == projectID) op.apply op.apply_id, s.worker⟩

def step (s : System) (op : Op) : System := s.act (s.clock + op.elapsed) op.action

structure Initial (s : System) : Prop where
  intervals : s.db.intervals.rows = []
  checkpoints : s.db.checkpoints.rows = []
  projects : ∀ p ∈ s.db.projects.rows, ∃ since ≤ s.clock, p.log = [(since, p.project.state)]
  worker : s.worker = .idle

end System

end Paperboat.Metering

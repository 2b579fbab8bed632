import Paperboat.Bandwidth.Allowance
import Paperboat.Lib.Runs
/-!
# Usage reports

`reconcileUsage` of the control plane: an edge reports an absolute counter, the
difference to the last value is charged to the machine of the environment, and
the counter advances, all in one transaction. A call has the answers of the clock
and of `newID` as arguments.
-/

namespace Paperboat.Bandwidth

open Lib
open Connector (trimSpace)

structure UsageReport where
  (operationID edgeNodeID counterEpoch environmentID routeID : String)
  routeRevision : Int
  direction : Direction
  (bytes intervalStart intervalEnd : Int)

structure UsageReceipt where
  operationID : String
  (deltaBytes observedBytes : Nat)
  duplicate : Bool

def Direction.text : Direction → String
  | .ingress => "ingress"
  | .egress => "egress"
  | .other text => text

namespace UsageReport

def key (r : UsageReport) : CounterKey := ⟨r.edgeNodeID, r.counterEpoch, r.environmentID, r.routeID, r.direction⟩

/-- The fields that must not be blank. The source ranges over a map, so which of several is named is left open. -/
def required (r : UsageReport) : List (String × String) :=
  [("operation_id", r.operationID), ("edge_node_id", r.edgeNodeID), ("counter_epoch", r.counterEpoch),
    ("environment_id", r.environmentID), ("route_id", r.routeID), ("direction", r.direction.text)]

end UsageReport

/-- `validateUsageReport`: what is wrong with a report. -/
def validateUsageReport (r : UsageReport) : Option String :=
  match r.required.find? fun field => trimSpace field.2 == "" with
  | some (name, _) => some (name ++ " is required")
  | none =>
    if r.routeRevision < 1 ∨ r.bytes < 0 ∨ (r.direction ≠ .ingress ∧ r.direction ≠ .egress) then
      some "invalid counter or direction"
    else if r.intervalStart = 0 ∨ r.intervalEnd = 0 ∨ r.intervalEnd < r.intervalStart then some "invalid interval"
    else none

def sameUsageReport (existing : ReceiptRow) (r : UsageReport) : Bool :=
  existing.key == r.key && existing.routeRevision == r.routeRevision && (existing.observedBytes : Int) == r.bytes

namespace UsageCounter

/-- The `DO UPDATE` of `UpsertControlUsageCounter`. -/
def advance (routeRevision : Int) (bytes : Nat) (c : UsageCounter) : UsageCounter :=
  { c with
    bytes := max c.bytes bytes
    routeRevision := if c.bytes ≤ bytes then routeRevision else c.routeRevision }

theorem advance_key (routeRevision : Int) (bytes : Nat) (c : UsageCounter) : (c.advance routeRevision bytes).key = c.key := rfl

end UsageCounter

namespace Usage

def value (u : Usage) (key : CounterKey) : Nat := ((u.counters.find key).map (·.bytes)).getD 0

def accept (u : Usage) (r : UsageReport) : Usage := { u with accepted := u.accepted ++ [⟨r.key, r.bytes.toNat⟩] }

/-- `InsertControlUsageReceipt`. -/
def insertReceipt (u : Usage) (row : ReceiptRow) : Except Failure Usage :=
  match u.receipts.insert row with
  | some receipts => .ok { u with receipts }
  | none => .error .uniqueViolation

/-- `UpsertControlUsageCounter`. A new row refers to its environment and its node: `known` says that they exist. -/
def upsertCounter (u : Usage) (known : Bool) (key : CounterKey) (routeRevision : Int) (bytes : Nat) : Except Failure Usage :=
  match u.counters.find key with
  | some _ =>
    .ok { u with
      counters := u.counters.update (·.key == key) (.advance routeRevision bytes) (UsageCounter.advance_key routeRevision bytes) }
  | none =>
    match u.counters.insert ⟨key, routeRevision, bytes⟩ with
    | some counters => if known then .ok { u with counters } else .error .foreignKeyViolation
    | none => .error .uniqueViolation

end Usage

namespace World

variable (w : World) (debiter : Bool) (r : UsageReport) (dbNow : Int) (id : String)

def known (key : CounterKey) : Bool := (w.environments.find key.environmentID).isSome && w.nodes.contains key.edgeNodeID

/-- `SuspendControlEnvironmentForQuota`. -/
def suspendEnvironment : World :=
  { w with
    environments := w.environments.update (fun e => e.id == id && e.desiredState == .active) .suspend Environment.suspend_id }

def chargeUsage (delta : Nat) (dbNow : Int) (id : String) : Except Failure World :=
  if debiter ∧ 0 < delta then
    match w.debitEnvironmentBandwidthTx r.environmentID delta r.intervalEnd dbNow id with
    | .ok (reservation, books) =>
      .ok (if reservation.exhausted then { w with books }.suspendEnvironment r.environmentID else { w with books })
    | .error err => .error err
  else .ok w

/-- The part of `reconcileUsage` for an operation that has no receipt. -/
def recordUsage : Except Failure (UsageReceipt × World) := do
  let observed := r.bytes.toNat
  let delta := observed - w.usage.value r.key
  let usage ← w.usage.insertReceipt ⟨r.operationID, r.key, r.routeRevision, observed, delta⟩
  let w ← w.chargeUsage debiter r delta dbNow id
  let usage ← usage.upsertCounter (w.known r.key) r.key r.routeRevision observed
  .ok (⟨r.operationID, delta, observed, false⟩, { w with usage := usage.accept r })

def reconcileUsage : Except Failure (UsageReceipt × World) :=
  match validateUsageReport r with
  | some reason => .error (.invalidUsageReport reason)
  | none =>
    match w.usage.receipts.find r.operationID with
    | some existing =>
      if sameUsageReport existing r then
        .ok (⟨r.operationID, existing.deltaBytes, existing.observedBytes, true⟩, { w with usage := w.usage.accept r })
      else .error .usageOperationConflict
    | none => w.recordUsage debiter r dbNow id

def reconcileUsageWithBandwidth : Except Failure (UsageReceipt × World) :=
  w.reconcileUsage true r dbNow id

end World

/-! ## Calls -/

structure Outside where
  machines : Table UserMachine.id
  entitlements : Table Entitlement.userID
  environments : Table Environment.id
  nodes : List String

/-- Environments and nodes that have counters stay. With one that is deleted its counters are, and not its receipts. -/
def Outside.keeps (t : Outside) (u : Usage) : Bool :=
  u.counters.rows.all fun c => (t.environments.find c.key.environmentID).isSome && t.nodes.contains c.key.edgeNodeID

inductive Op where
  | reconcileUsageWithBandwidth (report : UsageReport) (id : String)
  | reserveBandwidth (userMachineID : String) (requestedBytes now : Int) (id : String)
  | openPeriod (id userMachineID : String) (periodStart periodEnd : Int) (ordered : periodStart < periodEnd) (includedBytes : Nat)
  | createTopup (id userID providerOrderID : String) (bytes : Nat) (expiresAt : Option Int)
  | voidTopup (userID providerOrderID : String)
  /-- Renewals, cancellations, disconnects, releases of seats: whatever others do to their tables. -/
  | outside (tables : Outside)

structure Call where
  time : Int
  op : Op

namespace World

def exec (w : World) (c : Call) : Except Failure World :=
  match c.op with
  | .reconcileUsageWithBandwidth report id => (w.reconcileUsageWithBandwidth report c.time id).map (·.2)
  | .reserveBandwidth userMachineID requestedBytes now id =>
    (w.reserveBandwidth userMachineID requestedBytes now c.time id).map fun r => { w with books := r.2 }
  | .openPeriod id userMachineID periodStart periodEnd ordered includedBytes =>
    (w.books.upsertPeriod ⟨id, userMachineID, periodStart, periodEnd, includedBytes, 0, 0, ordered⟩).map fun r => { w with books := r.2 }
  | .createTopup id userID providerOrderID bytes expiresAt =>
    (w.books.createTopup id userID providerOrderID bytes expiresAt c.time).map fun books => { w with books }
  | .voidTopup userID providerOrderID => .ok { w with books := w.books.voidTopup userID providerOrderID }
  | .outside t =>
    if t.keeps w.usage then
      .ok { w with machines := t.machines, entitlements := t.entitlements, environments := t.environments, nodes := t.nodes }
    else .error .foreignKeyViolation

/-- A call that fails leaves the tables as they are. -/
def step (w : World) (c : Call) : World := (w.exec c).toOption.getD w

end World

end Paperboat.Bandwidth

import Mathlib.Algebra.GroupWithZero.Nat
import Mathlib.Data.List.Sort
import Paperboat.Connector.Basics
import Paperboat.Lib.Checks
import Paperboat.Lib.Table
/-!
# Bandwidth of user machines

`reserveBandwidthForMachineTx` of the machine service and the statements it runs.
A request is met from the included allowance of the machine's current period, then
from the owner's top-ups, oldest first. Byte counts a table checks to be
non-negative are natural numbers; an instant is the nanoseconds since the zero time.

`grants`, `takes` and `accepted` are history: no statement reads them.
-/

namespace Paperboat.Bandwidth

open Lib
open Connector (trimSpace)

/-! ## Rows -/

inductive MachineState where
  | pending | online | offline | disconnected | revoked | deleted
  deriving DecidableEq

structure UserMachine where
  (id userID environmentID : String)
  state : MachineState
  observedCapabilities : List String
  deletedAt : Option Int
  deriving DecidableEq

inductive EntitlementState where
  | trialing | active | pastDue | canceled | revoked
  deriving DecidableEq

structure Entitlement where
  userID : String
  state : EntitlementState
  allowanceBytes : Nat
  (currentPeriodStart currentPeriodEnd : Int)
  ordered : currentPeriodStart < currentPeriodEnd
  deriving DecidableEq

namespace Entitlement

def entitles (e : Entitlement) : Bool := e.state == .active || e.state == .trialing

def covers (e : Entitlement) (now : Int) : Bool :=
  e.entitles && decide (now < e.currentPeriodEnd) && decide (e.currentPeriodStart ≤ now)

end Entitlement

structure BandwidthPeriod where
  (id userMachineID : String)
  (periodStart periodEnd : Int)
  (includedBytes consumedIncludedBytes consumedTopupBytes : Nat)
  ordered : periodStart < periodEnd

namespace BandwidthPeriod

variable (bytes : Nat) (p : BandwidthPeriod)

def available : Int := p.includedBytes - p.consumedIncludedBytes

def consumed : Nat := p.consumedIncludedBytes + p.consumedTopupBytes

def consumeIncluded : BandwidthPeriod :=
  { p with consumedIncludedBytes := p.consumedIncludedBytes + bytes }

def recordTopup : BandwidthPeriod :=
  { p with consumedTopupBytes := p.consumedTopupBytes + bytes }

theorem consumeIncluded_id : (p.consumeIncluded bytes).id = p.id := rfl

theorem recordTopup_id : (p.recordTopup bytes).id = p.id := rfl

end BandwidthPeriod

inductive TopupState where
  | active | exhausted | void
  deriving DecidableEq

structure BandwidthTopup where
  (id userID providerOrderID : String)
  (purchasedBytes remainingBytes : Nat)
  state : TopupState
  expiresAt : Option Int
  createdAt : Int
  positive : 0 < purchasedBytes
  bounded : remainingBytes ≤ purchasedBytes

namespace BandwidthTopup

/-- `state = 'active' AND remaining_bytes > 0 AND (expires_at IS NULL OR expires_at > now())`. -/
def live (now : Int) (t : BandwidthTopup) : Bool :=
  t.state == .active && decide (0 < t.remainingBytes) && t.expiresAt.all fun expiry => decide (now < expiry)

/-- The order of `created_at, id`. -/
def before (t u : BandwidthTopup) : Prop := t.createdAt < u.createdAt ∨ t.createdAt = u.createdAt ∧ t.id ≤ u.id

instance : DecidableRel before := fun _ _ => inferInstanceAs (Decidable (_ ∨ _))

def consume (bytes : Nat) (t : BandwidthTopup) : BandwidthTopup :=
  { t with
    remainingBytes := t.remainingBytes - bytes
    state := if t.remainingBytes - bytes = 0 then .exhausted else .active
    bounded := (Nat.sub_le _ _).trans t.bounded }

def void (t : BandwidthTopup) : BandwidthTopup :=
  { t with remainingBytes := 0, state := .void, bounded := Nat.zero_le _ }

theorem consume_id (bytes : Nat) (t : BandwidthTopup) : (t.consume bytes).id = t.id := rfl

theorem void_id (t : BandwidthTopup) : t.void.id = t.id := rfl

end BandwidthTopup

inductive EnvironmentState where
  | active | suspended | other (state : String)
  deriving DecidableEq

structure Environment where
  id : String
  desiredState : EnvironmentState
  desiredVersion : Int

namespace Environment

def suspend (e : Environment) : Environment :=
  { e with desiredState := .suspended, desiredVersion := e.desiredVersion + 1 }

theorem suspend_id (e : Environment) : e.suspend.id = e.id := rfl

end Environment

inductive Direction where
  | ingress | egress
  | other (text : String)
  deriving DecidableEq

structure CounterKey where
  (edgeNodeID counterEpoch environmentID routeID : String)
  direction : Direction
  deriving DecidableEq

structure UsageCounter where
  key : CounterKey
  routeRevision : Int
  bytes : Nat

/-- A row of `control_usage_receipts`. -/
structure ReceiptRow where
  operationID : String
  key : CounterKey
  routeRevision : Int
  (observedBytes deltaBytes : Nat)

/-! ## History -/

/-- A request of a machine that was answered: the period it was charged to and
the top-ups that were live when it came. -/
structure Grant where
  userMachineID : String
  (requested granted : Nat)
  periodID : String
  live : List String

structure Take where
  topupID : String
  bytes : Nat

/-- A report that was accepted, first or repeated. -/
structure Observation where
  key : CounterKey
  bytes : Nat

structure Books where
  periods : Table BandwidthPeriod.id
  topups : Table BandwidthTopup.id
  grants : List Grant
  takes : List Take

structure Usage where
  counters : Table UsageCounter.key
  receipts : Table ReceiptRow.operationID
  accepted : List Observation

structure World where
  machines : Table UserMachine.id
  entitlements : Table Entitlement.userID
  environments : Table Environment.id
  nodes : List String
  books : Books
  usage : Usage

def World.initial : World := ⟨.empty, .empty, .empty, [], ⟨.empty, .empty, [], []⟩, ⟨.empty, .empty, []⟩⟩

inductive Failure where
  | notFound
  | invalidBandwidth
  | bandwidthDenied
  | invalidUsageReport (reason : String)
  | usageOperationConflict
  | uniqueViolation
  | foreignKeyViolation
  | checkViolation

structure BandwidthReservation where
  grantedBytes : Nat
  exhausted : Bool

namespace Books

/-! ## Statements -/

variable (b : Books) (id : String) (bytes : Nat)

/-- `UpsertUserMachineBandwidthPeriod`: a period that exists is returned as it is. -/
def upsertPeriod (p : BandwidthPeriod) : Except Failure (BandwidthPeriod × Books) :=
  match b.periods.rows.find? fun q => q.userMachineID == p.userMachineID && q.periodStart == p.periodStart with
  | some q => .ok (q, b)
  | none =>
    match b.periods.insert p with
    | some periods => .ok (p, { b with periods })
    | none => .error .uniqueViolation

def useIncluded : Books :=
  { b with periods := b.periods.update (·.id == id) (.consumeIncluded bytes) (BandwidthPeriod.consumeIncluded_id bytes) }

def useTopups : Books :=
  { b with periods := b.periods.update (·.id == id) (.recordTopup bytes) (BandwidthPeriod.recordTopup_id bytes) }

/-- `ConsumeUserMachineIncludedBandwidth`; no result when no row was changed. -/
def consumeIncluded : Option Books :=
  match b.periods.find id with
  | some p => if p.consumedIncludedBytes + bytes ≤ p.includedBytes then some (b.useIncluded id bytes) else none
  | none => none

/-- `RecordUserMachineTopupConsumption`. -/
def recordTopupConsumption : Except Failure Books :=
  match b.periods.find id with
  | some _ => .ok (b.useTopups id bytes)
  | none => .error .bandwidthDenied

/-- `ListActiveUserMachineTopupsForUpdate`. -/
def activeTopups (userID : String) (now : Int) : List BandwidthTopup :=
  (b.topups.rows.filter fun t => t.userID == userID && t.live now).insertionSort BandwidthTopup.before

def take : Books :=
  { b with
    topups := b.topups.update (·.id == id) (.consume bytes) (BandwidthTopup.consume_id bytes)
    takes := b.takes ++ [⟨id, bytes⟩] }

/-- `ConsumeUserMachineTopup`; no result when no row was changed. -/
def consumeTopup : Option Books :=
  match b.topups.find id with
  | some t => if t.state = .active ∧ bytes ≤ t.remainingBytes then some (b.take id bytes) else none
  | none => none

/-- `CreateUserMachineBandwidthTopup`: an order that has its top-up is left alone. -/
def createTopup (id userID providerOrderID : String) (bytes : Nat) (expiresAt : Option Int) (now : Int) :
    Except Failure Books :=
  if h : 0 < bytes then
    if b.topups.rows.any (·.providerOrderID == providerOrderID) then .ok b
    else
      match b.topups.insert ⟨id, userID, providerOrderID, bytes, bytes, .active, expiresAt, now, h, le_rfl⟩ with
      | some topups => .ok { b with topups }
      | none => .error .uniqueViolation
  else .error .checkViolation

/-- `VoidUserMachineBandwidthTopup`. -/
def voidTopup (userID providerOrderID : String) : Books :=
  { b with
    topups := b.topups.update
      (fun t => t.userID == userID && t.providerOrderID == providerOrderID && t.state == .active) .void BandwidthTopup.void_id }

/-! ## A request -/

def spendIncluded (period : BandwidthPeriod) (requested : Nat) : Except Failure (Nat × Books) :=
  if 0 < period.available then
    match b.consumeIncluded period.id (min requested period.available.toNat) with
    | some b' => .ok (min requested period.available.toNat, b')
    | none => .error .bandwidthDenied
  else .ok (0, b)

/-- The loop over the top-ups: what is still wanted, and what was granted. -/
def spendTopups : List BandwidthTopup → (remaining granted : Nat) → Books → Except Failure (Nat × Nat × Books)
  | [], remaining, granted, b => .ok (remaining, granted, b)
  | t :: ts, remaining, granted, b =>
    if remaining = 0 then .ok (remaining, granted, b)
    else
      match b.consumeTopup t.id (min remaining t.remainingBytes) with
      | some b' => spendTopups ts (remaining - min remaining t.remainingBytes) (granted + min remaining t.remainingBytes) b'
      | none => .error .bandwidthDenied

/-- The top-up share of a grant, from the allowance that was read at the start. -/
def recordGrant (period : BandwidthPeriod) (granted : Nat) : Except Failure Books :=
  if 0 < granted then b.recordTopupConsumption period.id ((granted : Int) - min (granted : Int) period.available).toNat
  else .ok b

/-- The part of `reserveBandwidthForMachineTx` that charges the period. -/
def chargePeriod (machine : UserMachine) (period : BandwidthPeriod) (requested : Nat) (dbNow : Int) :
    Except Failure (BandwidthReservation × Books) := do
  let (included, b) ← b.spendIncluded period requested
  let live := b.activeTopups machine.userID dbNow
  let (remaining, granted, b) ← spendTopups live (requested - included) included b
  let b ← b.recordGrant period granted
  .ok (⟨granted, decide (0 < remaining)⟩,
    { b with grants := b.grants ++ [⟨machine.id, requested, granted, period.id, live.map (·.id)⟩] })

end Books

namespace World

/-- `ensureCurrentBandwidthPeriodAt`; `id` is the new identifier of `newID`. -/
def ensureCurrentBandwidthPeriodAt (w : World) (machine : UserMachine) (now : Int) (id : String) :
    Except Failure (BandwidthPeriod × Books) :=
  match w.entitlements.find machine.userID with
  | none => .error .bandwidthDenied
  | some e =>
    if e.covers now then
      w.books.upsertPeriod ⟨id, machine.id, e.currentPeriodStart, e.currentPeriodEnd, e.allowanceBytes, 0, 0, e.ordered⟩
    else .error .bandwidthDenied

/-- `reserveBandwidthForMachineTx`; `now` is the instant the request is charged at, `dbNow` the start of the transaction. -/
def reserveBandwidthForMachineTx (w : World) (machine : UserMachine) (requested : Nat) (now dbNow : Int)
    (requireActiveMachine : Bool) (id : String) : Except Failure (BandwidthReservation × Books) := do
  refuseIf (requireActiveMachine && (machine.state != .online || !machine.observedCapabilities.contains "file_receive"))
    .bandwidthDenied
  let (period, books) ← w.ensureCurrentBandwidthPeriodAt machine now id
  books.chargePeriod machine period requested dbNow

def reserveBandwidth (w : World) (userMachineID : String) (requestedBytes : Int) (now dbNow : Int) (id : String) :
    Except Failure (BandwidthReservation × Books) :=
  if trimSpace userMachineID = "" then .error .notFound
  else if requestedBytes ≤ 0 then .error .invalidBandwidth
  else
    match w.machines.find (trimSpace userMachineID) with
    | some machine =>
      if machine.deletedAt.isNone then w.reserveBandwidthForMachineTx machine requestedBytes.toNat now dbNow true id
      else .error .notFound
    | none => .error .notFound

/-- `GetUserMachineForEnvironmentBandwidthUpdate`. -/
def machineOfEnvironment (w : World) (environmentID : String) : Option UserMachine :=
  w.machines.rows.find? fun m => m.environmentID == environmentID && m.deletedAt.isNone

/-- `DebitEnvironmentBandwidthTx`. An environment without a user machine is hosted and is not charged. -/
def debitEnvironmentBandwidthTx (w : World) (environmentID : String) (bytes : Int) (now dbNow : Int) (id : String) :
    Except Failure (BandwidthReservation × Books) :=
  if trimSpace environmentID = "" ∨ bytes ≤ 0 then .error .invalidBandwidth
  else
    match w.machineOfEnvironment (trimSpace environmentID) with
    | some machine => w.reserveBandwidthForMachineTx machine bytes.toNat now dbNow false id
    | none => .ok (⟨0, false⟩, w.books)

end World

end Paperboat.Bandwidth

import Paperboat.Lib.Checks
import Paperboat.Lib.Fields
import Paperboat.Lib.Table
import Paperboat.Projects.Lifecycle
/-!
# Storage accounts

`storage_accounts` holds what a user may allocate and has allocated, a row of
`project_storage_allocations` what a project is assigned, `storage_ledger_entries`
one row for each change of `allocated_gb`, under a unique idempotency key. Each
request is one serializable transaction, so it is a function on the tables, and
one that fails leaves them as they were.

Sizes are Go `int`s and are narrowed to the `integer` columns without a check, so
both widths are written out.
-/

namespace Paperboat.Projects

open Lib

/-- A conversion to `int32`. -/
def int32 (n : Int) : Int := n.bmod (2 ^ 32)

/-- The result of an `int` operation. -/
def int64 (n : Int) : Int := n.bmod (2 ^ 64)

def maxInt32 : Int := 2147483647

/-! ## Tables -/

structure StorageAccount where
  (id userID : String)
  (includedGB purchasedGB allocatedGB : Int)

/-- The checks of the table; the sum is an `integer` too. -/
def StorageAccount.valid (a : StorageAccount) : Bool :=
  0 ≤ a.includedGB ∧ 0 ≤ a.purchasedGB ∧ 0 ≤ a.allocatedGB ∧ a.allocatedGB ≤ a.includedGB + a.purchasedGB ∧
    a.includedGB + a.purchasedGB ≤ maxInt32

/-- A project with its row of `project_storage_allocations`. -/
structure StoredProject where
  (id userID idempotencyKey : String)
  state : ProjectState
  version : Nat
  accountID : String
  assignedGB : Int
  allocationVersion : Nat

inductive StorageEntryType where
  | allocation | release | includedSet
  deriving DecidableEq

inductive StorageSource where
  | project (id : String)
  | plan (id : String)
  deriving DecidableEq

structure StorageEntry where
  accountID : String
  entryType : StorageEntryType
  amountGB : Int
  source : StorageSource
  idempotencyKey : String

structure StorageTables where
  accounts : Table StorageAccount.id
  projects : Table StoredProject.id
  ledger : Table StorageEntry.idempotencyKey

inductive StorageErr where
  | notFound | versionConflict | deleted | insufficientStorage | idempotencyConflict | releaseExceedsAllocated
  | noRows | uniqueViolation | checkViolation

/-! ## Keys -/

def allocateKey (projectID : String) : String := "project.storage.allocate:" ++ projectID

/-- `project.storage.resize:%s:%d:%d:%d` -/
def resizeKey (projectID : String) (version : Nat) (oldGB newGB : Int) : String :=
  "project.storage.resize:" ++ projectID ++ ":" ++ toString version ++ ":" ++ toString oldGB ++ ":" ++ toString newGB

def deleteKey (projectID : String) : String := "project.storage.release.delete:" ++ projectID

def freePlanKey (planID userID : String) : String := "free-plan:" ++ planID ++ ":storage:" ++ userID

/-! ## Statements -/

namespace StorageTables

variable (t : StorageTables)

def insertEntry (entry : StorageEntry) : Except StorageErr StorageTables :=
  match t.ledger.insert entry with
  | some ledger => .ok { t with ledger }
  | none => .error .uniqueViolation

/-- `GetProjectStorageLedgerAmount` and `GetFreePlanStorageLedgerAmount`: the key and what goes with it. -/
def ledgerAmount (key accountID : String) (source : StorageSource) (entryType : StorageEntryType) : Option Int :=
  match t.ledger.find key with
  | some e => if e.accountID = accountID ∧ e.source = source ∧ e.entryType = entryType then some e.amountGB else none
  | none => none

def account (t : StorageTables) (accountID : String) : Except StorageErr StorageAccount :=
  match t.accounts.find accountID with
  | some account => .ok account
  | none => .error .noRows

/-- An `UPDATE` of one account, which the table's checks may refuse. -/
def setAccount (accountID : String) (change : StorageAccount → StorageAccount)
    (keeps : ∀ a, (change a).id = a.id) : Except StorageErr StorageTables :=
  match t.accounts.find accountID with
  | some a =>
    if (change a).valid then .ok { t with accounts := t.accounts.update (·.id == accountID) change keeps }
    else .error .checkViolation
  | none => .ok t

/-- `allocated_gb = allocated_gb + $2`. -/
def addAllocated (accountID : String) (amountGB : Int) : Except StorageErr StorageTables :=
  t.setAccount accountID (fun a => { a with allocatedGB := a.allocatedGB + amountGB }) fun _ => rfl

def setProject (projectID : String) (change : StoredProject → StoredProject)
    (keeps : ∀ p, (change p).id = p.id) : StorageTables :=
  { t with projects := t.projects.update (·.id == projectID) change keeps }

def ensureStorageAccount (newID userID : String) : Except StorageErr (StorageTables × String) :=
  match t.accounts.rows.find? (·.userID == userID) with
  | some account => .ok (t, account.id)
  | none =>
    match t.accounts.insert ⟨newID, userID, 0, 0, 0⟩ with
    | some accounts => .ok ({ t with accounts }, newID)
    | none => .error .uniqueViolation

end StorageTables

/-- What `GetStorageAccountForUpdate` finds in the subscription: limits that are about to come. -/
structure PendingLimits where
  (includedGB purchasedGB : Option Int)

/-- `int(account.IncludedGb+account.PurchasedGb)`. -/
def PendingLimits.limitGB (pending : PendingLimits) (a : StorageAccount) : Int :=
  int32 (min a.includedGB (pending.includedGB.getD a.includedGB) +
    min a.purchasedGB (pending.purchasedGB.getD a.purchasedGB))

structure FreePlan where
  id : String
  includedGB : Int

/-! ## Transactions -/

namespace StorageTables

variable (t : StorageTables) (userID projectID : String)

def reserveStorageTx (accountID projectID : String) (amountGB : Int) (key : String)
    (pending : PendingLimits) : Except StorageErr StorageTables :=
  match t.ledgerAmount key accountID (.project projectID) .allocation with
  | some existing => if existing = amountGB then .ok t else .error .idempotencyConflict
  | none => do
    let account ← t.account accountID
    refuseIf (decide (int64 (account.allocatedGB + amountGB) > pending.limitGB account)) .insufficientStorage
    let t ← t.addAllocated accountID (int32 amountGB)
    t.insertEntry ⟨accountID, .allocation, int32 amountGB, .project projectID, key⟩

def releaseStorageReservationTx (accountID projectID : String) (amountGB : Int) (key : String) :
    Except StorageErr StorageTables :=
  match t.ledgerAmount key accountID (.project projectID) .release with
  | some existing => if existing = amountGB then .ok t else .error .idempotencyConflict
  | none => do
    let account ← t.account accountID
    refuseIf (decide (account.allocatedGB < amountGB)) .releaseExceedsAllocated
    let t ← t.addAllocated accountID (-int32 amountGB)
    t.insertEntry ⟨accountID, .release, int32 amountGB, .project projectID, key⟩

def ensureFreeStorage (userID accountID : String) (plan : FreePlan) : Except StorageErr StorageTables :=
  match t.ledgerAmount (freePlanKey plan.id userID) accountID (.plan plan.id) .includedSet with
  | some existing => if existing = plan.includedGB then .ok t else .error .idempotencyConflict
  | none => do
    let account ← t.account accountID
    refuseIf (decide (account.allocatedGB > int32 (plan.includedGB + account.purchasedGB))) .insufficientStorage
    let t ← t.setAccount accountID (fun a => { a with includedGB := plan.includedGB }) fun _ => rfl
    t.insertEntry ⟨accountID, .includedSet, plan.includedGB, .plan plan.id, freePlanKey plan.id userID⟩

structure NewProject where
  (id userID idempotencyKey newAccountID : String)

/-- `projects` has unique ids and unique keys of one user. -/
def insertProject (p : StoredProject) : Except StorageErr StorageTables :=
  if t.projects.rows.any fun q => q.userID = p.userID ∧ q.idempotencyKey = p.idempotencyKey then .error .uniqueViolation
  else
    match t.projects.insert p with
    | some projects => .ok { t with projects }
    | none => .error .uniqueViolation

def createIntent (new : NewProject) (storageGB : Int) (freePlan : Option FreePlan)
    (pending : PendingLimits) : Except StorageErr StorageTables := do
  let (t, accountID) ← t.ensureStorageAccount new.newAccountID new.userID
  let t ← match freePlan with
    | some plan => t.ensureFreeStorage new.userID accountID plan
    | none => .ok t
  let t ← t.insertProject ⟨new.id, new.userID, new.idempotencyKey, .provisioningStorage, 2, accountID, int32 storageGB, 1⟩
  t.reserveStorageTx accountID new.id storageGB (allocateKey new.id) pending

/-- The part of `updateDesiredConfigOnce` that moves storage. -/
def resize (p : StoredProject) (storageGB : Int) (pending : PendingLimits) : Except StorageErr StorageTables :=
  let delta := int64 (storageGB - p.assignedGB)
  let key := resizeKey p.id p.allocationVersion p.assignedGB storageGB
  if delta > 0 then t.reserveStorageTx p.accountID p.id delta key pending
  else if delta < 0 then t.releaseStorageReservationTx p.accountID p.id (int64 (-delta)) key
  else .ok t

def projectOf : Except StorageErr StoredProject :=
  match t.projects.find projectID with
  | some p => if p.userID = userID then .ok p else .error .notFound
  | none => .error .notFound

def updateDesiredConfig (storageGB : Int) (expectedVersion : Option Nat)
    (pending : PendingLimits) : Except StorageErr StorageTables := do
  let p ← t.projectOf userID projectID
  refuseIf (decide (∃ v ∈ expectedVersion, p.version ≠ v)) .versionConflict
  refuseIf (decide (p.state = .deleting ∨ p.state = .deleted)) .deleted
  let t ← t.resize p storageGB pending
  .ok (t.setProject projectID (fun p =>
    { p with assignedGB := int32 storageGB, allocationVersion := p.allocationVersion + 1, version := p.version + 1 })
    fun _ => rfl)

/-- `markDeletedAndReleaseStorageTx`, which `MarkDeletedAndReleaseStorage` of the orchestrator repeats word for word. -/
def markDeletedAndReleaseStorage (projectID : String) : Except StorageErr StorageTables :=
  match t.projects.find projectID with
  | none => .error .noRows
  | some p => do
    let t ← match t.ledger.find (deleteKey projectID) with
      | some _ => .ok t
      | none => do
        let t ← t.addAllocated p.accountID (-p.assignedGB)
        t.insertEntry ⟨p.accountID, .release, p.assignedGB, .project projectID, deleteKey projectID⟩
    .ok (t.setProject projectID (fun p => { p with state := .deleted, version := p.version + 1 }) fun _ => rfl)

/-- `MarkDeleting`; `provisioned` is what `ProjectHasProviderResources` says. -/
def markDeleting (provisioned : Bool) : Except StorageErr StorageTables := do
  let p ← t.projectOf userID projectID
  refuseIf (decide (p.state = .deleted)) .notFound
  let t := t.setProject projectID (fun p => { p with state := .deleting, version := p.version + 1 }) fun _ => rfl
  if provisioned then .ok t else t.markDeletedAndReleaseStorage projectID

end StorageTables

/-! ## Histories -/

inductive StorageOp where
  | createIntent (new : StorageTables.NewProject) (storageGB : Int) (freePlan : Option FreePlan) (pending : PendingLimits)
  | updateDesiredConfig (userID projectID : String) (storageGB : Int) (expectedVersion : Option Nat)
      (pending : PendingLimits)
  | markDeleting (userID projectID : String) (provisioned : Bool)
  | markDeletedAndReleaseStorage (projectID : String)
  /-- An account is opened when its user signs in. -/
  | openAccount (newID userID : String)
  /-- Another request records a state. A job that overwrites `deleted` is not part of these
  histories: `Deletion` is about it. -/
  | recordState (projectID : String) (state : ProjectState)
  /-- Billing changes what may be allocated, within the checks of the table. -/
  | setLimits (accountID : String) (includedGB purchasedGB : Int)

namespace StorageTables

def exec (t : StorageTables) : StorageOp → Except StorageErr StorageTables
  | .createIntent new storageGB freePlan pending => t.createIntent new storageGB freePlan pending
  | .updateDesiredConfig userID projectID storageGB expectedVersion pending =>
    t.updateDesiredConfig userID projectID storageGB expectedVersion pending
  | .markDeleting userID projectID provisioned => t.markDeleting userID projectID provisioned
  | .markDeletedAndReleaseStorage projectID => t.markDeletedAndReleaseStorage projectID
  | .openAccount newID userID => (t.ensureStorageAccount newID userID).map Prod.fst
  | .recordState projectID state =>
    .ok (t.setProject projectID
      (fun p => if p.state = .deleted ∨ state = .deleted then p else { p with state, version := p.version + 1 })
      fun p => by split <;> rfl)
  | .setLimits accountID includedGB purchasedGB =>
    t.setAccount accountID (fun a => { a with includedGB, purchasedGB }) fun _ => rfl

def step (t : StorageTables) (op : StorageOp) : StorageTables :=
  match t.exec op with
  | .ok t' => t'
  | .error _ => t

structure NoProjects (t : StorageTables) : Prop where
  projects : t.projects.rows = []
  accounts : ∀ a ∈ t.accounts.rows, a.valid ∧ a.allocatedGB = 0
  ledger : ∀ e ∈ t.ledger.rows, ¬"project.storage.".toList <+: e.idempotencyKey.toList

/-- The sum of `assigned_gb` over the projects of an account that are not deleted. -/
def assignedTo (t : StorageTables) (accountID : String) : Int :=
  ((t.projects.rows.filter fun p => p.accountID = accountID ∧ p.state ≠ .deleted).map (·.assignedGB)).sum

end StorageTables

end Paperboat.Projects

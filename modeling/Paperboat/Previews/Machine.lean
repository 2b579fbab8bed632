import Paperboat.Lib.Runs
import Paperboat.Previews.Leases
/-!
# The machine of previews

One step is one transaction: a request on a lease or a domain, a pass of a worker,
or a call of the certificate store. A transaction that fails leaves the tables as
they were. What a transaction reads from tables that are not modelled is part of
its operation.
-/

namespace Paperboat.Previews

open Lib

inductive CertificateCall where
  | putStaged (names : Tunnel.Names) (v : Tunnel.StoredCertificate)
  | markFailed (id reason : String) (now : Time)
  | activate (id : String) (domainGeneration : Nat) (now : Time)
  | supersedeOlder (domainID : String) (generation : Nat) (now : Time)
  | supersedeOlderForHostname (names : Tunnel.Names) (domainID hostname : String) (generation : Nat) (now : Time)
  | rebind (certificateID accountID domainID previewID : String) (previous generation : Nat) (expiresAt now : Time)
  | revoke (id reason : String) (now : Time)

/-- `SQLStore.Revoke` on the records; what it does to `tunnel_domains` does not concern a preview. -/
def revokeRecord (w : Tunnel.Tables) (id reason : String) (now : Time) : Except Tunnel.Err Tunnel.Tables :=
  if !Tunnel.validIdentifier id then .error (.ofSentinel .invalid)
  else
    match w.records.find id with
    | none => .error (.ofSentinel .certificateNotReady)
    | some r =>
      if r.state = .revoked then .ok w
      else .ok { w with
        records := w.records.update (·.id == id) (·.mark .revoked reason now) fun r => r.mark_id _ _ _ }

def CertificateCall.run (w : Tunnel.Tables) : CertificateCall → Except Tunnel.Err Tunnel.Tables
  | .putStaged names v => w.putStaged names v
  | .markFailed id reason now => w.markFailed id reason now
  | .activate id domainGeneration now => (w.activate id domainGeneration now).map (·.2)
  | .supersedeOlder domainID generation now => w.supersedeOlder domainID generation now
  | .supersedeOlderForHostname names domainID hostname generation now =>
    w.supersedeOlderForHostname names domainID hostname generation now
  | .rebind certificateID accountID domainID previewID previous generation expiresAt now =>
    (w.rebindPreviewCertificateTarget certificateID accountID domainID previewID previous generation expiresAt now).map (·.2)
  | .revoke id reason now => revokeRecord w id reason now

inductive Op where
  | createLease (hosts : Hosts) (input : CreateLease) (shared : Option Bool) (env : Surroundings)
  | renewLease (input : RenewLease)
  | stopLease (input : StopLease) (allowed : Bool)
  | markReady (input : MarkReady)
  | markUncertain (input : MarkUncertain)
  | reconcileLeases (input : ReconcileLeases) (inactive : Lease → Bool)
  | createDomain (input : CreateDomain) (env : Surroundings)
  | mutateDomain (input : ChangeDomain) (verify : Bool)
  | applyObservation (o : Tables.Observation)
  | releaseQuarantines (now : Time)
  | commitCertificate (input : Tables.CommitReady)
  | certificate (domains : Table Tunnel.DomainRow.id) (call : CertificateCall)

namespace Tables

def exec (s : Tables) : Op → Except Err Tables
  | .createLease hosts input shared env => (s.createLease hosts input shared env).map (·.2.2)
  | .renewLease input => (s.renewLease input).map (·.2.2)
  | .stopLease input allowed => (s.stopLease input allowed).map (·.2.2)
  | .markReady input => (s.markReady input).map (·.2)
  | .markUncertain input => s.markUncertain input
  | .reconcileLeases input inactive => s.reconcileLeases input inactive
  | .createDomain input env => s.createDomain input env
  | .mutateDomain input verify => s.mutateDomain input verify
  | .applyObservation o => s.applyObservation o
  | .releaseQuarantines now => s.releaseExpiredQuarantines now
  | .commitCertificate input => s.commitCertificateReady input
  | .certificate domains call =>
    match call.run (s.certificates domains) with
    | .ok w => .ok { s with records := w.records }
    | .error e => .error (.certificate e)

def step (s : Tables) (op : Op) : Tables :=
  match s.exec op with
  | .ok s' => s'
  | .error _ => s

def initial : Tables where
  leases := ⟨[], List.nodup_nil⟩
  domains := ⟨[], List.nodup_nil⟩
  records := ⟨[], List.nodup_nil⟩
  operations := ⟨[], List.nodup_nil⟩
  createOperations := ⟨[], List.nodup_nil⟩

end Tables

/-! ## A preview with one domain -/

namespace Sample

def at_ (minutes : Int) : Time := ⟨minutes * Duration.minute, 0⟩

def hosts : Hosts := ⟨fun _ => true, fun _ _ _ => true, fun endpoint => some endpoint⟩

def env : Surroundings := ⟨at_ 1, fun _ => false⟩

def shop : DomainRequest := ⟨"pdom_1", "shop.example", .exact, "dns-challenge://1", .generic, .managed⟩

def lease : CreateLease where
  operationID := "op_1"
  leaseID := "pvw_1"
  auditEventID := "aud_1"
  accountID := "acc_1"
  actorID := "acc_1"
  actorType := "user"
  ownerDeviceID := "dev_1"
  ownerSessionID := "ses_1"
  targetScheme := "http"
  targetAddress := "localhost:3000"
  accessMode := .privateAccess
  endpointID := "ept_1"
  endpoint := "https://one.example"
  leaseDeadline := at_ 60
  userDeadline := none
  requestHash := 1
  idempotencyKey := "key_1"
  correlationID := "cor_1"
  requestID := "req_1"
  now := at_ 1
  domains := [shop]

def create : Op := .createLease hosts lease (some false) env

def mark (allocation : AllocationState) (generation : Nat) : MarkReady where
  auditEventID := "aud_2"
  accountID := "acc_1"
  actorID := "edge"
  actorType := "edge"
  previewID := "pvw_1"
  expectedGeneration := generation
  allocationState := allocation
  edgeState := .pending
  originState := .unknown
  correlationID := "cor_1"
  requestID := "req_1"
  now := at_ 2

def renewal : RenewLease where
  operationID := "op_3"
  auditEventID := "aud_4"
  accountID := "acc_1"
  actorID := "acc_1"
  actorType := "user"
  previewID := "pvw_1"
  ownerDeviceID := "dev_1"
  ownerSessionID := "ses_1"
  expectedGeneration := 1
  leaseDeadline := at_ 90
  requestHash := 3
  idempotencyKey := "key_3"
  correlationID := "cor_1"
  requestID := "req_1"
  now := at_ 3

def deletion : ChangeDomain where
  mutation := ⟨"op_2", "aud_3", "key_2", 2⟩
  accountID := "acc_1"
  previewID := "pvw_1"
  domainID := "pdom_1"
  expectedGeneration := 1
  now := at_ 2

end Sample

end Paperboat.Previews

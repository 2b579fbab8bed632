import Paperboat.Attachments.Allocation
/-!
# Runs

The transactions on attachments in any order, with any arguments, and with anything
happening to leases, machines and nodes in between. `Service.Admit` reads, and then
goes on with what it has read, however old, in two transactions. A log that no transaction reads
records what the readiness of a row rests on: when its carrier was set, when an edge
acknowledged an admission, and when the edge and the origin were observed.
-/

namespace Paperboat.Attachments

open Lib

inductive Cmd where
  | createPending (a : Attachment)
  | renew (current next : Attachment)
  | acknowledge (nodeID processEpoch accountID operationID : String) (generation : Nat) (action : Action)
  | admitRead (locked : Node → Bool) (proof : MachineProof) (req : Request) (binding : Binding) (generation : Nat)
  | admitPrepare (current : Attachment)
  | admitPublish (current : Attachment)
  | observeEdge (a : Attachment)
  | observeOrigin (a : Attachment) (originReady : Bool)
  | release (a : Attachment)
  | expire
  | requeue
  | claimDetach (claimed : Command → Bool)
  /-- The other tables change. -/
  | surroundings (w : Registry)

inductive Event where
  /-- The row was inserted, or renewed with another carrier. -/
  | carrierSet (key : String × String) (carrier : Carrier)
  /-- A process of an edge acknowledged an admission of a carrier. -/
  | acknowledged (key : String × String) (nodeID processEpoch : String) (carrier : Carrier)
  | edgeObserved (key : String × String)
  | originObserved (key : String × String)

namespace World

def commit (w : World) {α : Type} (result : Except Err (α × World)) : Except Err Unit × World :=
  match result with
  | .ok (_, w') => (.ok (), w')
  | .error e => (.error e, w)

def commitWorld (w : World) (result : Except Err World) : Except Err Unit × World :=
  match result with
  | .ok w' => (.ok (), w')
  | .error e => (.error e, w)

/-- `admitting` is what calls of `Service.Admit` have read. -/
def exec (codec : Codec) (w : World) (admitting : List Attachment) (now : Time) : Cmd → Except Err Unit × World
  | .createPending a => w.commit (w.createPending codec a now)
  | .renew current next => w.commit (w.renew codec current next now)
  | .acknowledge nodeID processEpoch accountID operationID generation action =>
    w.commitWorld (w.acknowledge codec nodeID processEpoch accountID operationID generation action now)
  | .admitRead locked proof req binding generation =>
    ((w.admissionTarget codec locked proof req binding generation now).map fun _ => (), w)
  | .admitPrepare current =>
    if current ∈ admitting then w.commitWorld (w.prepareCurrent codec current now) else (.error .notFound, w)
  | .admitPublish current =>
    if current ∈ admitting then w.commit (w.publishAdmission codec current now) else (.error .notFound, w)
  | .observeEdge a => w.commit (w.observeEdge codec a now)
  | .observeOrigin a originReady => w.commit (w.observeOrigin codec a originReady now)
  | .release a => w.commit (w.release codec a now)
  | .expire => w.commitWorld (w.expire now)
  | .requeue => (.ok (), w.requeue now)
  | .claimDetach claimed => (.ok (), w.claimDetach claimed now)
  | .surroundings registry => (.ok (), { w with toRegistry := registry })

def reads (codec : Codec) (w : World) (now : Time) : Cmd → List Attachment
  | .admitRead locked proof req binding generation =>
    match w.admissionTarget codec locked proof req binding generation now with
    | .ok (current, true) => [current]
    | _ => []
  | _ => []

/-- What a call says when it succeeds. -/
def report (w : World) : Cmd → List Event
  | .acknowledge nodeID processEpoch accountID operationID generation .admission =>
    (w.command? nodeID processEpoch accountID operationID generation .admission).toList.map fun c =>
      .acknowledged (accountID, operationID) nodeID processEpoch (c.binding.carrier c.configContentHash)
  | .observeEdge a => [.edgeObserved a.key]
  | .observeOrigin a true => [.originObserved a.key]
  | _ => []

def carriersSet (w w' : World) : List Event :=
  (w'.rows.rows.filter fun r => (w.rows.find r.key).map Row.carrier != some r.carrier).map fun r => .carrierSet r.key r.carrier

end World

structure Traced where
  world : World
  log : List Event
  admitting : List Attachment

namespace Traced

def step (codec : Codec) (s : Traced) (op : Cmd × Time) : Traced :=
  let result := s.world.exec codec s.admitting op.2 op.1
  { world := result.2
    log := s.log ++ (if result.1.toBool then s.world.report op.1 else []) ++ s.world.carriersSet result.2
    admitting := s.admitting ++ s.world.reads codec op.2 op.1 }

def initial (w : Registry) : Traced where
  world := { w with rows := .empty, outbox := .empty }
  log := []
  admitting := []

end Traced

end Paperboat.Attachments

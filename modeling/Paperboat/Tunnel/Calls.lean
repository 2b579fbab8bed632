import Paperboat.Lib.Programs
import Paperboat.Tunnel.Store
/-!
# The calls of the coordinator

A call reads or writes the tables in one statement or one transaction, talks to
an edge, or asks for something from outside: a certificate authority, the keys,
the clock. A choice says whether the call fails and what comes back from outside.
A call that fails has written nothing; what was sent to an edge is logged either way.
-/

namespace Paperboat.Tunnel

open Lib Lib.Prog

/-! ## Configuration -/

inductive Fallback where
  | leaves | legacy | neither

/-- The settings of a coordinator over the database, and which of its optional dependencies are there. -/
structure Config where
  names : Names
  x509 : X509
  gcm : Gcm
  digest : Digest
  (masterKeyReference ownerID : String)
  (lockTTL renewBefore expiryAlertWindow maxCertificateLifetime : Int)
  (alerts delegated : Bool)
  /-- The issuer is a `DNS01Issuer`. -/
  completeDNS01 : Bool
  /-- The issuer is an `ExactLeafIssuer`. -/
  exactLeaves : Bool
  fallback : Option Fallback

/-! ## Calls -/

inductive EdgeAction where
  | stage | waitReady | activate | retire | revoke
  deriving DecidableEq

inductive IssueKind where
  | leaf | dns01 | request | fallbackLeaf | fallbackLegacy
  deriving DecidableEq

structure CAAResult where
  state : CAAState
  failureCode : String

inductive Cmd where
  | clock
  | alert (code : String)
  | checkCAA (hostname : String)
  | prepareChallenge
  | issue (kind : IssueKind)
  | sealParts (bundle : CertificateBundle)
  | openParts (certificate : StoredCertificate)
  | current (domainID : String)
  | currentForHostname (domainID hostname : String)
  | currentPreview (accountID domainID previewID leaf : String)
  | currentPreviewForRebind (accountID domainID previewID leaf : String)
  | acquire (domainID : String) (domainGeneration : Nat) (now leaseUntil : Time)
  | releaseGeneration (domainID : String) (domainGeneration : Nat)
  | putStaged (value : StoredCertificate)
  | activate (id : String) (domainGeneration : Nat) (now : Time)
  | supersedeOlder (domainID : String) (generation : Nat) (now : Time)
  | supersedeOlderForHostname (domainID hostname : String) (generation : Nat) (now : Time)
  | markFailed (id reason : String) (now : Time)
  | rebindPreviewTarget (certificate : StoredCertificate) (previewGeneration : Nat) (expiresAt now : Time)
  | stageEdge (certificate : StoredCertificate) (target : EdgeTarget)
  | markEdge (certificate : StoredCertificate) (target : EdgeTarget) (state : EdgeState)
  | listEdges (certificateID : String)
  | nodeProcess (nodeID : String)
  | send (action : EdgeAction) (certificateID : String) (target : EdgeTarget)
  deriving DecidableEq

@[reducible] def Cmd.Answer : Cmd → Type
  | .clock => Time
  | .checkCAA _ => CAAResult
  | .issue _ => CertificateBundle
  | .sealParts _ | .openParts _ => Bytes × Bytes
  | .current _ | .currentForHostname .. | .currentPreview .. | .currentPreviewForRebind .. => Option StoredCertificate
  | .acquire .. => Bool
  | .activate .. | .rebindPreviewTarget .. => StoredCertificate
  | .listEdges _ => List EdgeRow
  | .nodeProcess _ => Option String
  | _ => Unit

abbrev Action (α : Type) := Prog Cmd.Answer Err α

def call (c : Cmd) : Action c.Answer := perform c

structure Choice where
  fails : Option Err := none
  /-- The clock, where the call reads it. -/
  time : Time
  caa : CAAResult := ⟨.ready, ""⟩
  bundle : CertificateBundle
  nonces : BitVec 96 × BitVec 96 := (0, 0)
  /-- The two plain texts of a record. -/
  opened : Bytes × Bytes
  /-- The process a node is registered with. -/
  process : Option String := none

/-! ## The world -/

inductive Event where
  | sent (action : EdgeAction) (certificateID : String) (target : EdgeTarget) (ok : Bool)
  | activated (certificateID : String)
  | rebound (certificateID : String)
  deriving DecidableEq

structure World extends Tables where
  log : List Event

namespace World

def write (w : World) : Except Err Tables → Except Err Unit × World
  | .ok tables => (.ok (), { w with toTables := tables })
  | .error e => (.error e, w)

/-- A statement that answers with no row where the generations forbid it. -/
def writeOrConflict (w : World) : Option Tables → Except Err Unit × World
  | some tables => (.ok (), { w with toTables := tables })
  | none => (.error (.ofSentinel .generationConflict), w)

def record (w : World) (e : Event) : World := { w with log := w.log ++ [e] }

def failed (w : World) : Cmd → World
  | .send action certificateID target => w.record (.sent action certificateID target false)
  | _ => w

end World

/-- `ErrInvalid` where the arguments are not well formed. -/
def checked {α : Type} (ok : Bool) (answer : Except Err α) : Except Err α :=
  if ok then answer else .error (.ofSentinel .invalid)

def exactHostname (names : Names) (hostname : String) : Bool :=
  match normalizeHostname names hostname with
  | .ok (host, wildcard) => !wildcard && host == hostname
  | .error _ => false

def answer (cfg : Config) : (c : Cmd) → Choice → World → Except Err c.Answer × World
  | .clock, x, w => (.ok x.time, w)
  | .alert _, _, w => (.ok (), w)
  | .checkCAA _, x, w => (.ok x.caa, w)
  | .prepareChallenge, _, w => (.ok (), w)
  | .issue _, x, w => (.ok x.bundle, w)
  | .sealParts bundle, x, w => (sealParts cfg.gcm x.nonces bundle, w)
  | .openParts _, x, w => (.ok x.opened, w)
  | .current domainID, _, w => (checked (validIdentifier domainID) (.ok (w.current domainID)), w)
  | .currentForHostname domainID hostname, _, w =>
    (checked (validIdentifier domainID && exactHostname cfg.names hostname) (.ok (w.currentForHostname domainID hostname)), w)
  | .currentPreview accountID domainID previewID leaf, x, w =>
    (checked (validIdentifier accountID && validIdentifier domainID && validIdentifier previewID &&
      (leaf == "" || exactHostname cfg.names leaf)) (.ok (w.currentPreview accountID domainID previewID leaf x.time)), w)
  | .currentPreviewForRebind accountID domainID previewID leaf, x, w =>
    (checked (validIdentifier accountID && validIdentifier domainID && validIdentifier previewID &&
      (leaf == "" || exactHostname cfg.names leaf))
      (.ok (w.currentPreviewForRebind accountID domainID previewID leaf x.time)), w)
  | .acquire domainID domainGeneration now leaseUntil, _, w =>
    if validIdentifier domainID && validIdentifier cfg.ownerID && domainGeneration != 0 && leaseUntil.after now then
      match w.acquire ⟨domainID, cfg.ownerID, domainGeneration, leaseUntil⟩ now with
      | .ok (some tables) => (.ok true, { w with toTables := tables })
      | .ok none => (.ok false, w)
      | .error e => (.error e, w)
    else (.error (.ofSentinel .invalid), w)
  | .releaseGeneration domainID domainGeneration, _, w =>
    w.write (.ok (w.releaseGeneration domainID cfg.ownerID domainGeneration))
  | .putStaged value, _, w => w.write (w.putStaged cfg.names value)
  | .activate id domainGeneration now, _, w =>
    match w.activate id domainGeneration now with
    | .ok (active, tables) => (.ok active, { w with toTables := tables }.record (.activated id))
    | .error e => (.error e, w)
  | .supersedeOlder domainID generation now, _, w => w.write (w.supersedeOlder domainID generation now)
  | .supersedeOlderForHostname domainID hostname generation now, _, w =>
    w.write (w.supersedeOlderForHostname cfg.names domainID hostname generation now)
  | .markFailed id reason now, _, w => w.write (w.markFailed id reason now)
  | .rebindPreviewTarget c previewGeneration expiresAt now, _, w =>
    match w.rebindPreviewCertificateTarget c.id c.accountID c.domainID c.previewID c.previewGeneration previewGeneration
      expiresAt now with
    | .ok (bound, tables) => (.ok bound, { w with toTables := tables }.record (.rebound c.id))
    | .error e => (.error e, w)
  | .stageEdge certificate target, x, w =>
    w.writeOrConflict (w.stageEdge certificate target x.time)
  | .markEdge certificate target state, x, w =>
    w.writeOrConflict (w.markEdge certificate target state x.time)
  | .listEdges certificateID, _, w => (.ok (w.edges.list certificateID), w)
  | .nodeProcess _, x, w => (.ok x.process, w)
  | .send action certificateID target, _, w => (.ok (), w.record (.sent action certificateID target true))

def exec (cfg : Config) (c : Cmd) (x : Choice) (w : World) : Except Err c.Answer × World :=
  match x.fails with
  | some e => if c = .clock then answer cfg c x w else (.error e, w.failed c)
  | none => answer cfg c x w

theorem exec_cases (cfg : Config) (c : Cmd) (x : Choice) (w : World) :
    exec cfg c x w = answer cfg c x w ∨ ∃ e, exec cfg c x w = (.error e, w.failed c) := by
  unfold exec
  split
  · split_ifs
    · exact .inl rfl
    · exact .inr ⟨_, rfl⟩
  · exact .inl rfl

section
variable {cfg : Config} {c : Cmd} {x : Choice} {w : World}

theorem answer_of_ok {a : c.Answer} {w' : World} (h : exec cfg c x w = (.ok a, w')) : answer cfg c x w = (.ok a, w') := by
  rcases exec_cases cfg c x w with he | ⟨e, he⟩
  · exact he ▸ h
  · cases h.symm.trans he

theorem exec_keeps {F : World → Prop} (hf : F (w.failed c)) (hanswer : F (answer cfg c x w).2) : F (exec cfg c x w).2 := by
  rcases exec_cases cfg c x w with h | ⟨e, h⟩
  · rwa [h]
  · rwa [h]

end

namespace World

theorem writeOrConflict_keeps {w : World} {r : Option Tables} {F : World → Prop} (h : F w)
    (hr : ∀ tables, r = some tables → F { w with toTables := tables }) : F (w.writeOrConflict r).2 := by
  cases r with
  | some tables => exact hr tables rfl
  | none => exact h

end World

end Paperboat.Tunnel

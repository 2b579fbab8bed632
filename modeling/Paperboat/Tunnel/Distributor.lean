import Paperboat.Tunnel.Calls
/-!
# The distributor

`SQLDistributor` keeps the distribution rows and the edges in step: it stages a
row before it sends the certificate, and reports what the edge answered on the
row afterwards. Each of its methods is a program of statements and messages.
-/

namespace Paperboat.Tunnel

open Lib Lib.Prog

/-! ## Requests -/

structure DistributionRequest where
  certificate : StoredCertificate
  bundle : CertificateBundle
  target : EdgeTarget

/-- A record that may be sent to an edge or removed from it. -/
def StoredCertificate.validateDistributionMetadata (names : Names) (s : StoredCertificate) : Except Err Unit := do
  refuseIf (!validIdentifier s.id || !validMetadata s.hostname 253 || !validKeyReference s.masterKeyReference ||
    !validMetadata s.certificateReference 256 || s.domainGeneration == 0 || s.certificateGeneration == 0 ||
    s.fingerprint == 0) (.wrap .invalid "certificate metadata is invalid")
  s.target.validate
  let _ ← normalizeHostname names s.hostname
  match s.state with
  | .staged | .active | .superseded => .ok ()
  | _ => .error (.wrap .certificateRevoked "certificate state cannot be distributed")

def DistributionRequest.validate (names : Names) (x509 : X509) (r : DistributionRequest) (now : Time) : Except Err Unit := do
  r.certificate.validateDistributionMetadata names
  r.target.validate
  let identity ← r.bundle.validate names x509 r.certificate.hostname now 0
  refuseIf (identity.fingerprint != r.certificate.fingerprint || identity.hostname != r.certificate.hostname ||
    identity.issuer != r.certificate.issuer)
    (.wrap .generationConflict "certificate bundle metadata does not match durable record")
  refuseIf (!r.certificate.notBefore.isZero && !identity.notBefore.equal r.certificate.notBefore ||
    !r.certificate.expiresAt.isZero && !identity.notAfter.equal r.certificate.expiresAt)
    (.wrap .generationConflict "certificate timestamps do not match durable record")

def distributionError (e : Err) : Err :=
  if e.is .invalid || e.is .generationConflict || e.is .certificateInvalid || e.is .certificateRevoked then e
  else .wrap .distributionUnavailable "distribution request rejected"

def accepted (check : Except Err Unit) : Action Unit := ofExcept (check.mapError distributionError)

/-! ## One edge -/

/-- The edge did not take the message: the row says so, unless that fails too. -/
def markEdgeFailed (r : DistributionRequest) (cause : Err) : Action Unit := do
  match ← attempt (call (.markEdge r.certificate r.target .failed)) with
  | .ok _ => .fail (.wrap .distributionUnavailable cause.text)
  | .error e =>
    .fail ⟨.distributionUnavailable :: e.sentinels, Sentinel.distributionUnavailable.text ++ ": distribution=" ++
      cause.text ++ "; persist failure=" ++ e.text⟩

def sendOrMark (r : DistributionRequest) (action : EdgeAction) : Action Unit := do
  match ← attempt (call (.send action r.certificate.id r.target)) with
  | .ok _ => pure ()
  | .error e => markEdgeFailed r e

def stage (cfg : Config) (r : DistributionRequest) : Action Unit := do
  let now ← call .clock
  accepted (r.validate cfg.names cfg.x509 now)
  call (.stageEdge r.certificate r.target)
  sendOrMark r .stage

variable (cfg : Config) (action : EdgeAction) (certificate : StoredCertificate)

def sendAndReport (state : EdgeState) (r : DistributionRequest) : Action Unit := do
  let now ← call .clock
  accepted (r.validate cfg.names cfg.x509 now)
  sendOrMark r action
  call (.markEdge r.certificate r.target state)

def waitReady (cfg : Config) : DistributionRequest → Action Unit := sendAndReport cfg .waitReady .ready

/-- `SQLDistributor.Activate` -/
def activateEdge : DistributionRequest → Action Unit := sendAndReport cfg .activate .active

def remove (state : EdgeState) (certificate : StoredCertificate) (target : EdgeTarget) : Action Unit := do
  accepted (certificate.validateDistributionMetadata cfg.names)
  accepted target.validate
  call (.send action certificate.id target)
  call (.markEdge certificate target state)

def retire (cfg : Config) : StoredCertificate → EdgeTarget → Action Unit := remove cfg .retire .retired

/-- `SQLDistributor.Revoke`, with a transport that can revoke. -/
def revoke (cfg : Config) : StoredCertificate → EdgeTarget → Action Unit := remove cfg .revoke .revoked

/-! ## Rows of a certificate -/

def targetUsesCurrentProcess (target : EdgeTarget) : Action Bool := do
  let process : Option String ← call (.nodeProcess target.nodeID)
  pure (process == some target.processEpoch)

def retireTarget (target : EdgeTarget) : Action Unit := do
  let current ← targetUsesCurrentProcess target
  if current then retire cfg certificate target else call (.markEdge certificate target .retired)

def retireTargets (cfg : Config) (certificate : StoredCertificate) : List EdgeTarget → Action Unit
  | [] => pure ()
  | target :: targets => do
    retireTarget cfg certificate target
    retireTargets cfg certificate targets

def retireCertificate : Action Unit := do
  accepted (certificate.validateDistributionMetadata cfg.names)
  let rows ← call (.listEdges certificate.id)
  retireTargets cfg certificate ((rows.filter (·.state.live)).map (·.target))

def EdgeRow.covers (certificate : StoredCertificate) (target : EdgeTarget) (r : EdgeRow) : Bool :=
  r.target == target && r.state == .active && r.observedGeneration == certificate.certificateGeneration &&
    !r.updatedAt.before certificate.updatedAt

def uncovered (rows : List EdgeRow) (targets : List EdgeTarget) : List EdgeTarget :=
  targets.eraseDups.filter fun t => !rows.any (·.covers certificate t)

def validateTargets : List EdgeTarget → Except Err Unit
  | [] => .ok ()
  | target :: targets => do
    target.validate
    validateTargets targets

def missingCertificateTargets (targets : List EdgeTarget) : Action (List EdgeTarget) := do
  ofExcept (refuseIf (certificate.id == "") (.ofSentinel .invalid))
  let rows ← call (.listEdges certificate.id)
  accepted (validateTargets targets)
  pure (uncovered certificate rows targets)

def retireObsoleteCertificateTargets (current : List EdgeTarget) : Action Unit := do
  ofExcept (refuseIf (certificate.id == "") (.ofSentinel .invalid))
  let rows ← call (.listEdges certificate.id)
  accepted (validateTargets current)
  retireTargets cfg certificate ((rows.filter fun r => r.state.live && !current.contains r.target).map (·.target))

end Paperboat.Tunnel

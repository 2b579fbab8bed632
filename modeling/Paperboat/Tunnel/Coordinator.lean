import Paperboat.Tunnel.Distributor
/-!
# The coordinator

`Coordinator.Ensure` brings a domain to have an active certificate on every edge.
A healthy certificate is only sent to the edges that lack it. Otherwise a new one
is issued, stored as staged, sent to every edge in three rounds (stage, wait
until ready, activate) and only then made active in the store; a failure on the
way takes it back from the edges and marks its record.
-/

namespace Paperboat.Tunnel

open Lib Lib.Prog

structure Result where
  /-- The record whose view is returned. -/
  certificate : StoredCertificate
  fallback : Bool := false
  issued : Bool := false
  cleanupError : Option Err := none
  deriving DecidableEq

/-! ## Distribution -/

inductive Phase where
  | stage | ready | activate

namespace Phase

def cause (p : Phase) (target : EdgeTarget) (e : Err) : Err :=
  match p with
  | .stage => .wrap .distributionUnavailable ("stage edge " ++ target.nodeID ++ ": " ++ e.text)
  | .ready => .wrap .certificateNotReady ("edge " ++ target.nodeID ++ ": " ++ e.text)
  | .activate => .wrap .distributionUnavailable ("activate edge " ++ target.nodeID ++ ": " ++ e.text)

def lateCause (p : Phase) (target : EdgeTarget) (e : Err) : Err :=
  match p with
  | .stage => .wrap .distributionUnavailable ("stage late edge " ++ target.nodeID ++ ": " ++ e.text)
  | .ready => .wrap .certificateNotReady ("late edge " ++ target.nodeID ++ " is not ready: " ++ e.text)
  | .activate => .wrap .distributionUnavailable ("activate late edge " ++ target.nodeID ++ ": " ++ e.text)

def reason : Phase → String
  | .stage => "edge_stage_failed"
  | .ready => "edge_not_ready"
  | .activate => "edge_activate_failed"

end Phase

def eachTarget (act : EdgeTarget → Action Unit) : List EdgeTarget → Action (Option (EdgeTarget × Err))
  | [] => pure none
  | target :: targets => do
    match ← attempt (act target) with
    | .error e => pure (some (target, e))
    | .ok _ => eachTarget act targets

def stageEach (act : EdgeTarget → Action Unit) (staged : List EdgeTarget) :
    List EdgeTarget → Action (List EdgeTarget × Option (EdgeTarget × Err))
  | [] => pure (staged, none)
  | target :: targets => do
    match ← attempt (act target) with
    | .error e => pure (staged, some (target, e))
    | .ok _ => stageEach act (staged ++ [target]) targets

variable (cfg : Config) (c : StoredCertificate) (d : Domain) (current : Option StoredCertificate) (now : Time)

def activateStaged (certificate : StoredCertificate) (bundle : CertificateBundle) (staged : List EdgeTarget) :
    Action (List EdgeTarget × Option (Phase × EdgeTarget × Err)) := do
  match ← eachTarget (fun t => waitReady cfg ⟨certificate, bundle, t⟩) staged with
  | some (t, e) => pure (staged, some (.ready, t, e))
  | none => do
    match ← eachTarget (fun t => activateEdge cfg ⟨certificate, bundle, t⟩) staged with
    | some (t, e) => pure (staged, some (.activate, t, e))
    | none => pure (staged, none)

def distribute (certificate : StoredCertificate) (bundle : CertificateBundle) (targets : List EdgeTarget) :
    Action (List EdgeTarget × Option (Phase × EdgeTarget × Err)) := do
  let (staged, failure) ← stageEach (fun t => stage cfg ⟨certificate, bundle, t⟩) [] targets
  match failure with
  | some (t, e) => pure (staged, some (.stage, t, e))
  | none => activateStaged cfg certificate bundle staged

def rollbackStaged (cfg : Config) (certificate : StoredCertificate) : List EdgeTarget → Action (Option Err)
  | [] => pure none
  | target :: targets => do
    let r ← attempt (revoke cfg certificate target)
    let rest ← rollbackStaged cfg certificate targets
    match r with
    | .ok _ => pure rest
    | .error e =>
      pure (some ((Err.wrap .distributionUnavailable ("rollback edge " ++ target.nodeID ++ ": " ++ e.text)).joinWith rest))

/-! ## Certificates that are there -/

def currentCertificate : Action (Option StoredCertificate) :=
  if d.target.normalizedKind = .previewLease then do
    let found : Option StoredCertificate ← call (.currentPreview d.accountID d.id d.previewID d.leafHostname)
    match found with
    | some c => pure (some c)
    | none => call (.currentPreviewForRebind d.accountID d.id d.previewID d.leafHostname)
  else if d.leafHostname = "" then call (.current d.id)
  else call (.currentForHostname d.id d.leafHostname)

def activeCertificateMatchesDomain : Bool :=
  c.certificateReference != "" && c.target.key == d.target.key &&
    if d.leafHostname ≠ "" then c.leafHostname == d.leafHostname && c.hostname == d.leafHostname
    else c.leafHostname == "" && c.hostname == d.hostname && c.certificateReference == d.certificateReference

def healthy : Bool :=
  c.state == .active && activeCertificateMatchesDomain c d && !d.renewalDue && c.renewalAt.after now &&
    c.expiresAt.after now

def activeDistributionNeeded : Action Bool :=
  if d.edgeTargets.isEmpty then pure false
  else do
    let missing ← missingCertificateTargets c d.edgeTargets
    pure (!missing.isEmpty)

def StoredCertificate.bundle (parts : Bytes × Bytes) : CertificateBundle :=
  ⟨parts.1, parts.2, c.issuer, c.notBefore, c.expiresAt⟩

def openActive : Action CertificateBundle := do
  match ← attempt (call (.openParts c)) with
  | .error e =>
    .fail (.wrap .distributionUnavailable ("open active certificate for edge reconciliation: " ++ e.text))
  | .ok parts => do
    let _ ← ofExcept ((c.bundle parts).validate cfg.names cfg.x509 c.hostname now cfg.maxCertificateLifetime)
    pure (c.bundle parts)

def sendToMissing (targets missing : List EdgeTarget) (now : Time) : Action Result := do
  let bundle ← openActive cfg c now
  let (staged, failure) ← distribute cfg c bundle missing
  match failure with
  | some (phase, t, e) => do
    let rollback ← rollbackStaged cfg c staged
    .fail ((phase.lateCause t e).joinWith rollback)
  | none => do
    match ← attempt (retireObsoleteCertificateTargets cfg c targets) with
    | .ok _ => pure ⟨c, false, false, none⟩
    | .error e => pure ⟨c, false, false, some e⟩

def reconcileActiveDistribution : Action Result :=
  if d.edgeTargets.isEmpty then pure ⟨c, false, false, none⟩
  else do
    let missing ← missingCertificateTargets c d.edgeTargets
    if missing.isEmpty then pure ⟨c, false, false, none⟩ else sendToMissing cfg c d.edgeTargets missing now

/-! ## Issuing -/

def alertExpiry : Action Unit :=
  if !cfg.alerts || c.state != .active then pure ()
  else if c.expiresAt.sub now ≤ 0 then call (.alert "certificate_expired")
  else if c.expiresAt.sub now ≤ cfg.expiryAlertWindow then call (.alert "certificate_expiring")
  else pure ()

def checkCAA (d : Domain) : Action Unit := do
  match ← attempt (call (.checkCAA d.hostname)) with
  | .error e =>
    if e.is .caaBlocked || e.is .caaUnavailable then .fail e else .fail (.wrap .caaUnavailable e.text)
  | .ok (caa : CAAResult) =>
    if caa.state = .ready ∨ caa.state = .notApplicable then pure ()
    else .fail (.wrap .caaBlocked (if caa.failureCode = "" then "caa_blocked" else caa.failureCode))

def prepareChallenge (cfg : Config) (d : Domain) : Action Unit :=
  if cfg.completeDNS01 ∨ ¬(d.strategy = .delegatedDNS01 ∨ d.strategy = .onDemandLeaf) then pure ()
  else if !cfg.delegated then
    if d.strategy = .delegatedDNS01 then .fail (.ofSentinel .dnsChallengeUnavailable) else pure ()
  else do
    match ← attempt (call .prepareChallenge) with
    | .ok _ => pure ()
    | .error e =>
      if e.is .dnsChallengePending || e.is .dnsChallengeUnavailable then .fail e
      else .fail (.wrap .dnsChallengeUnavailable e.text)

def noLeafIssuer : Err := .wrap .issuerUnavailable "exact on-demand leaf issuer is unavailable"

def issueFirst : Action CertificateBundle :=
  if d.strategy = .onDemandLeaf ∧ d.leafHostname ≠ "" then
    if cfg.exactLeaves then call (.issue .leaf) else .fail noLeafIssuer
  else if cfg.completeDNS01 ∧ (d.strategy = .delegatedDNS01 ∨ d.strategy = .platformDNS01 ∨
      d.strategy = .onDemandLeaf ∨ d.strategy = .wildcard) then call (.issue .dns01)
  else call (.issue .request)

def issueFallback : Fallback → Action CertificateBundle
  | .leaves => call (.issue .fallbackLeaf)
  | .legacy => if d.leafHostname = "" then call (.issue .fallbackLegacy) else .fail noLeafIssuer
  | .neither => .fail noLeafIssuer

def issueError (e : Err) : Err :=
  if e.is .issuerRateLimited || e.is .issuerUnavailable then e else .wrap .issuerUnavailable e.text

def issueBundle : Action (CertificateBundle × Bool) := do
  match ← attempt (issueFirst cfg d) with
  | .ok bundle => pure (bundle, false)
  | .error e =>
    match cfg.fallback with
    | none => .fail (issueError e)
    | some kind =>
      if d.allowOnDemandFallback ∧ d.strategy = .onDemandLeaf ∧ (e.is .issuerRateLimited ∨ e.is .issuerUnavailable) then do
        match ← attempt (issueFallback d kind) with
        | .ok bundle => pure (bundle, true)
        | .error e => .fail (issueError e)
      else .fail (issueError e)

def nextGeneration : Option StoredCertificate → Except Err Nat
  | none => .ok 1
  | some c =>
    if c.certificateGeneration = 2 ^ 64 - 1 then .error (.ofSentinel .generationConflict)
    else .ok (c.certificateGeneration + 1)

def validateIssued (bundle : CertificateBundle) (now : Time) : Except Err CertificateIdentity := do
  let identity ← bundle.validate cfg.names cfg.x509 d.validationHostname now cfg.maxCertificateLifetime
  if d.strategy = .onDemandLeaf ∧ d.leafHostname ≠ "" then
    bundle.validateExactLeaf cfg.names cfg.x509 d.leafHostname now cfg.maxCertificateLifetime
  .ok identity

def requestCertificate : Action (CertificateBundle × StoredCertificate × Bool) := do
  prepareChallenge cfg d
  let (bundle, fallback) ← issueBundle cfg d
  let identity ← ofExcept (validateIssued cfg d bundle now)
  let generation ← ofExcept (nextGeneration current)
  let sealed ← call (.sealParts bundle)
  pure (bundle, stagedRecord cfg.digest cfg.masterKeyReference cfg.renewBefore d generation identity sealed now, fallback)

/-! ## Rolling out -/

def failStaged {α : Type} (id reason : String) (cause : Err) (now : Time) : Action α := do
  match ← attempt (call (.markFailed id reason now)) with
  | .ok _ => .fail cause
  | .error e => .fail ⟨cause.sentinels ++ e.sentinels, cause.text ++ ": persist staged failure: " ++ e.text⟩

def abandon {α : Type} (v : StoredCertificate) (staged : List EdgeTarget) (reason : String) (cause : Err)
    (now : Time) : Action α := do
  let rollback ← rollbackStaged cfg v staged
  failStaged v.id reason (cause.joinWith rollback) now

def supersede (active : StoredCertificate) (now : Time) : Action Unit :=
  if d.target.normalizedKind = .previewLease then pure ()
  else if d.leafHostname ≠ "" then
    call (.supersedeOlderForHostname d.id d.leafHostname active.certificateGeneration now)
  else call (.supersedeOlder d.id active.certificateGeneration now)

def retirePrior : Option StoredCertificate → Action (Option Err)
  | none => pure none
  | some c =>
    if c.state ≠ .active then pure none
    else do
      match ← attempt (retireCertificate cfg c) with
      | .ok _ => pure none
      | .error e => pure (some (.wrap .distributionUnavailable ("retire prior edge distributions: " ++ e.text)))

def finish (active : StoredCertificate) (fallback : Bool) (now : Time) : Action Result := do
  supersede d active now
  let cleanupError ← retirePrior cfg current
  pure ⟨active, fallback, true, cleanupError⟩

def rollOut (bundle : CertificateBundle) (v : StoredCertificate) (fallback : Bool) (now : Time) : Action Result :=
  if d.edgeTargets.isEmpty then
    failStaged v.id "no_ready_edge_targets" (.wrap .certificateNotReady "no ready edge targets") now
  else do
    let (staged, failure) ← distribute cfg v bundle d.edgeTargets
    match failure with
    | some (phase, t, e) => abandon cfg v staged phase.reason (phase.cause t e) now
    | none => do
      match ← attempt (call (.activate v.id d.generation now)) with
      | .ok active => finish cfg d current active fallback now
      | .error e =>
        abandon cfg v staged "certificate_activate_failed"
          (.wrap .distributionUnavailable ("activate durable certificate: " ++ e.text)) now

def issueNew : Action Result := do
  let (bundle, v, fallback) ← requestCertificate cfg d current now
  call (.putStaged v)
  rollOut cfg d current bundle v fallback now

/-! ## Ensure -/

/-- The part of `Ensure` that holds the issuance lock. -/
def ensureLocked : Action Result := do
  let current ← currentCertificate d
  ofExcept (refuseIf (current.any (·.domainGeneration > d.generation)) (.ofSentinel .generationConflict))
  match current.filter (healthy · d now) with
  | some c => do
    let needed ← activeDistributionNeeded c d
    if needed then reconcileActiveDistribution cfg c d now else pure ⟨c, false, false, none⟩
  | none => issueNew cfg d current now

def releaseError (e : Err) : Err := .wrap .issuanceLocked ("release issuance lock: " ++ e.text)

/-- The lock is released however the part ends, and an error of that is an error of the whole. -/
def releasing {α : Type} (part : Action α) : Action α := do
  let r ← attempt part
  let released ← attempt (call (.releaseGeneration d.id d.generation))
  match r, released with
  | .ok a, .ok _ => pure a
  | .ok _, .error e => .fail (releaseError e)
  | .error e, .ok _ => .fail e
  | .error e, .error e' => .fail (e.join (releaseError e'))

/-- What `Ensure` does about the certificate it finds before it takes the lock: the
result, if there is nothing to do. -/
def inspectCurrent (c : StoredCertificate) : Action (Option Result) := do
  ofExcept (refuseIf (decide (c.domainGeneration > d.generation)) (.ofSentinel .generationConflict))
  ofExcept (refuseIf (c.domainGeneration == d.generation && c.state == .revoked) (.ofSentinel .certificateRevoked))
  if c.state ≠ .active then pure none
  else do
    ofExcept (refuseIf (d.leafHostname == "" && !activeCertificateMatchesDomain c d) (.ofSentinel .generationConflict))
    alertExpiry cfg c now
    if healthy c d now then do
      let needed ← activeDistributionNeeded c d
      pure (if needed then none else some ⟨c, false, false, none⟩)
    else pure none

/-- `CAA`, the lock, and what is done under it. -/
def ensureUnderLock : Action Result := do
  checkCAA d
  let locked : Bool ← call (.acquire d.id d.generation now (now.add cfg.lockTTL))
  if locked then releasing d (ensureLocked cfg d now) else .fail (.ofSentinel .issuanceLocked)

def sortEdgeTargets (targets : List EdgeTarget) : List EdgeTarget :=
  targets.insertionSort fun a b => a.nodeID < b.nodeID ∨ a.nodeID = b.nodeID ∧
    (a.processEpoch < b.processEpoch ∨ a.processEpoch = b.processEpoch ∧ a.generation ≤ b.generation)

def Domain.sorted : Domain := { d with edgeTargets := sortEdgeTargets d.edgeTargets }

/-- `Ensure` for a domain that is well formed, with its edges in order. -/
def ensureDomain : Action Result := do
  let current ← currentCertificate d
  match current with
  | none => ensureUnderLock cfg d now
  | some c => do
    match ← inspectCurrent cfg d now c with
    | some result => pure result
    | none => ensureUnderLock cfg d now

/-- `Coordinator.Ensure`, called at `now`. -/
def ensure : Action Result := do
  ofExcept (d.validate cfg.names)
  ofExcept (d.target.validateActive now)
  ensureDomain cfg d.sorted now

end Paperboat.Tunnel

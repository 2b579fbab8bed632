import Paperboat.Lib.Runs
import Paperboat.Tunnel.Redistribution
/-!
# Preview certificates and the edges that took them over

An edge counts as ready for a preview certificate when its row is active and not
older than the record, whose time a rebind moves on. This means that the edge has
acknowledged the certificate since only if nothing but an acknowledgement moves
the time of an active row; staging and failure reports move it too.
-/

namespace Paperboat.Tunnel

open Lib Lib.Prog EdgeTable Tables

def acknowledged (certificateID : String) (target : EdgeTarget) (log : List Event) : Bool :=
  log.foldl (fun acked e =>
    if e = .sent .activate certificateID target true then true
    else if e = .rebound certificateID then false
    else acked) false

section Acknowledged
variable {certificateID other : String} {target : EdgeTarget} {log : List Event}

theorem acknowledged_sent {action : EdgeAction} {t : EdgeTarget} {ok : Bool} (h : acknowledged certificateID target log) :
    acknowledged certificateID target (log ++ [.sent action other t ok]) := by
  rw [acknowledged, List.foldl_append] at *
  simp only [List.foldl_cons, List.foldl_nil, reduceCtorEq, if_false]
  split_ifs
  · rfl
  · exact h

theorem acknowledged_rebound (h : acknowledged certificateID target log) (hne : other ≠ certificateID) :
    acknowledged certificateID target (log ++ [.rebound other]) := by
  rw [acknowledged, List.foldl_append] at *
  simpa [hne] using h

end Acknowledged

/-! ## Histories -/

inductive EdgeOp where
  | rebind (certificate : StoredCertificate) (previewGeneration : Nat) (expiresAt now : Time)
  | stage (request : DistributionRequest)
  | waitReady (request : DistributionRequest)
  | activate (request : DistributionRequest)
  | retire (certificate : StoredCertificate) (target : EdgeTarget)
  | revoke (certificate : StoredCertificate) (target : EdgeTarget)

def EdgeOp.program (cfg : Config) : EdgeOp → Action Unit
  | .rebind c previewGeneration expiresAt now => do
    let _ ← call (.rebindPreviewTarget c previewGeneration expiresAt now)
  | .stage r => Tunnel.stage cfg r
  | .waitReady r => Tunnel.waitReady cfg r
  | .activate r => activateEdge cfg r
  | .retire c t => Tunnel.retire cfg c t
  | .revoke c t => Tunnel.revoke cfg c t

inductive EdgeStep where
  | call (op : EdgeOp) (choose : Cmd → Choice)
  | leases (previews : Table PreviewRow.id)

def edgeStep (cfg : Config) (w : World) : EdgeStep → World
  | .call op choose => (eval (exec cfg) (fun c _ => choose c) (op.program cfg) w).2
  | .leases previews => { w with previews }

namespace Tables

def fresh (w : Tables) (r : EdgeRow) : Bool :=
  w.records.rows.all fun c => c.id != r.certificateID || !r.updatedAt.before c.updatedAt

/-- If the row of the process is active, it is fresh and stands for this assignment. -/
def settled (w : Tables) (c : StoredCertificate) (t : EdgeTarget) : Bool :=
  (w.edges.find (keyOf c.id t)).all fun r => r.state != .active || r.target == t && w.fresh r

end Tables

namespace EdgeStep

/-- A rebind is of a later microsecond than everything that was written on the edges' rows. -/
def inTime (w : Tables) : EdgeStep → Bool
  | .call (.rebind _ _ _ now) _ => w.edges.rows.all (·.updatedAt.before now.stored)
  | _ => true

/-- What staging, waiting and a failed activation meet is settled. -/
def careful (w : Tables) : EdgeStep → Bool
  | .call (.stage r) _ | .call (.waitReady r) _ => w.settled r.certificate r.target
  | .call (.activate r) choose =>
    (choose (.send .activate r.certificate.id r.target)).fails.isNone || w.settled r.certificate r.target
  | _ => true

end EdgeStep

/-! ## What every call keeps -/

def Acked (w : World) : Prop :=
  ∀ r ∈ w.edges.rows, r.state = .active → w.fresh r → acknowledged r.certificateID r.target w.log

def AckedIfActive (c : StoredCertificate) (t : EdgeTarget) (w : World) : Prop :=
  ∀ r, w.edges.find (keyOf c.id t) = some r → r.state = .active → acknowledged c.id t w.log

section Keeps
variable {cfg : Config} {w : World} {c : StoredCertificate} {t : EdgeTarget} {x : Choice}

theorem ackedIfActive (h : Acked w) (hset : w.settled c t) : AckedIfActive c t w := by
  intro r hr hact
  simp only [settled, hr, Option.all_some, hact, bne_self_eq_false, Bool.false_or, Bool.and_eq_true,
    beq_iff_eq] at hset
  obtain ⟨htg, hfr⟩ := hset
  have hkey := Table.find_eq_some.1 hr
  have hak := h r hkey.1 hact hfr
  rw [htg, show r.certificateID = c.id from congrArg (·.1) hkey.2] at hak
  exact hak

theorem Acked.record (h : Acked w) (action : EdgeAction) (id : String) (t : EdgeTarget) (ok : Bool) :
    Acked (w.record (.sent action id t ok)) :=
  fun r hr hact hfr => acknowledged_sent (h r hr hact hfr)

theorem AckedIfActive.record (h : AckedIfActive c t w) (action : EdgeAction) (id : String) (t' : EdgeTarget) (ok : Bool) :
    AckedIfActive c t (w.record (.sent action id t' ok)) :=
  fun r hr hact => acknowledged_sent (h r hr hact)

theorem Acked.write {edges : EdgeTable} {row : EdgeRow} (h : Acked w)
    (hfind : ∀ k, edges.find k = if k = keyOf c.id t then some row else w.edges.find k)
    (hrow : row.certificateID = c.id ∧ row.target = t) (hact : row.state = .active → acknowledged c.id t w.log) :
    Acked { w with edges } := by
  intro r hr hst hfr
  rw [mem_iff_find] at hr
  rw [hfind] at hr
  split_ifs at hr
  · cases hr
    rw [hrow.1, hrow.2]
    exact hact hst
  · exact h r (mem_iff_find.2 hr) hst hfr

theorem AckedIfActive.write {edges : EdgeTable} {row : EdgeRow}
    (hfind : ∀ k, edges.find k = if k = keyOf c.id t then some row else w.edges.find k)
    (hact : row.state = .active → acknowledged c.id t w.log) : AckedIfActive c t { w with edges } := by
  intro r hr hst
  rw [hfind, if_pos rfl] at hr
  cases hr
  exact hact hst

theorem stageEdge_acked {now : Time} {tables : Tables} (h : Acked w ∧ AckedIfActive c t w)
    (hsg : w.stageEdge c t now = some tables) :
    Acked { w with toTables := tables } ∧ AckedIfActive c t { w with toTables := tables } := by
  simp only [stageEdge, Option.map_eq_some_iff] at hsg
  obtain ⟨edges, hedges, rfl⟩ := hsg
  have hsp := w.edges.stage_spec (w.platform c) c.id t c.certificateGeneration now
  split_ifs at hsp with ha
  · obtain ⟨edges', hedges', hfind⟩ := hsp
    obtain rfl := Option.some.inj (hedges.symm.trans hedges')
    have hrow := w.edges.stagedRow_spec c.id t c.certificateGeneration now
    have hact : (w.edges.stagedRow c.id t c.certificateGeneration now).state = .active →
        acknowledged c.id t w.log := by
      unfold stagedRow
      split
      · intro hst
        cases hst
      next r hr =>
      intro hst
      refine h.2 r hr ?_
      simp only [EdgeRow.restage] at hst
      split_ifs at hst with hr'
      exact hr'
    exact ⟨h.1.write hfind hrow.1 hact, AckedIfActive.write hfind hact⟩
  · cases hedges.symm.trans hsp

theorem markEdge_acked {state : EdgeState} {now : Time} {tables : Tables} (h : Acked w)
    (hmark : w.markEdge c t state now = some tables)
    (hact : ∀ r, w.edges.find (keyOf c.id t) = some r → (r.mark state now).state = .active →
      acknowledged c.id t w.log) :
    Acked { w with toTables := tables } ∧ AckedIfActive c t { w with toTables := tables } := by
  simp only [markEdge, Option.map_eq_some_iff] at hmark
  obtain ⟨edges, hedges, rfl⟩ := hmark
  obtain ⟨r, hr, htg, -, -, hfind⟩ := mark_eq_some hedges
  have hrow : (r.mark state now).certificateID = c.id ∧ (r.mark state now).target = t :=
    ⟨congrArg (·.1) (Table.find_eq_some.1 hr).2, htg⟩
  exact ⟨h.write hfind hrow (hact r hr), AckedIfActive.write hfind (hact r hr)⟩

def Cmd.touching (c : StoredCertificate) (t : EdgeTarget) : Cmd → Prop
  | .clock | .send .. => True
  | .stageEdge c' t' => c' = c ∧ t' = t
  | .markEdge c' t' state => c' = c ∧ t' = t ∧ (state = .ready ∨ state = .failed)
  | _ => False

theorem exec_touching {cmd : Cmd} (x : Choice) (w : World) (hcmd : cmd.touching c t)
    (h : Acked w ∧ AckedIfActive c t w) : Acked (exec cfg cmd x w).2 ∧ AckedIfActive c t (exec cfg cmd x w).2 := by
  refine exec_keeps (F := fun w => Acked w ∧ AckedIfActive c t w) ?_ ?_
  · cases cmd with
    | send action id t' => exact ⟨h.1.record action id t' false, h.2.record action id t' false⟩
    | _ => exact h
  · cases cmd with
    | clock => exact h
    | send action id t' => exact ⟨h.1.record action id t' true, h.2.record action id t' true⟩
    | stageEdge c' t' =>
      obtain ⟨rfl, rfl⟩ := hcmd
      exact World.writeOrConflict_keeps (F := fun w => Acked w ∧ AckedIfActive c' t' w) h fun _ hsg =>
        stageEdge_acked h hsg
    | markEdge c' t' =>
      obtain ⟨rfl, rfl, hst⟩ := hcmd
      refine World.writeOrConflict_keeps (F := fun w => Acked w ∧ AckedIfActive c' t' w) h fun _ hmark => ?_
      refine markEdge_acked h.1 hmark fun r hr hact => h.2 r hr ?_
      -- Neither report makes a row active.
      simp only [EdgeRow.mark] at hact
      split_ifs at hact with hwas
      · exact hwas.2
      · rcases hst with rfl | rfl <;> cases hact
    | _ => exact absurd hcmd id

def Cmd.removing : Cmd → Prop
  | .send .. => True
  | .markEdge _ _ state => state = .retired ∨ state = .revoked
  | _ => False

theorem exec_removing {cmd : Cmd} (x : Choice) (w : World) (hcmd : cmd.removing) (h : Acked w) :
    Acked (exec cfg cmd x w).2 := by
  refine exec_keeps ?_ ?_
  · cases cmd with
    | send action id t' => exact h.record action id t' false
    | _ => exact h
  · cases cmd with
    | send action id t' => exact h.record action id t' true
    | markEdge =>
      refine World.writeOrConflict_keeps h fun _ hmark => (markEdge_acked h hmark fun r hr hact => ?_).1
      rcases hcmd with rfl | rfl <;> simp [EdgeRow.mark] at hact
    | _ => exact absurd hcmd id

/-! ## Steps -/

theorem makes_sendOrMark {p : Cmd → Prop} {r : DistributionRequest} {action : EdgeAction}
    (hsend : p (.send action r.certificate.id r.target)) (hmark : p (.markEdge r.certificate r.target .failed)) :
    (sendOrMark r action).Makes p := by
  refine .bind (.attempt (.perform hsend)) fun sent => ?_
  split
  · exact .pure _
  refine .bind (.attempt (.perform hmark)) fun marked => ?_
  split <;> exact .fail _

theorem makes_stage {r : DistributionRequest} : (stage cfg r).Makes (Cmd.touching r.certificate r.target) := by
  refine .bind (.perform trivial) fun _ => .bind (.ofExcept _) fun _ => ?_
  exact .bind (.perform ⟨rfl, rfl⟩) fun _ => makes_sendOrMark trivial ⟨rfl, rfl, .inr rfl⟩

theorem makes_waitReady {r : DistributionRequest} : (waitReady cfg r).Makes (Cmd.touching r.certificate r.target) := by
  refine .bind (.perform trivial) fun _ => .bind (.ofExcept _) fun _ => ?_
  exact .bind (makes_sendOrMark trivial ⟨rfl, rfl, .inr rfl⟩) fun _ => .perform ⟨rfl, rfl, .inl rfl⟩

theorem makes_remove {action : EdgeAction} {state : EdgeState} (hst : state = .retired ∨ state = .revoked) :
    (remove cfg action state c t).Makes Cmd.removing := by
  refine .bind (.ofExcept _) fun _ => .bind (.ofExcept _) fun _ => ?_
  exact .bind (.perform trivial) fun _ => .perform hst

theorem settled_acked {p : Action Unit} {choose : Cmd → World → Choice} (hmakes : p.Makes (Cmd.touching c t)) (h : Acked w)
    (hset : w.settled c t) : Acked (eval (exec cfg) choose p w).2 :=
  (hmakes.keeps (fun _ => exec_touching) choose ⟨h, ackedIfActive h hset⟩).1

section Activate
variable (cfg) (w) {r : DistributionRequest} (choose : Cmd → World → Choice) {action : EdgeAction}

theorem eval_sendOrMark_taken (hx : (choose (.send action r.certificate.id r.target) w).fails = none) :
    eval (exec cfg) choose (sendOrMark r action) w = (.ok (), w.record (.sent action r.certificate.id r.target true)) := by
  have hcall : eval (exec cfg) choose (call (.send action r.certificate.id r.target)) w =
      (.ok (), w.record (.sent action r.certificate.id r.target true)) := by
    rw [call, eval_perform, exec, hx]
    rfl
  rw [sendOrMark, eval_bind_ok (eval_attempt _ _), hcall]
  rfl

theorem eval_sendOrMark_refused {e : Err} (hx : (choose (.send action r.certificate.id r.target) w).fails = some e) :
    ∃ e', (eval (exec cfg) choose (sendOrMark r action) w).1 = .error e' := by
  have hcall : eval (exec cfg) choose (call (.send action r.certificate.id r.target)) w =
      (.error e, w.record (.sent action r.certificate.id r.target false)) := by
    rw [call, eval_perform, exec, hx]
    rfl
  rw [sendOrMark, eval_bind_ok (eval_attempt _ _), hcall]
  change ∃ e', (eval (exec cfg) choose (markEdgeFailed r e) _).1 = .error e'
  rw [markEdgeFailed, eval_bind_ok (eval_attempt _ _)]
  split <;> exact ⟨_, rfl⟩

end Activate

theorem activate_acked {r : DistributionRequest} {choose : Cmd → Choice} (h : Acked w)
    (hcf : (EdgeStep.call (.activate r) choose).careful w.toTables) :
    Acked (eval (exec cfg) (fun c _ => choose c) (activateEdge cfg r) w).2 := by
  have hclock : eval (exec cfg) (fun c _ => choose c) (call .clock) w = (.ok (choose .clock).time, w) := by
    rw [call, eval_perform, exec]
    split <;> rfl
  rw [activateEdge, sendAndReport, eval_bind_ok hclock, accepted]
  refine eval_bind_keeps (fun e w' he => ?_) fun _ w' he => ?_
  · rw [eval_ofExcept] at he
    obtain rfl : w = w' := (Prod.ext_iff.1 he).2
    exact h
  rw [eval_ofExcept] at he
  obtain rfl : w = w' := (Prod.ext_iff.1 he).2
  cases hx : (choose (.send .activate r.certificate.id r.target)).fails with
  | none =>
    rw [eval_bind_ok (eval_sendOrMark_taken cfg w (fun c _ => choose c) hx), call, eval_perform]
    have hrec := h.record .activate r.certificate.id r.target true
    refine exec_keeps hrec (World.writeOrConflict_keeps hrec fun _ hmark => (markEdge_acked hrec hmark fun _ _ _ => ?_).1)
    simp [acknowledged, World.record, List.foldl_append]
  | some =>
    obtain ⟨e', he'⟩ := eval_sendOrMark_refused cfg w (fun c _ => choose c) hx
    simp only [EdgeStep.careful, hx, Option.isNone_some, Bool.false_or] at hcf
    rw [eval_bind_error (Prod.ext he' rfl)]
    exact settled_acked (makes_sendOrMark trivial ⟨rfl, rfl, .inr rfl⟩) h hcf

theorem rebind_acked {previewGeneration : Nat} {expiresAt now : Time} (h : Acked w)
    (htime : w.edges.rows.all (·.updatedAt.before now.stored)) :
    Acked (exec cfg (.rebindPreviewTarget c previewGeneration expiresAt now) x w).2 := by
  refine exec_keeps h ?_
  delta answer
  dsimp only
  split
  · next bound tables hr =>
    simp only [rebindPreviewCertificateTarget, check_eq_ok] at hr
    replace hr := hr.2
    split at hr
    · next record _ hrec _ =>
      split_ifs at hr
      cases hr
      obtain ⟨hmem, hkey⟩ := Table.find_eq_some.1 hrec
      intro r hr hact hfr
      have hrows := List.all_eq_true.1 htime r hr
      have hmv {s : StoredCertificate} (hs : s ∈ w.records.rows) := List.all_eq_true.1 hfr _
        (List.mem_map_of_mem (f := fun s => if s.id == c.id then s.rebind previewGeneration expiresAt now else s) hs)
      have hoth : c.id ≠ r.certificateID := by
        intro hid
        have hnow := hmv hmem
        simp [StoredCertificate.rebind, hkey, hid, hrows] at hnow
      refine acknowledged_rebound (h r hr hact (List.all_eq_true.2 fun s hs => ?_)) hoth
      by_cases hid : s.id = c.id
      · simp [hid, hoth]
      · simpa [hid] using hmv hs
    · cases hr
  · exact h

theorem edgeStep_acked {s : EdgeStep} (h : Acked w) (htime : s.inTime w.toTables)
    (hcf : s.careful w.toTables) : Acked (edgeStep cfg w s) := by
  cases s with
  | leases => exact h
  | call op choose =>
    cases op with
    | rebind c previewGeneration expiresAt now =>
      have hexec : ∀ result w', eval (exec cfg) (fun c _ => choose c)
          (call (.rebindPreviewTarget c previewGeneration expiresAt now)) w = (result, w') → Acked w' := by
        rintro result w' he
        rw [call, eval_perform] at he
        obtain ⟨-, rfl⟩ := Prod.ext_iff.1 he
        exact rebind_acked h htime
      exact eval_bind_keeps (fun e => hexec _) fun _ => hexec _
    | stage => exact settled_acked makes_stage h hcf
    | waitReady => exact settled_acked makes_waitReady h hcf
    | activate => exact activate_acked h hcf
    | retire => exact (makes_remove (.inl rfl)).keeps (fun _ => exec_removing) _ h
    | revoke => exact (makes_remove (.inr rfl)).keeps (fun _ => exec_removing) _ h

end Keeps

/-! ## Readiness -/

theorem published_of_ready {names : Names} {w : Tables} {accountID domainID previewID hostname : String}
    {previewGeneration domainGeneration certificateGeneration : Nat} {edge : EdgeTarget} {now : Time}
    (h : w.previewCertificateReady names accountID domainID previewID hostname previewGeneration domainGeneration
      certificateGeneration edge now = .ok true) :
    ∃ c ∈ w.records.rows, c.domainID = domainID ∧ c.accountID = accountID ∧ c.previewID = previewID ∧
      c.previewGeneration = previewGeneration ∧ c.certificateGeneration = certificateGeneration ∧ c.state = .active ∧
      ∃ r ∈ w.edges.rows, acknowledgedBy c edge r := by
  simp only [previewCertificateReady, check_eq_ok] at h
  replace h := h.2
  split at h
  · cases h
  simp only [check_eq_ok, Except.ok.injEq] at h
  replace h := h.2.2
  split at h
  · cases h
  next p hp =>
  simp only [decide_eq_true_eq, List.any_eq_true, Bool.and_eq_true, publishedFor] at h
  obtain ⟨hacc, hpv, hgen, -, -, -, c, hc, hpb, r, hr, hak⟩ := h
  obtain ⟨hdm, haccount', -, hpreview', hgeneration', -, hct, hact, -⟩ := hpb
  have hid : p.id = domainID := (Table.find_eq_some.1 hp).2
  exact ⟨c, hc, hdm.trans hid, haccount'.trans hacc, hpreview'.trans hpv, hgeneration'.trans hgen,
    hct, hact, r, hr, hak⟩

theorem acknowledged_of_row {w : World} {c : StoredCertificate} {edge : EdgeTarget} {r : EdgeRow} (h : Acked w)
    (hc : c ∈ w.records.rows) (hr : r ∈ w.edges.rows) (hak : acknowledgedBy c edge r) :
    acknowledged c.id edge w.log := by
  simp only [acknowledgedBy, decide_eq_true_eq] at hak
  obtain ⟨hid, rfl, -, hact, hupdated⟩ := hak
  rw [← hid]
  refine h r hr hact (List.all_eq_true.2 fun s hs => ?_)
  by_cases hs' : s.id = r.certificateID
  · -- No other record has this id.
    obtain rfl := Table.eq_of_key hs hc (hs'.trans hid)
    rw [hupdated, Bool.or_true]
  · simp [hs']

/-- As long as no call but an acknowledged activation meets a stale active row or one of another assignment, an edge
is ready for a preview certificate only if it acknowledged it since the last rebind. -/
theorem ready_acknowledged (cfg : Config) (w : World) (steps : List EdgeStep) (hstart : ∀ r ∈ w.edges.rows, r.state ≠ .active)
    (hsteps : EachStep (edgeStep cfg) (fun w s => s.inTime w.toTables ∧ s.careful w.toTables) w steps)
    (accountID domainID previewID hostname : String) (previewGeneration domainGeneration certificateGeneration : Nat)
    (edge : EdgeTarget) (now : Time)
    (hready : (run (edgeStep cfg) w steps).previewCertificateReady cfg.names accountID domainID previewID hostname
      previewGeneration domainGeneration certificateGeneration edge now = .ok true) :
    ∃ c ∈ (run (edgeStep cfg) w steps).records.rows, c.domainID = domainID ∧ c.accountID = accountID ∧
      c.previewID = previewID ∧ c.previewGeneration = previewGeneration ∧ c.certificateGeneration = certificateGeneration ∧
      c.state = .active ∧ acknowledged c.id edge (run (edgeStep cfg) w steps).log := by
  have hacked : Acked (run (edgeStep cfg) w steps) :=
    run_inv (fun w s h hs => edgeStep_acked h hs.1 hs.2) (fun r hr hactive => absurd hactive (hstart r hr)) hsteps
  obtain ⟨c, hc, hdomain, haccount, hpreview, hgeneration, hcertificate, hactive, r, hr, hrow⟩ := published_of_ready hready
  exact ⟨c, hc, hdomain, haccount, hpreview, hgeneration, hcertificate, hactive, acknowledged_of_row hacked hc hr hrow⟩

namespace Sample

def previewRecord : StoredCertificate :=
  { record with
    targetKind := .previewLease
    tunnelID := ""
    routeID := ""
    previewID := "preview"
    previewGeneration := 1
    previewState := .active
    previewExpiresAt := now.add Duration.hour }

variable (generation : Nat)

def previewDomain : PreviewRow where
  id := previewRecord.domainID
  accountID := previewRecord.accountID
  previewID := "preview"
  previewGeneration := generation
  hostname := previewRecord.hostname
  generation := 1
  ownershipState := .verified
  clear := true
  deleted := false
  certificateState := .ready
  certificateReference := previewRecord.certificateReference
  leaseGeneration := generation
  leaseActive := true
  leaseDeadline := now.add Duration.hour
  userDeadline := none

def leased : Table PreviewRow.id := ⟨[previewDomain generation], by simp⟩

def undistributedPreview : World :=
  { undistributed with previews := leased 1, records := ⟨[previewRecord], by simp⟩ }

def edge : EdgeTarget := ⟨"node-1", "process-1", 1⟩

def previewRequest : DistributionRequest :=
  ⟨{ previewRecord with previewGeneration := generation }, bundle, edge⟩

def after (d : Int) : Cmd → Choice := fun _ => { choice with time := now.add (d * Duration.second) }

def distributed : List EdgeStep :=
  [.call (.stage (previewRequest 1)) (after 1), .call (.waitReady (previewRequest 1)) (after 2),
    .call (.activate (previewRequest 1)) (after 3)]

def rebound : List EdgeStep :=
  [.leases (leased 2), .call (.rebind previewRecord 2 (now.add Duration.hour) (now.add (4 * Duration.second))) (after 4)]

def readyAt (w : World) : Except Err Bool :=
  w.previewCertificateReady config.names previewRecord.accountID previewRecord.domainID "preview" previewRecord.hostname
    generation 1 1 edge (now.add Duration.minute)

end Sample

open Sample

theorem distributed_acknowledged :
    let steps := distributed ++ rebound ++ [.call (.activate (previewRequest 2)) (after 5)]
    let w := run (edgeStep config) undistributedPreview steps
    ∃ c ∈ w.records.rows, c.domainID = previewRecord.domainID ∧ c.accountID = previewRecord.accountID ∧
      c.previewID = "preview" ∧ c.previewGeneration = 2 ∧ c.certificateGeneration = 1 ∧ c.state = .active ∧
      acknowledged c.id edge w.log :=
  ready_acknowledged config undistributedPreview _ (by decide +kernel) (by decide +kernel)
    previewRecord.accountID previewRecord.domainID "preview" previewRecord.hostname 2 1 1 edge
    (now.add Duration.minute) (by decide +kernel)

/-- Staged again for the edge after the rebind, the certificate counts as ready there, though the
edge has acknowledged nothing since. -/
theorem restaged_edge_ready :
    let steps := distributed ++ rebound ++ [.call (.stage (previewRequest 2)) (after 5)]
    let w := run (edgeStep config) undistributedPreview steps
    EachStep (edgeStep config) (fun w s => s.inTime w.toTables) undistributedPreview steps ∧
      readyAt 2 w = .ok true ∧ ∀ c ∈ w.records.rows, acknowledged c.id edge w.log = false := by
  decide +kernel

end Paperboat.Tunnel

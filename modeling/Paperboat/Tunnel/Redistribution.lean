import Paperboat.Tunnel.Distribution
import Paperboat.Tunnel.Storable
/-!
# Sending an active certificate again

`reconcileActiveDistribution` brings an active certificate to the edges that lack
it. Rows that an earlier attempt rolled back or retired are never staged again,
and neither is an assignment that another process of the node has overtaken. Where
there are no such rows, a call in which nothing fails reaches every target.
-/

namespace Paperboat.Tunnel

variable {cmd : Cmd} {t : EdgeTarget} {cfg : Config} {targets : List EdgeTarget} {w : World} {c : StoredCertificate}

open Lib Lib.Prog

def Tables.missing (w : Tables) (c : StoredCertificate) (targets : List EdgeTarget) : List EdgeTarget :=
  uncovered c (w.edges.list c.id) targets

/-- The record opens to the bundle it was made from, at every reading of the clock. -/
structure Sendable (cfg : Config) (c : StoredCertificate) (now : Time) (choose : Cmd → World → Choice) : Prop where
  opens : ∀ w, ∃ identity, (c.bundle (choose (.openParts c) w).opened).validate cfg.names cfg.x509 c.hostname now
    cfg.maxCertificateLifetime = .ok identity
  requests : ∀ w t, t.validate = .ok () → Valid cfg choose ⟨c, c.bundle (choose (.openParts c) w).opened, t⟩

/-! ## The missing targets -/

theorem mem_missing : t ∈ w.missing c targets ↔ t ∈ targets ∧ ¬∃ r ∈ w.edges.rows, r.certificateID = c.id ∧ r.covers c t := by
  simp [Tables.missing, uncovered, EdgeTable.list, List.mem_eraseDups]

theorem on_of_not_missing (ht : t ∈ targets) (hm : t ∉ w.missing c targets) : w.On c nowActive t := by
  rw [mem_missing, not_and_not_right] at hm
  obtain ⟨r, hr, hc, hcov⟩ := hm ht
  simp only [EdgeRow.covers, Bool.and_eq_true, beq_iff_eq] at hcov
  obtain ⟨⟨⟨htg, hact⟩, hob⟩, -⟩ := hcov
  refine ⟨r, Table.find_eq_some.2 ⟨hr, ?_⟩, htg, hob, hact⟩
  subst htg
  exact Prod.ext hc rfl

theorem validateTargets_iff : validateTargets targets = .ok () ↔ ∀ t ∈ targets, t.validate = .ok () := by
  induction targets with
  | nil => simp [validateTargets]
  | cons _ _ ih => simp [validateTargets, check_eq_ok, ih]

theorem nodup_eraseDups (ts : List EdgeTarget) : ts.eraseDups.Nodup := by
  induction hn : ts.length using Nat.strong_induction_on generalizing ts with
  | _ n ih =>
    cases ts with
    | nil => simp
    | cons =>
      rw [List.eraseDups_cons, List.nodup_cons]
      refine ⟨by simp [List.mem_eraseDups], ih _ ?_ _ rfl⟩
      subst hn
      exact Nat.lt_succ_of_le (List.length_filter_le _ _)

theorem nodup_missing : (w.missing c targets).Nodup := (nodup_eraseDups targets).filter _

/-! ## Retiring what is obsolete -/

section Obsolete
variable {c' : StoredCertificate} {t' : EdgeTarget} {states : EdgeState → Prop} {state : EdgeState} {now : Time}

theorem on_markEdge {w w' : Tables} (hon : w.On c states t) (hne : t' ≠ t) (h : w.markEdge c' t' state now = some w') :
    w'.On c states t := by
  obtain ⟨r, hr, htg, hrest⟩ := hon
  simp only [Tables.markEdge, Option.map_eq_some_iff] at h
  obtain ⟨edges, hmark, rfl⟩ := h
  obtain ⟨r', hr', htarget', -, -, hfind⟩ := EdgeTable.mark_eq_some hmark
  refine ⟨r, ?_, htg, hrest⟩
  rw [hfind, if_neg fun hkey => hne ?_, hr]
  -- It would be the same row, and so the same assignment.
  rw [hkey, hr'] at hr
  rw [← htg, ← htarget', Option.some.inj hr]

def Cmd.sparing (targets : List EdgeTarget) : Cmd → Prop
  | .markEdge _ t _ => t ∉ targets
  | .listEdges _ | .nodeProcess _ | .send .. => True
  | _ => False

theorem makes_retireTargets {p : Cmd → Prop} {ts : List EdgeTarget} (hprocess : ∀ node, p (.nodeProcess node))
    (hsend : ∀ t, p (.send .retire c.id t)) (hmark : ∀ t ∈ ts, p (.markEdge c t .retired)) :
    (retireTargets cfg c ts).Makes p := by
  induction ts with
  | nil => exact .pure _
  | cons t _ ih =>
    have ht := hmark t List.mem_cons_self
    refine .bind ?_ fun _ => ih fun t' ht' => hmark t' (List.mem_cons_of_mem _ ht')
    refine .bind (.bind (.perform (hprocess _)) fun _ => .pure _) fun current => ?_
    split_ifs
    · refine .bind (.ofExcept _) fun _ => .bind (.ofExcept _) fun _ => ?_
      exact .bind (.perform (hsend t)) fun _ => .perform ht
    · exact .perform ht

theorem makes_retireObsolete : (retireObsoleteCertificateTargets cfg c targets).Makes (Cmd.sparing targets) := by
  refine .bind (.ofExcept _) fun _ => .bind (.perform trivial) fun rows => ?_
  refine .bind (.ofExcept _) fun _ => makes_retireTargets (fun _ => trivial) (fun _ => trivial) fun t ht => ?_
  obtain ⟨r, hr, rfl⟩ := List.mem_map.1 ht
  simpa [Cmd.sparing] using (List.mem_filter.1 hr).2 |> (Bool.and_eq_true _ _).mp |>.2

theorem on_exec (x : Choice) (hcmd : cmd.sparing targets)
    (ht : t ∈ targets) (hon : w.On c states t) : (exec cfg cmd x w).2.On c states t := by
  unfold exec
  split
  · cases cmd <;> first | exact absurd hcmd id | exact hon
  cases cmd with
  | markEdge c' t' state =>
    change (w.writeOrConflict (w.markEdge c' t' state x.time)).2.On c states t
    cases hmark : w.markEdge c' t' state x.time with
    | none => exact hon
    | some =>
      refine on_markEdge hon (fun he => hcmd ?_) hmark
      rwa [he]
  | listEdges | nodeProcess | send => exact hon
  | _ => exact absurd hcmd id

theorem on_retireObsolete (cfg : Config) (choose : Cmd → World → Choice) (ht : t ∈ targets) (hon : w.On c states t) :
    (eval (exec cfg) choose (retireObsoleteCertificateTargets cfg c targets) w).2.On c states t :=
  makes_retireObsolete.keeps (F := fun w : World => w.On c states t) (fun _ x _ hcmd h => on_exec x hcmd ht h) choose hon

end Obsolete

/-! ## One call in which nothing fails -/

theorem id_ne_of_valid {choose : Cmd → World → Choice} {b : CertificateBundle} (h : Valid cfg choose ⟨c, b, t⟩)
    (w : World) : c.id ≠ "" := by
  intro hid
  have hv := h w
  unfold DistributionRequest.validate StoredCertificate.validateDistributionMetadata at hv
  simp only [check_eq_ok, refuseIf_eq_ok, hid] at hv
  have hbad : validIdentifier "" = false := by decide +kernel
  simp [hbad] at hv

section Reconcile
variable {choose : Cmd → World → Choice} {f : Round} {now : Time} (hfine : Fine choose) (hsend : Sendable cfg f.c now choose)
  (hv : ∀ t ∈ f.targets, t.validate = .ok ())
include hfine hsend hv

theorem eval_sendToMissing (h : f.Usable [] w.toTables) :
    ∃ result w', eval (exec cfg) choose (sendToMissing cfg f.c f.targets (w.missing f.c f.targets) now) w = (.ok result, w') ∧
      ∀ t ∈ f.targets, w'.On f.c nowActive t := by
  obtain ⟨identity, ho⟩ := hsend.opens w
  have hbu : eval (exec cfg) choose (openActive cfg f.c now) w =
      (.ok (f.c.bundle (choose (.openParts f.c) w).opened), w) := by
    refine (eval_bind_ok (eval_attempt _ _)).trans ?_
    rw [eval_call hfine]
    refine (eval_bind_ok (p := ofExcept _) (eval_ofExcept _ _ |>.trans (congrArg (·, w) ho))).trans rfl
  have hmissing : ∀ t ∈ w.missing f.c f.targets, t ∈ f.targets := fun t ht => (mem_missing.1 ht).1
  have hrequests := fun t ht => hsend.requests w t (hv t (hmissing t ht))
  obtain ⟨w1, he, hrc⟩ := eval_distribute hfine hrequests hmissing nodup_missing h
  rw [sendToMissing, eval_bind_ok hbu, eval_bind_ok he]
  have hon : ∀ t ∈ f.targets, w1.On f.c nowActive t := by
    intro t ht
    by_cases hm : t ∈ w.missing f.c f.targets
    · exact hrc.on t hm
    -- The row was active before, and is not among those that were written.
    obtain ⟨r, hr, htg, hrest⟩ := on_of_not_missing ht hm
    refine ⟨r, (hrc.others _ fun t' ht' hkey => hm ?_).trans hr, htg, hrest⟩
    rwa [Round.eq_of_sameProcess ht (hmissing t' ht') (sameProcess_iff.2 ⟨congrArg (·.2.1) hkey, congrArg (·.2.2) hkey⟩)]
  have hret := fun t ht => on_retireObsolete cfg choose (t := t) ht (hon t ht)
  rw [eval_bind_ok (eval_attempt _ _)]
  rcases hr : eval (exec cfg) choose (retireObsoleteCertificateTargets cfg f.c f.targets) w1 with ⟨_ | _, w2⟩
  all_goals
    rw [hr] at hret
    exact ⟨_, w2, rfl, hret⟩

/-- A call in which nothing fails brings the certificate to every target, if the rows can be used. -/
theorem eval_reconcile {d : Domain} (hd : d.edgeTargets = f.targets) (h : f.Usable [] w.toTables) :
    ∃ result w', eval (exec cfg) choose (reconcileActiveDistribution cfg f.c d now) w = (.ok result, w') ∧
      ∀ t ∈ f.targets, w'.On f.c nowActive t := by
  rw [reconcileActiveDistribution, hd]
  cases hts : f.targets with
  | nil => exact ⟨_, w, rfl, List.forall_mem_nil _⟩
  | cons t₀ =>
    rw [← hts, if_neg (by simp [hts])]
    have hid := id_ne_of_valid (hsend.requests w t₀ (hv t₀ (hts ▸ List.mem_cons_self))) w
    have hmissing : eval (exec cfg) choose (missingCertificateTargets f.c f.targets) w =
        (.ok (w.missing f.c f.targets), w) := by
      have hid' : refuseIf (f.c.id == "") (Err.ofSentinel .invalid) = .ok () := by simp [hid]
      rw [missingCertificateTargets, hid']
      refine (eval_bind_ok (eval_ofExcept _ _)).trans ((eval_bind_ok (eval_call hfine _ w)).trans ?_)
      rw [validateTargets_iff.2 hv]
      rfl
    rw [eval_bind_ok hmissing]
    split_ifs with hempty
    · refine ⟨_, w, rfl, fun t ht => on_of_not_missing ht ?_⟩
      simp [List.isEmpty_iff.1 hempty]
    · exact eval_sendToMissing hfine hsend hv h

end Reconcile

/-! ## Two edges -/

namespace Sample

def config : Config where
  names := names
  x509 := x509
  gcm := gcm
  digest _ fingerprint := fingerprint.setWidth 128
  masterKeyReference := "key"
  ownerID := "owner"
  lockTTL := 2 * Duration.minute
  renewBefore := 720 * Duration.hour
  expiryAlertWindow := 0
  maxCertificateLifetime := 9528 * Duration.hour
  alerts := false
  delegated := true
  completeDNS01 := false
  exactLeaves := false
  fallback := none

def choice : Choice where
  time := now
  bundle := bundle
  opened := ([1], [2])

def fine : Cmd → World → Choice := fun _ _ => choice

def failing (cmd : Cmd) : Cmd → World → Choice := fun c _ =>
  if c = cmd then { choice with fails := some ⟨[], "unreachable"⟩ } else choice

def record : StoredCertificate :=
  (stagedRecord config.digest "key" config.renewBefore (domain "app.example.com") 1 (identity "app.example.com" false) sealed now).mark
    .active "" now

def edges : List EdgeTarget := [⟨"node-1", "process-1", 1⟩, ⟨"node-2", "process-2", 1⟩]

def undistributed : World where
  domains := ⟨[], by decide⟩
  previews := ⟨[], by decide⟩
  records := ⟨[record], by simp⟩
  edges := ⟨[], by decide⟩
  locks := ⟨[], by decide⟩
  platforms := []
  log := []

structure Checked : Prop where
  metadata : record.validateDistributionMetadata names = .ok ()
  bundle : (record.bundle ([1], [2])).validate names x509 record.hostname now 0 = .ok (identity "app.example.com" false)
  opened : (record.bundle ([1], [2])).validate names x509 record.hostname now config.maxCertificateLifetime =
    .ok (identity "app.example.com" false)
  names : (identity "app.example.com" false).fingerprint = record.fingerprint ∧
    (identity "app.example.com" false).hostname = record.hostname ∧ (identity "app.example.com" false).issuer = record.issuer
  targets : ∀ t ∈ edges, t.validate = .ok ()

theorem checked : Checked :=
  ⟨by decide +kernel, by decide +kernel, by decide +kernel, by decide +kernel, by decide +kernel⟩

theorem sendable : Sendable config record now fine where
  opens _ := ⟨identity "app.example.com" false, Checked.opened checked⟩
  requests _ _ ht _ := by
    refine check_eq_ok.2 ⟨Checked.metadata checked, check_eq_ok.2 ⟨ht, bind_eq_ok.2 ⟨_, Checked.bundle checked, check_eq_ok.2 ⟨?_, ?_⟩⟩⟩⟩
    · simp [Checked.names checked]
    · simp [Time.equal]
      decide

end Sample

open Sample

/-- The second edge cannot be reached, so the first one is rolled back; when both can be
reached again, the first is refused for good. -/
theorem rolled_back_edge_refused :
    let d := { domain "app.example.com" with edgeTargets := edges }
    let call := reconcileActiveDistribution config record d now
    let w := (eval (exec config) (failing (.send .stage record.id ⟨"node-2", "process-2", 1⟩)) call
      undistributed).2
    w.records.rows = [record] ∧
      (eval (exec config) fine call w).1 = .error (Phase.stage.lateCause ⟨"node-1", "process-1", 1⟩
        (.ofSentinel .generationConflict)) := by
  decide +kernel

end Paperboat.Tunnel

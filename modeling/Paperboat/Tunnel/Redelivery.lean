import Paperboat.Tunnel.EnsureCalls
/-!
# Histories of a distribution

An active certificate is sent again and again while the edges come and go, and any
call may fail on the way. Two things put the row of an edge out of use for good:
a rollback that the edge takes, and the removal of its process from the targets.
A history without them leaves every row in use, so that the next undisturbed call
brings the certificate to all its targets.
-/

namespace Paperboat.Tunnel

open Lib Lib.Prog EdgeTable Sample

/-! ## Histories -/

/-- One of the calls that distribute an active certificate, with the answers it gets. -/
inductive Delivery where
  | reconcile (d : Domain) (now : Time) (choose : Cmd → World → Choice)
  | retireObsolete (targets : List EdgeTarget) (choose : Cmd → World → Choice)

namespace Delivery

def targets : Delivery → List EdgeTarget
  | .reconcile d _ _ => d.edgeTargets
  | .retireObsolete targets _ => targets

def choose : Delivery → Cmd → World → Choice
  | .reconcile _ _ choose | .retireObsolete _ choose => choose

def perform (cfg : Config) (c : StoredCertificate) (w : World) : Delivery → World
  | .reconcile d now choose => (eval (exec cfg) choose (reconcileActiveDistribution cfg c d now) w).2
  | .retireObsolete targets choose => (eval (exec cfg) choose (retireObsoleteCertificateTargets cfg c targets) w).2

end Delivery

structure History where
  world : World
  (seen last : List EdgeTarget)

namespace History

/-- Where there is no target, `reconcileActiveDistribution` leaves everything as it is. -/
def step (cfg : Config) (c : StoredCertificate) (h : History) (o : Delivery) : History where
  world := o.perform cfg c h.world
  seen := h.seen ++ o.targets
  last := match o with
    | .reconcile d _ _ => if d.edgeTargets.isEmpty then h.last else d.edgeTargets
    | .retireObsolete targets _ => targets

/-- The targets follow on those before: one process of each node, which is new or was a target of the last call too,
with an assignment that is no older, and newer than those of other processes. Processes of a node do not fence each
other for the platform's certificates. -/
def admits (c : StoredCertificate) (h : History) (targets : List EdgeTarget) : Bool :=
  targets.all fun t =>
    targets.all (fun t' => t == t' || t.nodeID != t'.nodeID || h.world.platform c && t.processEpoch != t'.processEpoch) &&
    h.seen.all fun s => s.nodeID != t.nodeID ||
      if s.processEpoch = t.processEpoch then s.generation ≤ t.generation && h.last.any (·.sameProcess t)
      else h.world.platform c || s.generation < t.generation

/-- No edge takes a rollback, and rows are not retired on their own before they have the
assignment that is current. -/
structure Careful (c : StoredCertificate) (h : History) (o : Delivery) : Prop where
  admitted : h.admits c o.targets
  kept : ∀ t w, (o.choose (.send .revoke c.id t) w).fails.isSome
  current : ∀ targets choose, o = .retireObsolete targets choose → ∀ r ∈ h.world.edges.rows, r.certificateID = c.id →
    ∀ t ∈ targets, r.target.sameProcess t → r.target = t

end History

/-! ## The calls of a history -/

variable {cfg : Config} {choose : Cmd → World → Choice} {w w' : World} {t : EdgeTarget}

/-- Calls that stage no other target, and take no row of the targets' processes out of use. -/
def Cmd.delivering (id : String) (targets : List EdgeTarget) : Cmd → Prop
  | .stageEdge c t => c.id = id ∧ t ∈ targets
  | .markEdge _ t state => state.live ∨ ∀ t' ∈ targets, t.sameProcess t' = false
  | .clock | .openParts _ | .listEdges _ | .nodeProcess _ | .send .. => True
  | _ => False

namespace Round

variable {f : Round} {settled : List EdgeTarget}

def Made (f : Round) {α : Type} (p : Action α) : Prop := p.Makes (Cmd.delivering f.c.id f.targets)

section Calls
variable (hs : ∀ t ∈ settled, t ∈ f.targets)
include hs

theorem usable_exec (cmd : Cmd) (x : Choice) (w : World) (hcmd : cmd.delivering f.c.id f.targets)
    (h : f.Usable settled w.toTables) : f.Usable settled (exec cfg cmd x w).2.toTables := by
  have hf : (w.failed cmd).toTables = w.toTables := by cases cmd <;> rfl
  refine exec_keeps (F := fun w => f.Usable settled w.toTables) (hf ▸ h) ?_
  cases cmd with
  | stageEdge =>
    refine World.writeOrConflict_keeps (F := fun w => f.Usable settled w.toTables) h fun tables ht => ?_
    exact (usable_stageEdge hs hcmd.1 hcmd.2 h ht).mono fun _ => List.mem_cons_of_mem _
  | markEdge =>
    exact World.writeOrConflict_keeps (F := fun w => f.Usable settled w.toTables) h fun _ ht => usable_markEdge hcmd h ht
  | clock | openParts | listEdges | nodeProcess | send => exact h
  | _ => exact absurd hcmd id

theorem Made.keeps {α : Type} {p : Action α} {r : Except Err α} (hp : f.Made p) (h : f.Usable settled w.toTables)
    (he : eval (exec cfg) choose p w = (r, w')) : f.Usable settled w'.toTables := by
  have hk : f.Usable settled (eval (exec cfg) choose p w).2.toTables :=
    Makes.keeps (F := fun w => f.Usable settled w.toTables) hp (usable_exec hs) choose h
  rwa [he] at hk

theorem usable_staged {b : CertificateBundle} (ht : t ∈ f.targets) (h : f.Usable settled w.toTables)
    (he : eval (exec cfg) choose (stage cfg ⟨f.c, b, t⟩) w = (.ok (), w')) : f.Usable (t :: settled) w'.toTables := by
  obtain ⟨_, w1, h1, he⟩ := eval_bind_eq_ok he
  obtain ⟨_, w2, h2, he⟩ := eval_bind_eq_ok he
  obtain ⟨_, w3, h3, he⟩ := eval_bind_eq_ok he
  have hclock : f.Made (call .clock) := .perform trivial
  have hu2 := Made.keeps hs (.ofExcept _) (hclock.keeps hs h h1) h2
  rw [call, eval_perform] at h3
  have hw : w2.writeOrConflict (w2.stageEdge f.c t (choose (.stageEdge f.c t) w2).time) = (.ok (), w3) := answer_of_ok h3
  cases htables : w2.stageEdge f.c t (choose (.stageEdge f.c t) w2).time with
  | none =>
    rw [htables] at hw
    cases hw
  | some =>
    rw [htables] at hw
    obtain rfl : _ = w3 := congrArg Prod.snd hw
    have hsend : f.Made (sendOrMark ⟨f.c, b, t⟩ .stage) := makes_sendOrMark trivial (.inl rfl)
    exact hsend.keeps (List.forall_mem_cons.2 ⟨ht, hs⟩) (usable_stageEdge hs rfl ht hu2 htables) he

theorem usable_stageEach {b : CertificateBundle} {ts staged staged' : List EdgeTarget} (hts : ∀ t ∈ ts, t ∈ f.targets)
    (h : f.Usable settled w.toTables)
    (he : eval (exec cfg) choose (stageEach (fun t => stage cfg ⟨f.c, b, t⟩) staged ts) w = (.ok (staged', none), w')) :
    f.Usable (ts.reverse ++ settled) w'.toTables := by
  induction ts generalizing settled staged w with
  | nil =>
    cases he
    exact h
  | cons t ts ih =>
    obtain ⟨ht, hts⟩ := List.forall_mem_cons.1 hts
    rw [stageEach, eval_bind_ok (eval_attempt _ _)] at he
    rcases hone : eval (exec cfg) choose (stage cfg ⟨f.c, b, t⟩) w with ⟨_ | _, w1⟩
    · rw [hone] at he
      cases he
    · rw [hone] at he
      simpa using ih (List.forall_mem_cons.2 ⟨ht, hs⟩) hts (usable_staged hs ht h hone) he

end Calls

/-! ## One call of a history -/

theorem distributing (f : Round) : Distributing (Cmd.delivering f.c.id f.targets) f.c :=
  ⟨trivial, fun _ _ => trivial, fun _ _ h => .inl h⟩

theorem usable_distribute {b : CertificateBundle} {ts staged : List EdgeTarget} (hs : ∀ t ∈ settled, t ∈ f.targets)
    (hts : ∀ t ∈ ts, t ∈ f.targets) (h : f.Usable settled w.toTables)
    (he : eval (exec cfg) choose (distribute cfg f.c b ts) w = (.ok (staged, none), w')) :
    f.Usable (ts.reverse ++ settled) w'.toTables := by
  obtain ⟨⟨staged', failure⟩, w1, h1, he⟩ := eval_bind_eq_ok he
  cases failure with
  | some => cases he
  | none =>
    refine Made.keeps (fun t ht => ?_) (f.distributing.makes_activateStaged b staged') (usable_stageEach hs hts h h1) he
    rcases List.mem_append.1 ht with ht | ht
    · exact hts t (List.mem_reverse.1 ht)
    · exact hs t ht

theorem rollback_refused (cfg : Config) {c : StoredCertificate} (hkept : ∀ t w, (choose (.send .revoke c.id t) w).fails.isSome)
    (ts : List EdgeTarget) : (eval (exec cfg) choose (rollbackStaged cfg c ts) w).2.toTables = w.toTables := by
  induction ts generalizing w with
  | nil => rfl
  | cons t ts ih =>
    have hrevoke : (eval (exec cfg) choose (revoke cfg c t) w).2.toTables = w.toTables := by
      obtain ⟨e, hfails⟩ := Option.isSome_iff_exists.1 (hkept t w)
      have hsend : eval (exec cfg) choose (call (.send .revoke c.id t)) w = (.error e, w.failed (.send .revoke c.id t)) := by
        simp [call, exec, hfails]
      rw [revoke, remove, accepted, accepted, eval_bind, eval_ofExcept]
      cases (c.validateDistributionMetadata cfg.names).mapError distributionError with
      | error => rfl
      | ok =>
        change (eval (exec cfg) choose (ofExcept _ >>= _) w).2.toTables = _
        rw [eval_bind, eval_ofExcept]
        cases t.validate.mapError distributionError with
        | error => rfl
        | ok =>
          change (eval (exec cfg) choose (call _ >>= _) w).2.toTables = _
          rw [eval_bind_error hsend]
          rfl
    rw [rollbackStaged, eval_bind_ok (eval_attempt _ _), eval_bind]
    have hrest := (ih (w := (eval (exec cfg) choose (revoke cfg c t) w).2)).trans hrevoke
    split
    · next he =>
      rw [he] at hrest
      split <;> exact hrest
    · next he =>
      rw [he] at hrest
      exact hrest

theorem usable_missing (h : f.Usable [] w.toTables) :
    f.Usable (f.targets.filter (· ∉ w.missing f.c f.targets)) w.toTables := by
  refine ⟨h.platform, fun r hr hid => ⟨(h.rows r hr hid).named, (h.rows r hr hid).live, fun t ht hsame => ?_⟩⟩
  obtain ⟨ht, hm⟩ := List.mem_filter.1 ht
  obtain ⟨r', hr', htg, -⟩ := on_of_not_missing ht (by simpa using hm)
  rw [← htg, Option.some.inj (hr'.symm.trans (Table.find_eq_some.2 ⟨hr, key_of_sameProcess hid hsame⟩))]

theorem listed {α : Type} {c : StoredCertificate} {targets : List EdgeTarget} {F : World → Prop}
    {p : List EdgeRow → Action α} (hF : F w) (h : F (eval (exec cfg) choose (p (w.edges.list c.id)) w).2) :
    F (eval (exec cfg) choose (do
      ofExcept (refuseIf (c.id == "") (.ofSentinel .invalid))
      let rows ← call (.listEdges c.id)
      accepted (validateTargets targets)
      p rows) w).2 := by
  have hsame {β : Type} {r r' : Except Err β} {w1 : World} (h : eval (exec cfg) choose (ofExcept r) w = (r', w1)) : w = w1 :=
    congrArg Prod.snd ((eval_ofExcept ..).symm.trans h)
  refine eval_bind_keeps (fun _ _ h1 => hsame h1 ▸ hF) fun _ w1 h1 => ?_
  obtain rfl := hsame h1
  refine eval_bind_keeps (fun _ w2 h2 => ?_) fun rows w2 h2 => ?_
  · rw [call, eval_perform] at h2
    rcases exec_cases cfg (.listEdges c.id) (choose (.listEdges c.id) w) w with he | ⟨_, he⟩
    · cases he.symm.trans h2
    · cases he.symm.trans h2
      exact hF
  rw [call, eval_perform] at h2
  cases answer_of_ok h2
  refine eval_bind_keeps (fun _ _ h3 => hsame h3 ▸ hF) fun _ w3 h3 => ?_
  obtain rfl := hsame h3
  exact h

theorem usable_retireObsolete (cfg : Config) (choose : Cmd → World → Choice) (h : f.Usable f.targets w.toTables) :
    f.Usable [] (eval (exec cfg) choose (retireObsoleteCertificateTargets cfg f.c f.targets) w).2.toTables := by
  have hnil : f.Usable [] w.toTables := h.mono (List.forall_mem_nil _)
  refine listed (F := fun w => f.Usable [] w.toTables) hnil ?_
  refine Made.keeps (List.forall_mem_nil _) (makes_retireTargets (fun _ => trivial) (fun _ => trivial)
    fun t ht => .inr fun t' ht' => ?_) hnil rfl
  obtain ⟨r, hr, rfl⟩ := List.mem_map.1 ht
  obtain ⟨hr, hgone⟩ := List.mem_filter.1 hr
  simp only [EdgeTable.list, List.mem_insertionSort, List.mem_filter, beq_iff_eq] at hr
  rw [Bool.eq_false_iff]
  intro hsame
  rw [(h.rows r hr.1 hr.2).current t' ht' hsame] at hgone
  simp [ht'] at hgone

section Reconcile
variable {d : Domain} (cfg) (now : Time) (hkept : ∀ t w, (choose (.send .revoke f.c.id t) w).fails.isSome)
include hkept

theorem usable_sendToMissing (h : f.Usable [] w.toTables) : f.Usable []
    (eval (exec cfg) choose (sendToMissing cfg f.c f.targets (w.missing f.c f.targets) now) w).2.toTables := by
  have hmissing : ∀ t ∈ w.missing f.c f.targets, t ∈ f.targets := fun t ht => (mem_missing.1 ht).1
  have hcovered : ∀ t ∈ f.targets.filter (· ∉ w.missing f.c f.targets), t ∈ f.targets := fun t ht => (List.mem_filter.1 ht).1
  have hopen : f.Made (openActive cfg f.c now) := by
    refine .bind (.attempt (.perform trivial)) fun r => ?_
    cases r with
    | ok => exact .bind (.ofExcept _) fun _ => .pure _
    | error => exact .fail _
  refine eval_bind_keeps (F := fun w : World => f.Usable [] w.toTables) (fun _ _ => hopen.keeps (List.forall_mem_nil _) h)
    fun b w1 h1 => ?_
  have hu1 := hopen.keeps hcovered (usable_missing h) h1
  have hdist : f.Made (distribute cfg f.c b (w.missing f.c f.targets)) :=
    f.distributing.makes_distribute b fun t ht => ⟨rfl, hmissing t ht⟩
  have hkeeps {r w'} (h2 : eval (exec cfg) choose (distribute cfg f.c b (w.missing f.c f.targets)) w1 = (r, w')) :
      f.Usable [] w'.toTables := hdist.keeps (List.forall_mem_nil _) (hu1.mono (List.forall_mem_nil _)) h2
  refine eval_bind_keeps (F := fun w : World => f.Usable [] w.toTables) (fun _ _ => hkeeps) fun ⟨staged, failure⟩ w2 h2 => ?_
  cases failure with
  | some =>
    have hroll := rollback_refused cfg (w := w2) hkept staged
    refine eval_bind_keeps (F := fun w : World => f.Usable [] w.toTables) (fun _ _ h3 => ?_) fun _ _ h3 => ?_
    all_goals
      rw [h3] at hroll
      exact hroll ▸ hkeeps h2
  | none =>
    -- Every process of the targets has its row at the target's assignment now.
    have hu2 : f.Usable f.targets w2.toTables := by
      refine (usable_distribute hcovered hmissing hu1 h2).mono fun t ht => ?_
      by_cases hm : t ∈ w.missing f.c f.targets <;> simp [ht, hm]
    rw [eval_bind_ok (eval_attempt _ _)]
    have hret := usable_retireObsolete cfg choose hu2
    split <;> exact hret

theorem usable_reconcile (hd : d.edgeTargets = f.targets) (h : f.Usable [] w.toTables) :
    f.Usable [] (eval (exec cfg) choose (reconcileActiveDistribution cfg f.c d now) w).2.toTables := by
  unfold reconcileActiveDistribution missingCertificateTargets
  rw [hd]
  split_ifs
  · exact h
  simp only [Prog.bind_assoc]
  refine listed (F := fun w => f.Usable [] w.toTables) h ?_
  change f.Usable [] (eval (exec cfg) choose (ite _ _ _) w).2.toTables
  split_ifs
  · exact h
  · exact usable_sendToMissing cfg now hkept h

end Reconcile

end Round

/-! ## Whole histories -/

namespace History

variable {c : StoredCertificate} {h : History} {targets : List EdgeTarget} {o : Delivery}

def Sound (c : StoredCertificate) (h : History) : Prop :=
  ∀ r ∈ h.world.edges.rows, r.certificateID = c.id → r.Usable h.seen h.last []

def round (h : History) (c : StoredCertificate) (targets : List EdgeTarget) (ha : h.admits c targets) : Round where
  c
  seen := h.seen ++ targets
  targets
  platform := h.world.platform c
  named _ := List.mem_append_right _
  newest t ht s hs hn := by
    simp only [admits, List.all_eq_true, Bool.and_eq_true] at ha
    rcases List.mem_append.1 hs with hs | hs
    · have hseen := (ha t ht).2 s hs
      simp only [hn, bne_self_eq_false, Bool.false_or] at hseen
      split_ifs at hseen ⊢
      · exact of_decide_eq_true (Bool.and_eq_true_iff.1 hseen).1
      · simpa using hseen
    · have hpair := (ha s hs).1 t ht
      simp only [hn, bne_self_eq_false, Bool.or_false, Bool.or_eq_true, beq_iff_eq, Bool.and_eq_true, bne_iff_ne] at hpair
      rcases hpair with rfl | ⟨hplatform, hne⟩
      · simp
      · rw [if_neg hne]
        exact .inl hplatform

theorem Sound.usable (hs : h.Sound c) (ha : h.admits c targets) : (h.round c targets ha).Usable [] h.world.toTables := by
  refine ⟨rfl, fun r hr hid => ⟨List.mem_append_left _ (hs r hr hid).named, fun t ht hsame => ?_, List.forall_mem_nil _⟩⟩
  simp only [admits, List.all_eq_true, Bool.and_eq_true] at ha
  have hseen := (ha t ht).2 _ (hs r hr hid).named
  obtain ⟨hn, hp⟩ := sameProcess_iff.1 hsame
  rw [if_pos hp] at hseen
  simp only [hn, bne_self_eq_false, Bool.false_or, Bool.and_eq_true, List.any_eq_true] at hseen
  obtain ⟨-, l, hl, hlt⟩ := hseen
  obtain ⟨hln, hlp⟩ := sameProcess_iff.1 hlt
  exact (hs r hr hid).live l hl (sameProcess_iff.2 ⟨hn.trans hln.symm, hp.trans hlp.symm⟩)

theorem Sound.step (hs : h.Sound c) (hc : h.Careful c o) : (h.step cfg c o).Sound c := by
  have hbefore := hs.usable hc.admitted
  cases o with
  | retireObsolete targets choose =>
    refine (Round.usable_retireObsolete cfg choose (f := h.round c targets hc.admitted) ⟨rfl, fun r hr hid => ?_⟩).rows
    exact ⟨(hbefore.rows r hr hid).named, (hbefore.rows r hr hid).live, hc.current targets choose rfl r hr hid⟩
  | reconcile d now choose =>
    have hafter := Round.usable_reconcile cfg now hc.kept rfl hbefore
    by_cases hd : d.edgeTargets.isEmpty
    · simpa [Sound, History.step, Delivery.perform, Delivery.targets, reconcileActiveDistribution, hd,
        List.isEmpty_iff.1 hd] using hs
    · intro r hr hid
      rw [show (h.step cfg c (.reconcile d now choose)).last = d.edgeTargets from if_neg hd]
      exact hafter.rows r hr hid

end History

/-- After every history in which no edge takes a rollback and the targets follow on each other, a call in which
nothing fails brings the certificate to all its targets. -/
theorem redistributes_after (cfg : Config) {c : StoredCertificate} {h : History} (os : List Delivery) (hs : h.Sound c)
    (hos : EachStep (History.step cfg c) (History.Careful c) h os) {d : Domain} {now : Time} {choose : Cmd → World → Choice}
    (ha : (run (History.step cfg c) h os).admits c d.edgeTargets) (hv : ∀ t ∈ d.edgeTargets, t.validate = .ok ())
    (hfine : Fine choose) (hsend : Sendable cfg c now choose) :
    let result := eval (exec cfg) choose (reconcileActiveDistribution cfg c d now) (run (History.step cfg c) h os).world
    (∃ r, result.1 = .ok r) ∧ ∀ t ∈ d.edgeTargets, result.2.On c nowActive t := by
  have hsound : (run (History.step cfg c) h os).Sound c := run_inv (fun _ _ hi hc => hi.step hc) hs hos
  obtain ⟨r, w', he, hon⟩ := eval_reconcile hfine (f := History.round _ c _ ha) hsend hv rfl (hsound.usable ha)
  exact he ▸ ⟨⟨r, rfl⟩, hon⟩

namespace Sample

/-- The second node cannot be reached, and no rollback gets through. -/
def unreachable : Cmd → World → Choice := fun cmd _ =>
  let lost := { choice with fails := some ⟨[], "unreachable"⟩ }
  match cmd with
  | .send .revoke _ _ => lost
  | .send _ _ t => if t.nodeID = "node-2" then lost else choice
  | _ => choice

def restarted : List EdgeTarget := [⟨"node-1", "process-1", 1⟩, ⟨"node-2", "process-3", 2⟩]

def sentTo (targets : List EdgeTarget) : Domain := { domain "app.example.com" with edgeTargets := targets }

def failures : List Delivery := [.reconcile (sentTo edges) now unreachable, .retireObsolete restarted unreachable]

end Sample

theorem redistributes_after_failures :
    let w := (run (History.step config record) ⟨undistributed, [], []⟩ failures).world
    let result := eval (exec config) fine (reconcileActiveDistribution config record (sentTo restarted) now) w
    w.edges.rows.map (fun r => (r.processEpoch, r.state)) = [("process-1", .staged), ("process-2", .retired)] ∧
      (∃ r, result.1 = .ok r) ∧ ∀ t ∈ restarted, result.2.On record nowActive t := by
  refine ⟨by decide +kernel, redistributes_after config failures (d := sentTo restarted) ?_ ?_
    (by decide +kernel) (by decide +kernel) (fun _ _ => rfl) sendable⟩
  · exact fun _ hr => absurd hr List.not_mem_nil
  refine ⟨⟨by decide +kernel, fun _ _ => rfl, nofun⟩, ⟨by decide +kernel, fun _ _ => rfl, ?_⟩, trivial⟩
  intro targets choose heq
  cases heq
  decide +kernel

end Paperboat.Tunnel

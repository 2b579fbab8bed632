import Paperboat.Tunnel.Coordinator
/-!
# A distribution that nothing disturbs

While the rows of the targets' processes are in use, and of no later assignments,
every target can be staged. When no call fails, a distribution then goes through; it
leaves the row of each of its targets active and all other rows alone.
-/

namespace Paperboat.Tunnel

open Lib Lib.Prog List EdgeTable

variable {state : EdgeState} {targets : List EdgeTarget} {t : EdgeTarget}

/-! ## The rows of a certificate -/

def EdgeTarget.sameProcess (s t : EdgeTarget) : Bool := s.nodeID == t.nodeID && s.processEpoch == t.processEpoch

theorem sameProcess_iff {s : EdgeTarget} : s.sameProcess t ↔ s.nodeID = t.nodeID ∧ s.processEpoch = t.processEpoch := by
  simp [EdgeTarget.sameProcess]

namespace EdgeTable

variable {e e' : EdgeTable} {id : String} {r row : EdgeRow}

theorem mem_iff_find : r ∈ e.rows ↔ e.find r.key = some r := by
  simp [Table.find_eq_some]

theorem mem_of_written (hfind : ∀ k, e'.find k = if k = keyOf id t then some row else e.find k) (hr : r ∈ e'.rows) :
    r = row ∨ r ∈ e.rows ∧ r.key ≠ keyOf id t := by
  rw [mem_iff_find, hfind] at hr
  split_ifs at hr with hk
  · exact .inl (Option.some.inj hr).symm
  · exact .inr ⟨mem_iff_find.2 hr, hk⟩

theorem key_of_sameProcess (hid : r.certificateID = id) (h : r.target.sameProcess t) : r.key = keyOf id t := by
  obtain ⟨hn, hp⟩ := sameProcess_iff.1 h
  exact Prod.ext hid (Prod.ext hn hp)

theorem stagedRow_spec (t : EdgeTable) (certificateID : String) (target : EdgeTarget) (certificateGeneration : Nat) (now : Time) :
    let r := t.stagedRow certificateID target certificateGeneration now
    (r.certificateID = certificateID ∧ r.target = target) ∧ r.observedGeneration = certificateGeneration ∧
      (r.state = .staged ∨ r.state = .active) := by
  intro r
  have hkey : r.key = keyOf certificateID target := stagedRow_key
  have hgen : r.assignmentGeneration = target.generation ∧ r.observedGeneration = certificateGeneration ∧
      (r.state = .staged ∨ r.state = .active) := by
    unfold r stagedRow
    split
    · exact ⟨rfl, rfl, .inl rfl⟩
    next old _ =>
    refine ⟨rfl, rfl, ?_⟩
    simp only [EdgeRow.restage]
    split_ifs
    · exact .inr rfl
    · exact .inl rfl
  refine ⟨⟨congrArg (·.1) hkey, ?_⟩, hgen.2⟩
  have hn : r.nodeID = target.nodeID := congrArg (·.2.1) hkey
  have hp : r.processEpoch = target.processEpoch := congrArg (·.2.2) hkey
  simp only [EdgeRow.target, hn, hp, hgen.1]

end EdgeTable

/-- The platform's own certificates are not fenced by the assignments of a node. -/
def Tables.platform (w : Tables) (c : StoredCertificate) : Bool :=
  w.records.rows.any fun r => r.id == c.id && r.targetKind == .platformWildcard

/-- A certificate with the targets of a call: their assignments are no older than those so far, and newer than those
of other processes of their nodes. -/
structure Round where
  c : StoredCertificate
  (seen targets : List EdgeTarget)
  platform : Bool
  named : ∀ t ∈ targets, t ∈ seen
  newest : ∀ t ∈ targets, ∀ s ∈ seen, s.nodeID = t.nodeID →
    if s.processEpoch = t.processEpoch then s.generation ≤ t.generation else platform ∨ s.generation < t.generation

/-- The row is of a target that was named; it is in use if its process is among the targets, and has the
current assignment if that is settled. -/
structure EdgeRow.Usable (seen targets settled : List EdgeTarget) (r : EdgeRow) : Prop where
  named : r.target ∈ seen
  live : ∀ t ∈ targets, r.target.sameProcess t → r.state.live
  current : ∀ t ∈ settled, r.target.sameProcess t → r.target = t

namespace Round

variable {f : Round} {settled settled' : List EdgeTarget} {w : Tables} {c : StoredCertificate} {now : Time}

structure Usable (f : Round) (settled : List EdgeTarget) (w : Tables) : Prop where
  platform : w.platform f.c = f.platform
  rows : ∀ r ∈ w.edges.rows, r.certificateID = f.c.id → r.Usable f.seen f.targets settled

theorem eq_of_sameProcess {t' : EdgeTarget} (ht : t ∈ f.targets) (ht' : t' ∈ f.targets) (h : t.sameProcess t') : t = t' := by
  obtain ⟨hn, hp⟩ := sameProcess_iff.1 h
  have hle := f.newest t' ht' t (f.named t ht) hn
  have hge := f.newest t ht t' (f.named t' ht') hn.symm
  rw [if_pos hp] at hle
  rw [if_pos hp.symm] at hge
  have hg := Nat.le_antisymm hle hge
  cases t
  cases t'
  simp_all

theorem Usable.mono (hs : ∀ t ∈ settled', t ∈ settled) (h : f.Usable settled w) : f.Usable settled' w where
  platform := h.platform
  rows r hr hid := ⟨(h.rows r hr hid).named, (h.rows r hr hid).live, fun t ht => (h.rows r hr hid).current t (hs t ht)⟩

theorem Usable.accepts (h : f.Usable settled w) (ht : t ∈ f.targets) : w.edges.accepts f.platform f.c.id t := by
  simp only [EdgeTable.accepts, Bool.and_eq_true, Bool.or_eq_true, Bool.not_eq_true', Option.all_eq_true, outranked,
    List.any_eq_false, decide_eq_true_eq]
  constructor
  · by_cases hp : f.platform
    · exact .inl hp
    refine .inr fun r hr hout => ?_
    obtain ⟨hid, hn, hne, hg⟩ := hout
    have hf := f.newest t ht r.target (h.rows r hr hid).named hn
    rw [if_neg (show r.target.processEpoch ≠ _ from hne)] at hf
    exact absurd (hf.resolve_left hp) (Nat.not_lt.2 hg)
  · intro r hr
    obtain ⟨hr, hkey⟩ := Table.find_eq_some.1 hr
    have hu := h.rows r hr (congrArg (·.1) hkey)
    have hsame : r.target.sameProcess t := sameProcess_iff.2 ⟨congrArg (·.2.1) hkey, congrArg (·.2.2) hkey⟩
    obtain ⟨hn, hp⟩ := sameProcess_iff.1 hsame
    have hf := f.newest t ht r.target hu.named hn
    rw [if_pos hp] at hf
    exact ⟨hu.live t ht hsame, hf⟩

theorem usable_stageEdge {tables : Tables} (hs : ∀ t ∈ settled, t ∈ f.targets) (hid : c.id = f.c.id) (ht : t ∈ f.targets)
    (h : f.Usable settled w) (hst : w.stageEdge c t now = some tables) : f.Usable (t :: settled) tables := by
  obtain ⟨edges, hedges, rfl⟩ := Option.map_eq_some_iff.1 hst
  have hspec := w.edges.stage_spec (w.platform c) c.id t c.certificateGeneration now
  rw [show w.edges.stage (w.platform c) c.id t c.certificateGeneration now = some edges from hedges] at hspec
  split_ifs at hspec
  obtain ⟨_, heq, hfind⟩ := hspec
  obtain rfl := Option.some.inj heq
  obtain ⟨⟨-, htg⟩, -, hstate⟩ := stagedRow_spec w.edges c.id t c.certificateGeneration now
  refine ⟨h.platform, fun r hr hrid => ?_⟩
  obtain rfl | ⟨hr, hk⟩ := mem_of_written hfind hr
  · refine ⟨htg.symm ▸ f.named _ ht, fun _ _ _ => ?_, fun t' hmem hsame => ?_⟩
    · rcases hstate with hs | hs <;> rw [hs] <;> rfl
    · rw [htg] at hsame ⊢
      exact eq_of_sameProcess ht (forall_mem_cons.2 ⟨ht, hs⟩ t' hmem) hsame
  · have hu := h.rows r hr hrid
    refine ⟨hu.named, hu.live, fun t' hmem hsame => ?_⟩
    rcases mem_cons.1 hmem with rfl | hmem
    · exact absurd (key_of_sameProcess (hrid.trans hid.symm) hsame) hk
    · exact hu.current t' hmem hsame

theorem usable_markEdge {tables : Tables} (hst : state.live ∨ ∀ t' ∈ f.targets, t.sameProcess t' = false)
    (h : f.Usable settled w) (hm : w.markEdge c t state now = some tables) : f.Usable settled tables := by
  obtain ⟨edges, hedges, rfl⟩ := Option.map_eq_some_iff.1 hm
  obtain ⟨old, hold, htg, -, -, hfind⟩ := mark_eq_some hedges
  refine ⟨h.platform, fun r hr hid => ?_⟩
  obtain rfl | ⟨hr, -⟩ := mem_of_written hfind hr
  · have hu := h.rows old (Table.find_eq_some.1 hold).1 hid
    refine ⟨hu.named, fun t' ht' hsame => ?_, hu.current⟩
    rcases hst with hl | hnone
    · simp only [EdgeRow.mark]
      split_ifs
      · rfl
      · exact hl
    · rw [show (old.mark state now).target = t from htg, hnone t' ht'] at hsame
      cases hsame
  · exact h.rows r hr hid

end Round

/-! ## Calls that do not fail -/

def Fine (choose : Cmd → World → Choice) : Prop := ∀ c w, (choose c w).fails = none

def Tables.On (w : Tables) (c : StoredCertificate) (states : EdgeState → Prop) (t : EdgeTarget) : Prop :=
  ∃ r, w.edges.find (keyOf c.id t) = some r ∧ r.target = t ∧
    r.observedGeneration = c.certificateGeneration ∧ states r.state

/-- Each target's row is in one of the states, and no other row has changed. -/
structure Reached (c : StoredCertificate) (targets : List EdgeTarget) (states : EdgeState → Prop) (w w' : Tables) : Prop where
  on : ∀ t ∈ targets, w'.On c states t
  others : ∀ k, (∀ t ∈ targets, k ≠ keyOf c.id t) → w'.edges.find k = w.edges.find k

def justStaged (s : EdgeState) : Prop := s = .staged ∨ s = .active

def justReady (s : EdgeState) : Prop := s = .ready ∨ s = .active

def nowActive (s : EdgeState) : Prop := s = .active

theorem Reached.nil {c : StoredCertificate} {states : EdgeState → Prop} (w : Tables) : Reached c [] states w w :=
  ⟨forall_mem_nil _, fun _ _ => rfl⟩

theorem Reached.cons {c : StoredCertificate} {states : EdgeState → Prop} {w w1 w' : Tables} {row : EdgeRow}
    (hapart : ∀ t' ∈ targets, keyOf c.id t ≠ keyOf c.id t')
    (hfind : ∀ k, w1.edges.find k = if k = keyOf c.id t then some row else w.edges.find k)
    (hrow : row.target = t ∧ row.observedGeneration = c.certificateGeneration ∧ states row.state)
    (h : Reached c targets states w1 w') : Reached c (t :: targets) states w w' where
  on := by
    refine forall_mem_cons.2 ⟨⟨row, ?_, hrow⟩, h.on⟩
    rw [h.others _ hapart, hfind, if_pos rfl]
  others k hk := by
    rw [h.others k fun t' ht' => hk t' (mem_cons_of_mem _ ht'), hfind, if_neg (hk t mem_cons_self)]

section Fine
variable {cfg : Config} {choose : Cmd → World → Choice} (hfine : Fine choose) {c : StoredCertificate}
  {b : CertificateBundle} {w : World} {α : Type}
include hfine

theorem eval_call (cmd : Cmd) (w : World) : eval (exec cfg) choose (call cmd) w = answer cfg cmd (choose cmd w) w := by
  rw [call, eval_perform, exec, hfine]

theorem eval_clock_bind (f : Time → Action α) (w : World) :
    eval (exec cfg) choose (call .clock >>= f) w = eval (exec cfg) choose (f (choose .clock w).time) w :=
  eval_bind_ok (eval_call hfine .clock w)

omit hfine in
theorem eval_accepted_bind {check : Except Err Unit} (h : check = .ok ()) (f : Unit → Action α) (w : World) :
    eval (exec cfg) choose (accepted check >>= f) w = eval (exec cfg) choose (f ()) w := by
  subst h
  rfl

def Valid (cfg : Config) (choose : Cmd → World → Choice) (r : DistributionRequest) : Prop :=
  ∀ w, r.validate cfg.names cfg.x509 (choose .clock w).time = .ok ()

theorem eval_sendOrMark (r : DistributionRequest) (action : EdgeAction) (w : World) :
    eval (exec cfg) choose (sendOrMark r action) w = (.ok (), w.record (.sent action r.certificate.id r.target true)) := by
  rw [sendOrMark, eval_bind_ok (eval_attempt _ _), eval_call hfine]
  rfl

/-! ## The rounds -/

theorem eval_stage {f : Round} {settled : List EdgeTarget} (hv : Valid cfg choose ⟨f.c, b, t⟩)
    (hs : ∀ t ∈ settled, t ∈ f.targets) (ht : t ∈ f.targets) (h : f.Usable settled w.toTables) :
    ∃ w' row, eval (exec cfg) choose (stage cfg ⟨f.c, b, t⟩) w = (.ok (), w') ∧ f.Usable (t :: settled) w'.toTables ∧
      (row.target = t ∧ row.observedGeneration = f.c.certificateGeneration ∧ justStaged row.state) ∧
      ∀ k, w'.edges.find k = if k = keyOf f.c.id t then some row else w.edges.find k := by
  have hsp := w.edges.stage_spec (w.platform f.c) f.c.id t f.c.certificateGeneration (choose (.stageEdge f.c t) w).time
  rw [if_pos (h.platform ▸ h.accepts ht)] at hsp
  obtain ⟨edges, hsg, hfind⟩ := hsp
  have hst : w.stageEdge f.c t (choose (.stageEdge f.c t) w).time = some { w.toTables with edges } :=
    congrArg (Option.map _) hsg
  have hcall : eval (exec cfg) choose (call (.stageEdge f.c t)) w = (.ok (), { w with edges }) :=
    (eval_call hfine _ w).trans (congrArg w.writeOrConflict hst)
  refine ⟨{ w with edges, log := w.log ++ [.sent .stage f.c.id t true] }, _, ?_, Round.usable_stageEdge hs rfl ht h hst,
    ⟨(stagedRow_spec ..).1.2, (stagedRow_spec ..).2⟩, hfind⟩
  rw [stage, eval_clock_bind hfine, eval_accepted_bind (hv w), eval_bind_ok hcall, eval_sendOrMark hfine]
  rfl

theorem eval_stageEach {f : Round} {settled ts : List EdgeTarget} (hv : ∀ t ∈ ts, Valid cfg choose ⟨f.c, b, t⟩)
    (hts : ∀ t ∈ ts, t ∈ f.targets) (hnodup : ts.Nodup) (hs : ∀ t ∈ settled, t ∈ f.targets)
    (h : f.Usable settled w.toTables) (staged : List EdgeTarget) :
    ∃ w', eval (exec cfg) choose (stageEach (fun t => stage cfg ⟨f.c, b, t⟩) staged ts) w = (.ok (staged ++ ts, none), w') ∧
      Reached f.c ts justStaged w.toTables w'.toTables := by
  induction ts generalizing settled staged w with
  | nil =>
    refine ⟨w, ?_, .nil _⟩
    simp [stageEach]
  | cons t ts ih =>
    obtain ⟨ht, hts⟩ := forall_mem_cons.1 hts
    obtain ⟨hvt, hv⟩ := forall_mem_cons.1 hv
    obtain ⟨hnot, hnodup⟩ := nodup_cons.1 hnodup
    obtain ⟨w1, row, heval, hu, hrow, hfind⟩ := eval_stage hfine hvt hs ht h
    obtain ⟨w', he, hrc⟩ := ih hv hts hnodup (forall_mem_cons.2 ⟨ht, hs⟩) hu (staged ++ [t])
    refine ⟨w', ?_, hrc.cons (fun t' ht' hkey => hnot ?_) hfind hrow⟩
    · rw [stageEach, eval_bind_ok (eval_attempt _ _), heval]
      simpa using he
    · have hsame : t.sameProcess t' := sameProcess_iff.2 ⟨congrArg (·.2.1) hkey, congrArg (·.2.2) hkey⟩
      rwa [Round.eq_of_sameProcess ht (hts t' ht') hsame]

theorem eval_report (action : EdgeAction) {before after : EdgeState → Prop}
    (hst : ∀ r : EdgeRow, ∀ now, before r.state → state.follows r.state ∧ after (r.mark state now).state)
    (hv : ∀ t ∈ targets, Valid cfg choose ⟨c, b, t⟩) (hap : (targets.map (keyOf c.id)).Nodup)
    (hon : ∀ t ∈ targets, w.On c before t) :
    ∃ w', eval (exec cfg) choose (eachTarget (fun t => sendAndReport cfg action state ⟨c, b, t⟩) targets) w = (.ok none, w') ∧
      Reached c targets after w.toTables w'.toTables := by
  induction targets generalizing w with
  | nil => exact ⟨w, rfl, .nil _⟩
  | cons t targets ih =>
    obtain ⟨⟨r, hr, htg, hob, hbefore⟩, hon⟩ := forall_mem_cons.1 hon
    obtain ⟨hvt, hv⟩ := forall_mem_cons.1 hv
    obtain ⟨hnot, hap⟩ := nodup_cons.1 hap
    have hapart : ∀ t' ∈ targets, keyOf c.id t ≠ keyOf c.id t' := fun t' ht' hk => hnot (hk ▸ mem_map_of_mem ht')
    obtain ⟨hfo, haf⟩ :=
      hst r (choose (.markEdge c t state) (w.record (.sent action c.id t true))).time hbefore
    obtain ⟨edges, hmark, hfind⟩ := mark_spec hr htg hob hfo
    have heval : eval (exec cfg) choose (sendAndReport cfg action state ⟨c, b, t⟩) w =
        (.ok (), { w with edges, log := w.log ++ [.sent action c.id t true] }) := by
      rw [sendAndReport, eval_clock_bind hfine, eval_accepted_bind (hvt w),
        eval_bind_ok (eval_sendOrMark hfine _ _ _), eval_call hfine]
      exact congrArg (World.writeOrConflict _) (congrArg (Option.map _) hmark)
    obtain ⟨w', he, hrc⟩ := ih (w := { w with edges, log := w.log ++ [.sent action c.id t true] }) hv hap fun t' ht' => by
        obtain ⟨r', hr', h'⟩ := hon t' ht'
        exact ⟨r', by rw [hfind, if_neg (hapart t' ht').symm]; exact hr', h'⟩
    refine ⟨w', ?_, hrc.cons hapart hfind ?_⟩
    · rw [eachTarget, eval_bind_ok (eval_attempt _ _), heval]
      exact he
    · exact ⟨htg, hob, haf⟩

omit hfine in
theorem mark_ready (r : EdgeRow) (now : Time) (h : justStaged r.state) :
    EdgeState.ready.follows r.state ∧ justReady (r.mark .ready now).state := by
  rcases h with h | h <;> simp [EdgeState.follows, EdgeRow.mark, justReady, h]

omit hfine in
theorem mark_active (r : EdgeRow) (now : Time) (h : justReady r.state) :
    EdgeState.active.follows r.state ∧ nowActive (r.mark .active now).state := by
  rcases h with h | h <;> simp [EdgeState.follows, EdgeRow.mark, nowActive, h]

theorem eval_distribute {f : Round} {ts : List EdgeTarget} (hv : ∀ t ∈ ts, Valid cfg choose ⟨f.c, b, t⟩)
    (hts : ∀ t ∈ ts, t ∈ f.targets) (hnodup : ts.Nodup) (h : f.Usable [] w.toTables) :
    ∃ w', eval (exec cfg) choose (distribute cfg f.c b ts) w = (.ok (ts, none), w') ∧
      Reached f.c ts nowActive w.toTables w'.toTables := by
  have hap : (ts.map (keyOf f.c.id)).Nodup := hnodup.map_on fun t ht t' ht' hkey =>
    Round.eq_of_sameProcess (hts t ht) (hts t' ht') (sameProcess_iff.2 ⟨congrArg (·.2.1) hkey, congrArg (·.2.2) hkey⟩)
  obtain ⟨w1, he1, h1⟩ := eval_stageEach hfine hv hts hnodup (forall_mem_nil _) h []
  obtain ⟨w2, he2, h2⟩ := eval_report hfine .waitReady mark_ready hv hap h1.on
  obtain ⟨w3, he3, h3⟩ := eval_report hfine .activate mark_active hv hap h2.on
  refine ⟨w3, ?_, h3.on, fun k hk => ?_⟩
  · rw [distribute, eval_bind_ok he1]
    simp only [nil_append, activateStaged]
    rw [eval_bind_ok (f := fun r => _) (show eval (exec cfg) choose
      (eachTarget (fun t => waitReady cfg ⟨f.c, b, t⟩) ts) w1 = (.ok none, w2) from he2)]
    rw [eval_bind_ok (f := fun r => _) (show eval (exec cfg) choose
      (eachTarget (fun t => activateEdge cfg ⟨f.c, b, t⟩) ts) w2 = (.ok none, w3) from he3)]
    rfl
  · rw [h3.others k hk, h2.others k hk, h1.others k hk]

end Fine

end Paperboat.Tunnel

import Mathlib.Data.Finset.Max
import Paperboat.Tunnel.EnsureCalls
/-!
# Retried issuance

The store keeps no sequence of generations, so `Ensure` numbers a new certificate after
the active one. A record that an attempt stored and did not activate has that number
already, and the next attempt is refused by the index over domain, hostname and generation.
As long as every record that is stored is activated, the numbers are new.
-/

namespace Paperboat.Tunnel

variable {t : RecordTable} {id hostname : String} {cfg : Config} {w : World} {tables : Tables}
  {v : StoredCertificate} {c : Cmd} {m : Action α}

open Lib Lib.Prog

/-- A call of `Ensure`. It finds the other tables as they are by then, and may stop between two of its calls. -/
structure Attempt where
  domain : Domain
  now : Time
  others : Tables
  choices : List Choice

namespace Attempt

def start (a : Attempt) (w : World) : World := { w with toTables := { a.others with records := w.records } }

def step (cfg : Config) (w : World) (a : Attempt) : World :=
  (runFor (exec cfg) a.choices (ensure cfg a.domain a.now) (a.start w)).2

def For (id hostname : String) (a : Attempt) : Prop :=
  a.domain.id = id ∧ a.domain.hostname = hostname ∧ a.domain.target.normalizedKind = .durableRoute

end Attempt

/-- No record of the hostname was left over by an attempt that failed. -/
def RecordTable.Finished (t : RecordTable) (d : Domain) : Prop :=
  ∀ r ∈ t.rows, r.domainID = d.id → r.hostname = d.validationHostname → r.state ≠ .staged ∧ r.state ≠ .failed

def RecordTable.Free (t : RecordTable) (v : StoredCertificate) : Prop :=
  ∀ r ∈ t.rows, r.domainID = v.domainID → r.hostname = v.hostname → r.certificateGeneration ≠ v.certificateGeneration

def Cmd.numbered : Cmd → World → Prop
  | .putStaged v, w => w.records.Free v
  | _, _ => True

/-! ## Records in order -/

def StoredCertificate.Named (hostname : String) (r : StoredCertificate) : Prop :=
  r.targetKind = .durableRoute ∧ if r.leafHostname = "" then r.hostname = hostname
    else r.hostname = r.leafHostname ∧ isWildcard hostname ∧ isWildcard r.leafHostname = false

theorem StoredCertificate.Named.hostname_iff {r : StoredCertificate} {d : Domain} (h : r.Named d.hostname)
    (hd : d.leafHostname ≠ "" → isWildcard d.hostname ∧ isWildcard d.leafHostname = false) :
    r.hostname = d.validationHostname ↔ r.leafHostname = d.leafHostname := by
  have hn := h.2
  unfold Domain.validationHostname
  by_cases hl : d.leafHostname = ""
  · split_ifs at hn with hr
    · simp [hl, hr, hn]
    -- The hostname has a wildcard and the leaf has none.
    simp only [hl, ne_eq, not_true_eq_false, if_false, hr, iff_false, hn.1]
    intro he
    cases hn.2.2.symm.trans (he ▸ hn.2.1)
  · obtain ⟨hw, hlw⟩ := hd hl
    split_ifs at hn with hr
    · simp only [hl, ne_eq, not_false_eq_true, if_true, hr, hn, Ne.symm hl, iff_false]
      intro he
      cases hlw.symm.trans (he ▸ hw)
    · simp [hl, hn.1]

namespace RecordTable

variable {leaf : String} {generation : Nat} {selected : StoredCertificate → Bool} {state : State}
  {code : StoredCertificate → String} {now : Time}

def Reached (t : RecordTable) (id leaf : String) (generation : Nat) : Prop :=
  ∃ c ∈ t.rows, c.domainID = id ∧ c.leafHostname = leaf ∧ generation ≤ c.certificateGeneration

structure InOrder (id hostname : String) (t : RecordTable) : Prop where
  named : ∀ r ∈ t.rows, r.domainID = id → r.Named hostname
  state : ∀ r ∈ t.rows, r.domainID = id → r.state = .staged ∨ r.state = .failed ∨ r.state = .active ∨ r.state = .superseded
  newer : ∀ r ∈ t.rows, r.domainID = id → r.state = .superseded → t.Reached id r.leafHostname (r.certificateGeneration + 1)

theorem Reached.mark {id : String} (h : t.Reached id leaf generation) :
    RecordTable.Reached (t.update selected (fun r => r.mark state (code r) now) fun r => r.mark_id _ _ _) id leaf generation := by
  obtain ⟨c, hc, hrest⟩ := h
  by_cases hs : selected c
  · exact ⟨_, Table.mem_update_of_selected (fun r => r.mark_id _ _ _) hc hs, hrest⟩
  · exact ⟨c, Table.mem_update.2 (.inr ⟨hc, Bool.eq_false_iff.2 hs⟩), hrest⟩

theorem InOrder.mark (h : t.InOrder id hostname)
    (hst : (state = .staged ∨ state = .failed ∨ state = .active) ∨ state = .superseded ∧ ∀ r ∈ t.rows, selected r →
      r.domainID = id → t.Reached id r.leafHostname (r.certificateGeneration + 1)) :
    InOrder id hostname (t.update selected (fun r => r.mark state (code r) now) fun r => r.mark_id _ _ _) := by
  refine ⟨fun r hr hid => ?_, fun r hr hid => ?_, fun r hr hid hs => ?_⟩
  all_goals rcases Table.mem_update.1 hr with ⟨o, ho, hsel, rfl⟩ | ⟨hr, -⟩
  · exact h.named o ho hid
  · exact h.named r hr hid
  · rcases hst with (rfl | rfl | rfl) | ⟨rfl, -⟩ <;> simp [StoredCertificate.mark]
  · exact h.state r hr hid
  · rcases hst with (rfl | rfl | rfl) | ⟨rfl, hnew⟩
    · cases hs
    · cases hs
    · cases hs
    · exact (hnew o ho hsel hid).mark
  · exact (h.newer r hr hid hs).mark

theorem InOrder.supersede (h : t.InOrder id hostname) {domainID : String}
    (hsel : ∀ r, selected r → r.domainID = domainID ∧ r.leafHostname = leaf)
    (hr : t.Reached domainID leaf generation) : (t.supersede selected generation now).InOrder id hostname := by
  refine h.mark (.inr ⟨rfl, fun r _ hs hid => ?_⟩)
  simp only [Bool.and_eq_true, decide_eq_true_eq] at hs
  obtain ⟨hdom, hleaf⟩ := hsel r hs.1.1
  obtain ⟨c, hc, hcid, hcl, hle⟩ := hr
  exact ⟨c, hc, hcid.trans (hdom.symm.trans hid), hcl.trans hleaf.symm, Nat.succ_le_of_lt (hs.1.2.trans_le hle)⟩

theorem InOrder.insert {v : StoredCertificate} {t' : RecordTable} (h : t.InOrder id hostname) (hn : v.Named hostname)
    (hst : v.state = .staged) (hi : t.insert v = some t') : t'.InOrder id hostname := by
  obtain ⟨-, hrows⟩ := Table.insert_eq_some.1 hi
  have hmem {r : StoredCertificate} : r ∈ t'.rows ↔ r ∈ t.rows ∨ r = v := by simp [hrows]
  refine ⟨fun r hr hid => ?_, fun r hr hid => ?_, fun r hr hid hs => ?_⟩
  all_goals rcases hmem.1 hr with hr | rfl
  · exact h.named r hr hid
  · exact hn
  · exact h.state r hr hid
  · exact .inl hst
  · exact (h.newer r hr hid hs).imp fun _ hc => ⟨hmem.2 (.inl hc.1), hc.2⟩
  · rw [hst] at hs
    cases hs

end RecordTable

/-! ## Calls -/

/-- When an attempt may make which call. -/
def Cmd.orderly (cfg : Config) (id hostname : String) : Cmd → World → Prop
  | .putStaged v, w => v.domainID = id ∧ v.durableRow.Named hostname ∧ v.target.normalizedKind ≠ .previewLease ∧ w.records.Free v
  | .supersedeOlder domainID generation _, w => w.records.Reached domainID "" generation
  | .supersedeOlderForHostname domainID leaf generation _, w =>
    normalizeHostname cfg.names leaf = .ok (leaf, false) ∧ w.records.Reached domainID leaf generation
  | .rebindPreviewTarget .., _ => False
  | _, _ => True

theorem putStaged_ok (hk : v.target.normalizedKind ≠ .previewLease) (h : w.putStaged cfg.names v = .ok tables) :
    (∃ r ∈ tables.records.rows, r.id = v.id ∧ r.domainID = v.domainID ∧ r.leafHostname = v.leafHostname) ∧
      ∀ id hostname, w.records.InOrder id hostname ∧ v.durableRow.Named hostname → tables.records.InOrder id hostname := by
  simp only [Tables.putStaged, bind_eq_ok, if_neg hk] at h
  obtain ⟨-, -, h⟩ := h
  split at h
  · split_ifs at h
    unfold Tables.insertRecord at h
    split at h
    · cases h
    split at h
    · rename_i r hf
      split_ifs at h with hsame
      cases h
      obtain ⟨hr, hid⟩ := Table.find_eq_some.1 hf
      simp only [StoredCertificate.sameAttempt, Bool.and_eq_true, Bool.or_eq_true, beq_iff_eq] at hsame
      refine ⟨⟨_, Table.mem_update_of_selected (fun r => r.mark_id _ _ _) hr (by simpa using hid), hid, ?_, ?_⟩,
        fun _ _ ho => ho.1.mark (.inl (.inl rfl))⟩
      · exact hsame.1.1.1.1.1.1.1.1.1.1.1.2
      · exact hsame.1.1.1.2
    · split_ifs at h
      split at h
      · rename_i hi
        cases h
        refine ⟨⟨v.durableRow, ?_, rfl, rfl, rfl⟩, fun _ _ ho => ho.1.insert ho.2 rfl hi⟩
        simp [(Table.insert_eq_some.1 hi).2]
      · cases h
  · cases h

theorem activate_ok {i : String} {domainGeneration : Nat} {now : Time} {active : StoredCertificate}
    (h : w.activate i domainGeneration now = .ok (active, tables)) :
    (∃ r, w.records.find i = some r ∧ tables.records.Reached r.domainID r.leafHostname active.certificateGeneration) ∧
      ∀ id hostname, w.records.InOrder id hostname → tables.records.InOrder id hostname := by
  simp only [Tables.activate, bind_eq_ok] at h
  obtain ⟨-, -, h⟩ := h
  split at h
  · cases h
  rename_i r hf
  obtain ⟨hr, rfl⟩ := Table.find_eq_some.1 hf
  simp only [bind_eq_ok] at h
  obtain ⟨-, -, h⟩ := h
  split at h
  · cases h
  rename_i older ho
  simp only [bind_eq_ok, refuseIf_eq_ok, Bool.not_eq_false', Bool.and_eq_true, beq_iff_eq, Except.ok.injEq, Prod.mk.injEq] at h
  obtain ⟨-, ⟨⟨-, hst⟩, -⟩, -, -, rfl, rfl⟩ := h
  have hr : w.records.Reached r.domainID r.leafHostname r.certificateGeneration := ⟨r, hr, rfl, rfl, le_rfl⟩
  refine ⟨⟨r, hf, hr.mark.mark⟩, fun _ _ h => (h.supersede (fun s hs => ?_) hr).mark (.inl (.inr (.inr rfl)))⟩
  unfold Tables.replaces at ho
  split at ho
  · split_ifs at ho
    cases ho
    simp only [StoredCertificate.ofPreview, Bool.and_eq_true, beq_iff_eq] at hs
    exact ⟨hs.1.1.1.1.1.1, hs.1.1.1.2⟩
  · split_ifs at ho with hleaf <;> cases ho
    · simp only [StoredCertificate.ofDomain, Bool.and_eq_true, beq_iff_eq] at hs
      exact ⟨hs.1.1, hs.2.trans hleaf.symm⟩
    · simp only [StoredCertificate.ofLeaf, Bool.and_eq_true, beq_iff_eq] at hs
      exact ⟨hs.1.1, hs.2⟩
  · cases ho

theorem orderly_of_quiet (h : c.quiet) (w : World) : c.orderly cfg id hostname w := by
  cases c <;> trivial

theorem inOrder_exec (h : w.records.InOrder id hostname) (hc : c.orderly cfg id hostname w) (x : Choice) :
    (exec cfg c x w).2.records.InOrder id hostname := by
  by_cases hq : c.quiet
  · rwa [records_exec hq]
  refine exec_keeps (F := fun w => w.records.InOrder id hostname) (by cases c <;> exact h) ?_
  cases c with
  | putStaged v =>
    change (w.write (w.putStaged cfg.names v)).2.records.InOrder id hostname
    cases he : w.putStaged cfg.names v with
    | error => exact h
    | ok => exact (putStaged_ok hc.2.2.1 he).2 _ _ ⟨h, hc.2.1⟩
  | activate i generation now =>
    delta answer
    dsimp only
    split
    · next he => exact (activate_ok he).2 _ _ h
    · exact h
  | supersedeOlder domainID generation now =>
    change (w.write (w.supersedeOlder domainID generation now)).2.records.InOrder id hostname
    unfold Tables.supersedeOlder
    split_ifs
    · exact h
    refine h.supersede (fun r hr => ?_) hc
    simp only [StoredCertificate.ofDomain, Bool.and_eq_true, beq_iff_eq] at hr
    exact ⟨hr.1.1, hr.2⟩
  | supersedeOlderForHostname domainID leaf generation now =>
    change (w.write (w.supersedeOlderForHostname cfg.names domainID leaf generation now)).2.records.InOrder id hostname
    unfold Tables.supersedeOlderForHostname
    rw [hc.1]
    split_ifs
    · exact h
    refine h.supersede (fun r hr => ?_) hc.2
    simp only [StoredCertificate.ofLeaf, Bool.and_eq_true, beq_iff_eq] at hr
    exact ⟨hr.1.1, hr.2⟩
  | markFailed i reason now =>
    change (w.write (w.markFailed i reason now)).2.records.InOrder id hostname
    unfold Tables.markFailed
    split_ifs
    · exact h
    split
    · split_ifs
      · exact h.mark (.inl (.inr (.inl rfl)))
      · exact h
    · exact h
  | rebindPreviewTarget => exact hc.elim
  | _ => exact absurd rfl hq

/-! ## Attempts -/

namespace RecordTable

/-- What `Ensure` reads as the current certificate of a durable domain. -/
def activeOf (t : RecordTable) (d : Domain) : Option StoredCertificate :=
  if d.leafHostname = "" then t.newest fun r => r.ofDomain d.id && r.state == .active
  else t.newest fun r => r.ofLeaf d.id d.leafHostname && r.targetKind == .durableRoute && r.state == .active

theorem foldl_reaches {step : Option α → α → Option α} {f : α → Nat}
    (h : ∀ best a, ∃ c, step best a = some c ∧ f a ≤ f c ∧ ∀ b, best = some b → f b ≤ f c) {l : List α} {best : Option α} {a : α}
    (ha : a ∈ l ∨ ∃ b, best = some b ∧ f a ≤ f b) : ∃ c, l.foldl step best = some c ∧ f a ≤ f c := by
  induction l generalizing best with
  | nil => simpa using ha
  | cons x _ ih =>
    obtain ⟨c, hc, hx, hb⟩ := h best x
    refine ih ?_
    rcases ha with ha | ⟨b, rfl, hab⟩
    · rcases List.mem_cons.1 ha with rfl | ha
      · exact .inr ⟨c, hc, hx⟩
      · exact .inl ha
    · exact .inr ⟨c, hc, hab.trans (hb b rfl)⟩

theorem le_newest {selected : StoredCertificate → Bool} {r : StoredCertificate} (hr : r ∈ t.rows)
    (hs : selected r) : ∃ c, t.newest selected = some c ∧ r.certificateGeneration ≤ c.certificateGeneration := by
  refine foldl_reaches ?_ (.inl (List.mem_filter.2 ⟨hr, hs⟩))
  rintro (_ | b) a
  · exact ⟨a, rfl, le_rfl, fun _ hb => by cases hb⟩
  dsimp only
  split_ifs with hlt
  · exact ⟨a, rfl, le_rfl, fun _ hb => Option.some.inj hb ▸ hlt.le⟩
  · exact ⟨b, rfl, not_lt.1 hlt, fun _ hb => Option.some.inj hb ▸ le_rfl⟩

theorem InOrder.free {d : Domain} {v : StoredCertificate} (h : t.InOrder d.id d.hostname)
    (hf : t.Finished d) (hd : d.leafHostname ≠ "" → isWildcard d.hostname ∧ isWildcard d.leafHostname = false)
    (hv : v.domainID = d.id ∧ v.hostname = d.validationHostname)
    (hg : nextGeneration (t.activeOf d) = .ok v.certificateGeneration) : t.Free v := by
  intro r hr hid hhost hgen
  rw [hv.1] at hid
  rw [hv.2] at hhost
  have hleaf := ((h.named r hr hid).hostname_iff hd).1 hhost
  -- The newest record of the hostname is not superseded, so it is active.
  obtain ⟨c, hc, hmax⟩ := (t.rows.toFinset.filter fun c => c.domainID = d.id ∧
    c.leafHostname = d.leafHostname).exists_max_image (·.certificateGeneration) ⟨r, by simp [hr, hid, hleaf]⟩
  simp only [Finset.mem_filter, List.mem_toFinset] at hc hmax
  obtain ⟨hcm, hcid, hcl⟩ := hc
  have hcn := h.named c hcm hcid
  have hch := (hcn.hostname_iff hd).2 hcl
  have hact : c.state = .active := by
    rcases h.state c hcm hcid with hst | hst | hst | hst
    · exact absurd hst (hf c hcm hcid hch).1
    · exact absurd hst (hf c hcm hcid hch).2
    · exact hst
    · obtain ⟨c', hc', hid', hl', hle⟩ := h.newer c hcm hcid hst
      exact absurd (hmax c' ⟨hc', hid', hl'.trans hcl⟩) (by omega)
  obtain ⟨b, hb, hle⟩ : ∃ b, t.activeOf d = some b ∧ c.certificateGeneration ≤ b.certificateGeneration := by
    unfold activeOf
    split_ifs with hl
    · refine le_newest hcm ?_
      simp [StoredCertificate.ofDomain, hcid, hcn.1, hcl, hl, hact]
    · refine le_newest hcm ?_
      simp [StoredCertificate.ofLeaf, hcid, hcn.1, hcl, hch, Domain.validationHostname, hl, hact]
  rw [hb, nextGeneration] at hg
  split_ifs at hg
  have hmr := hmax r ⟨hr, hid, hleaf⟩
  have := Except.ok.inj hg
  omega

end RecordTable

section Ensure
variable {d : Domain} {now : Time}

def Orderly (cfg : Config) (id hostname : String) (m : Action α) (w : World) : Prop :=
  m.Safe (exec cfg) Eq (Cmd.orderly cfg id hostname) (fun _ _ => True) w

theorem orderly_bind {f : α → Action β} (hm : m.Makes fun c => c.quiet)
    (h : ∀ a w', w'.records = w.records → Orderly cfg id hostname (f a) w') : Orderly cfg id hostname (m >>= f) w := by
  have hs : m.Safe (exec cfg) Eq (fun c _ => c.quiet) _ w := (hm.safe w).frame (F := fun w' => w'.records = w.records) rfl
    (fun _ _ he hw => he ▸ hw) fun c x s hc hw => (records_exec hc x s).trans hw
  exact (hs.weaken (fun _ s hc => orderly_of_quiet hc s) fun _ _ hq => hq.2).bind (fun _ => rfl) h fun _ _ _ => trivial

theorem orderly_of_makes (hm : m.Makes fun c => c.quiet) : Orderly cfg id hostname m w :=
  (hm.safe w).weaken (fun _ s hc => orderly_of_quiet hc s) fun _ _ _ => trivial

theorem orderly_call {next : Except Err c.Answer → Action α} (hc : c.orderly cfg id hostname w)
    (h : ∀ r w', (∃ x, exec cfg c x w = (r, w')) → Orderly cfg id hostname (next r) w') :
    Orderly cfg id hostname (.call c next) w := by
  rintro w' rfl
  exact ⟨hc, fun x => h _ _ ⟨x, rfl⟩⟩

theorem orderly_perform {f : c.Answer → Action α} (hc : c.orderly cfg id hostname w)
    (h : ∀ a w', (∃ x, exec cfg c x w = (.ok a, w')) → Orderly cfg id hostname (f a) w') :
    Orderly cfg id hostname (call c >>= f) w := by
  refine orderly_call hc fun r w' hx => ?_
  cases r with
  | ok => exact h _ _ hx
  | error => exact fun _ _ => trivial

theorem orderly_abandon (v : StoredCertificate) (staged : List EdgeTarget) (reason : String) (cause : Err) :
    Orderly cfg id hostname (abandon cfg v staged reason cause now : Action α) w := by
  refine orderly_bind (makes_rollbackStaged (fun _ => Cmd.quiet_of_about) _) fun _ _ _ => orderly_call trivial fun r _ _ => ?_
  cases r <;> exact fun _ _ => trivial

section Durable
variable (hk : d.target.normalizedKind = .durableRoute)
include hk

theorem orderly_current {f : Option StoredCertificate → Action α}
    (h : ∀ w', w'.records = w.records → Orderly cfg id hostname (f (w.records.activeOf d)) w') :
    Orderly cfg id hostname (currentCertificate d >>= f) w := by
  have hread {c : Cmd} {x : Choice} {w' : World} {b : Bool} {a v : c.Answer} (ha : answer cfg c x w = (checked b (.ok v), w))
      (he : exec cfg c x w = (.ok a, w')) : a = v ∧ w' = w := by
    rw [answer_of_ok he, checked] at ha
    split_ifs at ha <;> cases ha
    exact ⟨rfl, rfl⟩
  unfold currentCertificate
  rw [if_neg (by simp [hk])]
  unfold RecordTable.activeOf at h
  split_ifs at h ⊢ with hl
  all_goals
    refine orderly_perform trivial fun a w' hx => ?_
    obtain ⟨x, hx⟩ := hx
    obtain ⟨rfl, rfl⟩ := hread rfl hx
    exact h _ rfl

variable (hv : d.validate cfg.names = .ok ())
include hv

theorem orderly_rollOut {current : Option StoredCertificate} {b : CertificateBundle} {fallback : Bool}
    (h : ∃ r ∈ w.records.rows, r.id = v.id ∧ r.domainID = d.id ∧ r.leafHostname = d.leafHostname) :
    Orderly cfg id hostname (rollOut cfg d.sorted current b v fallback now) w := by
  unfold rollOut
  split_ifs
  · exact orderly_call trivial fun r _ _ => by cases r <;> exact fun _ _ => trivial
  refine orderly_bind (makes_distribute (fun _ => Cmd.quiet_of_about) _ _) fun r w1 h1 => ?_
  obtain ⟨staged, failure⟩ := r
  cases failure with
  | some => exact orderly_abandon ..
  | none =>
    refine orderly_call (c := .activate v.id d.generation now) trivial fun r w2 hx => ?_
    cases r with
    | error => exact orderly_abandon ..
    | ok active =>
      obtain ⟨x, hx⟩ := hx
      have hr : w2.records.Reached d.id d.leafHostname active.certificateGeneration := by
        have he : answer cfg (.activate v.id d.generation now) x w1 = _ := answer_of_ok hx
        delta answer at he
        dsimp only at he
        split at he
        · rename_i ha
          cases he
          obtain ⟨⟨r, hf, hr⟩, -⟩ := activate_ok ha
          obtain ⟨o, ho, hoid, hod, hol⟩ := h
          rw [h1, Table.find_eq_some.2 ⟨ho, hoid⟩] at hf
          cases hf
          exact hod ▸ hol ▸ hr
        · cases he
      have hrest (w : World) : Orderly cfg id hostname (retirePrior cfg current >>= fun e =>
          (pure ⟨active, fallback, true, e⟩ : Action Result)) w := by
        refine orderly_of_makes (.bind ?_ fun _ => .pure _)
        cases current with
        | none => exact .pure _
        | some => exact makes_retirePrior fun _ => Cmd.quiet_of_about
      change Orderly cfg id hostname (finish cfg d.sorted current active fallback now) w2
      unfold finish supersede
      rw [if_neg fun he => by cases hk.symm.trans he]
      split_ifs with hl
      · exact orderly_perform ⟨((validate_canonical hv).2 hl).2, hr⟩ fun _ w _ => hrest w
      have hl : d.leafHostname = "" := not_not.1 hl
      rw [hl] at hr
      exact orderly_perform hr fun _ w _ => hrest w

variable (h : w.records.InOrder d.id d.hostname) (hf : w.records.Finished d)
include h hf

theorem orderly_issueNew : Orderly cfg d.id d.hostname (issueNew cfg d.sorted (w.records.activeOf d) now) w := by
  have hquiet (c : Cmd) (hc : c.silent) : c.quiet := Cmd.quiet_of_about (Cmd.about_of_silent hc "")
  unfold issueNew requestCertificate
  rw [Prog.bind_assoc]
  refine orderly_bind (makes_prepareChallenge hquiet cfg _) fun _ w1 h1 => ?_
  rw [Prog.bind_assoc]
  refine orderly_bind (makes_issueBundle hquiet cfg _) fun r w2 h2 => ?_
  obtain ⟨b, fallback⟩ := r
  dsimp only
  cases hi : validateIssued cfg d.sorted b now with
  | error => exact fun _ _ => trivial
  | ok identity =>
    cases hg : nextGeneration (w.records.activeOf d) with
    | error => exact fun _ _ => trivial
    | ok generation =>
      change Orderly cfg d.id d.hostname (call (.sealParts b) >>= (fun sealed => _) >>= _) w2
      rw [Prog.bind_assoc]
      refine orderly_bind (.perform rfl) fun sealed w3 h3 => ?_
      have hrecords : w3.records = w.records := h3.trans (h2.trans h1)
      have hhost : identity.hostname = d.validationHostname := by
        simp only [validateIssued, bind_eq_ok] at hi
        obtain ⟨i, hi, he⟩ := hi
        obtain rfl : i = identity := by
          split_ifs at he
          · obtain ⟨-, -, he⟩ := bind_eq_ok.1 he
            exact Except.ok.inj he
          · exact Except.ok.inj he
        exact hostname_of_validate hv hi
      have hleaf (hl : d.leafHostname ≠ "") : isWildcard d.hostname ∧ isWildcard d.leafHostname = false :=
        ⟨((validate_canonical hv).2 hl).1, normalizeHostname_wildcard ((validate_canonical hv).2 hl).2⟩
      have hk' : d.target.normalizedKind ≠ .previewLease := fun he => by cases hk.symm.trans he
      refine orderly_perform (c := .putStaged _) ⟨rfl, ⟨rfl, ?_⟩, hk', ?_⟩ fun _ w4 hx => orderly_rollOut hk hv ?_
      · change if d.leafHostname = "" then identity.hostname = d.hostname else identity.hostname = d.leafHostname ∧ _ ∧ _
        rw [hhost, Domain.validationHostname]
        by_cases hl : d.leafHostname = ""
        · rw [if_pos hl, if_neg (not_not.2 hl)]
        · rw [if_neg hl, if_pos hl]
          exact ⟨rfl, hleaf hl⟩
      · rw [hrecords]
        exact h.free hf hleaf ⟨rfl, hhost⟩ hg
      · obtain ⟨x, hx⟩ := hx
        have he : w3.write _ = _ := answer_of_ok hx
        unfold World.write at he
        split at he
        · rename_i hp
          cases he
          exact (putStaged_ok (by exact hk') hp).1
        · cases he

theorem orderly_ensureLocked : Orderly cfg d.id d.hostname (ensureLocked cfg d.sorted now) w := by
  refine orderly_current (d := d.sorted) hk fun w' hw => ?_
  refine orderly_bind (.ofExcept _) fun _ w'' hw' => ?_
  have hw := hw'.trans hw
  split
  · refine orderly_bind (makes_needed (fun _ => Cmd.quiet_of_about) _) fun _ _ _ => ?_
    split_ifs
    · exact orderly_of_makes (makes_reconcile (fun _ => Cmd.quiet_of_about) _ _)
    · exact orderly_of_makes (.pure _)
  · rw [← hw] at h hf ⊢
    exact orderly_issueNew hk hv h hf

omit hv in
theorem orderly_ensure : Orderly cfg d.id d.hostname (ensure cfg d now) w := by
  have hquiet (c : Cmd) (hc : c.silent) : c.quiet := Cmd.quiet_of_about (Cmd.about_of_silent hc "")
  have hlock (hv : d.validate cfg.names = .ok ()) (w' : World) (hw : w'.records = w.records) :
      Orderly cfg d.id d.hostname (ensureUnderLock cfg d.sorted now) w' := by
    refine orderly_bind (makes_checkCAA hquiet _) fun _ w1 h1 => ?_
    refine orderly_bind (.perform rfl) fun locked w2 h2 => ?_
    have hw := h2.trans (h1.trans hw)
    split_ifs
    · rw [← hw] at h hf
      refine Safe.attempt_bind (fun _ => rfl) (orderly_ensureLocked hk hv h hf) fun r w3 _ => ?_
      refine orderly_bind (.attempt (.perform rfl)) fun r' _ _ => ?_
      cases r <;> cases r' <;> exact fun _ _ => trivial
    · exact orderly_of_makes (.fail _)
  unfold ensure
  cases hv : d.validate cfg.names with
  | error => exact fun _ _ => trivial
  | ok =>
    refine orderly_bind (m := ofExcept (d.target.validateActive now)) (.ofExcept _) fun _ w1 h1 => ?_
    refine orderly_bind (makes_currentCertificate hquiet _) fun current w2 h2 => ?_
    cases current with
    | none => exact hlock hv _ (h2.trans h1)
    | some =>
      refine orderly_bind (makes_inspectCurrent hquiet _ _ _ _) fun result w3 h3 => ?_
      cases result with
      | some => exact orderly_of_makes (.pure _)
      | none => exact hlock hv _ (h3.trans (h2.trans h1))

end Durable

end Ensure

/-- In every history of attempts, each started with finished records, a certificate is never stored with the
generation of another record of its hostname. -/
theorem generations_fresh {cfg : Config} {id hostname : String} {attempts : List Attempt} {w : World}
    (hw : ∀ r ∈ w.records.rows, r.domainID ≠ id)
    (h : EachStep (Attempt.step cfg) (fun w a => a.For id hostname ∧ w.records.Finished a.domain) w attempts) :
    EachStep (Attempt.step cfg) (fun w a => (ensure cfg a.domain a.now).Safe (exec cfg) Eq Cmd.numbered (fun _ _ => True)
      (a.start w)) w attempts := by
  refine eachStep_of_inv (I := fun w => w.records.InOrder id hostname) (fun w a hi ha => ?_) ?_ h
  · obtain ⟨⟨rfl, rfl, hk⟩, hf⟩ := ha
    have ho : Orderly cfg _ _ (ensure cfg a.domain a.now) (a.start w) := orderly_ensure hk hi hf
    refine ⟨ho.runFor_keeps (fun _ => rfl) (fun c x s hc hs => inOrder_exec hs hc x) hi _,
      ho.weaken (fun c s hc => ?_) fun _ _ _ => trivial⟩
    cases c with
    | putStaged => exact hc.2.2.2
    | _ => trivial
  · exact ⟨fun r hr hid => absurd hid (hw r hr), fun r hr hid => absurd hid (hw r hr), fun r hr hid => absurd hid (hw r hr)⟩

namespace Sample

def issuing : Config :=
  { config with x509 := { x509 with parseCertificate := fun b => .ok { certificate with fingerprint := .ofNat _ b.length } } }

def unissued : World :=
  { undistributed with
    domains := ⟨[⟨"domain", "account", "tunnel", .verified, true, false, 1⟩], by simp⟩
    records := ⟨[], by simp⟩ }

def attempt (targets : List EdgeTarget) (reference : String) (b : CertificateBundle) : Attempt where
  domain := { domain "a.io" with edgeTargets := targets, certificateReference := reference }
  now
  others := unissued.toTables
  choices := List.replicate 40 { choice with bundle := b }

def renewed : List Attempt :=
  [attempt [edge] "" bundle,
    attempt [edge] ("tcert_" ++ certificateID config.digest (domain "a.io") 1 1) { bundle with certificatePEM := [1, 1] }]

end Sample

open Sample

theorem generations_fresh_renewed :
    (Attempt.step issuing unissued (attempt [edge] "" bundle)).records.rows.map (·.state) = [.active] ∧
      EachStep (Attempt.step issuing) (fun w a => (ensure issuing a.domain a.now).Safe (exec issuing) Eq
        Cmd.numbered (fun _ _ => True) (a.start w)) unissued renewed := by
  have hrows : (Attempt.step issuing unissued (attempt [edge] "" bundle)).records.rows.map
      (·.state) = [.active] := by decide +kernel
  have hempty {p : StoredCertificate → Prop} : ∀ r ∈ unissued.records.rows, p r := List.forall_mem_nil _
  refine ⟨hrows, generations_fresh hempty ⟨⟨⟨rfl, rfl, rfl⟩, hempty⟩, ⟨⟨rfl, rfl, rfl⟩, fun r hr _ _ => ?_⟩, trivial⟩⟩
  have hst : r.state ∈ [State.active] := hrows ▸ List.mem_map_of_mem hr
  rw [List.mem_singleton.1 hst]
  decide

/-- No edge is ready for the first attempt. The record it leaves has generation 1, and the certificate
that the next attempt gets is refused. -/
theorem retry_refused :
    let w := Attempt.step issuing unissued (attempt [] "" bundle)
    let next := attempt [edge] "" { bundle with certificatePEM := [1, 1] }
    w.records.rows.map (fun r => (r.domainID, r.hostname, r.certificateGeneration, r.state)) =
        [("domain", "a.io", 1, .failed)] ∧
      (eval (exec issuing) (fun _ _ => { choice with bundle := { bundle with certificatePEM := [1, 1] } })
        (ensure issuing next.domain next.now) (next.start w)).1 = .error uniqueViolation := by
  decide +kernel

end Paperboat.Tunnel

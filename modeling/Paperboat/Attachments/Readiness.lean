import Paperboat.Attachments.Latest
/-!
# Readiness is earned

What the state of a row rests on is in the log, after the last time that its carrier
was set: the edge of the carrier acknowledged an admission of it, then the row was
observed ready at the edge, and then at the origin. Along a run the generation of a
row counts its changes, a row that has ended never changes again, and a preview has at
most one row that has not.
-/

namespace Paperboat.Attachments

variable {r' r : Row} {events : List Event} {news : Row → Prop} {w w' : World}

open Lib List Table Row

variable {codec : Codec}

def Carrier.trail (c : Carrier) (key : String × String) : State → List Event
  | .admitted => [.acknowledged key c.edgeNodeID c.edgeProcessEpoch c]
  | .edgeReady => [.acknowledged key c.edgeNodeID c.edgeProcessEpoch c, .edgeObserved key]
  | .ready => [.acknowledged key c.edgeNodeID c.edgeProcessEpoch c, .edgeObserved key, .originObserved key]
  | .pending | .failed | .released => []

def Row.trail (r : Row) : List Event := r.carrier.trail r.key r.state

def Earned (log : List Event) (r : Row) : Prop :=
  ∃ before after, log = before ++ .carrierSet r.key r.carrier :: after ∧ (∀ e ∈ after, e.sets r.key = false) ∧
    r.trail.Sublist after

/-! ## What becomes of a row -/

structure Row.Successor (events : List Event) (r r' : Row) : Prop where
  live : r.live
  key : r'.key = r.key
  preview : r'.binding.previewID = r.binding.previewID
  generation : r'.attachmentGeneration = r.attachmentGeneration + 1
  carrier : r'.carrier = r.carrier ∧ r'.trail.Sublist (r.trail ++ events) ∨ r.carrier ≠ r'.carrier ∧ r'.state = .pending

inductive Row.Origin (w w' : World) (events : List Event) (r' : Row) : Prop
  | kept (row : r' ∈ w.rows.rows)
  | changed (r : Row) (row : r ∈ w.rows.rows) (successor : r.Successor events r')
  | inserted (pending : r'.state = .pending) (generation : r'.attachmentGeneration = 1)
    (free : ∀ o ∈ w.rows.rows, World.blocks r' o = false ∧ o.key ≠ r'.key) (rows : w'.rows.rows = w.rows.rows ++ [r'])

theorem Row.Successor.ended (hlive : r.live) (hkey : r'.key = r.key)
    (hpv : r'.binding.previewID = r.binding.previewID) (hgen : r'.attachmentGeneration = r.attachmentGeneration + 1)
    (hcr : r'.carrier = r.carrier) (htr : r'.trail = []) : r.Successor events r' :=
  ⟨hlive, hkey, hpv, hgen, .inl ⟨hcr, htr ▸ nil_sublist _⟩⟩

theorem Row.successor_edgeReady (hadm : r.state = .admitted) : r.Successor [.edgeObserved r.key] r.observeEdge where
  live := by
    rw [live, hadm]
    rfl
  key := rfl
  preview := rfl
  generation := rfl
  carrier := by
    have htr : r.trail = r.carrier.trail r.key .admitted := by rw [trail, hadm]
    rw [htr]
    exact .inl ⟨rfl, List.Sublist.refl _⟩

theorem Row.successor_originReady {originReady : Bool} {now : Time} (hrd : r.state = .edgeReady ∨ r.state = .ready) :
    r.Successor (if originReady then [.originObserved r.key] else []) (r.observeOrigin originReady now) where
  live := by
    rcases hrd with hst | hst <;> rw [live, hst] <;> rfl
  key := rfl
  preview := rfl
  generation := rfl
  carrier := by
    refine .inl ⟨rfl, ?_⟩
    -- An origin that is ready again has been so before, and one that is not leaves the edge ready.
    rcases hrd with hst | hst <;> cases originReady <;> rw [trail, trail, hst]
    · exact List.Sublist.refl _
    · exact List.Sublist.refl _
    · exact .cons_cons _ (.cons_cons _ (.cons _ .slnil))
    · exact sublist_append_left _ _

theorem Row.successor_renewed {next : Row} (hlive : r.live) (hto : r.RenewableTo next) :
    r.Successor [] (r.renew next) where
  live := hlive
  key := rfl
  preview := rfl
  generation := rfl
  carrier := by
    have hcarrier' : (r.renew next).carrier = next.carrier := by
      have hbd : (r.renew next).binding = next.binding := Binding.renew_eq hto.logical hto.route
      rfl
    by_cases hcr : r.carrier = next.carrier
    · refine .inl ⟨hcarrier'.trans hcr.symm, ?_⟩
      have hst : (r.renew next).state = r.state := by rw [renew_of_same_carrier hcr]
      rw [trail, hcarrier', ← hcr, hst, append_nil]
      exact List.Sublist.refl _
    · refine .inr ⟨hcarrier' ▸ hcr, ?_⟩
      rw [renew_of_other_carrier hcr]

namespace Change

theorem origin_of_update {change : Row → Row} {keeps : ∀ r, (change r).key = r.key} (hr : w.rows.find r.key = some r)
    (hrows : w'.rows = w.rows.update (·.key == r.key) change keeps) (hsuccessor : r.Successor events (change r))
    (hr' : r' ∈ w'.rows.rows) : r'.Origin w w' events := by
  rw [hrows] at hr'
  rcases (mem_update_key hr fun o => beq_iff_eq).1 hr' with rfl | ⟨hr', -⟩
  · exact .changed r (find_eq_some.1 hr).1 hsuccessor
  · exact .kept hr'

theorem origin (h : Change codec news w w' events) (hs : w.Sound codec) (hr' : r' ∈ w'.rows.rows) :
    r'.Origin w w' events := by
  cases h with
  | kept rows | queued _ _ _ _ rows | late _ _ _ _ rows => exact .kept (rows ▸ hr')
  | inserted _ _ _ pending generation _ _ free rows =>
    rw [rows, mem_append, mem_singleton] at hr'
    rcases hr' with hr' | rfl
    · exact .kept hr'
    · exact .inserted pending generation free rows
  | admitted r _ row pending admission binding _ rows =>
    have hlive : r.live := live_of pending rfl
    refine origin_of_update row rows ⟨hlive, rfl, rfl, rfl, ?_⟩ hr'
    rw [binding]
    refine .inl ⟨rfl, ?_⟩
    -- The latest admission of a pending row is of its generation.
    obtain ⟨g, ad', hlt⟩ := hs.latest row hlive
    rw [← (hlt.pending pending).1] at admission
    rw [Option.some.inj (admission.symm.trans hlt.queued), hlt.config]
    exact sublist_append_right _ _
  | edgeReady _ row admitted _ rows => exact origin_of_update row rows (successor_edgeReady admitted) hr'
  | originReady _ _ _ row ready _ rows =>
    exact origin_of_update row rows (successor_originReady ready) hr'
  | renewed _ _ _ row live renewable _ _ rows =>
    exact origin_of_update row rows (successor_renewed live renewable) hr'
  | released _ _ row live _ rows =>
    exact origin_of_update row rows (.ended live rfl rfl rfl rfl rfl) hr'
  | expired _ _ rows =>
    rw [rows] at hr'
    rcases mem_update.1 hr' with ⟨r, hr, hov, rfl⟩ | ⟨hr', -⟩
    · rw [World.overdue, Bool.and_eq_true] at hov
      exact .changed r hr (.ended hov.1 rfl rfl rfl rfl rfl)
    · exact .kept hr'

theorem row_kept (h : Change codec news w w' events) (hr : r ∈ w.rows.rows) : ∃ r' ∈ w'.rows.rows, r'.key = r.key := by
  have hup {selected : Row → Bool} {change : Row → Row} {keeps : ∀ r, (change r).key = r.key}
      (hrows : w'.rows = w.rows.update selected change keeps) : ∃ r' ∈ w'.rows.rows, r'.key = r.key := by
    rw [hrows]
    by_cases hsel : selected r
    · exact ⟨change r, mem_update_of_selected keeps hr hsel, keeps r⟩
    · exact ⟨r, mem_update.2 (.inr ⟨hr, Bool.eq_false_iff.2 hsel⟩), rfl⟩
  cases h with
  | kept rows | queued _ _ _ _ rows | late _ _ _ _ rows => exact ⟨r, rows ▸ hr, rfl⟩
  | inserted _ _ _ _ _ _ _ _ rows => exact ⟨r, rows ▸ mem_append_left _ hr, rfl⟩
  | admitted _ _ _ _ _ _ _ rows | edgeReady _ _ _ _ rows | originReady _ _ _ _ _ _ rows
  | renewed _ _ _ _ _ _ _ _ rows | released _ _ _ _ _ rows | expired _ _ rows => exact hup rows

theorem counts (h : Change codec news w w' events) (hs : w.Sound codec) (hr : r ∈ w.rows.rows) :
    r ∈ w'.rows.rows ∨ r.live ∧ ∃ r' ∈ w'.rows.rows, r'.key = r.key ∧ r'.attachmentGeneration = r.attachmentGeneration + 1 := by
  obtain ⟨r', hr', hkey⟩ := h.row_kept hr
  have hunique {o : Row} (ho : o ∈ w.rows.rows) (hok : o.key = r.key) : o = r := eq_of_key ho hr hok
  cases h.origin hs hr' with
  | kept row =>
    rw [← hunique row hkey]
    exact .inl hr'
  | changed _ row successor =>
    obtain rfl := hunique row (successor.key.symm.trans hkey)
    exact .inr ⟨successor.live, r', hr', hkey, successor.generation⟩
  | inserted _ _ free => exact absurd hkey.symm (free r hr).2

end Change

/-! ## Along a run -/

def World.Alone (w : World) : Prop :=
  ∀ r ∈ w.rows.rows, ∀ o ∈ w.rows.rows, r.live → o.live → r.binding.accountID = o.binding.accountID →
    r.binding.previewID = o.binding.previewID → r = o

theorem Row.Successor.account (h : r.Successor events r') :
    r'.binding.accountID = r.binding.accountID := congrArg Prod.fst h.key

namespace Change

variable {log : List Event}

theorem live_origin (h : r'.Origin w w' events) (hlive : r'.live) :
    (∃ r ∈ w.rows.rows, r.live ∧ r.key = r'.key ∧ r.binding.accountID = r'.binding.accountID ∧
      r.binding.previewID = r'.binding.previewID) ∨
      (∀ o ∈ w.rows.rows, World.blocks r' o = false) ∧ w'.rows.rows = w.rows.rows ++ [r'] := by
  cases h with
  | kept row => exact .inl ⟨r', row, hlive, rfl, rfl, rfl⟩
  | changed r row successor =>
    exact .inl ⟨r, row, successor.live, successor.key.symm, successor.account.symm, successor.preview.symm⟩
  | inserted _ _ free rows => exact .inr ⟨fun o ho => (free o ho).1, rows⟩

theorem blocks_of_live {o : Row} (hlive : o.live) (hacc : o.binding.accountID = r.binding.accountID)
    (hpv : o.binding.previewID = r.binding.previewID) : World.blocks r o := by
  simp [World.blocks, hlive, hacc, hpv]

theorem alone (h : Change codec news w w' events) (hs : w.Sound codec) (halone : w.Alone) : w'.Alone := by
  intro r' hr' o' ho' hlive holive hacc hpv
  rcases live_origin (h.origin hs hr') hlive with ⟨r, hr, hrlive, hrkey, hra, hrpreview⟩ | ⟨hfree, hrows⟩
  · rcases live_origin (h.origin hs ho') holive with ⟨o, ho, holive', hokey, hoa, hopv⟩ | ⟨hfree, -⟩
    · have heq := halone r hr o ho hrlive holive' (by rw [hra, hacc, hoa]) (by rw [hrpreview, hpv, hopv])
      have hkey : r'.key = o'.key := by rw [← hrkey, ← hokey, heq]
      exact eq_of_key hr' ho' hkey
    · have hbl := blocks_of_live (r := o') hrlive (hra.trans hacc) (hrpreview.trans hpv)
      rw [hfree r hr] at hbl
      cases hbl
  · rcases live_origin (h.origin hs ho') holive with ⟨o, ho, holive', -, hoa, hopv⟩ | ⟨-, horows⟩
    · have hbl := blocks_of_live (r := r') holive' (hoa.trans hacc.symm) (hopv.trans hpv.symm)
      rw [hfree o ho] at hbl
      cases hbl
    · -- Both are the row that was inserted.
      have heq := append_cancel_left (hrows.symm.trans horows)
      exact head_eq_of_cons_eq heq

theorem report_sets {w : World} {cmd : Cmd} {key : String × String} : ∀ e ∈ w.report cmd, e.sets key = false := by
  intro e he
  cases cmd with
  | acknowledge _ _ _ _ _ action =>
    cases action with
    | admission =>
      obtain ⟨c, -, rfl⟩ := mem_map.1 he
      rfl
    | detach => exact absurd he not_mem_nil
  | observeEdge =>
    rw [mem_singleton.1 he]
    rfl
  | observeOrigin _ originReady =>
    cases originReady with
    | true =>
      rw [mem_singleton.1 he]
      rfl
    | false => exact absurd he not_mem_nil
  | _ => exact absurd he not_mem_nil

theorem earned_of_carrier (h : Earned log r) (hr : r ∈ w.rows.rows) (hr' : r' ∈ w'.rows.rows)
    (hkey : r'.key = r.key) (hcr : r'.carrier = r.carrier) (htr : r'.trail.Sublist (r.trail ++ events))
    (hev : ∀ e ∈ events, e.sets r'.key = false) : Earned (log ++ events ++ w.carriersSet w') r' := by
  obtain ⟨before, after, rfl, haf, hsub⟩ := h
  refine ⟨before, after ++ events ++ w.carriersSet w', ?_, ?_, ?_⟩
  · simp [hkey, hcr]
  · intro e he
    rw [mem_append, mem_append] at he
    rcases he with (he | he) | he
    · rw [hkey]
      exact haf e he
    · exact hev e he
    obtain ⟨o, ho, rfl⟩ := mem_map.1 he
    obtain ⟨ho, hset⟩ := mem_filter.1 ho
    -- The only row of the key has kept its carrier.
    refine beq_eq_false_iff_ne.2 fun heq => ?_
    have hor : o = r' := eq_of_key ho hr' heq
    rw [hor, hkey, find_eq_some.2 ⟨hr, rfl⟩, hcr] at hset
    simp at hset
  · exact (htr.trans (hsub.append_right events)).trans (sublist_append_left _ _)

theorem earned_of_set (hr' : r' ∈ w'.rows.rows)
    (hset : (w.rows.find r'.key).map carrier ≠ some r'.carrier) (htr : r'.trail = []) :
    Earned (log ++ events ++ w.carriersSet w') r' := by
  have hmem : r' ∈ w'.rows.rows.filter fun r => (w.rows.find r.key).map carrier != some r.carrier :=
    mem_filter.2 ⟨hr', bne_iff_ne.2 hset⟩
  obtain ⟨front, back, hsplit⟩ := append_of_mem hmem
  have hkeys : (List.map key (front ++ r' :: back)).Nodup := by
    rw [← hsplit]
    exact w'.rows.keys.sublist (filter_sublist.map key)
  refine ⟨log ++ events ++ front.map (fun r => .carrierSet r.key r.carrier), back.map (fun r => .carrierSet r.key r.carrier), ?_, ?_, ?_⟩
  · rw [World.carriersSet, hsplit, map_append, map_cons, append_assoc]
    simp
  · intro e he
    obtain ⟨o, ho, rfl⟩ := mem_map.1 he
    refine beq_eq_false_iff_ne.2 fun heq => ?_
    rw [map_append, map_cons] at hkeys
    exact (nodup_cons.1 (nodup_append.1 hkeys).2.1).1 (heq ▸ mem_map_of_mem ho)
  · rw [htr]
    exact nil_sublist _

theorem earned (h : Change codec news w w' events) (hs : w.Sound codec)
    (hearned : ∀ r ∈ w.rows.rows, Earned log r) (hev : ∀ key, ∀ e ∈ events, e.sets key = false) :
    ∀ r' ∈ w'.rows.rows, Earned (log ++ events ++ w.carriersSet w') r' := by
  intro r' hr'
  cases h.origin hs hr' with
  | kept row =>
    exact earned_of_carrier (hearned r' row) row hr' rfl rfl (sublist_append_left _ _) (hev r'.key)
  | changed r row successor =>
    rcases successor.carrier with ⟨hcr, htr⟩ | ⟨hcr, hpd⟩
    · exact earned_of_carrier (hearned r row) row hr' successor.key hcr htr (hev r'.key)
    refine earned_of_set hr' ?_ (by rw [trail, hpd]; rfl)
    rw [successor.key, find_eq_some.2 ⟨row, rfl⟩]
    exact fun heq => hcr (Option.some.inj heq)
  | inserted pending _ free =>
    refine earned_of_set hr' ?_ (by rw [trail, pending]; rfl)
    intro heq
    obtain ⟨o, ho, -⟩ := Option.map_eq_some_iff.1 heq
    exact (free o (find_eq_some.1 ho).1).2 (find_eq_some.1 ho).2

end Change

namespace Traced

structure Reached (codec : Codec) (s : Traced) : Prop where
  sound : s.Sound codec
  alone : s.world.Alone
  earned : ∀ r ∈ s.world.rows.rows, Earned s.log r

theorem Reached.step {s : Traced} (h : s.Reached codec) (op : Cmd × Time) : (s.step codec op).Reached codec where
  sound := h.sound.step op
  alone := (step_change h.sound op).alone h.sound.world h.alone
  earned := by
    refine (step_change h.sound op).earned h.sound.world h.earned fun key e he => ?_
    split at he
    · exact Change.report_sets e he
    · exact absurd he not_mem_nil

theorem reached (registry : Registry) (ops : List (Cmd × Time)) : (run (Traced.step codec) (initial registry) ops).Reached codec :=
  run_inv' (fun _ op h => h.step op)
    ⟨sound_initial registry, fun _ hr => absurd hr not_mem_nil, fun _ hr => absurd hr not_mem_nil⟩ ops

end Traced

/-- An admission belongs to a row and is not ahead of it. The latest one of a live row is for its carrier: it asks for
the row as it is while that is pending, and was delivered once it has moved on. -/
theorem admissions_follow_rows (codec : Codec) (registry : Registry) (ops : List (Cmd × Time)) :
    (run (Traced.step codec) (Traced.initial registry) ops).world.Sound codec :=
  (Traced.reached registry ops).sound.world

/-- A ready row has earned it since its carrier was last set; a row changes only while it is live, and its generation
counts up; and a preview has one live row at most. -/
theorem readiness_earned (codec : Codec) (registry : Registry) (ops : List (Cmd × Time)) :
    let s := run (Traced.step codec) (Traced.initial registry) ops
    (∀ r ∈ s.world.rows.rows, r.state = .ready → ∃ before after, s.log = before ++ .carrierSet r.key r.carrier :: after ∧
      (∀ e ∈ after, ∀ carrier, e ≠ .carrierSet r.key carrier) ∧
      [.acknowledged r.key r.binding.edgeNodeID r.binding.edgeProcessEpoch r.carrier, .edgeObserved r.key,
        .originObserved r.key].Sublist after) ∧
    (∀ op, ∀ r ∈ s.world.rows.rows, r ∈ (s.step codec op).world.rows.rows ∨ r.live ∧
      ∃ r' ∈ (s.step codec op).world.rows.rows, r'.key = r.key ∧ r'.attachmentGeneration = r.attachmentGeneration + 1) ∧
    ∀ r ∈ s.world.rows.rows, ∀ o ∈ s.world.rows.rows, r.live → o.live →
      r.binding.accountID = o.binding.accountID → r.binding.previewID = o.binding.previewID → r = o := by
  intro s
  have h : s.Reached codec := Traced.reached registry ops
  refine ⟨fun r hr hready => ?_, fun op r hr => (Traced.step_change h.sound op).counts h.sound.world hr, h.alone⟩
  obtain ⟨before, after, hlog, hafter, htrail⟩ := h.earned r hr
  refine ⟨before, after, hlog, ?_, ?_⟩
  · rintro e he carrier rfl
    have hsets := hafter _ he
    simp [Event.sets] at hsets
  · rw [trail, hready] at htrail
    exact htrail

end Paperboat.Attachments

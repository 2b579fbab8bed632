import Paperboat.Attachments.Machine
import Paperboat.Attachments.Renewal
/-!
# What a step can do

Of the outbox a step is told by the admissions that it holds: for each row and
generation what the edge was asked to admit, and whether it has acknowledged it. A
step then does one of ten things to the rows and the admissions, and what holds along
a run is shown by going through them.
-/

namespace Paperboat.Attachments

open Lib Table Option

variable {w : World} {now : Time} {a : Attachment}

/-! ## Admissions -/

structure Admission where
  binding : Binding
  configContentHash : String
  edgeEndpoints : List String
  endpoint : String
  accessMode : Previews.AccessMode
  expiresAt : Time
  delivered : Bool

def Command.admission (c : Command) : Admission where
  binding := c.binding
  configContentHash := c.configContentHash
  edgeEndpoints := c.edgeEndpoints
  endpoint := c.endpoint
  accessMode := c.accessMode
  expiresAt := c.expiresAt
  delivered := c.state == .delivered

def Attachment.admission (a : Attachment) : Admission where
  binding := a.binding
  configContentHash := a.configContentHash
  edgeEndpoints := a.edgeEndpoints
  endpoint := a.endpoint
  accessMode := a.accessMode
  expiresAt := a.expiresAt
  delivered := false

abbrev Admissions := String × String → Nat → Option Admission

namespace Admissions

def queued (ads : Admissions) (key : String × String) (generation : Nat) (ad : Admission) : Admissions := fun k g =>
  (ads k g).or (if k = key ∧ g = generation then some ad else none)

def acknowledged (ads : Admissions) (key : String × String) (generation : Nat) : Admissions := fun k g =>
  if k = key ∧ g = generation then (ads k g).map fun ad => { ad with delivered := true } else ads k g

variable {ads : Admissions} {key k : String × String} {generation g : Nat} {ad : Admission}

theorem queued_of_isSome (h : (ads key generation).isSome) : ads.queued key generation ad = ads := by
  funext k g
  unfold queued
  split
  · next heq => rw [heq.1, heq.2, Option.or_of_isSome h]
  · exact Option.or_none

theorem isSome_queued (h : (ads k g).isSome) : (ads.queued key generation ad k g).isSome := by
  simp [queued, h]

theorem isSome_acknowledged (h : (ads k g).isSome) : (ads.acknowledged key generation k g).isSome := by
  unfold acknowledged
  split <;> simp [h]

end Admissions

namespace World

def admissions (w : World) : Admissions := fun key generation =>
  (w.outbox.find (key.1, key.2, generation, .admission)).map Command.admission

variable {c : Command}

theorem admissions_queue_detach (h : c.action = .detach) : (w.queue c).admissions = w.admissions := by
  funext key generation
  have hne : ¬(key.1, key.2, generation, Action.admission) = c.key := by
    intro heq
    have ha : Action.admission = c.action := congrArg (fun k => k.2.2.2) heq
    rw [h] at ha
    cases ha
  simp [admissions, find_queue, if_neg hne]

theorem admissions_queue (h : c.action = .admission) :
    (w.queue c).admissions = w.admissions.queued (c.accountID, c.operationID) c.attachmentGeneration c.admission := by
  funext key generation
  have hkey : (key.1, key.2, generation, Action.admission) = c.key ↔
      key = (c.accountID, c.operationID) ∧ generation = c.attachmentGeneration := by
    obtain ⟨k1, k2⟩ := key
    simp [Command.key, h, and_assoc]
  simp only [admissions, find_queue, Admissions.queued, map_or, ← hkey]
  split_ifs <;> rfl

theorem admissions_prepareAdmission :
    (w.prepareAdmission a now).admissions = w.admissions.queued a.key a.attachmentGeneration a.admission := admissions_queue rfl

theorem admissions_update {selected : Command → Bool} {change : Command → Command} {keeps : ∀ c, (change c).key = c.key}
    (h : ∀ c, selected c → c.action = .admission → (change c).admission = c.admission) :
    World.admissions { w with outbox := w.outbox.update selected change keeps } = w.admissions := by
  funext key generation
  simp only [admissions, find_update, map_map]
  cases hfind : w.outbox.find (key.1, key.2, generation, Action.admission) with
  | none => rfl
  | some c =>
    have ha : c.action = .admission := congrArg (fun k => k.2.2.2) (find_eq_some.1 hfind).2
    simp only [map_some, Function.comp_def]
    split
    · next hsel => rw [h c hsel ha]
    · rfl

theorem admissions_deliverCommand (accountID operationID : String) (generation : Nat) :
    (w.deliverCommand accountID operationID generation .admission now).admissions =
      w.admissions.acknowledged (accountID, operationID) generation := by
  funext key g
  simp only [admissions, deliverCommand, find_update, Admissions.acknowledged, map_map]
  cases hfind : w.outbox.find (key.1, key.2, g, Action.admission) with
  | none => simp
  | some c =>
    have hkey : c.key = (accountID, operationID, generation, .admission) ↔ key = (accountID, operationID) ∧ g = generation := by
      obtain ⟨k1, k2⟩ := key
      rw [(find_eq_some.1 hfind).2]
      simp [and_assoc]
    simp only [map_some, Function.comp_def]
    by_cases hk : key = (accountID, operationID) ∧ g = generation
    · split
      · rfl
      next hsel =>
      have hdv : c.state = .delivered := by
        simpa [hkey.2 hk] using hsel
      simp [Command.admission, hdv]
    · rw [if_neg hk, if_neg]
      simp only [Bool.and_eq_true, beq_iff_eq, not_and]
      exact fun heq => absurd (hkey.1 heq) hk

theorem admissions_deliverDetach (accountID operationID : String) (generation : Nat) :
    (w.deliverCommand accountID operationID generation .detach now).admissions = w.admissions := by
  refine admissions_update fun c hsel ha => ?_
  simp only [Bool.and_eq_true, beq_iff_eq] at hsel
  have hdt : c.action = .detach := congrArg (fun k => k.2.2.2) hsel.1
  rw [ha] at hdt
  cases hdt

end World

/-! ## Changes -/

structure Row.RenewableTo (r next : Row) : Prop where
  logical : r.binding.logicalEqual next.binding
  route : r.binding.routeGeneration = next.binding.routeGeneration
  lease : r.binding.leaseGeneration ≤ next.binding.leaseGeneration

def Event.sets (key : String × String) : Event → Bool
  | .carrierSet k _ => k == key
  | _ => false

/-- What a step does to the rows and the admissions, and what it reports; `news` are the rows that it may insert. -/
inductive Change (codec : Codec) (news : Row → Prop) (w : World) : World → List Event → Prop
  /-- Nothing, or something else. -/
  | kept {w' : World} {events : List Event} (rows : w'.rows = w.rows) (admissions : w'.admissions = w.admissions) :
    Change codec news w w' events
  /-- The admission of a pending row is queued, unless it is there. -/
  | queued {w' : World} (r : Row) (p : Previews.Lease) (row : w.rows.find r.key = some r) (pending : r.state = .pending)
    (rows : w'.rows = w.rows)
    (admissions : w'.admissions = w.admissions.queued r.key r.attachmentGeneration (r.attached p).admission) :
    Change codec news w w' []
  /-- An admission is acknowledged after the row has moved on. -/
  | late {w' : World} {events : List Event} (r : Row) (generation : Nat) (row : w.rows.find r.key = some r)
    (moved : r.state ≠ .pending) (rows : w'.rows = w.rows)
    (admissions : w'.admissions = w.admissions.acknowledged r.key generation) :
    Change codec news w w' events
  | inserted {w' : World} (a : Attachment) (p : Previews.Lease) (new : news a.toRow) (pending : a.state = .pending)
    (generation : a.attachmentGeneration = 1) (checks : a.toRow.checks) (valid : (a.toRow.attached p).validate codec = .ok ())
    (free : ∀ o ∈ w.rows.rows, World.blocks a.toRow o = false ∧ o.key ≠ a.key) (rows : w'.rows.rows = w.rows.rows ++ [a.toRow])
    (admissions : w'.admissions = w.admissions.queued a.key 1 (a.toRow.attached p).admission) :
    Change codec news w w' []
  /-- The edge of a pending row acknowledges its admission. -/
  | admitted {w' : World} (r : Row) (ad : Admission) (row : w.rows.find r.key = some r) (pending : r.state = .pending)
    (admission : w.admissions r.key r.attachmentGeneration = some ad) (binding : ad.binding = r.binding)
    (checks : r.markAdmitted.checks)
    (rows : w'.rows = w.rows.update (·.key == r.key) Row.markAdmitted Row.markAdmitted_key)
    (admissions : w'.admissions = w.admissions.acknowledged r.key r.attachmentGeneration) :
    Change codec news w w'
      [.acknowledged r.key r.binding.edgeNodeID r.binding.edgeProcessEpoch (ad.binding.carrier ad.configContentHash)]
  | edgeReady {w' : World} (r : Row) (row : w.rows.find r.key = some r) (admitted : r.state = .admitted)
    (checks : r.observeEdge.checks)
    (rows : w'.rows = w.rows.update (·.key == r.key) Row.observeEdge Row.observeEdge_key)
    (admissions : w'.admissions = w.admissions) :
    Change codec news w w' [.edgeObserved r.key]
  | originReady {w' : World} (r : Row) (originReady : Bool) (now : Time) (row : w.rows.find r.key = some r)
    (ready : r.state = .edgeReady ∨ r.state = .ready) (checks : (r.observeOrigin originReady now).checks)
    (rows : w'.rows = w.rows.update (·.key == r.key) (·.observeOrigin originReady now) fun r => r.observeOrigin_key _ _)
    (admissions : w'.admissions = w.admissions) :
    Change codec news w w' (if originReady then [.originObserved r.key] else [])
  | renewed {w' : World} (r next : Row) (p : Previews.Lease) (row : w.rows.find r.key = some r) (live : r.live)
    (renewable : r.RenewableTo next) (checks : (r.renew next).checks)
    (valid : ((r.renew next).attached p).validate codec = .ok ())
    (rows : w'.rows = w.rows.update (·.key == r.key) (·.renew next) (Row.renew_key _))
    (admissions : w'.admissions = if (r.renew next).state = .pending then
      w.admissions.queued r.key (r.attachmentGeneration + 1) ((r.renew next).attached p).admission else w.admissions) :
    Change codec news w w' []
  | released {w' : World} (r : Row) (now : Time) (row : w.rows.find r.key = some r) (live : r.live)
    (checks : (r.release now).checks)
    (rows : w'.rows = w.rows.update (·.key == r.key) (·.release now) fun r => r.release_key _)
    (admissions : w'.admissions = w.admissions) :
    Change codec news w w' []
  | expired {w' : World} (now : Time)
    (checks : ∀ r ∈ w.rows.rows, World.overdue now r → r.expire.checks)
    (rows : w'.rows = w.rows.update (World.overdue now) Row.expire Row.expire_key) (admissions : w'.admissions = w.admissions) :
    Change codec news w w' []

/-! ## The commands -/

def Cmd.news (cmd : Cmd) (r : Row) : Prop := ∃ a, cmd = .createPending a ∧ r = a.toRow

namespace World

variable {changed : Bool} {next : Attachment} {action : Action} {locked : Node → Bool} {proof : MachineProof}
  {req : Request} {binding : Binding} {events : List Event}

variable {current : Attachment} {r : Row} {accountID operationID nodeID processEpoch : String} {generation : Nat}

variable {codec : Codec} {news : Row → Prop} {w' : World}

theorem changeRow_ok {matching : Row → Bool} {change : Row → Row} {keeps : ∀ r, (change r).key = r.key}
    (h : w.changeRow a matching change keeps = .ok (changed, w')) :
    changed = false ∧ w' = w ∨ changed ∧ ∃ r, w.rows.find r.key = some r ∧ r.key = a.key ∧
      r.attachmentGeneration = a.attachmentGeneration ∧ r.binding = a.binding ∧ matching r ∧
      w.accepts (change r) = true ∧ w' = { w with rows := w.rows.update (·.key == r.key) change keeps } := by
  unfold changeRow at h
  split at h
  · cases h
    exact .inl ⟨rfl, rfl⟩
  next r hr =>
  have hkey := (find_eq_some.1 hr).2
  split at h
  · next hc =>
    split at h
    · next hac =>
      cases h
      refine .inr ⟨rfl, r, hkey ▸ hr, hkey, hc.1, hc.2.1, hc.2.2, hac, ?_⟩
      rw [hkey]
    · cases h
  · cases h
    exact .inl ⟨rfl, rfl⟩

theorem settle_ok {already : Attachment → Bool} (h : settle codec a changed already w = .ok (current, w')) :
    w' = w ∧ w.scan codec a.binding.accountID a.binding.operationID = .ok current := by
  obtain ⟨c, hsc, h⟩ := bind_eq_ok.1 h
  obtain ⟨-, h⟩ := check_eq_ok.1 h
  cases h
  exact ⟨rfl, hsc⟩

theorem checks_of_accepts (h : w.accepts r) : r.checks := by
  simp only [Registry.accepts, Bool.and_eq_true] at h
  exact h.1.1

theorem observeEdge_change (h : w.observeEdge codec a now = .ok (current, w')) :
    Change codec news w w' [.edgeObserved a.key] := by
  obtain ⟨-, h⟩ := check_eq_ok.1 h
  obtain ⟨⟨changed, w1⟩, hch, h⟩ := bind_eq_ok.1 h
  obtain ⟨rfl, -⟩ := settle_ok h
  rcases changeRow_ok hch with ⟨-, rfl⟩ | ⟨-, r, hrow, hkey, -, -, hmt, hac, rfl⟩
  · exact .kept rfl rfl
  simp only [Bool.and_eq_true, beq_iff_eq] at hmt
  rw [← hkey]
  exact .edgeReady r hrow hmt.1 (checks_of_accepts hac) rfl rfl

theorem observeOrigin_change {originReady : Bool} (h : w.observeOrigin codec a originReady now = .ok (current, w')) :
    Change codec news w w' (if originReady then [.originObserved a.key] else []) := by
  obtain ⟨-, h⟩ := check_eq_ok.1 h
  obtain ⟨⟨changed, w1⟩, hch, h⟩ := bind_eq_ok.1 h
  obtain ⟨rfl, -⟩ := settle_ok h
  rcases changeRow_ok hch with ⟨-, rfl⟩ | ⟨-, r, hrow, hkey, -, -, hmt, hac, rfl⟩
  · exact .kept rfl rfl
  simp only [Bool.and_eq_true, Bool.or_eq_true, beq_iff_eq] at hmt
  rw [← hkey]
  exact .originReady r originReady now hrow hmt.1.1 (checks_of_accepts hac) rfl rfl

theorem release_change (h : w.release codec a now = .ok (current, w')) : Change codec news w w' [] := by
  obtain ⟨-, h⟩ := check_eq_ok.1 h
  obtain ⟨⟨changed, w1⟩, hch, h⟩ := bind_eq_ok.1 h
  obtain ⟨rfl, -⟩ := settle_ok h
  rcases changeRow_ok hch with ⟨rfl, rfl⟩ | ⟨rfl, r, hrow, -, -, -, hlive, hac, rfl⟩
  · exact .kept rfl rfl
  refine .released r now hrow hlive (checks_of_accepts hac) ?_ ?_
  · exact queue_rows
  · exact admissions_queue_detach rfl

theorem renewableTo (h : renewable current next) : current.toRow.RenewableTo next.toRow := by
  simp only [renewable, Bool.and_eq_true, beq_iff_eq, decide_eq_true_eq] at h
  obtain ⟨⟨⟨⟨⟨⟨⟨⟨⟨hlog, -⟩, -⟩, hrt⟩, hle⟩, -⟩, -⟩, -⟩, -⟩, -⟩ := h
  exact ⟨hlog, hrt.symm, hle⟩

theorem withAdmission_of_ne {w : World} {a : Attachment} (h : a.state ≠ .pending) : w.withAdmission a now = w := if_neg h

theorem renew_change {result : Attachment} (h : w.renew codec current next now = .ok (result, w')) :
    Change codec news w w' [] := by
  obtain ⟨-, h⟩ := check_eq_ok.1 h
  obtain ⟨-, h⟩ := check_eq_ok.1 h
  obtain ⟨hrn, h⟩ := check_eq_ok.1 h
  obtain ⟨-, h⟩ := check_eq_ok.1 h
  obtain ⟨⟨changed, w1⟩, hch, h⟩ := bind_eq_ok.1 h
  obtain ⟨⟨result', w2⟩, hsettle, hrs⟩ := bind_eq_ok.1 h
  obtain ⟨rfl, hsc⟩ := settle_ok hsettle
  rw [refuseIf_eq_ok, Bool.not_eq_false'] at hrn
  cases hrs
  rcases changeRow_ok hch with ⟨rfl, rfl⟩ | ⟨rfl, r, hrow, hkey, -, hbd, hmt, hac, rfl⟩
  · exact .kept rfl rfl
  simp only [Bool.and_eq_true] at hmt
  -- The row that is read back is the one that was written.
  obtain ⟨r', p, hr', -, hv, rfl⟩ := scan_eq_ok.1 hsc
  have hfind : r' = r.renew next.toRow := by
    have hup := find_update (t := w.rows) (·.key == r.key) (·.renew next.toRow) (Row.renew_key _) current.key
    rw [← hkey, hrow, map_some, if_pos (beq_self_eq_true _)] at hup
    have hr'' : (w.rows.update (·.key == r.key) (·.renew next.toRow) (Row.renew_key _)).find current.key = some r' := hr'
    rw [← hkey, hup] at hr''
    exact (Option.some.inj hr'').symm
  subst hfind
  have hto : r.RenewableTo next.toRow := by
    have := renewableTo hrn
    exact ⟨hbd ▸ this.logical, hbd ▸ this.route, hbd ▸ this.lease⟩
  refine .renewed r next.toRow p hrow hmt.1 hto (checks_of_accepts hac) hv withAdmission_rows ?_
  by_cases hpd : (r.renew next.toRow).state = .pending
  · have hpending' : ((r.renew next.toRow).attached p).state = .pending := hpd
    simp only [if_true, withAdmission, if_pos hpending', if_pos hpd]
    exact admissions_prepareAdmission
  · have hpending' : ((r.renew next.toRow).attached p).state ≠ .pending := hpd
    simp only [if_true, withAdmission, if_neg hpending', if_neg hpd]
    rfl

theorem withAdmission_change
    (h : w.scan codec accountID operationID = .ok current) : Change codec news w (w.withAdmission current now) [] := by
  obtain ⟨r, p, hr, -, -, rfl⟩ := scan_eq_ok.1 h
  by_cases hpd : (r.attached p).state = .pending
  · refine .queued r p ?_ hpd withAdmission_rows ?_
    · rwa [(find_eq_some.1 hr).2]
    · rw [withAdmission, if_pos hpd]
      exact admissions_prepareAdmission
  · rw [withAdmission_of_ne hpd]
    exact .kept rfl rfl

theorem insertRow_ok {inserted : Bool} (h : w.insertRow r = .ok (inserted, w')) :
    inserted = false ∧ w' = w ∨ inserted ∧ w.accepts r ∧ (∀ o ∈ w.rows.rows, blocks r o = false ∧ o.key ≠ r.key) ∧
      ∃ rows, w.rows.insert r = some rows ∧ w' = { w with rows } := by
  unfold insertRow at h
  split at h
  · cases h
  next hac =>
  rw [Bool.not_eq_true, Bool.not_eq_false'] at hac
  split at h
  · cases h
    exact .inl ⟨rfl, rfl⟩
  next hany =>
  split at h
  · next rows hrows =>
    cases h
    refine .inr ⟨rfl, hac, fun o ho => ⟨?_, (insert_eq_some.1 hrows).1 o ho⟩, rows, hrows, rfl⟩
    rw [Bool.eq_false_iff]
    exact fun hbl => hany (List.any_eq_true.2 ⟨o, ho, hbl⟩)
  · cases h
    exact .inl ⟨rfl, rfl⟩

theorem createPending_change (hrow : news a.toRow) (h : w.createPending codec a now = .ok (current, w')) :
    Change codec news w w' [] := by
  obtain ⟨hnew, h⟩ := check_eq_ok.1 h
  obtain ⟨-, h⟩ := check_eq_ok.1 h
  obtain ⟨⟨inserted, w1⟩, hins, hread⟩ := bind_eq_ok.1 h
  simp only [refuseIf_eq_ok, Bool.or_eq_false_iff, bne_eq_false_iff_eq] at hnew
  rcases insertRow_ok hins with ⟨rfl, rfl⟩ | ⟨rfl, hac, hfree, rows, hrows, rfl⟩
  · -- The row is not taken, and the one that is there is read.
    dsimp only at hread
    rw [if_neg Bool.false_ne_true] at hread
    split at hread
    · cases hread
    · cases hread
    next existing hsc =>
    obtain ⟨-, hrs⟩ := check_eq_ok.1 hread
    cases hrs
    exact withAdmission_change hsc
  · dsimp only at hread
    obtain ⟨result, hsc, hrs⟩ := bind_eq_ok.1 hread
    cases hrs
    obtain ⟨r, p, hr, -, hv, rfl⟩ := scan_eq_ok.1 hsc
    obtain rfl : r = a.toRow := by
      have hfind := (find_insert hrows a.key).trans (if_pos rfl)
      exact Option.some.inj (hr.symm.trans hfind)
    have hpd : (a.toRow.attached p).state = .pending := hnew.1.1.1
    refine .inserted a p hrow hnew.1.1.1 hnew.1.1.2 (checks_of_accepts hac) hv hfree ?_ ?_
    · rw [withAdmission_rows]
      exact (insert_eq_some.1 hrows).2
    · have hgen : (a.toRow.attached p).attachmentGeneration = 1 := hnew.1.1.2
      rw [withAdmission, if_pos hpd, admissions_prepareAdmission, hgen]
      rfl

theorem expire_change (h : w.expire now = .ok w') : Change codec news w w' [] := by
  unfold expire at h
  split at h
  · next hall =>
    cases h
    have hq : ∀ (cs : List Command) (w : World), (∀ c ∈ cs, c.action = .detach) →
        (cs.foldl queue w).rows = w.rows ∧ (cs.foldl queue w).admissions = w.admissions := by
      intro cs
      induction cs with
      | nil => exact fun w _ => ⟨rfl, rfl⟩
      | cons c _ ih =>
        intro w hcs
        obtain ⟨hrows, hadmissions⟩ := ih (w.queue c) fun c' hc' => hcs c' (List.mem_cons_of_mem _ hc')
        exact ⟨hrows.trans queue_rows, hadmissions.trans (admissions_queue_detach (hcs c List.mem_cons_self))⟩
    have hdt : ∀ c ∈ (w.rows.rows.filter (overdue now)).filterMap fun r => w.expiryCommand now r.expire,
        c.action = .detach := by
      intro c hc
      obtain ⟨r, -, hr⟩ := List.mem_filterMap.1 hc
      obtain ⟨p, -, rfl⟩ := map_eq_some_iff.1 hr
      rfl
    refine .expired now ?_ (hq _ _ hdt).1 (hq _ _ hdt).2
    intro r hr hov
    have hr' := List.all_eq_true.1 hall r hr
    rw [hov] at hr'
    exact checks_of_accepts hr'
  · cases h

theorem command_eq_some {c : Command} : w.command? nodeID processEpoch accountID operationID generation action = some c ↔
      w.outbox.find (accountID, operationID, generation, action) = some c ∧ c.binding.edgeNodeID = nodeID ∧
        c.binding.edgeProcessEpoch = processEpoch := by
  simp [command?]

theorem acknowledgeAdmission_change
    (h : w.acknowledgeAdmission codec nodeID processEpoch accountID operationID generation now = .ok w') :
    Change codec news w w' (w.report (.acknowledge nodeID processEpoch accountID operationID generation .admission)) := by
  unfold acknowledgeAdmission at h
  split at h
  · cases h
  next c hc =>
  obtain ⟨hfind, rfl, rfl⟩ := command_eq_some.1 hc
  split at h
  · cases h
    exact .kept rfl rfl
  obtain ⟨-, h⟩ := check_eq_ok.1 h
  obtain ⟨current, hsc, h⟩ := bind_eq_ok.1 h
  obtain ⟨hsame, h⟩ := check_eq_ok.1 h
  rw [refuseIf_eq_ok, bne_eq_false_iff_eq] at hsame
  obtain ⟨r, p, hr, -, -, rfl⟩ := scan_eq_ok.1 hsc
  have hacc : c.accountID = accountID := congrArg (·.1) (find_eq_some.1 hfind).2
  rw [hacc] at hr
  have hkey : r.key = (accountID, operationID) := (find_eq_some.1 hr).2
  split at h
  · next hmv =>
    cases h
    refine .late r generation (hkey ▸ hr) ?_ rfl ?_
    · intro hpd
      have hst := hmv.2
      change r.state = .admitted ∨ r.state = .edgeReady ∨ r.state = .ready at hst
      rw [hpd] at hst
      rcases hst with hst | hst | hst <;> cases hst
    · rw [hkey]
      exact admissions_deliverCommand _ _ _
  · obtain ⟨hcur, h⟩ := check_eq_ok.1 h
    obtain ⟨⟨changed, w1⟩, hch, h⟩ := bind_eq_ok.1 h
    obtain ⟨hchanged, hrs⟩ := check_eq_ok.1 h
    cases hrs
    simp only [refuseIf_eq_ok, Bool.or_eq_false_iff, bne_eq_false_iff_eq] at hcur
    rcases changeRow_ok hch with ⟨rfl, -⟩ | ⟨-, r', hrow, hkey', hgen, hbd, hmt, hac, rfl⟩
    · cases hchanged
    simp only [Bool.and_eq_true, beq_iff_eq] at hmt
    have hkey'' : r'.key = (accountID, operationID) := hkey'.trans hkey
    have hgeneration : r'.attachmentGeneration = generation := hgen.trans hcur.2
    have had : w.admissions r'.key r'.attachmentGeneration = some c.admission := by
      rw [hkey'', hgeneration]
      exact congrArg (Option.map Command.admission) hfind
    have hc' : c.admission.binding = r'.binding := (hbd.trans hsame).symm
    have hrp : w.report (.acknowledge c.binding.edgeNodeID c.binding.edgeProcessEpoch accountID operationID generation
        .admission) = [.acknowledged r'.key r'.binding.edgeNodeID r'.binding.edgeProcessEpoch
          (c.admission.binding.carrier c.admission.configContentHash)] := by
      rw [hkey'', ← hc']
      simp only [report, hc]
      rfl
    rw [hrp]
    refine .admitted r' c.admission hrow hmt.1 had hc' (checks_of_accepts hac) rfl ?_
    rw [hkey'', hgeneration]
    exact admissions_deliverCommand _ _ _

theorem acknowledge_change
    (h : w.acknowledge codec nodeID processEpoch accountID operationID generation action now = .ok w') :
    Change codec news w w' (w.report (.acknowledge nodeID processEpoch accountID operationID generation action)) := by
  obtain ⟨-, h⟩ := check_eq_ok.1 h
  obtain ⟨-, h⟩ := check_eq_ok.1 h
  cases action with
  | admission => exact acknowledgeAdmission_change h
  | detach =>
    dsimp only at h
    split at h
    · cases h
      exact .kept rfl (admissions_deliverDetach _ _ _)
    · cases h

def Undelivered (w : World) : Prop :=
  ∀ r ∈ w.rows.rows, r.state = .pending → ∀ ad, w.admissions r.key r.attachmentGeneration = some ad → ad.delivered = false

theorem admissionTarget_eq_ok
    {pending : Bool} (h : w.admissionTarget codec locked proof req binding generation now = .ok (a, pending)) :
    ∃ accountID operationID, w.scan codec accountID operationID = .ok a ∧ (pending → a.state = .pending) := by
  obtain ⟨r, -, h⟩ := bind_eq_ok.1 h
  obtain ⟨-, h⟩ := check_eq_ok.1 h
  obtain ⟨current, hget, h⟩ := bind_eq_ok.1 h
  obtain ⟨-, h⟩ := check_eq_ok.1 h
  obtain ⟨-, h⟩ := check_eq_ok.1 h
  obtain ⟨-, hsc⟩ := check_eq_ok.1 hget
  split at h
  · cases h
    exact ⟨_, _, hsc, fun hfalse => absurd hfalse Bool.false_ne_true⟩
  obtain ⟨-, h⟩ := check_eq_ok.1 h
  obtain ⟨-, hrs⟩ := check_eq_ok.1 h
  cases hrs
  exact ⟨_, _, hsc, fun hst => beq_iff_eq.1 hst⟩

theorem prepareCurrent_change (hq : (w.admissions a.key a.attachmentGeneration).isSome)
    (h : w.prepareCurrent codec a now = .ok w') : Change codec news w w' [] := by
  obtain ⟨-, h⟩ := check_eq_ok.1 h
  obtain ⟨-, h⟩ := check_eq_ok.1 h
  cases h
  exact .kept queue_rows (admissions_prepareAdmission.trans (Admissions.queued_of_isSome hq))

theorem publishAdmission_change (hud : w.Undelivered) (h : w.publishAdmission codec a now = .ok (current, w')) :
    Change codec news w w' [] := by
  obtain ⟨-, h⟩ := check_eq_ok.1 h
  obtain ⟨hpublished, h⟩ := check_eq_ok.1 h
  obtain ⟨-, h⟩ := check_eq_ok.1 h
  obtain ⟨⟨changed, w1⟩, hch, h⟩ := bind_eq_ok.1 h
  obtain ⟨rfl, -⟩ := settle_ok h
  rcases changeRow_ok hch with ⟨-, rfl⟩ | ⟨-, r, hrow, hkey, hgen, -, hmt, -, -⟩
  · exact .kept rfl rfl
  -- The admission of a pending row would have been acknowledged.
  simp only [refuseIf_eq_ok, Bool.not_eq_false', published, Bool.and_eq_true, Option.any_eq_true, beq_iff_eq] at hpublished
  simp only [Bool.and_eq_true, beq_iff_eq] at hmt
  obtain ⟨-, c, hc, hdelivered⟩ := hpublished
  have had : w.admissions r.key r.attachmentGeneration = some c.admission := by
    rw [hkey, hgen]
    exact congrArg (Option.map Command.admission) hc
  simpa [Command.admission, hdelivered] using hud r (find_eq_some.1 hrow).1 hmt.1 _ had

theorem commit_change {α : Type} {result : Except Err (α × World)}
    (h : ∀ x w', result = .ok (x, w') → Change codec news w w' events) :
    Change codec news w (w.commit result).2 (if (w.commit result).1.toBool then events else []) := by
  cases result with
  | error => exact .kept rfl rfl
  | ok x => exact h x.1 x.2 rfl

theorem commitWorld_change {result : Except Err World} (h : ∀ w', result = .ok w' → Change codec news w w' events) :
    Change codec news w (w.commitWorld result).2 (if (w.commitWorld result).1.toBool then events else []) := by
  cases result with
  | error => exact .kept rfl rfl
  | ok w' => exact h w' rfl

theorem exec_change {admitting : List Attachment} (hud : w.Undelivered)
    (hq : ∀ a ∈ admitting, (w.admissions a.key a.attachmentGeneration).isSome) (cmd : Cmd) :
    Change codec cmd.news w (w.exec codec admitting now cmd).2
      (if (w.exec codec admitting now cmd).1.toBool then w.report cmd else []) := by
  cases cmd with
  | createPending a => exact commit_change fun _ _ => createPending_change ⟨a, rfl, rfl⟩
  | renew => exact commit_change fun _ _ => renew_change
  | acknowledge =>
    exact commitWorld_change fun _ => acknowledge_change
  | admitRead => exact .kept rfl rfl
  | admitPrepare current =>
    simp only [exec]
    split
    · next hread => exact commitWorld_change fun _ => prepareCurrent_change (hq current hread)
    · exact .kept rfl rfl
  | admitPublish current =>
    simp only [exec]
    split
    · exact commit_change fun _ _ => publishAdmission_change hud
    · exact .kept rfl rfl
  | observeEdge => exact commit_change fun _ _ => observeEdge_change
  | observeOrigin a originReady =>
    have hrp : w.report (.observeOrigin a originReady) = if originReady then [.originObserved a.key] else [] := by
      cases originReady <;> rfl
    rw [hrp]
    exact commit_change fun _ _ => observeOrigin_change
  | release => exact commit_change fun _ _ => release_change
  | expire => exact commitWorld_change fun _ => expire_change
  | requeue =>
    refine .kept rfl (admissions_update fun c hsel _ => ?_)
    simp only [Bool.and_eq_true, beq_iff_eq] at hsel
    simp [Command.admission, Command.requeue, hsel.1]
  | claimDetach =>
    refine .kept rfl (admissions_update fun c hsel ha => ?_)
    simp only [Bool.and_eq_true, beq_iff_eq] at hsel
    rw [ha] at hsel
    cases hsel.1.1
  | surroundings => exact .kept rfl rfl

end World

end Paperboat.Attachments

import Paperboat.Metering.PollInvariants
/-!
# No runtime is billed twice

The checkpoints of an interval that are still to be processed lie end to end from
where it was last metered, and everything processed lies before. A checkpoint
inserted at either place meets no other one. This breaks in one way only: a later
checkpoint is processed while an earlier one of the interval is not. Then
`last_metered_at` stays behind a processed period, and the next checkpoint covers
that period again.
-/

namespace Paperboat.Metering

variable {i : RuntimeInterval} {r : CheckpointRow} {w : Worker} {s : System}

open Lib Projects List DB

variable {clock : Int} {db db' : DB}

/-! ## The order of an interval's checkpoints -/

def DB.pendingPeriods (db : DB) (intervalID : String) : List (Span Int) := (db.pendingOf intervalID).map (·.period)

structure DB.Chained (db : DB) : Prop where
  /-- A checkpoint belongs to an interval. -/
  owned : ∀ r ∈ db.checkpoints.rows, ∃ i ∈ db.intervals.rows, i.id = r.runtimeIntervalID
  /-- It starts after every older one of the interval. -/
  apart : db.checkpoints.rows.Pairwise fun r r' => r.runtimeIntervalID = r'.runtimeIntervalID → r.periodEnd ≤ r'.periodStart
  /-- What is processed is metered. -/
  metered : ∀ r ∈ db.checkpoints.rows, r.pending = false → ∀ i ∈ db.intervals.rows, i.id = r.runtimeIntervalID →
    r.periodEnd ≤ i.lastMeteredAt
  /-- What is not follows what is metered, without a gap. -/
  contiguous : ∀ i ∈ db.intervals.rows, Span.Contiguous i.lastMeteredAt (db.pendingPeriods i.id)

namespace DB.Chained

theorem le_endOf (h : db.Chained) (hi : i ∈ db.intervals.rows) {r : CheckpointRow}
    (hr : r ∈ db.checkpoints.rows) (hid : r.runtimeIntervalID = i.id) :
    r.periodEnd ≤ Span.endOf i.lastMeteredAt (db.pendingPeriods i.id) := by
  have hc := h.contiguous i hi
  cases hp : r.pending with
  | true => exact hc.stop_le_endOf (hid ▸ mem_map.2 ⟨r, mem_pendingOf.2 ⟨hr, rfl, hp⟩, rfl⟩)
  | false => exact (h.metered r hr hp i hi hid.symm).trans hc.le_endOf

theorem tailStart_eq (h : db.Chained) (hi : i ∈ db.intervals.rows) :
    db.tailStart i = Span.endOf i.lastMeteredAt (db.pendingPeriods i.id) := by
  have hc := h.contiguous i hi
  obtain ⟨hlast, hends, htail⟩ := db.tailStart_spec i
  apply le_antisymm
  · rcases htail with heq | ⟨r, hr, hid, heq⟩
    · exact heq ▸ hc.le_endOf
    · exact heq ▸ h.le_endOf hi hr hid
  · rcases Span.endOf_eq i.lastMeteredAt (db.pendingPeriods i.id) with ⟨heq, _⟩ | ⟨s, hs, heq⟩
    · rwa [heq]
    obtain ⟨r, hr, rfl⟩ := mem_map.1 hs
    obtain ⟨hr, hid, _⟩ := mem_pendingOf.1 hr
    exact heq ▸ hends r hr hid

theorem pendingOf_append {intervalID : String} {row : CheckpointRow}
    (hrows : db'.checkpoints.rows = db.checkpoints.rows ++ [row]) (hp : row.pending) :
    db'.pendingPeriods intervalID =
      db.pendingPeriods intervalID ++ if row.runtimeIntervalID = intervalID then [row.period] else [] := by
  unfold pendingPeriods pendingOf
  rw [hrows, filter_append, map_append]
  by_cases hid : row.runtimeIntervalID = intervalID <;> simp [hid, hp]

theorem insert (h : db.Chained) (hi : i ∈ db.intervals.rows) {start now : Int}
    {random credits : String} (hst : start = Span.endOf i.lastMeteredAt (db.pendingPeriods i.id))
    (hsd : stored start = start) (hlg : 0 < secondsBetween start now)
    (hins : db.insertMeteringCheckpoint (newCheckpoint i start now random credits) = some db') : db'.Chained := by
  obtain ⟨_, _, hint, hrows | hrows⟩ := insertMeteringCheckpoint_spec hins
  · obtain ⟨projects, intervals, checkpoints⟩ := db'
    have hc : db.checkpoints = checkpoints := by
      cases hdc : db.checkpoints
      cases checkpoints
      simp_all
    obtain rfl := hc
    obtain rfl := hint
    exact ⟨h.owned, h.apart, h.metered, h.contiguous⟩
  · refine ⟨fun r hr => ?_, ?_, fun r hr hp i' hi' hid => ?_, fun i' hi' => ?_⟩
    · rw [hrows] at hr
      rw [hint]
      rcases mem_append.1 hr with hr | hr
      · exact h.owned r hr
      · obtain rfl := mem_singleton.1 hr
        exact ⟨i, hi, rfl⟩
    · rw [hrows, pairwise_append]
      refine ⟨h.apart, pairwise_singleton _ _, fun r hr r' hr' hid => ?_⟩
      obtain rfl := mem_singleton.1 hr'
      change r.periodEnd ≤ stored start
      rw [hsd, hst]
      exact h.le_endOf hi hr hid
    · rw [hrows] at hr
      rw [hint] at hi'
      rcases mem_append.1 hr with hr | hr
      · exact h.metered r hr hp i' hi' hid
      · obtain rfl := mem_singleton.1 hr
        cases hp
    · rw [hint] at hi'
      rw [pendingOf_append hrows rfl]
      split_ifs with hid
      · obtain rfl : i' = i := Table.eq_of_key hi' hi hid.symm
        refine (h.contiguous i' hi').append ?_ ?_
        · change stored start = _
          rw [hsd, hst]
        · change stored start < stored now
          rw [hsd]
          exact lt_stored_of_seconds hlg
      · rw [append_nil]
        exact h.contiguous i' hi'

theorem updateIntervals (h : db.Chained) {selected : RuntimeInterval → Bool} {f : RuntimeInterval → RuntimeInterval}
    (keeps : ∀ i, (f i).id = i.id) (hf : ∀ i, (f i).lastMeteredAt = i.lastMeteredAt) :
    (db.updateIntervals selected f keeps).Chained := by
  have hold : ∀ i' ∈ (db.updateIntervals selected f keeps).intervals.rows,
      ∃ i ∈ db.intervals.rows, i'.id = i.id ∧ i'.lastMeteredAt = i.lastMeteredAt := by
    intro i' hi'
    rcases (mem_updateIntervals keeps).1 hi' with ⟨i, hi, _, rfl⟩ | ⟨hi, _⟩
    · exact ⟨i, hi, keeps i, hf i⟩
    · exact ⟨i', hi, rfl, rfl⟩
  refine ⟨fun r hr => ?_, h.apart, fun r hr hp i' hi' hid => ?_, fun i' hi' => ?_⟩
  · obtain ⟨i, hi, hid⟩ := h.owned r hr
    cases hs : selected i with
    | true => exact ⟨f i, (mem_updateIntervals keeps).2 (.inl ⟨i, hi, hs, rfl⟩), (keeps i).trans hid⟩
    | false => exact ⟨i, (mem_updateIntervals keeps).2 (.inr ⟨hi, hs⟩), hid⟩
  · obtain ⟨i, hi, hid', hlast⟩ := hold i' hi'
    rw [hlast]
    exact h.metered r hr hp i hi (hid' ▸ hid)
  · obtain ⟨i, hi, hid', hlast⟩ := hold i' hi'
    rw [hlast, hid']
    exact h.contiguous i hi

theorem opened (h : db.Chained) (hins : db.insertRuntimeInterval i = some db') : db'.Chained := by
  obtain ⟨hnew, _, hc, hrows⟩ := insertRuntimeInterval_spec hins
  have hnone : ∀ r ∈ db.checkpoints.rows, r.runtimeIntervalID ≠ i.id := by
    intro r hr he
    obtain ⟨i', hi', hid⟩ := h.owned r hr
    exact hnew i' hi' (hid.trans he)
  refine ⟨fun r hr => ?_, hc ▸ h.apart, fun r hr hp i' hi' hid => ?_, fun i' hi' => ?_⟩
  · rw [hc] at hr
    obtain ⟨i', hi', hid⟩ := h.owned r hr
    exact ⟨i', hrows ▸ mem_append_left _ hi', hid⟩
  · rw [hc] at hr
    rw [hrows] at hi'
    rcases mem_append.1 hi' with hi' | hi'
    · exact h.metered r hr hp i' hi' hid
    · obtain rfl := mem_singleton.1 hi'
      exact absurd hid.symm (hnone r hr)
  · rw [hrows] at hi'
    have hp : db'.pendingPeriods i'.id = db.pendingPeriods i'.id := by
      unfold pendingPeriods pendingOf
      rw [hc]
    rw [hp]
    rcases mem_append.1 hi' with hi' | hi'
    · exact h.contiguous i' hi'
    obtain rfl := mem_singleton.1 hi'
    have hnil : db.pendingOf i'.id = [] := by
      refine filter_eq_nil_iff.2 fun r hr => ?_
      simp [hnone r hr]
    rw [pendingPeriods, hnil]
    trivial

end DB.Chained

/-! ## Settling a checkpoint -/

theorem DB.Held.row {c : Checkpoint} (h : db.Held c) (hr : r ∈ db.checkpoints.rows) (hid : r.id = c.id) :
    r.pending ∧ r.runtimeIntervalID = c.runtimeIntervalID ∧ r.periodStart = stored c.periodStart ∧
      r.periodEnd = stored c.periodEnd := by
  rcases h with ⟨r', hr', hp, hid', hrest⟩ | ⟨hnone, _⟩
  · obtain rfl : r = r' := Table.eq_of_key hr hr' (hid.trans hid'.symm)
    exact ⟨hp, hrest⟩
  · exact absurd hid (hnone r hr)

theorem DebitAnswer.mark_period (debit : DebitAnswer) (r : CheckpointRow) :
    (debit.mark r).runtimeIntervalID = r.runtimeIntervalID ∧ (debit.mark r).period = r.period := by
  cases debit <;> exact ⟨rfl, rfl⟩

namespace DB.Chained

variable {c : Checkpoint}

theorem settle_apart (h : db.Chained) (c : Checkpoint) (debit : DebitAnswer) :
    (db.settle clock c debit).checkpoints.rows.Pairwise fun r r' =>
      r.runtimeIntervalID = r'.runtimeIntervalID → r.periodEnd ≤ r'.periodStart := by
  rw [settle_checkpoints]
  refine pairwise_map.2 (h.apart.imp fun {r r'} hle => ?_)
  have hg (r : CheckpointRow) : (if r.id == c.id then debit.mark r else r).runtimeIntervalID = r.runtimeIntervalID ∧
      (if r.id == c.id then debit.mark r else r).period = r.period := by
    split
    · exact debit.mark_period r
    · exact ⟨rfl, rfl⟩
  intro hid
  rw [(hg r).1, (hg r').1] at hid
  have hend := congrArg Span.stop (hg r).2
  have hst := congrArg Span.start (hg r').2
  exact (le_of_eq hend).trans ((hle hid).trans (le_of_eq hst.symm))

theorem settle_failed (h : db.Chained) (hc : db.Held c) {debit : DebitAnswer} (hd : debit ≠ .ok) :
    (db.settle clock c debit).Chained := by
  have hint : (db.settle clock c debit).intervals = db.intervals := by
    cases debit with
    | ok => exact absurd rfl hd
    | insufficientCredits | failed => rfl
  have hmark (r : CheckpointRow) : (debit.mark r).pending := by
    cases debit with
    | ok => exact absurd rfl hd
    | insufficientCredits | failed => rfl
  have hpend (intervalID : String) : (db.settle clock c debit).pendingPeriods intervalID = db.pendingPeriods intervalID := by
    unfold pendingPeriods pendingOf
    rw [settle_checkpoints]
    refine Table.filter_map_update debit.mark_id fun r hr hid => ?_
    obtain ⟨hp, _⟩ := hc.row hr (by simpa using hid)
    obtain ⟨hi, hper⟩ := debit.mark_period r
    exact ⟨by rw [hmark, hp, hi], hper⟩
  refine ⟨fun r' hr' => ?_, h.settle_apart c debit, fun r' hr' hp i hi hid => ?_, fun i hi => ?_⟩
  · rw [hint]
    rcases mem_settle.1 hr' with ⟨r, hr, _, rfl⟩ | ⟨hr, _⟩
    · rw [(debit.mark_period r).1]
      exact h.owned r hr
    · exact h.owned r' hr
  · rw [hint] at hi
    rcases mem_settle.1 hr' with ⟨r, hr, _, rfl⟩ | ⟨hr, _⟩
    · rw [hmark] at hp
      cases hp
    · exact h.metered r' hr hp i hi hid
  · rw [hint] at hi
    rw [hpend]
    exact h.contiguous i hi

theorem mem_markProcessed_intervals {i' : RuntimeInterval} : i' ∈ (db.markCheckpointProcessed c).intervals.rows ↔
      (∃ i ∈ db.intervals.rows, i.id = c.runtimeIntervalID ∧ i.lastMeteredAt = stored c.periodStart ∧
        i' = i.advance (stored c.periodEnd)) ∨
      (i' ∈ db.intervals.rows ∧ (i'.id = c.runtimeIntervalID → i'.lastMeteredAt ≠ stored c.periodStart)) := by
  rw [markCheckpointProcessed, mem_updateIntervals]
  simp [updateCheckpoint, and_assoc]

theorem pendingOf_markProcessed (c : Checkpoint) (intervalID : String) :
    (db.markCheckpointProcessed c).pendingOf intervalID = (db.pendingOf intervalID).filter fun r => !(r.id == c.id) := by
  exact Table.filter_update_dropped CheckpointRow.markProcessed_id fun r _ _ => by
    simp [CheckpointRow.pending, CheckpointRow.markProcessed]

theorem head_of_earliest (h : db.Chained) (hi : i ∈ db.intervals.rows) {r : CheckpointRow}
    (hr : r ∈ db.pendingOf i.id) (hft : ∀ r' ∈ db.pendingOf i.id, r.periodEnd ≤ r'.periodEnd) :
    r.periodStart = i.lastMeteredAt ∧
      Span.Contiguous r.periodEnd (((db.pendingOf i.id).filter fun r' => !(r'.id == r.id)).map (·.period)) := by
  have hc := h.contiguous i hi
  unfold pendingPeriods at hc
  have hn : ((db.pendingOf i.id).map (·.id)).Nodup := db.checkpoints.keys.sublist (filter_sublist.map _)
  cases hrows : db.pendingOf i.id with
  | nil => simp [hrows] at hr
  | cons r0 rest =>
    rw [hrows] at hr hft hc hn
    obtain ⟨hst, hlt, hc⟩ := hc
    have hr0 : r = r0 := by
      rcases mem_cons.1 hr with he | hr
      · exact he
      -- Later spans stop after the first one, so a later row would not be the earliest.
      have hle := hft r0 mem_cons_self
      exact absurd hle (not_le.2 (hc.lt_stop (mem_map.2 ⟨r, hr, rfl⟩)))
    subst hr0
    refine ⟨hst, ?_⟩
    have hrest : rest.filter (fun r' => !(r'.id == r.id)) = rest := by
      refine filter_eq_self.2 fun r' hr' => ?_
      have hne : r'.id ≠ r.id := fun he => (nodup_cons.1 hn).1 (mem_map.2 ⟨r', hr', he⟩)
      simpa using hne
    rwa [filter_cons_of_neg (by simp), hrest]

theorem processed_interval (h : db.Chained) (hc : db.Held c)
    (hft : ∀ r ∈ db.pendingOf c.runtimeIntervalID, stored c.periodEnd ≤ r.periodEnd)
    (hi : i ∈ db.intervals.rows) (hid : i.id = c.runtimeIntervalID) :
    (db.pendingOf i.id = [] ∧ ∀ r ∈ db.checkpoints.rows, r.id ≠ c.id) ∨ (i.lastMeteredAt = stored c.periodStart ∧
        Span.Contiguous (stored c.periodEnd) (((db.pendingOf i.id).filter fun r => !(r.id == c.id)).map (·.period))) := by
  rcases hc with ⟨r, hr, hp, hrid, hri, hs, he⟩ | ⟨hnone, hnil, _⟩
  · right
    have hmem : r ∈ db.pendingOf i.id := mem_pendingOf.2 ⟨hr, hri.trans hid.symm, hp⟩
    obtain ⟨hst, hrest⟩ := h.head_of_earliest hi hmem fun r' hr' => he ▸ hft r' (hid ▸ hr')
    exact ⟨hst ▸ hs, by rw [← he, ← hrid]; exact hrest⟩
  · exact .inl ⟨hid ▸ hnil, hnone⟩

theorem settle_ok (h : db.Chained) (hlt : stored c.periodStart < stored c.periodEnd) (hc : db.Held c)
    (hft : ∀ r ∈ db.pendingOf c.runtimeIntervalID, stored c.periodEnd ≤ r.periodEnd) : (db.settle clock c .ok).Chained := by
  refine ⟨fun r' hr' => ?_, h.settle_apart c .ok, fun r' hr' hp i' hi' hid => ?_, fun i' hi' => ?_⟩
  · obtain ⟨r, hr, hri⟩ : ∃ r ∈ db.checkpoints.rows, r'.runtimeIntervalID = r.runtimeIntervalID := by
      rcases mem_settle.1 hr' with ⟨r, hr, _, rfl⟩ | ⟨hr, _⟩
      · exact ⟨r, hr, rfl⟩
      · exact ⟨r', hr, rfl⟩
    obtain ⟨i, hi, hid⟩ := h.owned r hr
    rw [hri]
    by_cases hsel : i.id = c.runtimeIntervalID ∧ i.lastMeteredAt = stored c.periodStart
    · exact ⟨i.advance (stored c.periodEnd), mem_markProcessed_intervals.2 (.inl ⟨i, hi, hsel.1, hsel.2, rfl⟩), hid⟩
    · exact ⟨i, mem_markProcessed_intervals.2 (.inr ⟨hi, fun he hl => hsel ⟨he, hl⟩⟩), hid⟩
  · rcases mem_settle.1 hr' with ⟨r, hr, hrid, rfl⟩ | ⟨hr, hne⟩
    · -- The row of the checkpoint itself: its interval moves to its end.
      obtain ⟨_, hri, _, hend⟩ := hc.row hr hrid
      rcases mem_markProcessed_intervals.1 hi' with ⟨i, hi, _, _, rfl⟩ | ⟨hi, hoth⟩
      · exact le_of_eq hend
      have hid' : i'.id = c.runtimeIntervalID := hid.trans hri
      rcases h.processed_interval hc hft hi hid' with ⟨_, hnone⟩ | ⟨hlast, _⟩
      · exact absurd hrid (hnone r hr)
      · exact absurd hlast (hoth hid')
    · rcases mem_markProcessed_intervals.1 hi' with ⟨i, hi, _, hlast, rfl⟩ | ⟨hi, _⟩
      · exact (h.metered r' hr hp i hi hid).trans (hlast ▸ hlt.le)
      · exact h.metered r' hr hp i' hi hid
  · change Span.Contiguous i'.lastMeteredAt (((db.markCheckpointProcessed c).pendingOf i'.id).map (·.period))
    rw [pendingOf_markProcessed]
    rcases mem_markProcessed_intervals.1 hi' with ⟨i, hi, hid, _, rfl⟩ | ⟨hi, hoth⟩
    · rcases h.processed_interval hc hft hi hid with ⟨hnil, _⟩ | ⟨_, hrest⟩
      · rw [show (i.advance (stored c.periodEnd)).id = i.id from rfl, hnil]
        trivial
      · exact hrest
    · by_cases hid : i'.id = c.runtimeIntervalID
      · rcases h.processed_interval hc hft hi hid with ⟨hnil, _⟩ | ⟨hlast, _⟩
        · rw [hnil]
          trivial
        · exact absurd hlast (hoth hid)
      · have hkeep : (db.pendingOf i'.id).filter (fun r => !(r.id == c.id)) = db.pendingOf i'.id := by
          refine filter_eq_self.2 fun r hr => ?_
          obtain ⟨hr, hri, _⟩ := mem_pendingOf.1 hr
          have hne : r.id ≠ c.id := fun he => hid (hri ▸ (hc.row hr he).2.1)
          simpa using hne
        rw [hkeep]
        exact h.contiguous i' hi

end DB.Chained

/-! ## Every run -/

/-- No debit succeeds for a checkpoint while one of its interval that ends before it is still to be processed. -/
def inOrder (s : System) (op : Op) : Bool :=
  match s.worker, op.action with
  | .debiting c _, .poll answers =>
    answers.debit != .ok || (s.db.pendingOf c.runtimeIntervalID).all fun r => decide (stored c.periodEnd ≤ r.periodEnd)
  | _, _ => true

def Worker.First (db : DB) : Worker → Prop
  | .marking c .ok _ => ∀ r ∈ db.pendingOf c.runtimeIntervalID, stored c.periodEnd ≤ r.periodEnd
  | _ => True

theorem Effect.chained (he : Effect clock db w db') (h : db.Chained) (hdb : db.Sane clock)
    (hw : w.Sane clock db) (hft : w.First db) : db'.Chained := by
  cases he with
  | nothing => exact h
  | running | closed => exact h.updateIntervals _ fun _ => rfl
  | opened _ _ _ _ _ hins => exact h.opened hins
  | created _ _ i _ _ _ hi _ hnone hlg hins =>
    exact h.insert hi (by rw [pendingPeriods, hnone]; rfl) (hdb.intervals i hi) hlg hins
  | finished _ _ _ _ _ _ _ hi _ hlg hins =>
    exact h.insert hi (h.tailStart_eq hi) (hdb.tailStart hi) hlg hins
  | settled _ debit =>
    cases debit with
    | ok => exact h.settle_ok (hdb.held_nonempty hw.1) hw.1 hft
    | insufficientCredits | failed => exact h.settle_failed hw.1 (by simp)
  | enforced => exact ⟨h.owned, h.apart, h.metered, h.contiguous⟩

theorem processNext_first (now : Int) (rest : List Checkpoint) : (processNext now rest).First db := by
  cases rest <;> trivial

theorem Worker.first_step (clock : Int) (a : Answers) (h : ∀ c caller, w = .debiting c caller → a.debit = .ok →
      ∀ r ∈ db.pendingOf c.runtimeIntervalID, stored c.periodEnd ≤ r.periodEnd) :
    (w.step clock db a).2.First (w.step clock db a).1 := by
  cases w with
  | idle => trivial
  | debiting c caller =>
    simp only [step]
    cases hd : a.debit with
    | ok => exact h c caller rfl hd
    | insufficientCredits | failed => trivial
  | started now =>
    simp only [step]
    split
    · trivial
    · exact processNext_first now _
  | observing poll =>
    obtain ⟨now, rest⟩ := poll
    cases rest with
    | nil => trivial
    | cons =>
      simp only [step]
      repeat' split
      all_goals trivial
  | marking _ _ caller =>
    simp only [step]
    split
    · cases caller <;> trivial
    cases caller with
    | processPendingCheckpoints now rest => exact processNext_first now rest
    | observeRunning | observeStopped => trivial
  | listing | ensuring | creating | finding | finishing | closing =>
    simp only [step]
    repeat' split
    all_goals trivial

structure System.InTurn (s : System) : Prop where
  sane : s.Sane
  chained : s.db.Chained
  first : s.worker.First s.db

theorem System.Initial.inTurn (h : s.Initial) : s.InTurn where
  sane := h.sane
  chained := by
    refine ⟨?_, ?_, ?_, ?_⟩
    · simp [h.checkpoints]
    · simp [h.checkpoints]
    · simp [h.checkpoints]
    · simp [h.intervals]
  first := by
    rw [h.worker]
    trivial

theorem System.InTurn.step (h : s.InTurn) {op : Op} (hop : inOrder s op) : (s.step op).InTurn := by
  have hle : s.clock ≤ s.clock + op.elapsed := by omega
  have hsane : (s.step op).Sane := h.sane.act hle op.action
  obtain ⟨elapsed, action⟩ := op
  cases action with
  | poll answers =>
    have he := Worker.step_effect (s.clock + elapsed) s.db answers s.worker
    refine ⟨hsane, he.chained h.chained (h.sane.db.later hle) (h.sane.worker.later hle) h.first, ?_⟩
    refine Worker.first_step _ answers fun c caller hw hok r hr => ?_
    have hall : ∀ r ∈ s.db.pendingOf c.runtimeIntervalID, stored c.periodEnd ≤ r.periodEnd := by
      simpa [inOrder, hw, hok] using hop
    exact hall r hr
  | crash => exact ⟨hsane, h.chained, trivial⟩
  | lifecycle =>
    exact ⟨hsane, ⟨h.chained.owned, h.chained.apart, h.chained.metered, h.chained.contiguous⟩, h.first⟩

/-- When every debit that succeeds is for the first checkpoint its interval has left to process, no two checkpoints of
an interval share an instant. -/
theorem billed_once {s : System} (h : s.Initial) {ops : List Op}
    (hops : EachStep System.step (fun s op => inOrder s op) s ops) :
    (run System.step s ops).db.checkpoints.rows.Pairwise fun r r' =>
      r.runtimeIntervalID = r'.runtimeIntervalID → ∀ t, ¬(r.period.Covers t ∧ r'.period.Covers t) := by
  have hinv : (run System.step s ops).InTurn := run_inv (fun _ _ hs hop => hs.step hop) h.inTurn hops
  exact hinv.chained.apart.imp fun hle hid => Span.not_covers_of_stop_le (hle hid)

/-- In every run, out of turn or not, a checkpoint is for a time that is over and not empty, with ends that the database
can store. -/
theorem checkpoints_in_the_past {s : System} (h : s.Initial) (ops : List Op) :
    ∀ r ∈ (run System.step s ops).db.checkpoints.rows, r.Sane (run System.step s ops).clock := by
  have hs : (run System.step s ops).Sane := run_inv' (fun _ op hs => hs.act (by omega) op.action) h.sane ops
  exact hs.db.checkpoints

/-! ## Out of turn -/

namespace Sample

def machine : MeterableMachine := ⟨"prj", "usr", "fly", "mtv", "1.000000"⟩

def project : ProjectRow := ⟨⟨"prj", "usr", .running, 1⟩, [(0, .running)]⟩

theorem project_keys : (([project] : List ProjectRow).map ProjectRow.id).Nodup := nodup_singleton _

def unmetered : System where
  clock := 0
  db := ⟨⟨[project], project_keys⟩, ⟨[], nodup_nil⟩, ⟨[], nodup_nil⟩⟩
  worker := .idle

theorem unmetered_initial : unmetered.Initial where
  intervals := rfl
  checkpoints := rfl
  projects := fun p hp => by
    obtain rfl := mem_singleton.1 hp
    exact ⟨0, le_refl _, rfl⟩
  worker := rfl

/-- One step for each of the answers; `elapsed` seconds pass before the first. -/
def poll (elapsed : Nat) : List Answers → List Op
  | [] => []
  | a :: rest => ⟨elapsed * 1000000000, .poll a⟩ :: rest.map fun a => ⟨0, .poll a⟩

def running : Answers := { machine := .found "started" }

def listed : Answers := { joined := [machine] }

def insufficient : Answers := { debit := .insufficientCredits }

def opening : List Op := poll 0 [{}, {}, listed, running, { random := "a" }, {}]

/-- The first hour cannot be paid for. The transaction that would have closed the interval fails, after it left a
checkpoint for the ten seconds that followed. Those are paid for; after a top-up so is the hour, and the interval is
metered up to its end. -/
def outOfTurn : List Op :=
  opening ++
  poll 3600 [{}, {}, listed, running, {}, { random := "hour" }, insufficient, {}, {}] ++
  poll 10 [{}, {}, insufficient, {}, listed, { machine := .found "stopped" }, {}, { random := "tail" }, insufficient, {},
    { fails := true }, {}] ++
  [⟨0, .lifecycle "prj" (.queue "usr" .start)⟩] ++
  poll 60 [{}, {}, insufficient, {}, {}, {}, listed, running, {}, {}, {}, {}, {}] ++
  poll 60 [{}, {}, listed, running, {}, { random := "again" }]

def inTurn : List Op :=
  opening ++
  poll 3600 [{}, {}, listed, running, {}, { random := "hour" }, {}, {}, {}] ++
  poll 60 [{}, {}, listed, running, {}, { random := "minute" }]

end Sample

open Sample

theorem runtime_billed_twice : unmetered.Initial ∧
      ∃ r ∈ (run System.step unmetered outOfTurn).db.checkpoints.rows,
        ∃ r' ∈ (run System.step unmetered outOfTurn).db.checkpoints.rows,
          r.id ≠ r'.id ∧ r.runtimeIntervalID = r'.runtimeIntervalID ∧
            r.period.Covers 3605000000000 ∧ r'.period.Covers 3605000000000 :=
  ⟨unmetered_initial, by decide +kernel⟩

theorem checkpoints_in_turn_in_the_past : unmetered.Initial ∧
    ∀ r ∈ (run System.step unmetered inTurn).db.checkpoints.rows, r.Sane (run System.step unmetered inTurn).clock :=
  ⟨unmetered_initial, checkpoints_in_the_past unmetered_initial inTurn⟩

theorem billed_once_in_turn : (run System.step unmetered inTurn).db.checkpoints.rows.length = 2 ∧
      (run System.step unmetered inTurn).db.checkpoints.rows.Pairwise fun r r' =>
        r.runtimeIntervalID = r'.runtimeIntervalID → ∀ t, ¬(r.period.Covers t ∧ r'.period.Covers t) :=
  ⟨by decide +kernel, billed_once unmetered_initial (by decide +kernel)⟩

end Paperboat.Metering

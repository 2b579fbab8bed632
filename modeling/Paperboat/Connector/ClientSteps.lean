import Paperboat.Connector.Client
/-!
# What an operation can do to a client session

As for the server, one lemma per operation says what it can do to the
configurations a client session holds: nothing (`Quiet`), start work on an
offer, stage it, drop the candidate, or promote it.
-/

namespace Paperboat.Connector

open Lib

namespace ClientSession

variable {c c' : ClientSession} {now : Time}

def expired (c : ClientSession) (now : Time) : Bool :=
  !c.lease.expiresAt.after now || !c.lastHeartbeatAck.isZero && decide (now.sub c.lastHeartbeatAck >
    2 * (c.lease.heartbeatIntervalMS.toNat : Int) * Duration.millisecond)

structure Same (c c' : ClientSession) : Prop where
  active : c'.active = c.active
  hasActive : c'.hasActive = c.hasActive
  candidate : c'.candidate = c.candidate
  hasCandidate : c'.hasCandidate = c.hasCandidate
  prepared : c'.prepared = c.prepared
  busy : c'.busy = c.busy

/-- The configurations are as before, no session is new again, a closed one stays
closed, and an open one is closed only when it has expired at `clock`. -/
structure Kept (c : ClientSession) (clock : Option Time) (c' : ClientSession) : Prop extends Same c c' where
  opened : c'.state = .new → c.state = .new
  closed : c.state = .closed → c'.state = .closed
  live : c'.state = .closed → c.state = .closed ∨ ∃ now, clock = some now ∧ c.expired now

theorem Same.refl (c : ClientSession) : Same c c := ⟨rfl, rfl, rfl, rfl, rfl, rfl⟩

theorem Kept.refl (c : ClientSession) (clock : Option Time) : Kept c clock c := ⟨.refl c, id, id, .inl⟩

structure Leased (c : ClientSession) (clock : Option Time) (c' : ClientSession) : Prop extends Kept c clock c' where
  lease : c'.lease = c.lease

theorem Leased.refl (c : ClientSession) (clock : Option Time) : Leased c clock c := ⟨.refl c clock, rfl⟩

structure Quiet (c c' : ClientSession) : Prop where
  active : c'.active = c.active
  hasActive : c'.hasActive = c.hasActive
  candidate : c'.hasCandidate → c.hasCandidate ∧ c'.candidate = c.candidate
  busy : c'.busy = c.busy ∨ c'.busy = none

theorem Quiet.refl (c : ClientSession) : Quiet c c := ⟨rfl, rfl, fun h => ⟨h, rfl⟩, .inl rfl⟩

theorem Same.quiet (h : Same c c') : Quiet c c' :=
  ⟨h.active, h.hasActive, fun hc => ⟨h.hasCandidate ▸ hc, h.candidate⟩, .inl h.busy⟩

theorem Quiet.of_free (h : Quiet { c with busy := none } c') : Quiet c c' :=
  ⟨h.active, h.hasActive, h.candidate, .inr (h.busy.elim id id)⟩

theorem Quiet.work {work : Work} (h : Quiet c c') (hw : c'.busy = some work) : c.busy = some work := by
  rcases h.busy with hb | hb
  · rw [← hb, hw]
  · simp [hb] at hw

/-! ## The check every call starts with -/

theorem kept_of_ensureActive {err : Option Err} (h : c.ensureActive now = (c', err)) : Leased c (some now) c' := by
  have hclose : ∀ reason, c.expired now → Leased c (some now) (c.closeWith reason) := fun _ he =>
    ⟨⟨⟨rfl, rfl, rfl, rfl, rfl, rfl⟩, by simp [closeWith], fun _ => rfl, fun _ => .inr ⟨now, rfl, he⟩⟩, rfl⟩
  unfold ensureActive at h
  split_ifs at h with hc hn hl hb <;> cases h
  · exact .refl c _
  · exact .refl c _
  · exact hclose _ (by simp [expired, hl])
  · exact hclose _ (by rw [expired, hb, Bool.or_true])
  · exact .refl c _

theorem live_of_ensureActive (h : c.ensureActive now = (c', none)) : c.state ≠ .closed ∧ c.state ≠ .new := by
  unfold ensureActive at h
  split_ifs at h with hc hn hl hb
  · cases h
  · cases h
  · cases h
  · cases h
  · exact ⟨hc, hn⟩

theorem expired_of_ensureActive {err : Err} (h : c.ensureActive now = (c', some err)) (hc : c.state ≠ .closed)
    (hn : c.state ≠ .new) : c.expired now := by
  unfold ensureActive at h
  rw [if_neg hc, if_neg hn] at h
  split_ifs at h with hl hb
  · simp [expired, hl]
  · rw [expired, hb, Bool.or_true]
  · cases h

theorem ensureActive_kept (c : ClientSession) (now : Time) : Leased c (some now) (c.ensureActive now).1 :=
  kept_of_ensureActive rfl

/-! ## The operations -/

theorem acceptWelcome_kept (c : ClientSession) (now later : Time) (welcome : Welcome) (clock : Option Time) :
    Kept c clock (c.acceptWelcome now later welcome).1 := by
  unfold acceptWelcome
  split
  · exact .refl c _
  split_ifs with hn
  · exact .refl c _
  · exact .refl c _
  split
  · exact .refl c _
  split
  · exact .refl c _
  -- the session was new
  have hs : c.state ≠ .closed := by
    intro hs
    exact hn (by simp [hs])
  exact ⟨⟨rfl, rfl, rfl, rfl, rfl, rfl⟩, by simp, fun h => absurd h hs, by simp⟩

variable (rules : PayloadRules)

theorem applySnapshotBegin_moves (c : ClientSession) (now : Time) (ctx : Option Err) (snapshot : Snapshot) :
    Leased c (some now.utc) (c.applySnapshotBegin rules now ctx snapshot).1 ∨
      ((c.applySnapshotBegin rules now ctx snapshot).1 = { c with busy := some (.snapshot snapshot) } ∧
        c.state ≠ .new ∧ snapshot.validate rules = none ∧
        ∀ current, c.newest = some current → current.generation < snapshot.generation) := by
  unfold applySnapshotBegin
  split
  · exact .inl (.refl c _)
  · exact .inl (kept_of_ensureActive ‹_›)
  rename_i hv ha
  split_ifs with ht hb hs
  · exact .inl (.refl c _)
  · exact .inl (.refl c _)
  · exact .inl (.refl c _)
  split
  · split <;> exact .inl (.refl c _)
  rename_i hf
  split
  · exact .inl (.refl c _)
  refine .inr ⟨rfl, (live_of_ensureActive ha).2, hv, fun current hc => ?_⟩
  have hge : current.generation ≤ snapshot.generation := by simpa [hc] using hs
  have hne : snapshot.generation ≠ current.generation := by simpa [hc] using hf
  exact UInt64.lt_of_le_of_ne hge (Ne.symm hne)

theorem applyDeltaBegin_moves (c : ClientSession) (now : Time) (ctx : Option Err) (delta : Delta) :
    Leased c (some now.utc) (c.applyDeltaBegin rules now ctx delta).1 ∨
      ((c.applyDeltaBegin rules now ctx delta).1 = { c with busy := some (.delta delta) } ∧
        c.state ≠ .new ∧ c.hasActive ∧ delta.generation = c.active.generation + 1) := by
  unfold applyDeltaBegin
  split
  · exact .inl (.refl c _)
  · exact .inl (kept_of_ensureActive ‹_›)
  rename_i ha
  split_ifs with hb hn hp hg
  · exact .inl (.refl c _)
  · exact .inl (.refl c _)
  · exact .inl ⟨⟨⟨rfl, rfl, rfl, rfl, rfl, rfl⟩, id, id, .inl⟩, rfl⟩
  · split
    · exact .inl (.refl c _)
    · simp only [Bool.or_eq_true, not_or, Bool.not_eq_true', Bool.not_eq_false] at hn
      exact .inr ⟨rfl, (live_of_ensureActive ha).2, hn.1.1, by simpa using hg⟩
  · exact .inl (.refl c _)
  · exact .inl ⟨⟨⟨rfl, rfl, rfl, rfl, rfl, rfl⟩, id, id, .inl⟩, rfl⟩

theorem finishApply_cases (c : ClientSession) (now : Time) (o : PrepareOutcome) (code : Code) (kind : AckKind)
    (candidate : Snapshot) (needs : Bool) : Quiet c (c.finishApply now o code kind candidate needs).1 ∨
      (c.finishApply now o code kind candidate needs).1 = c.stage candidate o.prepared needs := by
  unfold finishApply
  split
  · exact .inl (.refl c)
  · exact .inl (kept_of_ensureActive ‹_›).quiet
  split
  · exact .inl (.refl c)
  · exact .inr rfl

theorem applyFinish_cases (c : ClientSession) (now : Time) (o : PrepareOutcome) :
    Quiet c (c.applyFinish now o).1 ∨ ∃ candidate needs,
      (c.applyFinish now o).1 = { c with busy := none }.stage candidate o.prepared needs ∧
        ((∃ snapshot, c.busy = some (.snapshot snapshot) ∧ candidate.generation = snapshot.generation) ∨
          ∃ delta, c.busy = some (.delta delta) ∧ candidate.generation = delta.generation) := by
  unfold applyFinish
  split
  · rename_i snapshot hw
    rcases finishApply_cases { c with busy := none } now o .snapshotRejected .snapshot
      (bindSnapshot snapshot c.hello.accountID c.hello.connectorID c.welcome.sessionID c.hello.processGeneration)
      false with h | h
    · exact .inl h.of_free
    · exact .inr ⟨_, _, h, .inl ⟨snapshot, hw, rfl⟩⟩
  · rename_i delta hw
    rcases finishApply_cases { c with busy := none } now o .deltaRejected .delta (c.deltaSnapshot delta)
      c.needsSnapshot with h | h
    · exact .inl h.of_free
    · exact .inr ⟨_, _, h, .inr ⟨delta, hw, rfl⟩⟩
  · exact .inl (.refl c)

theorem markReadyBegin_moves (c : ClientSession) (now : Time) (ctx : Option Err) (edge route origin : Bool) :
    Leased c (some now.utc) (c.markReadyBegin now ctx edge route origin).1 ∨ ∃ readiness,
      (c.markReadyBegin now ctx edge route origin).1 = { c with busy := some (.activation c.candidate readiness) } ∧
        readiness.generation = c.candidate.generation ∧ readiness.contentHash = c.candidate.contentHash ∧
        c.state ≠ .new ∧ c.hasCandidate ∧ c.prepared.isSome := by
  unfold markReadyBegin
  split
  · exact .inl (kept_of_ensureActive ‹_›)
  rename_i ha
  split
  · exact .inl (.refl c _)
  rename_i hc
  split
  · exact .inl (.refl c _)
  split
  · exact .inl (.refl c _)
  · exact .inl (.refl c _)
  · rename_i hp
    exact .inr ⟨_, rfl, rfl, rfl, (live_of_ensureActive ha).2, by simpa using hc, by simp [hp]⟩

theorem markReadyBegin_reply (c : ClientSession) (now : Time) (ctx : Option Err) (edge route origin : Bool)
    (readiness : Option Readiness) : (c.markReadyBegin now ctx edge route origin).2 ≠ .returned readiness none := by
  unfold markReadyBegin
  split
  · simp
  split
  · simp
  split
  · simp
  · split <;> simp

/-- A success of `MarkReadyContext` is the promotion of the candidate it
reports; every other end keeps the active snapshot. -/
theorem markReadyFinish_cases (c : ClientSession) (now : Time) (o : ActivateOutcome) :
    (∃ readiness err, (c.markReadyFinish now o).2 = .returned readiness (some err) ∧ Quiet c (c.markReadyFinish now o).1) ∨
    ∃ candidate readiness, c.busy = some (.activation candidate readiness) ∧
      (c.markReadyFinish now o) = (promote { c with busy := none }, .returned (some readiness) none) ∧
      c.hasCandidate ∧ c.candidate.generation = candidate.generation ∧
      c.candidate.contentHash = candidate.contentHash := by
  unfold markReadyFinish
  split
  · rename_i candidate readiness hw
    have hq : Quiet c { c with busy := none } := Quiet.of_free (.refl _)
    unfold finishReady
    split
    · refine .inl ⟨_, _, rfl, ?_⟩
      dsimp only
      split
      · exact ⟨rfl, rfl, nofun, .inr rfl⟩
      · exact hq
    · rename_i he
      exact .inl ⟨_, _, rfl, (kept_of_ensureActive he).quiet.of_free⟩
    · split
      · exact .inl ⟨_, _, rfl, hq⟩
      rename_i hs
      simp only [stillStaged, Bool.not_eq_true', Bool.not_eq_false, Bool.and_eq_true, beq_iff_eq] at hs
      exact .inr ⟨candidate, readiness, hw, rfl, hs.1.1, hs.1.2, hs.2⟩
  · exact .inl ⟨_, _, rfl, .refl c⟩

theorem heartbeat_kept (c : ClientSession) (now clock : Time) :
    Leased c (some (if now.isZero then clock.utc else now)) (c.heartbeat now clock).1 := by
  unfold heartbeat
  generalize (if now.isZero then clock.utc else now) = reading
  dsimp only
  split
  · exact kept_of_ensureActive ‹_›
  · split <;> exact .refl c _

theorem acceptHeartbeatAck_kept (c : ClientSession) (now : Time) (ack : HeartbeatAck) :
    Kept c (some now.utc) (c.acceptHeartbeatAck now ack).1 := by
  unfold acceptHeartbeatAck
  split
  · exact .refl c _
  · exact (kept_of_ensureActive ‹_›).toKept
  split
  · exact .refl c _
  · exact ⟨⟨rfl, rfl, rfl, rfl, rfl, rfl⟩, id, id, .inl⟩

theorem new_empty {hello : Hello} {now : Time} (h : newClientSession hello now = .ok c) :
    c.busy = none ∧ c.hasCandidate = false ∧ c.hasActive = false := by
  unfold newClientSession at h
  split at h
  · cases h
  · cases h
    exact ⟨rfl, rfl, rfl⟩

/-! ## The order of the configurations a client session holds -/

def Ahead (c : ClientSession) (generation : UInt64) : Prop := c.hasActive → c.active.generation < generation

structure Ordered (c : ClientSession) : Prop where
  candidate : c.hasCandidate → c.Ahead c.candidate.generation
  snapshot : ∀ snapshot, c.busy = some (.snapshot snapshot) → c.Ahead snapshot.generation
  delta : ∀ delta, c.busy = some (.delta delta) → c.Ahead delta.generation

theorem Ordered.newest (h : Ordered c) {generation : UInt64}
    (hn : ∀ current, c.newest = some current → current.generation < generation) : c.Ahead generation := by
  intro ha
  by_cases hc : c.hasCandidate
  · have h1 := h.candidate hc ha
    have h2 := hn c.candidate (by simp [ClientSession.newest, hc])
    exact UInt64.lt_trans h1 h2
  · exact hn c.active (by simp [ClientSession.newest, hc, ha])

theorem Quiet.ordered (hq : Quiet c c') (h : Ordered c) : Ordered c' := by
  have ahead : ∀ {generation}, c.Ahead generation → c'.Ahead generation := by
    intro generation hg
    rwa [Ahead, hq.active, hq.hasActive]
  refine ⟨fun hc => ?_, fun snapshot hw => ahead (h.snapshot snapshot (hq.work hw)),
    fun delta hw => ahead (h.delta delta (hq.work hw))⟩
  rw [(hq.candidate hc).2]
  exact ahead (h.candidate (hq.candidate hc).1)

def Begins (offered : Delta → Prop) (c : ClientSession) : Work → Prop
  | .snapshot snapshot => ∀ current, c.newest = some current → current.generation < snapshot.generation
  | .delta delta => offered delta ∧ delta.generation = c.active.generation + 1
  | .activation candidate r => r.generation = candidate.generation ∧ r.contentHash = candidate.contentHash

inductive Change (offered : Delta → Prop) (c : ClientSession) : ClientSession → Prop where
  | quiet {c' : ClientSession} (h : Quiet c c') : Change offered c c'
  | begun (work : Work) (h : Begins offered c work) : Change offered c { c with busy := some work }
  | staged (candidate : Snapshot) (prepared : Option Nat) (needs : Bool)
      (h : (∃ snapshot, c.busy = some (.snapshot snapshot) ∧ candidate.generation = snapshot.generation) ∨
        ∃ delta, c.busy = some (.delta delta) ∧ candidate.generation = delta.generation) :
      Change offered c ({ c with busy := none }.stage candidate prepared needs)

variable {offered : Delta → Prop}

theorem Change.active (h : Change offered c c') : c'.active = c.active ∧ c'.hasActive = c.hasActive := by
  cases h with
  | quiet h => exact ⟨h.active, h.hasActive⟩
  | begun | staged => exact ⟨rfl, rfl⟩

theorem Change.activation (h : Change offered c c') {candidate : Snapshot} {r : Readiness}
    (hw : c'.busy = some (.activation candidate r)) :
    c.busy = some (.activation candidate r) ∨ r.generation = candidate.generation ∧ r.contentHash = candidate.contentHash := by
  cases h with
  | quiet h => exact .inl (h.work hw)
  | begun work h =>
    obtain rfl : work = .activation candidate r := by simpa using hw
    exact .inr h
  | staged => simp [stage] at hw

theorem Change.ordered (hc : Change offered c c') (h : Ordered c) (hd : ∀ delta, offered delta → delta.generation ≠ 0) :
    Ordered c' := by
  cases hc with
  | quiet hq => exact hq.ordered h
  | begun work hw =>
    refine ⟨h.candidate, fun snapshot hs => ?_, fun delta hs _ => ?_⟩
    · obtain rfl : work = .snapshot snapshot := by simpa using hs
      exact h.newest hw
    · obtain rfl : work = .delta delta := by simpa using hs
      have hne := hd delta hw.1
      rw [hw.2] at hne ⊢
      grind
  | staged candidate prepared needs hw =>
    have hg : c.Ahead candidate.generation := by
      rcases hw with ⟨snapshot, hw, hg⟩ | ⟨delta, hw, hg⟩
      · rw [hg]
        exact h.snapshot snapshot hw
      · rw [hg]
        exact h.delta delta hw
    exact ⟨fun _ => hg, by simp [stage], by simp [stage]⟩

theorem close_quiet (c : ClientSession) (reason : DisconnectReason) (abortErr : Option Err) :
    Quiet c (c.close reason abortErr).1 := by
  unfold close
  split_ifs
  · exact .refl c
  · exact .refl c
  all_goals exact ⟨rfl, rfl, nofun, .inl rfl⟩

theorem Ordered.of_empty (hb : c.busy = none) (hc : c.hasCandidate = false) : Ordered c :=
  ⟨by simp [hc], by simp [hb], by simp [hb]⟩

end ClientSession

end Paperboat.Connector

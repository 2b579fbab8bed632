import Paperboat.Connector.ClientMoves
import Paperboat.Connector.Agreement
/-!
# Prepared configurations are settled

A configuration the applier has prepared belongs to the apply call that asked
for it, then to the session as its candidate, and is given up by being activated
or aborted. `Held` says that what the session holds has not been aborted, so
nothing is aborted twice, in any run.

The session does not always keep hold of it. `ensureActiveLocked` closes an
expired session and leaves the candidate, and `Close` does nothing for a closed
session: the configuration is never aborted. A `HandleDrain` call whose runtime
fails gives a closed session a live state again; then `Close` can abort a
configuration that was activated just before the session expired, and an offer
can be prepared after `Close`. `Owned` holds as long as no candidate expires and
no drain fails after the close.
-/

namespace Paperboat.Connector

variable {c c' : ClientSession}

open Lib Lib.Custody ClientSession ClientOp

/-- A run so far: how many operations it took, what happened to prepared configurations, and whether `Close` has
returned. A configuration is known by the operation that brought it. -/
structure ClientRun where
  client : Client
  steps : Nat
  events : List (Event Nat)
  closed : Bool

/-- The configuration an operation brings, if any, is called `n`. -/
def ClientOp.numbered (n : Nat) : ClientOp → ClientOp
  | .prepared now o => .prepared now { o with prepared := o.prepared.map fun _ => n }
  | op => op

def ClientOp.isClose : ClientOp → Bool
  | .close .. => true
  | _ => false

namespace ClientRun

variable (rules : PayloadRules)

def new (session : ClientSession) : ClientRun := ⟨.new session, 0, [], false⟩

def next (r : ClientRun) (op : ClientOp) : ClientRun where
  client := r.client.next rules (op.numbered r.steps)
  steps := r.steps + 1
  events := r.events ++ r.client.calls (op.numbered r.steps)
  closed := r.closed || op.isClose && r.client.session.busy.isNone

def timely (r : ClientRun) (op : ClientOp) : Bool :=
  (op.clock.all fun now => !(r.client.session.hasCandidate && r.client.session.expired now)) &&
    match op with
    | .drainStopped answer => !(r.client.session.state == .closed && answer.failed)
    | .close reason _ => validDisconnectReason reason
    | _ => true

end ClientRun

/-! ## Nothing is aborted twice -/

/-- What the session holds has a name that was given before and is not aborted,
and the work on an activation is work on the candidate. -/
structure Held (k : Client) (steps : Nat) (events : List (Event Nat)) : Prop where
  named : ∀ e ∈ events, e.handle < steps
  prepared : ∀ config, k.session.prepared = some config → config < steps ∧ .disposed config ∉ events
  paired : k.session.hasCandidate = k.session.prepared.isSome
  activation : ∀ candidate readiness, k.session.busy = some (.activation candidate readiness) →
    k.session.stillStaged candidate ∧ k.activating = k.session.prepared
  once : DisposedOnce events

variable {rules : PayloadRules} {k k' : Client} {steps : Nat} {events more : List (Event Nat)} {op : ClientOp}
  {success : Bool}

theorem ClientSession.Same.stillStaged (h : Same c c') (candidate : Snapshot) :
    c'.stillStaged candidate = c.stillStaged candidate := by
  simp only [ClientSession.stillStaged, h.hasCandidate, h.candidate]

theorem Held.fresh (h : Held k steps events) : .disposed steps ∉ events ∧ .committed steps ∉ events := by
  refine ⟨fun hm => ?_, fun hm => ?_⟩
  · exact Nat.lt_irrefl _ (h.named _ hm)
  · exact Nat.lt_irrefl _ (h.named _ hm)

theorem Held.named_append (h : Held k steps events) (hm : ∀ e ∈ more, e.handle < steps + 1) :
    ∀ e ∈ events ++ more, e.handle < steps + 1 := by
  intro e he
  rcases List.mem_append.1 he with he | he
  · exact Nat.lt_succ_of_lt (h.named e he)
  · exact hm e he

theorem Held.of_same (h : Held k steps events) (same : Same k.session k'.session)
    (activating : k'.session.busy ≠ none → k'.activating = k.activating) : Held k' (steps + 1) (events ++ []) := by
  refine ⟨h.named_append (by simp), fun config hp => ?_, ?_, fun candidate readiness hw => ?_, by simpa using h.once⟩
  · obtain ⟨hlt, hd⟩ := h.prepared config (same.prepared ▸ hp)
    exact ⟨Nat.lt_succ_of_lt hlt, by simpa using hd⟩
  · rw [same.hasCandidate, same.prepared, h.paired]
  · obtain ⟨hs, ha⟩ := h.activation candidate readiness (same.busy ▸ hw)
    refine ⟨(same.stillStaged candidate).trans hs, ?_⟩
    rw [activating (by simp [hw]), same.prepared, ha]

theorem Held.of_free (h : Held k steps events) (same : Same k.session.free k'.session)
    (hn : ∀ e ∈ more, e.handle < steps + 1) (hd : ∀ config, k.session.prepared = some config → .disposed config ∉ more)
    (ho : DisposedOnce (events ++ more)) : Held k' (steps + 1) (events ++ more) := by
  refine ⟨h.named_append hn, fun config hp => ?_, ?_, fun candidate readiness hw => ?_, ho⟩
  · have hp : k.session.prepared = some config := same.prepared ▸ hp
    obtain ⟨hlt, hm⟩ := h.prepared config hp
    exact ⟨Nat.lt_succ_of_lt hlt, by simp [hm, hd config hp]⟩
  · rw [same.hasCandidate, same.prepared]
    exact h.paired
  · rw [same.busy] at hw
    cases hw

theorem Held.of_empty (h : Held k steps events) (hp : k'.session.prepared = none)
    (hc : k'.session.hasCandidate = false) (hb : k'.session.busy = none) (hn : ∀ e ∈ more, e.handle < steps + 1)
    (ho : DisposedOnce (events ++ more)) : Held k' (steps + 1) (events ++ more) :=
  ⟨h.named_append hn, by simp [hp], by simp [hp, hc], by simp [hb], ho⟩

theorem Held.prepared_named (h : Held k steps events) (make : Nat → Event Nat) (hmake : ∀ n, (make n).handle = n) :
    ∀ e ∈ k.session.prepared.toList.map make, e.handle < steps + 1 := by
  intro e he
  obtain ⟨config, hc, rfl⟩ := List.mem_map.1 he
  rw [hmake]
  exact Nat.lt_succ_of_lt (h.prepared config (Option.mem_toList.1 hc)).1

/-- One operation keeps `Held`. The configuration it brings, if any, is called
by the number of the operation. -/
theorem Held.move (h : Held k steps events) (hm : Client.Move rules k op more success k')
    (hname : ∀ now o config, op = .prepared now o → o.prepared = some config → config = steps) :
    Held k' (steps + 1) (events ++ more) := by
  cases hm with
  | kept kept activating => exact h.of_same kept.toSame activating
  | revived _ same _ _ activating => exact h.of_same same fun _ => activating
  | snapshotBegun | deltaBegun =>
    exact ⟨h.named_append (by simp), fun config hp => ⟨Nat.lt_succ_of_lt (h.prepared config hp).1,
      by simpa using (h.prepared config hp).2⟩, h.paired, by simp, by simpa using h.once⟩
  | activationBegun readiness _ _ staged =>
    refine ⟨h.named_append (by simp), fun config hp => ⟨Nat.lt_succ_of_lt (h.prepared config hp).1,
      by simpa using (h.prepared config hp).2⟩, h.paired, fun candidate readiness hw => ?_, by simpa using h.once⟩
    cases hw
    exact ⟨by simp [stillStaged, staged], rfl⟩
  | discarded kept =>
    rename_i now o
    rcases hp : o.prepared with _ | config
    · exact h.of_free kept.toSame (by simp) (by simp) (by simpa using h.once)
    obtain rfl := hname now o config rfl hp
    refine h.of_free kept.toSame (by simp [Event.handle]) (fun config hc => ?_) ?_
    · simpa using Nat.ne_of_lt (h.prepared config hc).1
    · have ho := (h.once.other (e := .acquired config) (by simp)).dispose (h := config) (by simp [h.fresh.1])
      simpa using ho
  | staged config _ _ returned =>
    obtain rfl := hname _ _ config rfl returned
    refine ⟨h.named_append (by simp [Event.handle]), fun config' hp => ?_, rfl, by simp [stage, free],
      h.once.other (by simp)⟩
    cases hp
    exact ⟨Nat.lt_succ_self _, by simp [h.fresh.1]⟩
  | notActivated candidate readiness _ work =>
    obtain ⟨hs, ha⟩ := h.activation candidate readiness work
    rw [if_pos hs, ha]
    refine h.of_empty rfl rfl rfl (h.prepared_named _ fun _ => rfl) ?_
    rcases hp : k.session.prepared with _ | config
    · simpa using h.once
    · simpa using h.once.dispose (h.prepared config hp).2
  | promoted candidate readiness work =>
    obtain ⟨hs, ha⟩ := h.activation candidate readiness work
    rw [ha]
    refine h.of_empty rfl rfl rfl (h.prepared_named _ fun _ => rfl) ?_
    rcases hp : k.session.prepared with _ | config
    · simpa using h.once
    · simpa using h.once.other (e := .committed config) (by simp)
  | activatedLate candidate readiness _ work kept =>
    obtain ⟨hs, ha⟩ := h.activation candidate readiness work
    rw [ha]
    refine h.of_free kept.toSame (h.prepared_named _ fun _ => rfl) (by simp) ?_
    rcases hp : k.session.prepared with _ | config
    · simpa using h.once
    · simpa using h.once.other (e := .committed config) (by simp)
  | closed free =>
    refine h.of_empty rfl rfl free (h.prepared_named _ fun _ => rfl) ?_
    rcases hp : k.session.prepared with _ | config
    · simpa using h.once
    · simpa using h.once.dispose (h.prepared config hp).2

/-! ## Without an expired candidate everything is settled -/

/-- The session is the owner of what it holds: nothing of it is activated or
left behind in a closed session, and whatever it does not hold is settled. -/
structure Owned (k : Client) (events : List (Event Nat)) : Prop where
  prepared : ∀ config, k.session.prepared = some config → .committed config ∉ events
  kept : CommittedKept events
  accounted : ∀ config, .acquired config ∈ events → k.session.prepared = some config ∨ Settled events config
  closed : k.session.state = .closed → k.session.hasCandidate = false
  opened : k.session.state = .new → k.session.hasCandidate = false ∧ k.session.busy = none

theorem Owned.of_prepared (h : Owned k events) (hp : k'.session.prepared = k.session.prepared)
    (hcommit : ∀ config, k.session.prepared = some config → .committed config ∉ more)
    (hkept : CommittedKept (events ++ more)) (hnew : ∀ config, .acquired config ∈ more → .disposed config ∈ more)
    (closed : k'.session.state = .closed → k'.session.hasCandidate = false)
    (opened : k'.session.state = .new → k'.session.hasCandidate = false ∧ k'.session.busy = none) :
    Owned k' (events ++ more) := by
  refine ⟨fun config hc => ?_, hkept, fun config hc => ?_, closed, opened⟩
  · rw [hp] at hc
    simp [h.prepared config hc, hcommit config hc]
  · rcases List.mem_append.1 hc with hc | hc
    · rw [hp]
      exact (h.accounted config hc).imp_right (·.append more)
    · exact .inr (.inr (List.mem_append_right _ (hnew config hc)))

theorem Owned.settle (h : Owned k events) {make : Nat → Event Nat}
    (hmake : ∀ n, make n = .committed n ∨ make n = .disposed n) (hp : k'.session.prepared = none)
    (hkept : CommittedKept (events ++ k.session.prepared.toList.map make))
    (closed : k'.session.state = .closed → k'.session.hasCandidate = false)
    (opened : k'.session.state = .new → k'.session.hasCandidate = false ∧ k'.session.busy = none) :
    Owned k' (events ++ k.session.prepared.toList.map make) := by
  refine ⟨by simp [hp], hkept, fun config hc => .inr ?_, closed, opened⟩
  rcases List.mem_append.1 hc with hc | hc
  · rcases h.accounted config hc with hs | hs
    · have hm : make config ∈ events ++ k.session.prepared.toList.map make := by simp [hs]
      rcases hmake config with he | he
      · exact .inl (he ▸ hm)
      · exact .inr (he ▸ hm)
    · exact hs.append _
  · obtain ⟨n, -, hn⟩ := List.mem_map.1 hc
    rcases hmake n with he | he <;> simp [he] at hn

theorem ClientSession.Kept.closed_empty {clock : Option Time} (hk : Kept c clock c')
    (h : c.state = .closed → c.hasCandidate = false)
    (ht : ∀ now, clock = some now → c.expired now → c.hasCandidate = false) :
    c'.state = .closed → c'.hasCandidate = false := by
  intro hc
  rw [hk.hasCandidate]
  rcases hk.live hc with hs | ⟨now, hn, he⟩
  · exact h hs
  · exact ht now hn he

theorem Owned.move (hh : Held k steps events) (h : Owned k events) (hm : Client.Move rules k op more success k')
    (hname : ∀ now o config, op = .prepared now o → o.prepared = some config → config = steps)
    (ht : ∀ now, op.clock = some now → k.session.expired now → k.session.hasCandidate = false) :
    Owned k' (events ++ more) := by
  cases hm with
  | kept kept =>
    refine h.of_prepared kept.prepared (by simp) (by simpa using h.kept) (by simp) (kept.closed_empty h.closed ht) fun hs => ?_
    rw [kept.hasCandidate, kept.busy]
    exact h.opened (kept.opened hs)
  | revived _ same opened closed =>
    refine h.of_prepared same.prepared (by simp) (by simpa using h.kept) (by simp) (fun hs => ?_) fun hs => ?_
    · rw [same.hasCandidate]
      exact h.closed (closed hs)
    · rw [same.hasCandidate, same.busy]
      exact h.opened (opened hs)
  | snapshotBegun _ opened | deltaBegun _ opened | activationBegun _ _ opened =>
    exact h.of_prepared rfl (by simp) (by simpa using h.kept) (by simp) h.closed fun hs => absurd hs opened
  | discarded kept =>
    rename_i now o
    have hopened : k'.session.state = .new → k'.session.hasCandidate = false ∧ k'.session.busy = none := by
      intro hs
      rw [kept.hasCandidate, kept.busy]
      exact ⟨(h.opened (kept.opened hs)).1, rfl⟩
    refine h.of_prepared kept.prepared (by simp) ?_ (by simp) (kept.closed_empty h.closed ht) hopened
    rcases hp : o.prepared with _ | config
    · simpa using h.kept
    obtain rfl := hname now o config rfl hp
    have hk := (h.kept.other (e := .acquired config) (by simp)).dispose (h := config) (by simp [hh.fresh.2])
    simpa using hk
  | staged config _ _ returned _ room =>
    obtain rfl := hname _ _ config rfl returned
    -- nothing was held before, so what was brought earlier is settled
    have hnone : k.session.prepared = none := by
      simpa [hh.paired] using room
    refine ⟨fun config' hp => ?_, h.kept.other (by simp), fun config' hc => ?_, by simp [stage], by simp [stage]⟩
    · cases hp
      simp [hh.fresh.2]
    · rcases List.mem_append.1 hc with hc | hc
      · rcases h.accounted config' hc with hs | hs
        · simp [hnone] at hs
        · exact .inr (hs.append _)
      · obtain rfl : config' = config := by simpa using hc
        exact .inl rfl
  | notActivated candidate readiness _ work =>
    obtain ⟨hs, ha⟩ := hh.activation candidate readiness work
    have hr := restoreState_state { k.session.free with
      candidate := .empty, hasCandidate := false, prepared := none, needsSnapshot := true }
    rw [if_pos hs, ha]
    refine h.settle (fun _ => .inr rfl) rfl ?_ (fun _ => rfl) fun hn => absurd hn hr.1
    rcases hp : k.session.prepared with _ | config
    · simpa using h.kept
    · simpa using h.kept.dispose (h.prepared config hp)
  | promoted candidate readiness work =>
    obtain ⟨hs, ha⟩ := hh.activation candidate readiness work
    rw [ha]
    refine h.settle (fun _ => .inl rfl) rfl ?_ (fun _ => rfl) (by simp [promote])
    rcases hp : k.session.prepared with _ | config
    · simpa using h.kept
    · simpa using h.kept.other (e := .committed config) (by simp)
  | activatedLate candidate readiness succeeded work _ late =>
    obtain ⟨hs, ha⟩ := hh.activation candidate readiness work
    have hc : k.session.hasCandidate := by
      simp only [stillStaged, Bool.and_eq_true] at hs
      exact hs.1.1
    -- the session was live, so the candidate had expired
    have hlive : k.session.state ≠ .closed := fun hx => by simp [h.closed hx] at hc
    have ho : k.session.state ≠ .new := fun hx => by simp [(h.opened hx).1] at hc
    have he := ht _ (by simp [clock, succeeded]) (late hlive ho hs)
    simp [he] at hc
  | closed =>
    refine h.settle (fun _ => .inr rfl) rfl ?_ (fun _ => rfl) (by simp [closeWith])
    rcases hp : k.session.prepared with _ | config
    · simpa using h.kept
    · simpa using h.kept.dispose (h.prepared config hp)

theorem Owned.stays_closed (hh : Held k steps events) (h : Owned k events)
    (hm : Client.Move rules k op more success k') (hs : k.session.state = .closed)
    (ht : ∀ answer, op = .drainStopped answer → answer.failed = false) : k'.session.state = .closed := by
  cases hm with
  | kept kept | discarded kept | activatedLate _ _ _ _ kept => exact kept.closed hs
  | revived failed => simp [ht _ rfl] at failed
  | snapshotBegun | deltaBegun | activationBegun => exact hs
  | staged _ _ _ _ _ _ live | promoted _ _ _ live | closed _ _ live => exact absurd hs live
  | notActivated candidate readiness _ work =>
    have hc := (hh.activation candidate readiness work).1
    simp [stillStaged, h.closed hs] at hc

/-! ## Runs -/

namespace ClientRun

variable {n : Nat} {hello : Hello} {c : ClientSession} {now : Time} {r : ClientRun}

theorem numbered_prepared {o : PrepareOutcome} {config : Nat}
    (h : op.numbered n = .prepared now o) (hp : o.prepared = some config) : config = n := by
  cases op <;> simp only [numbered, reduceCtorEq, prepared.injEq] at h
  obtain ⟨rfl, rfl⟩ := h
  simp only [Option.map_eq_some_iff] at hp
  obtain ⟨-, -, rfl⟩ := hp
  rfl

theorem clock_numbered (op : ClientOp) (n : Nat) : (op.numbered n).clock = op.clock := by
  cases op <;> rfl

theorem numbered_drainStopped {answer : DrainerAnswer} (h : op.numbered n = .drainStopped answer) :
    op = .drainStopped answer := by
  cases op <;> simp_all [numbered]

theorem next_held (rules : PayloadRules) (h : Held r.client r.steps r.events) (op : ClientOp) :
    Held (r.next rules op).client (r.next rules op).steps (r.next rules op).events :=
  h.move (Client.step_move rules r.client _) fun _ _ _ => numbered_prepared

theorem close_closes (k : Client) {reason : DisconnectReason} (hv : validDisconnectReason reason)
    (hb : k.session.busy = none) (abortErr : Option Err) :
    (k.next rules (.close reason abortErr)).session.state = .closed := by
  simp only [Client.next, Client.step, Client.locked, hb, Option.isSome_none, Bool.false_eq_true, if_false,
    Prod.map_fst, id, ClientSession.close, hv, Bool.not_true]
  split
  · assumption
  · rfl

structure Inv (r : ClientRun) : Prop where
  held : Held r.client r.steps r.events
  owned : Owned r.client r.events
  closed : r.closed → r.client.session.state = .closed

theorem next_inv (rules : PayloadRules) (h : r.Inv) (ht : r.timely op) : (r.next rules op).Inv := by
  have hm := Client.step_move rules r.client (op.numbered r.steps)
  refine ⟨next_held rules h.held op, ?_, fun hc => ?_⟩
  · refine h.owned.move h.held hm (fun _ _ _ => numbered_prepared) fun now hn => ?_
    rw [clock_numbered] at hn
    intro he
    simp only [timely, hn, Option.all_some, Bool.and_eq_true] at ht
    simpa [he] using ht.1
  · simp only [next, Bool.or_eq_true, Bool.and_eq_true, Option.isNone_iff_eq_none] at hc
    rcases hc with hc | ⟨hc, hb⟩
    · -- only the failure of a drain takes a closed session back
      refine h.owned.stays_closed h.held hm (h.closed hc) fun answer ha => ?_
      rw [numbered_drainStopped ha] at ht
      simpa [timely, clock, h.closed hc] using ht
    · cases op <;> simp only [isClose, Bool.false_eq_true] at hc
      exact close_closes r.client ht hb _

theorem new_held (h : newClientSession hello now = .ok c) : Held (new c).client (new c).steps (new c).events := by
  unfold newClientSession at h
  split at h
  · cases h
  · cases h
    exact ⟨by simp [new], by simp [new, Client.new], rfl, by simp [new, Client.new], .nil⟩

theorem new_inv (h : newClientSession hello now = .ok c) : (new c).Inv := by
  refine ⟨new_held h, ?_, by simp [new]⟩
  obtain ⟨hb, hc, -⟩ := new_empty h
  have hp : c.prepared = none := by
    have hpair := (new_held h).paired
    simpa [new, Client.new, hc] using hpair
  exact ⟨by simp [new, Client.new, hp], .nil, by simp [new], fun _ => hc, fun _ => ⟨hc, hb⟩⟩

end ClientRun

/-- A prepared configuration is aborted at most once. As long as no operation finds a candidate expired, no drain
fails on a closed session and `Close` is given a known reason, none is aborted after its activation, and none is left
after `Close`. -/
theorem prepared_configs_settled {hello : Hello} {now : Time} {c : ClientSession}
    (h : newClientSession hello now = .ok c) (ops : List ClientOp) :
    let r := run (ClientRun.next rules) (.new c) ops
    DisposedOnce r.events ∧ (EachStep (ClientRun.next rules) (fun r op => r.timely op) (.new c) ops →
        CommittedKept r.events ∧
          (r.closed → ∀ config, .acquired config ∈ r.events → Settled r.events config)) := by
  refine ⟨?_, fun hs => ?_⟩
  · exact (run_inv' (I := fun r : ClientRun => Held r.client r.steps r.events)
      (fun _ op hi => ClientRun.next_held rules hi op) (ClientRun.new_held h) ops).once
  · have hi := run_inv (I := ClientRun.Inv) (fun _ _ hi ht => ClientRun.next_inv rules hi ht) (ClientRun.new_inv h) hs
    refine ⟨hi.owned.kept, fun hc config ha => ?_⟩
    rcases hi.owned.accounted config ha with hp | hp
    · -- a closed session holds nothing
      have hn := hi.held.paired
      rw [hi.owned.closed (hi.closed hc), hp] at hn
      cases hn
    · exact hp

namespace Sample

def applied : PrepareOutcome := ⟨some 0, none, none, none, none⟩

def staging : List ClientOp :=
  [.acceptWelcome now now welcome, .applySnapshot now none (bound (snapshot 1)), .prepared now applied]

def expiring : List ClientOp := staging ++ [.checkLease (now.add defaultLease), .close .serverShutdown none]

def drainRequest : Drain :=
  ⟨"account_1", "tunnel_1", "connector_1", "session_1", 1, "drain_1", 1, (snapshot 1).contentHash,
    now.add Duration.minute, true, false⟩

def drainedLate : List ClientOp :=
  staging ++ [.markReady now none true true true, .activated now ⟨none, none, none⟩, .handleDrain now none drainRequest,
    .applySnapshot now none (bound (snapshot 2)), .prepared now applied, .markReady now none true true true,
    .activated (now.add defaultLease) ⟨none, none, none⟩, .drainStopped ⟨some (.text "runtime unavailable"), .ok 0⟩,
    .close .serverShutdown none]

theorem client_new : newClientSession hello now = .ok client := by decide +kernel

end Sample

open Sample

/-- A staged configuration whose session expires is left after `Close`, and one activated as the session expired is
aborted by `Close` when a drain has failed in between. -/
theorem prepared_config_leaked : newClientSession Sample.hello Sample.now = .ok client ∧
      (let r := run (ClientRun.next Sample.rules) (.new client) expiring
      r.closed ∧ ∃ config, .acquired config ∈ r.events ∧ ¬Settled r.events config) ∧
      ¬CommittedKept (run (ClientRun.next Sample.rules) (.new client) drainedLate).events := by
  refine ⟨client_new, ⟨by decide +kernel, 2, ?_⟩, ?_⟩
  · have he : (run (ClientRun.next Sample.rules) (.new client) expiring).events = [.acquired 2] := by
      decide +kernel
    rw [he]
    simp [Settled]
  · have he : (run (ClientRun.next Sample.rules) (.new client) drainedLate).events =
        [.acquired 2, .committed 2, .acquired 7, .committed 7, .disposed 7] := by
      decide +kernel
    rw [he]
    simp [CommittedKept]

/-- A staged configuration is aborted by `Close` while the lease runs. -/
theorem prepared_configs_settled_closed :
    let r := run (ClientRun.next Sample.rules) (.new client) (staging ++ [.close .serverShutdown none])
    r.closed ∧ .acquired 2 ∈ r.events ∧ Settled r.events 2 := by
  have hs : EachStep (ClientRun.next Sample.rules) (fun r op => r.timely op) (.new client)
      (staging ++ [.close .serverShutdown none]) := by decide +kernel
  have hr : (run (ClientRun.next Sample.rules) (.new client)
      (staging ++ [.close .serverShutdown none])).closed ∧
      .acquired 2 ∈ (run (ClientRun.next Sample.rules) (.new client)
        (staging ++ [.close .serverShutdown none])).events := by decide +kernel
  exact ⟨hr.1, hr.2, ((prepared_configs_settled client_new _).2 hs).2 hr.1 2 hr.2⟩

end Paperboat.Connector

import Mathlib.Data.List.Sort
import Paperboat.Lib.Table
import Paperboat.Tunnel.Records
/-!
# Edge distributions

`tunnel_certificate_edge_distributions` has a row for each process of each edge
that a certificate was sent to, with the generation of the assignment it was sent
under. The two statements that write it answer with no row when its state or
its generations forbid the change.
-/

namespace Paperboat.Tunnel

open Lib Table

inductive EdgeState where
  | staged | ready | active | retired | revoked | failed
  deriving DecidableEq

def EdgeState.live : EdgeState → Bool
  | .staged | .ready | .active | .failed => true
  | .retired | .revoked => false

structure EdgeRow where
  (certificateID nodeID processEpoch : String)
  assignmentGeneration : Nat
  state : EdgeState
  observedGeneration : Nat
  updatedAt : Time

namespace EdgeRow

def key (r : EdgeRow) : String × String × String := (r.certificateID, r.nodeID, r.processEpoch)

def target (r : EdgeRow) : EdgeTarget := ⟨r.nodeID, r.processEpoch, r.assignmentGeneration⟩

/-- What staging makes of a row that is there; `active` stays. -/
def restage (r : EdgeRow) (target : EdgeTarget) (certificateGeneration : Nat) (now : Time) : EdgeRow :=
  { r with
    assignmentGeneration := target.generation
    state := if r.state = .active then .active else .staged
    observedGeneration := certificateGeneration
    updatedAt := now.stored }

/-- What a report makes of a row: neither `ready` nor `failed` takes `active` away. -/
def mark (r : EdgeRow) (state : EdgeState) (now : Time) : EdgeRow :=
  { r with
    state := if (state = .ready ∨ state = .failed) ∧ r.state = .active then .active else state
    updatedAt := now.stored }

theorem restage_key (target : EdgeTarget) (certificateGeneration : Nat) (now : Time) (r : EdgeRow) :
    (r.restage target certificateGeneration now).key = r.key := rfl

theorem mark_key (state : EdgeState) (now : Time) (r : EdgeRow) : (r.mark state now).key = r.key := rfl

end EdgeRow

def EdgeState.follows : (state before : EdgeState) → Bool
  | .ready, before | .failed, before => before == .staged || before == .ready || before == .active
  | .active, before => before == .ready || before == .active
  | .retired, before => before != .revoked
  | .revoked, _ => true
  | .staged, _ => false

abbrev EdgeTable := Table EdgeRow.key

namespace EdgeTable

def keyOf (certificateID : String) (target : EdgeTarget) : String × String × String :=
  (certificateID, target.nodeID, target.processEpoch)

def outranked (t : EdgeTable) (certificateID : String) (target : EdgeTarget) : Bool :=
  t.rows.any fun r => r.certificateID = certificateID ∧ r.nodeID = target.nodeID ∧
    r.processEpoch ≠ target.processEpoch ∧ target.generation ≤ r.assignmentGeneration

/-- `StageTunnelCertificateEdgeV1` -/
def stage (t : EdgeTable) (platform : Bool) (certificateID : String) (target : EdgeTarget)
    (certificateGeneration : Nat) (now : Time) : Option EdgeTable :=
  if !platform && t.outranked certificateID target then none
  else
    match t.find (keyOf certificateID target) with
    | none =>
      t.insert ⟨certificateID, target.nodeID, target.processEpoch, target.generation, .staged, certificateGeneration, now.stored⟩
    | some r =>
      if r.state.live ∧ r.assignmentGeneration ≤ target.generation then
        some (t.update (·.key == keyOf certificateID target) (·.restage target certificateGeneration now)
          (EdgeRow.restage_key _ _ _))
      else none

/-- `MarkTunnelCertificateEdgeStateV1` -/
def mark (t : EdgeTable) (certificateID : String) (target : EdgeTarget) (certificateGeneration : Nat)
    (state : EdgeState) (now : Time) : Option EdgeTable :=
  match t.find (keyOf certificateID target) with
  | none => none
  | some r =>
    if r.assignmentGeneration = target.generation ∧ r.observedGeneration = certificateGeneration ∧
        state.follows r.state = true then
      some (t.update (·.key == keyOf certificateID target) (·.mark state now) (EdgeRow.mark_key _ _))
    else none

/-! ## What the statements leave -/

section Statements
variable {t t' : EdgeTable} {platform : Bool} {certificateID : String} {target : EdgeTarget}
  {certificateGeneration : Nat} {state : EdgeState} {now : Time}

def accepts (t : EdgeTable) (platform : Bool) (certificateID : String) (target : EdgeTarget) : Bool :=
  (platform || !t.outranked certificateID target) &&
    (t.find (keyOf certificateID target)).all fun r => r.state.live && r.assignmentGeneration ≤ target.generation

def stagedRow (t : EdgeTable) (certificateID : String) (target : EdgeTarget) (certificateGeneration : Nat) (now : Time) :
    EdgeRow :=
  match t.find (keyOf certificateID target) with
  | none => ⟨certificateID, target.nodeID, target.processEpoch, target.generation, .staged, certificateGeneration, now.stored⟩
  | some r => r.restage target certificateGeneration now

theorem stagedRow_key : (t.stagedRow certificateID target certificateGeneration now).key = keyOf certificateID target := by
  unfold stagedRow
  split
  · rfl
  · next r hr => exact (find_eq_some (t := t) (k := keyOf certificateID target) (r := r)).1 hr |>.2

theorem stage_spec (t : EdgeTable) (platform : Bool) (certificateID : String) (target : EdgeTarget)
    (certificateGeneration : Nat) (now : Time) : if t.accepts platform certificateID target then
      ∃ t', t.stage platform certificateID target certificateGeneration now = some t' ∧
        ∀ k, t'.find k = if k = keyOf certificateID target then
          some (t.stagedRow certificateID target certificateGeneration now) else t.find k
    else t.stage platform certificateID target certificateGeneration now = none := by
  unfold accepts stage stagedRow
  cases ho : (!platform && t.outranked certificateID target) with
  | true =>
    have hn : (platform || !t.outranked certificateID target) = false := by
      cases platform <;> simp_all
    simp [hn]
  | false =>
    have hn : (platform || !t.outranked certificateID target) := by
      cases platform <;> simp_all
    simp only [hn, Bool.true_and, Bool.false_eq_true, if_false]
    cases hf : t.find (keyOf certificateID target) with
    | none =>
      obtain ⟨t', ht'⟩ := insert_of_find_none (t := t) (r := ⟨certificateID, target.nodeID, target.processEpoch,
        target.generation, .staged, certificateGeneration, now.stored⟩) hf
      exact ⟨t', ht', find_insert ht'⟩
    | some r =>
      by_cases hr : r.state.live ∧ r.assignmentGeneration ≤ target.generation
      · simp only [Option.all_some, hr.1, hr.2, decide_true, Bool.and_self, if_true, and_self]
        exact ⟨_, rfl, find_update_key hf fun _ => beq_iff_eq⟩
      · have hb : (r.state.live && decide (r.assignmentGeneration ≤ target.generation)) = false := by
          simpa using hr
        simp [Option.all_some, hb, hr]

theorem mark_spec {r : EdgeRow} (hr : t.find (keyOf certificateID target) = some r) (htg : r.target = target)
    (hgen : r.observedGeneration = certificateGeneration) (hst : state.follows r.state) :
    ∃ t', t.mark certificateID target certificateGeneration state now = some t' ∧
      ∀ k, t'.find k = if k = keyOf certificateID target then some (r.mark state now) else t.find k := by
  have hassignment : r.assignmentGeneration = target.generation := congrArg EdgeTarget.generation htg
  simp only [mark, hr, hassignment, hgen, hst, and_self, if_true]
  exact ⟨_, rfl, find_update_key hr fun _ => beq_iff_eq⟩

theorem mark_eq_some (h : t.mark certificateID target certificateGeneration state now = some t') :
    ∃ r, t.find (keyOf certificateID target) = some r ∧ r.target = target ∧
      r.observedGeneration = certificateGeneration ∧ state.follows r.state ∧
      ∀ k, t'.find k = if k = keyOf certificateID target then some (r.mark state now) else t.find k := by
  have hmark := h
  unfold mark at hmark
  split at hmark
  · cases hmark
  next r hr =>
  split_ifs at hmark with hg
  have hkey := (find_eq_some.1 hr).2
  have hn : r.nodeID = target.nodeID := congrArg (·.2.1) hkey
  have hep : r.processEpoch = target.processEpoch := congrArg (·.2.2) hkey
  have htg : r.target = target := by
    rw [EdgeRow.target, hn, hep, hg.1]
  obtain ⟨t'', (h'' : t.mark _ _ _ _ now = _), hfind⟩ := mark_spec hr htg hg.2.1 hg.2.2
  obtain rfl := Option.some.inj (h.symm.trans h'')
  exact ⟨r, hr, htg, hg.2.1, hg.2.2, hfind⟩

end Statements

/-- `ListTunnelCertificateEdgesV1`; the order is that of the keys. -/
def list (t : EdgeTable) (certificateID : String) : List EdgeRow :=
  (t.rows.filter (·.certificateID == certificateID)).insertionSort fun a b =>
    a.nodeID < b.nodeID ∨ a.nodeID = b.nodeID ∧ a.processEpoch ≤ b.processEpoch

end EdgeTable

end Paperboat.Tunnel

import Paperboat.Lib.Table
/-!
# Operations on terminal sessions

The close or the delete of a terminal session is queued as an operation that the
helper on the machine acknowledges. What is pending for a session is taken from
one batch, the 32 oldest operations of the whole machine, and nothing behind it
is looked at: an operation that waits there is reported applied. A pass over all
sessions goes on until nothing is pending.
-/

namespace Paperboat.Machines

open Lib List Table

/-- Ids of sessions come from `newID` and are not empty, so the loop over the batches ends after the first. -/
abbrev SessionID := { id : String // id ≠ "" }

inductive Operation where
  | close | deleteHistory
  deriving DecidableEq

structure OperationRow where
  (id machineID : String)
  session : SessionID
  operation : Operation
  pending : Bool
  attempts : Nat
  deriving DecidableEq

structure Answer where
  /-- Signer, runtime, route and issuer are there, and the credential is signed. -/
  signed : Bool
  /-- The state that the helper reports. -/
  observed : Option String
  (runtimeMarked marked retried : Bool)

def Answer.acknowledges (a : Answer) (operation : Operation) : Bool :=
  a.signed && a.observed.any fun state => operation != .close || state == "closed"

structure Env where
  listed : Bool
  answers : String → Answer

/-- The rows in the order of `created_at`. -/
abbrev Operations := Table OperationRow.id

namespace Operations

section Code
variable (t : Operations) (machineID : String) (session : SessionID) (env : Env)

def waiting : List OperationRow := t.rows.filter fun o => o.machineID == machineID && o.pending

def setPending (id : String) (change : OperationRow → OperationRow) (keeps : ∀ o, (change o).id = o.id) : Operations :=
  t.update (fun o => o.id == id && o.pending) change keeps

/-- The cause is returned whatever the statement does. -/
def retryTerminalSessionOperation (a : Answer) (id : String) : Operations × Bool :=
  (if a.retried then t.setPending id (fun o => { o with attempts := o.attempts + 1 }) fun _ => rfl else t, false)

def applyTerminalSessionOperation (a : Answer) (o : OperationRow) : Operations × Bool :=
  if a.acknowledges o.operation && (o.operation != .close || a.runtimeMarked) then
    if a.marked then (t.setPending o.id (fun o => { o with pending := false }) fun _ => rfl, true) else (t, false)
  else t.retryTerminalSessionOperation a o.id

def applyEach : List OperationRow → Operations → Operations × Bool
  | [], t => (t, true)
  | o :: rest, t =>
    match t.applyTerminalSessionOperation (env.answers o.id) o with
    | (t, true) => applyEach rest t
    | r => r

def applyTerminalSessionOperationsForSession : Operations × Bool :=
  if env.listed then applyEach env (((t.waiting machineID).take 32).filter (·.session = session)) t else (t, false)

variable (operation : Operation) (newID : String) (changed : Option Bool)

def queued : Bool := t.rows.any fun o => o.session == session && o.operation == operation && o.pending

/-- `QueueUserMachineTerminalSessionOperation` -/
def queue : Option Operations :=
  if t.queued session operation then some t else t.insert ⟨newID, machineID, session, operation, true, 0⟩

/-- The transaction of `transitionTerminalSession`, where the statements on the row of the session fail or say whether
they have `changed` it. -/
def transition : Option Operations :=
  changed.bind fun n => if n then t.queue machineID session operation newID else some t

/-- `CloseTerminalSession` and `DeleteTerminalSession`. -/
def transitionTerminalSession : Operations × Bool :=
  match t.transition machineID session operation newID changed with
  | none => (t, false)
  | some t => t.applyTerminalSessionOperationsForSession machineID session env

/-- Whether `ConnectTerminalSession` issues credentials, if it comes to that. -/
def connectTerminalSession (ready : Bool) : Operations × Bool :=
  if ready then t.applyTerminalSessionOperationsForSession machineID session env else (t, false)

def Applied (t' : Operations) : Prop :=
  (∀ o ∈ t'.waiting machineID, o.session ≠ session) ∧
    ∀ o ∈ t.waiting machineID, o.session = session → (env.answers o.id).acknowledges o.operation

def Early : Prop := ∀ o ∈ t.waiting machineID, o.session = session → (t.waiting machineID).idxOf o < 32

end Code

variable {t t' : Operations} {machineID : String} {session : SessionID} {env : Env} {o : OperationRow}
  {items : List OperationRow}

theorem mem_waiting : o ∈ t.waiting machineID ↔ o ∈ t.rows ∧ o.machineID = machineID ∧ o.pending := by
  simp [waiting]

theorem applyEach_true (h : (applyEach env items t).2) :
    (∀ i ∈ items, (env.answers i.id).acknowledges i.operation) ∧
      ∀ o ∈ (applyEach env items t).1.rows, o.pending → o ∈ t.rows ∧ ∀ i ∈ items, i.id ≠ o.id := by
  induction items generalizing t with
  | nil => exact ⟨by simp, fun o ho _ => ⟨ho, by simp⟩⟩
  | cons i rest ih =>
    unfold applyEach at h ⊢
    cases hap : t.applyTerminalSessionOperation (env.answers i.id) i with
    | mk t1 ok =>
    rw [hap] at h
    cases ok with
    | false => cases h
    | true =>
    obtain ⟨hack, hrows⟩ := ih h
    unfold applyTerminalSessionOperation at hap
    split_ifs at hap with hok hm
    · cases hap
      rw [Bool.and_eq_true] at hok
      refine ⟨forall_mem_cons.2 ⟨hok.1, hack⟩, fun o ho hp => ?_⟩
      obtain ⟨ho, hne⟩ := hrows o ho hp
      rcases mem_update.1 ho with ⟨r, -, -, rfl⟩ | ⟨ho, hsel⟩
      · cases hp
      · refine ⟨ho, forall_mem_cons.2 ⟨fun he => ?_, hne⟩⟩
        simp [hp, he] at hsel
    · cases hap
    · cases hap

def answering : Env := ⟨true, fun _ => ⟨true, some "closed", true, true, true⟩⟩

theorem applyEach_answering (items : List OperationRow) (t : Operations) : (applyEach answering items t).2 ∧
    ∀ o ∈ t.rows, (∀ i ∈ items, i.id ≠ o.id) → o ∈ (applyEach answering items t).1.rows := by
  induction items generalizing t with
  | nil => exact ⟨rfl, fun o ho _ => ho⟩
  | cons i rest ih =>
    have hap : t.applyTerminalSessionOperation (answering.answers i.id) i =
        (t.setPending i.id (fun o => { o with pending := false }) fun _ => rfl, true) := by
      simp [applyTerminalSessionOperation, answering, Answer.acknowledges]
    simp only [applyEach, hap]
    refine ⟨(ih _).1, fun o ho hne => (ih _).2 o (mem_update.2 (.inr ⟨ho, ?_⟩)) fun j hj => hne j (mem_cons_of_mem _ hj)⟩
    simp [(hne i mem_cons_self).symm]

theorem applied_iff_early : (∀ env, (t.applyTerminalSessionOperationsForSession machineID session env).2 →
      t.Applied machineID session env (t.applyTerminalSessionOperationsForSession machineID session env).1) ↔
    t.Early machineID session := by
  have hmem {o : OperationRow} (ho : o ∈ t.waiting machineID) (hs : o.session = session) :
      o ∈ ((t.waiting machineID).take 32).filter (·.session = session) ↔ (t.waiting machineID).idxOf o < 32 := by
    simp [hs, mem_take_iff_idxOf_lt ho]
  unfold applyTerminalSessionOperationsForSession
  constructor
  · intro h o ho hs
    by_contra hlate
    obtain ⟨hok, hkept⟩ := applyEach_answering (((t.waiting machineID).take 32).filter (·.session = session)) t
    have hrow := mem_waiting.1 ho
    -- The helper answers, and yet the operation stays as it is.
    refine (h answering hok).1 o (mem_waiting.2 ⟨hkept o hrow.1 fun i hi he => hlate ?_, hrow.2⟩) hs
    have hi' := mem_of_mem_take (mem_of_mem_filter hi)
    obtain rfl := eq_of_key (mem_waiting.1 hi').1 hrow.1 he
    exact (hmem ho hs).1 hi
  · intro h env hok
    split_ifs at hok ⊢ with hl
    obtain ⟨hack, hrows⟩ := applyEach_true hok
    refine ⟨fun o ho hs => ?_, fun o ho hs => hack o ((hmem ho hs).2 (h o ho hs))⟩
    obtain ⟨ho, hm, hp⟩ := mem_waiting.1 ho
    obtain ⟨ho, hne⟩ := hrows o ho hp
    have hw := mem_waiting.2 ⟨ho, hm, hp⟩
    exact hne o ((hmem hw hs).2 (h o hw hs)) rfl

theorem early_insert (hm : o.machineID = machineID) (hs : o.session = session) (hp : o.pending) (h : t.insert o = some t') :
    t'.Early machineID session ↔ (t.waiting machineID).length < 32 := by
  obtain ⟨hnew, hrows⟩ := insert_eq_some.1 h
  have hw : t'.waiting machineID = t.waiting machineID ++ [o] := by
    simp [waiting, hrows, hm, hp]
  have hnot : o ∉ t.waiting machineID := fun ho => hnew o (mem_waiting.1 ho).1 rfl
  unfold Early
  rw [hw]
  constructor
  · intro hearly
    have hlast := hearly o (by simp) hs
    rwa [idxOf_append_of_notMem hnot, idxOf_cons_self] at hlast
  · intro hlen r hr _
    have := idxOf_lt_length_of_mem hr
    simp only [length_append, length_singleton] at this
    omega

/-- What is reported applied was applied exactly if it is among the 32 operations of the machine that have waited longest:
what a call adds is, if fewer than 32 wait. -/
theorem reported_iff_early (t : Operations) (machineID : String) (session : SessionID) :
    ((∀ env, (t.applyTerminalSessionOperationsForSession machineID session env).2 →
        t.Applied machineID session env (t.applyTerminalSessionOperationsForSession machineID session env).1) ↔
      t.Early machineID session) ∧
    (∀ operation newID changed t', t.transition machineID session operation newID changed = some t' →
      ((∀ env, (t.transitionTerminalSession machineID session env operation newID changed).2 →
          t'.Applied machineID session env (t.transitionTerminalSession machineID session env operation newID changed).1) ↔
        if changed = some true ∧ ¬t.queued session operation then (t.waiting machineID).length < 32
        else t.Early machineID session)) ∧
    ((∀ env ready, (t.connectTerminalSession machineID session env ready).2 →
        t.Applied machineID session env (t.connectTerminalSession machineID session env ready).1) ↔
      t.Early machineID session) := by
  refine ⟨applied_iff_early, fun operation newID changed t' h => ?_, ?_⟩
  · simp only [transitionTerminalSession, h, applied_iff_early]
    obtain ⟨n, rfl, hq⟩ := Option.bind_eq_some_iff.1 h
    cases n with
    | false =>
      cases hq
      simp
    | true =>
      rw [if_pos rfl, queue] at hq
      split_ifs at hq with hpd
      · cases hq
        simp [hpd]
      · simpa [hpd] using early_insert rfl rfl rfl hq
  · rw [← applied_iff_early]
    refine ⟨fun h env => h env true, fun h env ready hok => ?_⟩
    cases ready with
    | true => exact h env hok
    | false => cases hok

/-! ## All sessions of a machine -/

/-- `ApplyTerminalSessionOperations`: batch after batch until none is left, here `n` times around at most. -/
def applyTerminalSessionOperations (machineID : String) (env : Nat → Env) : Nat → Operations → Option (Operations × Bool)
  | 0, _ => none
  | n + 1, t =>
    if (env n).listed then
      if t.waiting machineID = [] then some (t, true)
      else
        match applyEach (env n) ((t.waiting machineID).take 32) t with
        | (t, true) => applyTerminalSessionOperations machineID env n t
        | r => some r
    else some (t, false)

theorem mem_applyEach (env : Env) (ho : o ∈ t.rows) (hne : ∀ i ∈ items, i.id ≠ o.id) : o ∈ (applyEach env items t).1.rows := by
  induction items generalizing t with
  | nil => exact ho
  | cons i rest ih =>
    obtain ⟨hi, hrest⟩ := forall_mem_cons.1 hne
    have hap : o ∈ (t.applyTerminalSessionOperation (env.answers i.id) i).1.rows := by
      have hset (change) (keeps) : o ∈ (t.setPending i.id change keeps).rows := mem_update.2 (.inr ⟨ho, by simp [hi.symm]⟩)
      unfold applyTerminalSessionOperation retryTerminalSessionOperation
      split_ifs <;> first | exact ho | exact hset _ (by simp)
    unfold applyEach
    split
    · rename_i t1 he
      rw [he] at hap
      exact ih hap hrest
    · exact hap

theorem waiting_applied (h : applyEach env ((t.waiting machineID).take 32) t = (t', true)) :
    t'.waiting machineID ⊆ (t.waiting machineID).drop 32 := by
  intro o ho
  obtain ⟨ho, hm, hp⟩ := mem_waiting.1 ho
  have hrows := (applyEach_true (congrArg Prod.snd h)).2
  rw [h] at hrows
  obtain ⟨ho, hne⟩ := hrows o ho hp
  have hw := mem_waiting.2 ⟨ho, hm, hp⟩
  rw [← take_append_drop 32 (t.waiting machineID), mem_append] at hw
  exact hw.resolve_left fun hb => hne o hb rfl

/-- Each time around fewer operations wait, so a pass ends; if it reports no error, all that waited were acknowledged. -/
theorem pass_applies_all (env : Nat → Env) (n : Nat) (t : Operations) (machineID : String)
    (h : (t.waiting machineID).length < n) :
    ∃ t' ok, applyTerminalSessionOperations machineID env n t = some (t', ok) ∧ (ok → t'.waiting machineID = [] ∧
      ∀ o ∈ t.waiting machineID, ∃ k < n, ((env k).answers o.id).acknowledges o.operation) := by
  induction n generalizing t with
  | zero => cases h
  | succ n ih =>
    unfold applyTerminalSessionOperations
    split_ifs with hl hw
    · exact ⟨t, true, rfl, fun _ => ⟨hw, by simp [hw]⟩⟩
    · cases hap : applyEach (env n) ((t.waiting machineID).take 32) t with
      | mk t1 ok =>
      cases ok with
      | false => exact ⟨t1, false, rfl, nofun⟩
      | true =>
      have hle : (t1.waiting machineID).length ≤ _ :=
        (subperm_of_subset (t1.keys.of_map.filter _) (waiting_applied hap)).length_le
      rw [length_drop] at hle
      have hpos := length_pos_iff.2 hw
      obtain ⟨t', ok, hrun, hdone⟩ := ih t1 (by omega)
      refine ⟨t', ok, hrun, fun hok => ⟨(hdone hok).1, fun o ho => ?_⟩⟩
      -- An operation of this batch is acknowledged now, any other one still waits.
      by_cases hb : o ∈ (t.waiting machineID).take 32
      · exact ⟨n, n.lt_succ_self, (applyEach_true (congrArg Prod.snd hap)).1 o hb⟩
      have hrow := mem_waiting.1 ho
      have hkept := mem_applyEach (env n) hrow.1 fun i hi he =>
        hb (eq_of_key (mem_waiting.1 (mem_of_mem_take hi)).1 hrow.1 he ▸ hi)
      rw [hap] at hkept
      obtain ⟨k, hk, hack⟩ := (hdone hok).2 o (mem_waiting.2 ⟨hkept, hrow.2⟩)
      exact ⟨k, hk.trans n.lt_succ_self, hack⟩
    · exact ⟨t, false, rfl, nofun⟩

end Operations

namespace Sample

def other (i : Nat) : SessionID := ⟨"umts_" ++ toString i, by simp⟩

/-- Sixteen sessions that were closed and then deleted, within the limit of twenty, while the helper was away. -/
def backlog : Operations where
  rows := (range 16).flatMap fun i => [⟨"umtso_" ++ toString (2 * i), "um_1", other i, .close, true, 0⟩,
    ⟨"umtso_" ++ toString (2 * i + 1), "um_1", other i, .deleteHistory, true, 0⟩]
  keys := by decide +kernel

theorem pass_applies_backlog :
    ∃ r, Operations.applyTerminalSessionOperations "um_1" (fun _ => Operations.answering) 33 backlog = some r := by
  obtain ⟨t, ok, h, -⟩ := Operations.pass_applies_all (fun _ => Operations.answering) 33 backlog "um_1" (by decide +kernel)
  exact ⟨(t, ok), h⟩

theorem close_reported_behind_backlog :
    (backlog.transitionTerminalSession "um_1" (other 16) Operations.answering .close "umtso_32" (some true)).2 ∧
    ∃ o ∈ (backlog.transitionTerminalSession "um_1" (other 16) Operations.answering .close "umtso_32" (some true)).1.rows,
      o.session = other 16 ∧ o.pending := by
  decide +kernel

end Sample

end Paperboat.Machines

import Paperboat.Connector.RotationStore
/-!
# Who may acknowledge a revocation

After a restart the coordinator expects the acknowledgement of a revocation from
the session in the row's revoke columns; the store accepts it only from the
session in the replacement columns. Both name the session that reported ready
until `RebindCredentialRotationRevoke` moves the revocation to a newer one. From
then on the two never agree again: the process generation of the revocation only
grows, and the one of the replacement stays.
-/

namespace Paperboat.Connector

variable {rules : RotationRules} {row row' : SQLRotationTarget} {rec : RotationResumeTarget}

open Lib SQLRotationTarget RotationTable CredentialRotationRevoke List

/-! ## Calls -/

inductive RotationCall where
  | ready (now : Time) (ready : CredentialRotationReady) (answers : RotationReadyAnswers)
  | revoke (now : Time) (revoke : CredentialRotationRevoke) (answers : RotationAnswers)
  | rebind (call : RebindCall)
  | result (now : Time) (ack : CredentialRotationAck) (summary : RotationSummary) (answers : RotationResultAnswers)

namespace RotationTable

variable (rules : RotationRules) (db : Database)

def transact (table : RotationTable) : RotationCall → Except Err RotationTable
  | .ready now ready answers => table.recordCredentialRotationReady rules db now ready answers
  | .revoke now revoke answers => table.recordCredentialRotationRevoke db now revoke answers
  | .rebind call => table.rebindCredentialRotationRevoke rules db call
  | .result now ack summary answers => table.recordCredentialRotationResult db now ack summary answers

def next (table : RotationTable) (call : RotationCall) : RotationTable :=
  match table.transact rules db call with
  | .ok table' => table'
  | .error _ => table

def rebinds (key : String × String) (table : RotationTable) : RotationCall → Bool
  | .rebind call => call.key.primary == key && (table.rebindCredentialRotationRevoke rules db call).isOk
  | _ => false

end RotationTable

/-! ## Generations in the database -/

theorem rotationUint_toInt64 {g : UInt64} (h : 0 < g.toInt64) : rotationUint (some g.toInt64) = g := by
  have hn : ¬g.toInt64 ≤ 0 := by
    intro hle
    exact absurd h (Int64.not_lt.2 hle)
  simp [rotationUint, hn]

theorem rotationUint_stored {column : Option Int64} {g : UInt64} (h : rotationUint column = g) (hg : g ≠ 0) :
    rotationUint (some g.toInt64) = g := by
  subst h
  cases column with
  | none => exact absurd rfl hg
  | some n =>
    by_cases hn : n ≤ 0
    · simp [rotationUint, hn] at hg
    · simp [rotationUint, hn]

/-! ## What a call does to a row -/

structure SQLRotationTarget.Original (row : SQLRotationTarget) : Prop where
  session : rotationString row.revokeSessionID = rotationString row.replacementSessionID
  process : rotationUint row.revokeProcessGeneration = rotationUint row.replacementProcessGeneration

inductive Advance (row : SQLRotationTarget) : SQLRotationTarget → Prop
  | kept : Advance row row
  | readied {row' : SQLRotationTarget} (state : row.state = .installed) (state' : row'.state = .ready) : Advance row row'
  | revoking {row' : SQLRotationTarget} (state : row.state = .ready) (original : row'.Original) : Advance row row'
  | ended {row' : SQLRotationTarget} (state' : row'.state = .revoked ∨ row'.state = .failed) : Advance row row'

structure Rebound (row row' : SQLRotationTarget) : Prop where
  state : row.state = .revoking
  state' : row'.state = .revoking
  replacement : row'.replacementProcessGeneration = row.replacementProcessGeneration
  newer : rotationUint row.revokeProcessGeneration < rotationUint row'.revokeProcessGeneration

namespace RotationTable

variable {key : RotationKey} {err : Option Err} {now : Time}

variable {db : Database} {table table' : RotationTable}

theorem loadRotationTarget_ok {row : SQLRotationTarget}
    (h : table.loadRotationTarget key err = .ok row) : table.find key.primary = some row ∧ row.toRotationKey = key := by
  unfold loadRotationTarget at h
  split at h
  · cases h
  · cases h
  rename_i hf
  cases h
  simpa [Option.filter_eq_some_iff] using hf

theorem updateTarget_ok {selected : SQLRotationTarget → Bool}
    {change : SQLRotationTarget → SQLRotationTarget} {keeps : ∀ row, (change row).primaryKey = row.primaryKey}
    (h : table.updateTarget key selected change keeps err = .ok table') :
    (∃ row, table.find key.primary = some row ∧ selected row ∧ (change row).allowed = true ∧
      table'.find key.primary = some (change row)) ∧ ∀ k ≠ key.primary, table'.find k = table.find k := by
  simp only [updateTarget, bind_eq_ok, failWith_eq_ok, refuseIf_eq_ok] at h
  obtain ⟨-, -, -, hal, -, hone, h⟩ := h
  cases h
  have hprimary {row : SQLRotationTarget} (hk : row.toRotationKey = key) : row.primaryKey = key.primary :=
    congrArg RotationKey.primary hk
  constructor
  · obtain ⟨row, hrow, hchosen⟩ : ∃ row ∈ table.rows, (row.toRotationKey == key && selected row) := by
      rw [← countP_pos_iff]
      simp only [bne_eq_false_iff_eq] at hone
      omega
    have hc := hchosen
    rw [Bool.and_eq_true, beq_iff_eq] at hc
    have hfind : table.find key.primary = some row := Table.find_eq_some.2 ⟨hrow, hprimary hc.1⟩
    refine ⟨row, hfind, hc.2, ?_, ?_⟩
    · rw [any_eq_false] at hal
      simpa [hchosen] using hal row hrow
    · rw [Table.find_update, hfind, Option.map_some, if_pos hchosen]
  · intro k hk
    rw [Table.find_update]
    cases hf : table.find k with
    | none => rfl
    | some row =>
      have hne : (row.toRotationKey == key && selected row) = false := by
        rw [Bool.and_eq_false_iff]
        left
        rw [beq_eq_false_iff_ne]
        intro he
        exact hk (((Table.find_eq_some.1 hf).2).symm.trans (hprimary he))
      simp only [Option.map_some, hne, Bool.false_eq_true, if_false]

/-- The row of `key` goes over to another one as `P` says, and no other changes. -/
def Changes (P : SQLRotationTarget → SQLRotationTarget → Prop) (key : String × String) (table table' : RotationTable) : Prop :=
  (∃ row row', table.find key = some row ∧ table'.find key = some row' ∧ P row row') ∧
    ∀ k ≠ key, table'.find k = table.find k

theorem updateTarget_changes {P : SQLRotationTarget → SQLRotationTarget → Prop}
    {selected : SQLRotationTarget → Bool} {change : SQLRotationTarget → SQLRotationTarget}
    {keeps : ∀ row, (change row).primaryKey = row.primaryKey}
    (h : table.updateTarget key selected change keeps err = .ok table')
    (hP : ∀ row, table.find key.primary = some row → selected row → (change row).allowed = true → P row (change row)) :
    Changes P key.primary table table' := by
  obtain ⟨⟨row, hfind, hs, ha, hfind'⟩, hoth⟩ := updateTarget_ok h
  exact ⟨⟨row, change row, hfind, hfind', hP row hfind hs ha⟩, hoth⟩

theorem ready_changes {ready : CredentialRotationReady} {answers : RotationReadyAnswers}
    (h : table.recordCredentialRotationReady rules db now ready answers = .ok table') :
    Changes Advance ready.key.primary table table' := by
  simp only [recordCredentialRotationReady, bind_eq_ok] at h
  obtain ⟨-, -, -, -, -, -, -, -, -, -, -, -, storedHash, -, -, -, -, -, -, -, t', hu, -, -, -, -, -, -, -, -, h⟩ := h
  cases h
  refine updateTarget_changes hu fun row _ hs _ => ?_
  exact .readied (beq_iff_eq.1 hs) rfl

theorem revoke_changes {revoke : CredentialRotationRevoke} {answers : RotationAnswers}
    (h : table.recordCredentialRotationRevoke db now revoke answers = .ok table') :
    table' = table ∨ Changes Advance revoke.key.primary table table' := by
  simp only [recordCredentialRotationRevoke, bind_eq_ok, failWith_eq_ok, refuseIf_eq_ok] at h
  obtain ⟨-, hv, row, hload, item, -, -, hr, h⟩ := h
  split at h
  · simp only [bind_eq_ok] at h
    obtain ⟨-, -, -, -, h⟩ := h
    exact .inl (Except.ok.inj h).symm
  · simp only [bind_eq_ok] at h
    obtain ⟨-, -, -, -, -, -, t', hu, -, -, -, -, h⟩ := h
    cases h
    refine .inr (updateTarget_changes hu fun row' hfind hs _ => ?_)
    obtain rfl := Option.some.inj ((loadRotationTarget_ok hload).1.symm.trans hfind)
    simp only [revocableBy, Bool.not_eq_false', Bool.and_eq_true, beq_iff_eq] at hr
    have hpos : revoke.processGeneration ≠ 0 := by
      have hok := (validate_zero hv).2
      simp only [RotationEnvelope.ok, Bool.and_eq_true, bne_iff_ne] at hok
      tauto
    refine .revoking (beq_iff_eq.1 hs) ⟨hr.1.2.symm, ?_⟩
    show rotationUint (some revoke.processGeneration.toInt64) = rotationUint row.replacementProcessGeneration
    rw [rotationUint_stored hr.2 hpos, hr.2]

theorem rebind_changes {call : RebindCall} (h : table.rebindCredentialRotationRevoke rules db call = .ok table') :
    Changes Rebound call.key.primary table table' := by
  simp only [rebindCredentialRotationRevoke, bind_eq_ok, refuseIf_eq_ok] at h
  obtain ⟨-, -, row, hload, -, -, -, hstale, -, -, t', hu, -, -, -, -, h⟩ := h
  cases h
  refine updateTarget_changes hu fun row' hfind hs ha => ?_
  obtain rfl := Option.some.inj ((loadRotationTarget_ok hload).1.symm.trans hfind)
  rw [Bool.and_eq_true, beq_iff_eq] at hs
  simp only [Bool.or_eq_false_iff, decide_eq_false_iff_not, UInt64.not_le] at hstale
  have hpos : 0 < call.ref.processGeneration.toInt64 := by
    simp only [allowed, bindRevoke, RebindCall.revoke, Option.all_some,
      Bool.and_eq_true, decide_eq_true_eq] at ha
    tauto
  refine ⟨hs.1, hs.1, rfl, ?_⟩
  show _ < rotationUint (some call.ref.processGeneration.toInt64)
  rw [rotationUint_toInt64 hpos]
  exact hstale.2

theorem result_changes {ack : CredentialRotationAck} {summary : RotationSummary}
    {answers : RotationResultAnswers} (h : table.recordCredentialRotationResult db now ack summary answers = .ok table') :
    table' = table ∨ Changes Advance ack.key.primary table table' := by
  simp only [recordCredentialRotationResult, bind_eq_ok] at h
  obtain ⟨-, -, -, -, row, hload, item, -, -, -, -, -, h⟩ := h
  split at h
  · simp only [bind_eq_ok] at h
    obtain ⟨-, -, h⟩ := h
    exact .inl (Except.ok.inj h).symm
  · split at h
    · simp only [bind_eq_ok] at h
      obtain ⟨-, -, t', hu, -, -, -, -, -, -, h⟩ := h
      cases h
      exact .inr (updateTarget_changes hu fun row _ _ _ => .ended (.inr rfl))
    · simp only [bind_eq_ok] at h
      obtain ⟨-, -, -, -, t', hu, -, -, -, -, -, -, -, -, h⟩ := h
      cases h
      exact .inr (updateTarget_changes hu fun row _ _ _ => .ended (.inl rfl))

variable {key k : String × String} {P : SQLRotationTarget → SQLRotationTarget → Prop}

theorem Changes.find_row (h : Changes P k table table') (hf : table.find key = some row) :
    ∃ row', table'.find key = some row' ∧ ((k = key ∧ P row row') ∨ (k ≠ key ∧ row' = row)) := by
  obtain ⟨⟨row1, row2, h1, h2, hp⟩, hoth⟩ := h
  by_cases he : k = key
  · subst he
    obtain rfl := Option.some.inj (h1.symm.trans hf)
    exact ⟨row2, h2, .inl ⟨rfl, hp⟩⟩
  · exact ⟨row, by rw [hoth key (Ne.symm he), hf], .inr ⟨he, rfl⟩⟩

theorem next_advance {call : RotationCall}
    (h : ∀ table', table.transact rules db call = .ok table' → table' = table ∨ Changes Advance k table table')
    (hf : table.find key = some row) : ∃ row', (table.next rules db call).find key = some row' ∧ Advance row row' := by
  unfold next
  split
  · rename_i table' hok
    rcases h table' hok with rfl | hc
    · exact ⟨row, hf, .kept⟩
    obtain ⟨row', hf', ⟨-, ha⟩ | ⟨-, rfl⟩⟩ := hc.find_row hf
    · exact ⟨row', hf', ha⟩
    · exact ⟨row', hf', .kept⟩
  · exact ⟨row, hf, .kept⟩

variable (rules db) in
theorem next_row (hf : table.find key = some row) (call : RotationCall) :
    ∃ row', (table.next rules db call).find key = some row' ∧
      (if table.rebinds rules db key call = true then Rebound row row' else Advance row row') := by
  cases call with
  | ready => exact next_advance (fun _ hok => .inr (ready_changes hok)) hf
  | revoke => exact next_advance (fun _ hok => revoke_changes hok) hf
  | result => exact next_advance (fun _ hok => result_changes hok) hf
  | rebind call =>
    unfold next
    split
    · rename_i table' hok
      have hok : table.rebindCredentialRotationRevoke rules db call = .ok table' := hok
      obtain ⟨row', hf', ⟨hk, hr⟩ | ⟨hk, rfl⟩⟩ := (rebind_changes hok).find_row hf
      · refine ⟨row', hf', ?_⟩
        rwa [if_pos (by simp [rebinds, hk, hok, Except.isOk, Except.toBool])]
      · refine ⟨row', hf', ?_⟩
        rw [if_neg (by simp [rebinds, hk])]
        exact .kept
    · rename_i err hok
      have hok : table.rebindCredentialRotationRevoke rules db call = .error err := hok
      refine ⟨row, hf, ?_⟩
      rw [if_neg (by simp [rebinds, hok, Except.isOk, Except.toBool])]
      exact .kept

end RotationTable

/-! ## Invariants of a row -/

theorem Advance.whileRevoking {P : SQLRotationTarget → Prop} (hP : ∀ row : SQLRotationTarget, row.Original → P row)
    (h : Advance row row') (hi : row.state = .revoking → P row) : row'.state = .revoking → P row' := by
  intro hs
  cases h with
  | kept => exact hi hs
  | readied _ state' => simp [state'] at hs
  | revoking _ original => exact hP _ original
  | ended state' => rcases state' with h | h <;> simp [h] at hs

def SQLRotationTarget.Bounded (row : SQLRotationTarget) : Prop :=
  row.state = .revoking → rotationUint row.replacementProcessGeneration ≤ rotationUint row.revokeProcessGeneration

theorem Advance.bounded (h : Advance row row') (hi : row.Bounded) : row'.Bounded :=
  h.whileRevoking (fun _ original => UInt64.le_of_eq original.process.symm) hi

def SQLRotationTarget.Moved (row : SQLRotationTarget) : Prop :=
  (row.state = .revoking ∧ rotationUint row.replacementProcessGeneration < rotationUint row.revokeProcessGeneration) ∨
    row.state = .revoked ∨ row.state = .failed

theorem Rebound.moved (h : Rebound row row') (hi : row.Bounded) : row'.Moved := by
  refine .inl ⟨h.state', ?_⟩
  rw [h.replacement]
  exact UInt64.lt_of_le_of_lt (hi h.state) h.newer

theorem Advance.moved (h : Advance row row') (hi : row.Moved) : row'.Moved := by
  cases h with
  | kept => exact hi
  | readied state | revoking state =>
    rcases hi with ⟨hs, -⟩ | hs | hs <;> simp [state] at hs
  | ended state' => exact .inr state'

theorem SQLRotationTarget.Moved.newer (h : row.Moved) (hs : row.state = .revoking) :
    rotationUint row.replacementProcessGeneration < rotationUint row.revokeProcessGeneration := by
  rcases h with ⟨-, hlt⟩ | h | h
  · exact hlt
  · simp [h] at hs
  · simp [h] at hs

theorem SQLRotationTarget.Moved.bounded (h : row.Moved) : row.Bounded := fun hs => UInt64.le_of_lt (h.newer hs)

/-! ## Runs -/

namespace RotationTable

variable {db : Database} {table : RotationTable} {key : String × String} {row₀ : SQLRotationTarget}
  {calls : List RotationCall}

theorem run_original (hf₀ : table.find key = some row₀) (hs₀ : row₀.state ≠ .revoking)
    (h : EachStep (next rules db) (fun t call => t.rebinds rules db key call = false) table calls)
    (hf : (run (next rules db) table calls).find key = some row) (hs : row.state = .revoking) : row.Original := by
  let I (t : RotationTable) : Prop := ∃ row, t.find key = some row ∧ (row.state = .revoking → row.Original)
  have hstep : ∀ t call, I t → t.rebinds rules db key call = false → I (t.next rules db call) := by
    rintro t call ⟨row, hf, hi⟩ hn
    obtain ⟨row', hf', hr⟩ := next_row rules db hf call
    rw [if_neg (by simp [hn])] at hr
    exact ⟨row', hf', hr.whileRevoking (fun _ h => h) hi⟩
  obtain ⟨row', hf', hi⟩ : I (run (next rules db) table calls) := run_inv hstep ⟨row₀, hf₀, fun h => absurd h hs₀⟩ h
  rw [hf] at hf'
  cases hf'
  exact hi hs

variable (rules db calls) in
theorem run_row {I : SQLRotationTarget → Prop} (hadvance : ∀ {row row'}, Advance row row' → I row → I row')
    (hrebound : ∀ {row row'}, Rebound row row' → I row → I row') (hf₀ : table.find key = some row₀) (hi0 : I row₀) :
    ∃ row, (run (next rules db) table calls).find key = some row ∧ I row := by
  refine run_inv' (I := fun t : RotationTable => ∃ row, t.find key = some row ∧ I row) ?_ ⟨row₀, hf₀, hi0⟩ calls
  rintro t call ⟨row, hf, hi⟩
  obtain ⟨row', hf', hr⟩ := next_row rules db hf call
  split_ifs at hr
  · exact ⟨row', hf', hrebound hr hi⟩
  · exact ⟨row', hf', hadvance hr hi⟩

theorem run_rebound (hf₀ : table.find key = some row₀) (hs₀ : row₀.state ≠ .revoking)
    (h : ¬EachStep (next rules db) (fun t call => t.rebinds rules db key call = false) table calls)
    (hf : (run (next rules db) table calls).find key = some row) (hs : row.state = .revoking) :
    rotationUint row.replacementProcessGeneration < rotationUint row.revokeProcessGeneration := by
  obtain ⟨pre, call, post, rfl, hr⟩ := exists_of_not_eachStep h
  obtain ⟨row1, hf1, hb⟩ := run_row rules db pre (I := SQLRotationTarget.Bounded) Advance.bounded
    (fun hr hi => (hr.moved hi).bounded) hf₀ fun h => absurd h hs₀
  obtain ⟨row2, hf2, hm⟩ := next_row rules db hf1 call
  rw [if_pos (by simpa using hr)] at hm
  obtain ⟨row3, hf3, hmv⟩ := run_row rules db post Advance.moved (fun hr hi => hr.moved hi.bounded) hf2 (hm.moved hb)
  rw [run_append, run_cons, hf3] at hf
  cases hf
  exact hmv.newer hs

end RotationTable

/-! ## What a resumed coordinator expects -/

theorem rotationResumeTarget_ok {row : SQLRotationTarget} (h : rotationResumeTarget rules row = .ok rec) :
    rec.target.connectorID = row.connectorID ∧ rec.state = row.state ∧
      (row.state = .revoking → rec.revoke = row.revoke rec.target) := by
  simp only [rotationResumeTarget, bind_eq_ok] at h
  obtain ⟨item, hitem, challenge, -, h⟩ := h
  cases h
  refine ⟨?_, rfl, fun hs => ?_⟩
  · unfold target at hitem
    split at hitem
    · cases hitem
    dsimp only at hitem
    split at hitem
    · cases hitem
    · cases hitem
      rfl
  · simp [hasRevoke, hs]

theorem RotationTable.loadCredentialRotation_ok {table : RotationTable} {plan : RotationPlan}
    {operation : Answer OperationRow} {rowsErr commitErr : Option Err} {loaded : RotationResume} {t : RotationTarget}
    (h : table.loadCredentialRotation rules plan operation rowsErr commitErr = .ok loaded) (ht : t ∈ plan.targets) :
    ∃ row rec, table.find (plan.key t.connectorID).primary = some row ∧ rotationResumeTarget rules row = .ok rec ∧
      rec.target = t ∧ rec ∈ loaded.targets := by
  simp only [loadCredentialRotation, bind_eq_ok] at h
  obtain ⟨-, -, op, -, -, -, resumed, hresumed, -, -, targets, htargets, -, -, h⟩ := h
  cases h
  obtain ⟨rec, hrec, hpick⟩ := (mapM_ok htargets).1 t ht
  unfold pickTarget at hpick
  split at hpick
  · cases hpick
  rename_i rec' hfind
  split_ifs at hpick with htg
  cases hpick
  obtain ⟨row, hrow, hok⟩ := (mapM_ok hresumed).2 rec (mem_of_find?_eq_some hfind)
  simp only [bind_eq_ok] at hok
  obtain ⟨-, -, hok⟩ := hok
  simp only [RotationTable.operation, mem_filter, Bool.and_eq_true, beq_iff_eq] at hrow
  refine ⟨row, rec, Table.find_eq_some.2 ⟨hrow.1, ?_⟩, hok, htg, hrec⟩
  have hid := (rotationResumeTarget_ok hok).1
  rw [htg] at hid
  rw [primaryKey, RotationKey.primary, hrow.2.1.1, ← hid]
  rfl

theorem validateRotationResumeTarget_revoking {plan : RotationPlan}
    (h : validateRotationResumeTarget rules plan rec = none) (hs : rec.state = .revoking) :
    rec.revokePresent ∧ rec.revoke.recoverable plan rec.target rec.ready := by
  rw [validateRotationResumeTarget, Option.or_eq_none_iff] at h
  have h := h.2
  split_ifs at h with _ _ _ _ _ _ _ _ hrv hph
  have hpresent : rec.revokePresent := by
    simpa [RotationResumeTarget.phaseMatches, hs] using hph
  exact ⟨hpresent, by simpa [hpresent] using hrv⟩

namespace RotationCoordinator

variable {c c₀ : RotationCoordinator rules} {loaded : RotationResume} {clock : Time}

theorem scanRecovered_ok {seen : List String} {recs : List RotationResumeTarget} (h : c₀.scanRecovered seen recs = none) :
    (∀ rec ∈ recs, validateRotationResumeTarget rules c₀.plan rec = none ∧ rec.target.connectorID ∉ seen) ∧
      (recs.map fun rec => rec.target.connectorID).Nodup := by
  induction recs generalizing seen with
  | nil => simp
  | cons _ _ ih =>
    unfold scanRecovered at h
    split_ifs at h with hseen hck
    obtain ⟨hrest, hn⟩ := ih h
    rw [contains_eq_mem, decide_eq_true_eq] at hseen
    simp only [Bool.or_eq_true, not_or, Option.isSome_iff_ne_none, not_not] at hck
    refine ⟨fun rec' hmem => ?_, ?_⟩
    · rcases mem_cons.1 hmem with rfl | hmem
      · exact ⟨hck.2, hseen⟩
      · obtain ⟨hv, hns⟩ := hrest rec' hmem
        exact ⟨hv, fun hm => hns (mem_cons_of_mem _ hm)⟩
    · rw [map_cons, nodup_cons]
      refine ⟨fun hm => ?_, hn⟩
      obtain ⟨rec', hmem, he⟩ := mem_map.1 hm
      exact (hrest rec' hmem).2 (by rw [he]; exact mem_cons_self)

theorem resume_ok (hfr : c₀.started = false) (h : c₀.resume none (some (.ok loaded)) clock = (c, none)) :
    c.plan = c₀.plan ∧ ∀ rec ∈ loaded.targets,
      validateRotationResumeTarget rules c₀.plan rec = none ∧ c.record rec.target.connectorID = rec.record := by
  simp only [resume, hfr] at h
  split at h
  · simp at h
  split at h
  · rename_i hst
    cases hst
  split at h
  · simp at h
  split at h
  · simp at h
  · simp at h
  rename_i hsc _
  obtain ⟨hck, hn⟩ := scanRecovered_ok hsc
  obtain ⟨hplan, hrec⟩ := @restore_all rules loaded.targets c₀ hn
  obtain rfl := (Prod.mk.inj h).1
  exact ⟨hplan, fun rec hmem => ⟨(hck rec hmem).1, hrec rec hmem⟩⟩

/-- `HandleAck` hands an acknowledgement of a revocation to the store exactly if it comes from the session the
revocation was sent to. -/
theorem handleAck_revoked {ack : CredentialRotationAck} {storeErr : Option Err} (hs : ack.status = .revoked) :
    (c.handleAck none ack clock storeErr).2.1 ≠ none ↔
      ack.validate = none ∧ ∃ t, c.plan.target ack.connectorID = some t ∧ c.ackMatches t ack ∧
        (c.record ack.connectorID).state = .revoking ∧
        addresses ack (c.record ack.connectorID).revoke.toRotationEnvelope := by
  unfold handleAck
  cases hv : ack.validate with
  | some => simp
  | none =>
    cases ht : c.plan.target ack.connectorID with
    | none => simp
    | some t =>
      simp only [hs, Option.some.injEq, exists_eq_left', true_and]
      by_cases hm : c.ackMatches t ack
      · rw [if_neg (by simp [hm])]
        by_cases hlive : (c.record ack.connectorID).state = .revoked ∨ (c.record ack.connectorID).state = .failed
        · rcases hlive with hl | hl <;> simp [hl]
        split_ifs with haddr
        · unfold recordRevoked
          cases storeErr <;> simp [hm, haddr]
        · simpa [hm] using haddr
      · simp [hm]

theorem handleAck_expected {t : RotationTarget} (clock : Time) (storeErr : Option Err)
    (ht : t ∈ c.plan.targets) (htg : rec.target = t) (hck : validateRotationResumeTarget rules c.plan rec = none)
    (hrec : c.record t.connectorID = rec.record) (hs : rec.state = .revoking) :
    (c.handleAck none (ackOf rec.revoke.toRotationEnvelope .revoked .empty) clock storeErr).2.1 ≠ none ∧
      rec.revoke.connectorID = t.connectorID := by
  obtain ⟨-, hv⟩ := validateRotationResumeTarget_revoking hck hs
  rw [htg] at hv
  simp only [recoverable, RotationEnvelope.belongs, RotationEnvelope.rotates, Bool.and_eq_true,
    Option.isNone_iff_eq_none, beq_iff_eq] at hv
  have hok := (validate_zero hv.1.1.1).2
  have hid : rec.revoke.connectorID = t.connectorID := by tauto
  refine ⟨?_, hid⟩
  have hfind : c.plan.target rec.revoke.connectorID = some t := by
    rw [hid]
    exact (RotationPlan.target_eq c.plan_ok).2 ht
  rw [handleAck_revoked rfl]
  refine ⟨by simp [CredentialRotationAck.validate, ackOf, hok], t, hfind, ?_, ?_, ?_⟩
  · simp only [ackMatches, ackOf, Bool.and_eq_true, beq_iff_eq]
    tauto
  · show (c.record rec.revoke.connectorID).state = .revoking
    rwa [hid, hrec]
  · show addresses _ (c.record rec.revoke.connectorID).revoke.toRotationEnvelope = true
    rw [hid, hrec]
    simp [addresses, ackOf, RotationResumeTarget.record]

end RotationCoordinator

/-- A row becomes revoking, and a coordinator resumes from the table. Every acknowledgement of the revocation that it
hands to the store is from the session the store accepts it from, if and only if no rebinding of the row was
committed. -/
theorem revoked_ack_accepted_iff {rules : RotationRules} {db : Database} {table₀ : RotationTable} {plan : RotationPlan}
    {t : RotationTarget} (ht : t ∈ plan.targets) {row₀ row : SQLRotationTarget}
    (hf₀ : table₀.find (plan.key t.connectorID).primary = some row₀) (hs₀ : row₀.state ≠ .revoking)
    (calls : List RotationCall)
    (hf : (run (next rules db) table₀ calls).find (plan.key t.connectorID).primary = some row)
    (hs : row.state = .revoking) {c₀ c : RotationCoordinator rules} (hnew : newRotationCoordinator rules plan = .ok c₀)
    {operation : Answer OperationRow} {loaded : RotationResume}
    (hload : (run (next rules db) table₀ calls).loadCredentialRotation rules plan operation none none = .ok loaded)
    {clock : Time} (hresume : c₀.resume none (some (.ok loaded)) clock = (c, none)) :
    (∀ ack now storeErr, ack.connectorID = t.connectorID → ack.status = .revoked →
      (c.handleAck none ack now storeErr).2.1 ≠ none → row.acknowledgedBy ack) ↔
    EachStep (next rules db)
      (fun table call => table.rebinds rules db (plan.key t.connectorID).primary call = false) table₀ calls := by
  -- the coordinator's record of the target is the recovered row
  obtain ⟨hplan₀, hfresh⟩ : c₀.plan = plan ∧ c₀.started = false := by
    unfold newRotationCoordinator at hnew
    split at hnew
    · cases hnew
      exact ⟨rfl, rfl⟩
    · cases hnew
  obtain ⟨row', rec, hf', hrec, htarget, hmem⟩ := loadCredentialRotation_ok hload ht
  obtain rfl := Option.some.inj (hf.symm.trans hf')
  obtain ⟨hplan, hrecords⟩ := RotationCoordinator.resume_ok hfresh hresume
  obtain ⟨hcheck, hrecord⟩ := hrecords rec hmem
  obtain ⟨-, hstate, hrevoke⟩ := rotationResumeTarget_ok hrec
  have hrevoke := hrevoke hs
  rw [htarget] at hrecord hrevoke
  have htc : t ∈ c.plan.targets := by rwa [hplan, hplan₀]
  constructor
  · intro hacks
    by_contra hrebound
    have hlt := run_rebound hf₀ hs₀ hrebound hf hs
    obtain ⟨hhanded, hid⟩ := RotationCoordinator.handleAck_expected clock none htc htarget
      (by rwa [hplan]) hrecord (hstate.trans hs)
    have hack := hacks _ _ _ hid rfl hhanded
    simp only [acknowledgedBy, RotationCoordinator.ackOf, Bool.and_eq_true, beq_iff_eq, hrevoke,
      revoke, envelope] at hack
    rw [hack.2] at hlt
    exact UInt64.lt_irrefl _ hlt
  · intro hquiet ack now storeErr hid hrevoked hhanded
    have horig := run_original hf₀ hs₀ hquiet hf hs
    obtain ⟨-, -, -, -, -, haddr⟩ := (RotationCoordinator.handleAck_revoked hrevoked).1 hhanded
    rw [hid, hrecord] at haddr
    simp only [RotationCoordinator.addresses, RotationResumeTarget.record, hrevoke, revoke,
      envelope, Bool.and_eq_true, beq_iff_eq] at haddr
    rw [acknowledgedBy, haddr.1, haddr.2, horig.session, horig.process]
    simp

/-! ## A rotation that is resumed while revoking -/

namespace Sample

def installedRow : SQLRotationTarget where
  operationID := "operation_1"
  accountID := "account_1"
  tunnelID := "tunnel_1"
  connectorID := "connector_1"
  hostID := "host_1"
  targetSetHash := rotationPlan.targetSetHash
  oldGeneration := 1
  newGeneration := 2
  state := .installed
  oldIdentityKeyID := some ("ed25519:" ++ oldThumbprint)
  oldIdentityKeyThumbprint := some oldThumbprint
  challengeNonce := some "challenge_0123456"
  challengeIssuedAt := some now
  challengeExpiresAt := some (later 5)
  overlapUntil := some (later 10)
  newCredentialValidUntil := some (later 100)
  proofSessionID := some "session_1"
  proofProcessGeneration := some 1
  newIdentityKeyID := some ("ed25519:" ++ thumbprint)
  newIdentityKeyThumbprint := some thumbprint
  newPublicKey := some (List.replicate 32 0)
  newCredentialReference := some "keychain://paperboat/connector"
  replacementSessionID := none
  replacementProcessGeneration := none
  configGeneration := none
  configContentHash := none
  edgeReady := none
  routeReady := none
  originReady := none
  readyAt := none
  revokeNonce := none
  revokeSessionID := none
  revokeProcessGeneration := none
  revokeIssuedAt := none
  revokeDeadline := none
  revokedAt := none
  failureCode := none

def rotationTable : RotationTable := ⟨[installedRow], by simp⟩

def noErrors : RotationAnswers := ⟨none, none, none, none, none⟩

def revokeCalls : List RotationCall :=
  [.ready now (readyReport rotationPlan "1") ⟨none, .ok (some ⟨"account_1", "host_1", "ready", 2, 2⟩), .ok (List.replicate 31 0 ++ [1]),
      .ok 1, .ok 1, none, .ok 1, .ok 1, none, none⟩,
    .revoke now ⟨rotationEnvelope rotationPlan "1" "session_2" 2, "rotation-revoke_0", now, now.add defaultAbortTimeout⟩ noErrors]

def rebindCall : RebindCall where
  now := now
  plan := rotationPlan
  target := rotationTarget
  ref := ⟨"tunnel_1", "connector_1", "session_3", 3⟩
  nonce := "rotation-revoke_1"
  issuedAt := now
  deadline := now.add defaultAbortTimeout
  session := .ok (some ⟨"account_1", "host_1", 2, [capabilityCredentialRotation]⟩)
  answers := noErrors

variable (calls : List RotationCall)

def tableAfter : RotationTable := run (next rotationRules database) rotationTable calls

def rowAfter : SQLRotationTarget :=
  ((tableAfter calls).find (rotationPlan.key rotationTarget.connectorID).primary).getD installedRow

def operationRow : OperationRow :=
  ⟨"account_1", "tunnel_1", "tunnel", "connector.credentials.rotate", "running", none⟩

def loadAfter : Except Err RotationResume :=
  (tableAfter calls).loadCredentialRotation rotationRules rotationPlan (.ok (some operationRow)) none none

def resumeAfter : RotationCoordinator rotationRules × Option Err :=
  rotation.coordinator.resume none (some (loadAfter calls)) now

def revokedAck (sessionID : String) (processGeneration : UInt64) : CredentialRotationAck :=
  ⟨rotationEnvelope rotationPlan "1" sessionID processGeneration, .revoked, .empty, ""⟩

def recordHanded (table : RotationTable) : Option RotationStoreCall → Option Err
  | some (.result ack summary _) =>
    match table.recordCredentialRotationResult database now ack summary
        { noErrors with
          session := .ok (some ⟨"active", "none", "ready", 2, later 1⟩), oldCredential := .ok 1, operationUpdate := .ok 1 } with
    | .error err => some err
    | .ok _ => none
  | _ => none

end Sample

open Sample

/-- The revocation is rebound to a newer session, and the server restarts. The coordinator takes the acknowledgement
from that session only, and the store refuses it, so the target fails. -/
theorem rebound_ack_refused :
    let calls := revokeCalls ++ [.rebind rebindCall]
    let c := (resumeAfter calls).1
    let handed := fun ack => (c.handleAck none ack now none).2.1
    (rowAfter calls).state = .revoking ∧ (resumeAfter calls).2 = none ∧
      handed (revokedAck "session_2" 2) = none ∧ handed (revokedAck "session_3" 3) ≠ none ∧
      (rowAfter calls).acknowledgedBy (revokedAck "session_3" 3) = false ∧
      recordHanded (tableAfter calls) (handed (revokedAck "session_3" 3)) = some .staleProcess ∧
      ((c.handleAck none (revokedAck "session_3" 3) now (some .staleProcess)).1.record "connector_1").state =
        .failed := by
  decide +kernel

theorem revoked_ack_accepted_unmoved : (rowAfter revokeCalls).acknowledgedBy (revokedAck "session_2" 2) := by
  have hrow : rotationTable.find (rotationPlan.key rotationTarget.connectorID).primary = some installedRow ∧
      (tableAfter revokeCalls).find (rotationPlan.key rotationTarget.connectorID).primary =
        some (rowAfter revokeCalls) ∧
      (rowAfter revokeCalls).state = .revoking := by decide +kernel
  have hquiet : EachStep (next rotationRules database) (fun table call =>
      table.rebinds rotationRules database
        (rotationPlan.key rotationTarget.connectorID).primary call = false)
      rotationTable revokeCalls := by simp [revokeCalls, rebinds]
  have hresume : (resumeAfter revokeCalls).2 = none ∧
      ((resumeAfter revokeCalls).1.handleAck none (revokedAck "session_2" 2) now none).2.1 ≠ none := by
    decide +kernel
  rw [resumeAfter] at hresume
  cases hload : loadAfter revokeCalls with
  | error => simp [hload, RotationCoordinator.resume] at hresume
  | ok loaded =>
    rw [hload] at hresume
    generalize hc : rotation.coordinator.resume none (some (.ok loaded)) now = resumed at hresume
    obtain ⟨c, err⟩ := resumed
    obtain ⟨rfl, hhanded⟩ := hresume
    have hmem : rotationTarget ∈ rotationPlan.targets := mem_cons_self
    have hlive : installedRow.state ≠ .revoking := by decide
    have h := revoked_ack_accepted_iff hmem hrow.1 hlive revokeCalls hrow.2.1 hrow.2.2 started_rotation.1
      hload hc
    exact h.2 hquiet _ _ _ rfl rfl hhanded

end Paperboat.Connector

import Paperboat.Tunnel.Readiness
/-!
# The calls of Ensure

Up to the record it stores, `Ensure` reads, asks and takes its lock; what it tells the
edges in one distribution is about one certificate.
-/

namespace Paperboat.Tunnel

variable {p : Cmd → Prop} {act : EdgeTarget → Action Unit}

open Lib Lib.Prog

namespace Cmd

variable {c : Cmd}

/-- Calls of `Ensure` that write no record. -/
def quiet : Cmd → Bool
  | .putStaged _ | .activate .. | .supersedeOlder .. | .supersedeOlderForHostname .. | .markFailed ..
  | .rebindPreviewTarget .. => false
  | _ => true

def about (id : String) : Cmd → Prop
  | .send _ certificateID _ => certificateID = id
  | c => c.quiet

def silent : Cmd → Bool
  | .send .. => false
  | c => c.quiet

theorem quiet_of_about {id : String} (h : c.about id) : c.quiet := by
  cases c <;> first | rfl | exact h

theorem about_of_silent (h : c.silent) (id : String) : c.about id := by
  cases c <;> first | exact h | cases h

end Cmd

theorem records_exec {cfg : Config} {c : Cmd} (h : c.quiet) (x : Choice) (w : World) :
    (exec cfg c x w).2.records = w.records := by
  have hf : (w.failed c).records = w.records := by cases c <;> rfl
  refine exec_keeps (F := fun w' => w'.records = w.records) hf ?_
  cases c with
  | acquire domainID domainGeneration now leaseUntil =>
    change (ite (_ : Prop) _ _ : Except Err Bool × World).2.records = w.records
    split_ifs
    · split
      · rename_i ht
        simp only [Tables.acquire, check_eq_ok, Except.ok.injEq] at ht
        replace ht := ht.2.2
        split at ht
        · obtain ⟨_, -, rfl⟩ := Option.map_eq_some_iff.1 ht
          rfl
        split_ifs at ht
        cases ht
        rfl
      all_goals rfl
    · rfl
  | stageEdge | markEdge =>
    refine World.writeOrConflict_keeps (F := fun w' => w'.records = w.records) rfl fun _ ht => ?_
    obtain ⟨_, -, rfl⟩ := Option.map_eq_some_iff.1 ht
    rfl
  | putStaged | activate | supersedeOlder | supersedeOlderForHostname | markFailed | rebindPreviewTarget => cases h
  | _ => rfl

theorem makes_ite {p : Cmd → Prop} {φ : Prop} [Decidable φ] {m m' : Action α} (h : m.Makes p) (h' : m'.Makes p) :
    (if φ then m else m').Makes p := by
  split_ifs
  · exact h
  · exact h'

/-! ## One certificate on the edges -/

section Edges
variable {cfg : Config} {c : StoredCertificate} (hp : ∀ cmd : Cmd, cmd.about c.id → p cmd)
include hp

theorem makes_removeFrom (action : EdgeAction) (state : EdgeState) (t : EdgeTarget) : (remove cfg action state c t).Makes p := by
  refine .bind (.ofExcept _) fun _ => .bind (.ofExcept _) fun _ => ?_
  exact .bind (.perform (hp _ rfl)) fun _ => .perform (hp _ rfl)

omit hp in
theorem makes_eachTarget (h : ∀ t, (act t).Makes p) (ts : List EdgeTarget) : (eachTarget act ts).Makes p := by
  induction ts with
  | nil => exact .pure _
  | cons t _ ih =>
    refine .bind (h t).attempt fun r => ?_
    cases r with
    | ok => exact ih
    | error => exact .pure _

omit hp in
theorem makes_stageEach {ts : List EdgeTarget} (h : ∀ t ∈ ts, (act t).Makes p) (staged : List EdgeTarget) :
    (stageEach act staged ts).Makes p := by
  induction ts generalizing staged with
  | nil => exact .pure _
  | cons t _ ih =>
    refine .bind (h t List.mem_cons_self).attempt fun r => ?_
    cases r with
    | ok => exact ih (fun t' ht' => h t' (List.mem_cons_of_mem _ ht')) _
    | error => exact .pure _

structure Distributing (p : Cmd → Prop) (c : StoredCertificate) : Prop where
  clock : p .clock
  send : ∀ action t, p (.send action c.id t)
  mark : ∀ t state, state.live → p (.markEdge c t state)

omit hp in
theorem Distributing.makes_stage (h : Distributing p c) {b : CertificateBundle} {t : EdgeTarget} (ht : p (.stageEdge c t)) :
    (stage cfg ⟨c, b, t⟩).Makes p := by
  refine .bind (.perform h.clock) fun _ => .bind (.ofExcept _) fun _ => ?_
  exact .bind (.perform ht) fun _ => makes_sendOrMark (h.send _ _) (h.mark _ _ rfl)

omit hp in
theorem Distributing.makes_report (h : Distributing p c) {state : EdgeState} (hst : state.live) (action : EdgeAction)
    (b : CertificateBundle) (t : EdgeTarget) : (sendAndReport cfg action state ⟨c, b, t⟩).Makes p := by
  refine .bind (.perform h.clock) fun _ => .bind (.ofExcept _) fun _ => ?_
  exact .bind (makes_sendOrMark (h.send _ _) (h.mark _ _ rfl)) fun _ => .perform (h.mark _ _ hst)

omit hp in
theorem Distributing.makes_activateStaged (h : Distributing p c) (b : CertificateBundle) (staged : List EdgeTarget) :
    (activateStaged cfg c b staged).Makes p := by
  refine .bind (makes_eachTarget (h.makes_report rfl _ b) _) fun failure => ?_
  cases failure with
  | some => exact .pure _
  | none =>
    refine .bind (makes_eachTarget (h.makes_report rfl _ b) _) fun failure => ?_
    cases failure <;> exact .pure _

omit hp in
theorem Distributing.makes_distribute (h : Distributing p c) (b : CertificateBundle) {ts : List EdgeTarget}
    (hstage : ∀ t ∈ ts, p (.stageEdge c t)) : (distribute cfg c b ts).Makes p := by
  refine .bind (makes_stageEach (fun t ht => h.makes_stage (hstage t ht)) _) fun ⟨staged, failure⟩ => ?_
  cases failure with
  | some => exact .pure _
  | none => exact h.makes_activateStaged b staged

theorem distributing_of_about : Distributing p c := ⟨hp _ rfl, fun _ _ => hp _ rfl, fun _ _ _ => hp _ rfl⟩

theorem makes_distribute (b : CertificateBundle) (ts : List EdgeTarget) : (distribute cfg c b ts).Makes p :=
  (distributing_of_about hp).makes_distribute b fun _ _ => hp _ rfl

theorem makes_rollbackStaged (ts : List EdgeTarget) : (rollbackStaged cfg c ts).Makes p := by
  induction ts with
  | nil => exact .pure _
  | cons t _ ih =>
    refine .bind (makes_removeFrom hp _ _ t).attempt fun r => .bind ih fun _ => ?_
    cases r <;> exact .pure _

theorem makes_retireEach (ts : List EdgeTarget) : (retireTargets cfg c ts).Makes p :=
  makes_retireTargets (fun _ => hp _ rfl) (fun _ => hp _ rfl) fun _ _ => hp _ rfl

theorem makes_retirePrior : (retirePrior cfg (some c)).Makes p := by
  simp only [retirePrior]
  split_ifs
  · exact .pure _
  · refine .bind (.attempt (.bind (.ofExcept _) fun _ => ?_)) fun r => by cases r <;> exact .pure _
    exact .bind (.perform (hp _ rfl)) fun _ => makes_retireEach hp _

theorem makes_missing (ts : List EdgeTarget) : (missingCertificateTargets c ts).Makes p := by
  refine .bind (.ofExcept _) fun _ => .bind (.perform (hp _ rfl)) fun _ => ?_
  exact .bind (.ofExcept _) fun _ => .pure _

theorem makes_needed (d : Domain) : (activeDistributionNeeded c d).Makes p := by
  unfold activeDistributionNeeded
  split_ifs
  · exact .pure _
  · exact .bind (makes_missing hp _) fun _ => .pure _

theorem makes_reconcile (d : Domain) (now : Time) : (reconcileActiveDistribution cfg c d now).Makes p := by
  unfold reconcileActiveDistribution
  split_ifs
  · exact .pure _
  refine .bind (makes_missing hp _) fun _ => ?_
  split_ifs
  · exact .pure _
  refine .bind (.bind (.attempt (.perform (hp (.openParts c) rfl))) fun r => ?_) fun b =>
    .bind (makes_distribute hp b _) fun ⟨_, failure⟩ => ?_
  · cases r with
    | ok => exact .bind (.ofExcept _) fun _ => .pure _
    | error => exact .fail _
  · cases failure with
    | some => exact .bind (makes_rollbackStaged hp _) fun _ => .fail _
    | none =>
      refine .bind (.attempt (.bind (.ofExcept _) fun _ => ?_)) fun r => by cases r <;> exact .pure _
      refine .bind (.perform (hp _ rfl)) fun _ => .bind (.ofExcept _) fun _ => makes_retireEach hp _

end Edges

/-! ## Reading and issuing -/

section Reading
variable (hp : ∀ cmd : Cmd, cmd.silent → p cmd) (cfg : Config) (d : Domain) (now : Time)
include hp

theorem makes_currentCertificate : (currentCertificate d).Makes p := by
  unfold currentCertificate
  split_ifs
  · refine .bind (.perform (hp _ rfl)) fun found => ?_
    cases found with
    | some => exact .pure _
    | none => exact .perform (hp _ rfl)
  · exact .perform (hp _ rfl)
  · exact .perform (hp _ rfl)

theorem makes_inspectCurrent (c : StoredCertificate) : (inspectCurrent cfg d now c).Makes p := by
  refine .bind (.ofExcept _) fun _ => .bind (.ofExcept _) fun _ => ?_
  refine makes_ite (.pure _) ?_
  refine .bind (.ofExcept _) fun _ => .bind ?_ fun _ => ?_
  · unfold alertExpiry
    split_ifs <;> first | exact .pure _ | exact .perform (hp _ rfl)
  · refine makes_ite (.bind ?_ fun _ => .pure _) (.pure _)
    refine makes_ite (.pure _) (.bind (.bind (.ofExcept _) fun _ => ?_) fun _ => .pure _)
    exact .bind (.perform (hp _ rfl)) fun _ => .bind (.ofExcept _) fun _ => .pure _

theorem makes_checkCAA : (checkCAA d).Makes p := by
  refine .bind (.attempt (.perform (hp _ rfl))) fun r => ?_
  cases r <;> dsimp only <;> split_ifs <;> first | exact .pure _ | exact .fail _

theorem makes_prepareChallenge : (prepareChallenge cfg d).Makes p := by
  unfold prepareChallenge
  split_ifs <;> try first | exact .pure _ | exact .fail _
  refine .bind (.attempt (.perform (hp _ rfl))) fun r => ?_
  cases r with
  | ok => exact .pure _
  | error => dsimp only; split_ifs <;> exact .fail _

theorem makes_issueBundle : (issueBundle cfg d).Makes p := by
  have hft : (issueFirst cfg d).Makes p := by
    unfold issueFirst
    split_ifs <;> first | exact .fail _ | exact .perform (hp _ rfl)
  have hfallback (f : Fallback) : (issueFallback d f).Makes p := by
    cases f <;> simp only [issueFallback] <;> try split_ifs
    all_goals first | exact .fail _ | exact .perform (hp _ rfl)
  refine .bind hft.attempt fun r => ?_
  cases r with
  | ok => exact .pure _
  | error =>
    dsimp only
    split
    · exact .fail _
    split_ifs
    · refine .bind (hfallback _).attempt fun r => ?_
      cases r <;> first | exact .pure _ | exact .fail _
    · exact .fail _

end Reading

end Paperboat.Tunnel

import Mathlib.Order.Basic
/-!
# Runs of a state machine

A machine is a total step function `step : S → O → S`. Whatever a step cannot
compute itself (clock readings, answers of a store, failures) is part of its
operation, so a theorem about every list of operations holds for every order of
calls and every choice the environment makes.

`EachStep` speaks about the steps a run takes, judged on the state before the
step; `Throughout` about the states it visits; `trace` keeps its events.
-/

namespace Paperboat.Lib

variable {S O : Type*}

/-- The state after the operations `os`. -/
def run (step : S → O → S) (s : S) (os : List O) : S := os.foldl step s

/-- `P` holds of every step of the run, judged on the state before the step. -/
def EachStep (step : S → O → S) (P : S → O → Prop) : S → List O → Prop
  | _, [] => True
  | s, o :: os => P s o ∧ EachStep step P (step s o) os

/-- `Q` holds in every state the run visits, the first and the last included. -/
def Throughout (step : S → O → S) (Q : S → Prop) : S → List O → Prop
  | s, [] => Q s
  | s, o :: os => Q s ∧ Throughout step Q (step s o) os

section Basic
variable {step : S → O → S} {P : S → O → Prop} {os : List O}

instance decidableEachStep [∀ s o, Decidable (P s o)] :
    ∀ (s : S) (os : List O), Decidable (EachStep step P s os)
  | _, [] => .isTrue trivial
  | s, o :: os => @instDecidableAnd _ _ _ (decidableEachStep (step s o) os)

@[simp] theorem run_nil (s : S) : run step s [] = s := rfl

@[simp] theorem run_cons (s : S) (o : O) (os : List O) : run step s (o :: os) = run step (step s o) os := rfl

theorem run_append (s : S) (os os' : List O) : run step s (os ++ os') = run step (run step s os) os' :=
  List.foldl_append

@[simp] theorem eachStep_nil (P : S → O → Prop) (s : S) : EachStep step P s [] ↔ True := Iff.rfl

@[simp] theorem eachStep_cons (P : S → O → Prop) (s : S) (o : O) (os : List O) :
    EachStep step P s (o :: os) ↔ P s o ∧ EachStep step P (step s o) os := Iff.rfl

@[simp] theorem throughout_nil (Q : S → Prop) (s : S) : Throughout step Q s [] ↔ Q s := Iff.rfl

@[simp] theorem throughout_cons (Q : S → Prop) (s : S) (o : O) (os : List O) :
    Throughout step Q s (o :: os) ↔ Q s ∧ Throughout step Q (step s o) os := Iff.rfl

theorem eachStep_append (P : S → O → Prop) (s : S) (os os' : List O) :
    EachStep step P s (os ++ os') ↔ EachStep step P s os ∧ EachStep step P (run step s os) os' := by
  induction os generalizing s with
  | nil => simp
  | cons _ _ ih => simp [ih, and_assoc]

theorem eachStep_of_always (h : ∀ o ∈ os, ∀ s, P s o) (s : S) : EachStep step P s os := by
  induction os generalizing s with
  | nil => trivial
  | cons o _ ih => exact ⟨h o List.mem_cons_self s, ih (fun o' ho => h o' (List.mem_cons_of_mem _ ho)) _⟩

theorem eachStep_of_forall {P : O → Prop} (h : ∀ o ∈ os, P o) (s : S) : EachStep step (fun _ o => P o) s os :=
  eachStep_of_always (fun o ho _ => h o ho) s

theorem exists_of_not_eachStep {s : S} (h : ¬EachStep step P s os) :
    ∃ pre o post, os = pre ++ o :: post ∧ ¬P (run step s pre) o := by
  induction os generalizing s with
  | nil => exact absurd trivial h
  | cons o os ih =>
    by_cases hp : P s o
    · obtain ⟨pre, o', post, rfl, hn⟩ := ih fun hos => h ⟨hp, hos⟩
      exact ⟨o :: pre, o', post, rfl, hn⟩
    · exact ⟨[], o, os, rfl, hp⟩

end Basic

/-! ## Invariants -/

section Invariants
variable {step : S → O → S} {P : S → O → Prop} {I Q : S → Prop} {s : S} {os : List O}

/-- An invariant kept by every step that meets `P` holds throughout a run of such steps. -/
theorem throughout_of_inv (hs : ∀ s o, I s → P s o → I (step s o)) (h0 : I s)
    (h : EachStep step P s os) : Throughout step I s os := by
  induction os generalizing s with
  | nil => exact h0
  | cons o _ ih => exact ⟨h0, ih (hs s o h0 h.1) h.2⟩

theorem Throughout.last (h : Throughout step Q s os) : Q (run step s os) := by
  induction os generalizing s with
  | nil => exact h
  | cons _ _ ih => exact ih h.2

theorem Throughout.imp {Q' : S → Prop} (hq : ∀ s, Q s → Q' s) (h : Throughout step Q s os) : Throughout step Q' s os := by
  induction os generalizing s with
  | nil => exact hq _ h
  | cons _ _ ih => exact ⟨hq _ h.1, ih h.2⟩

theorem run_inv (hs : ∀ s o, I s → P s o → I (step s o)) (h0 : I s) (h : EachStep step P s os) : I (run step s os) :=
  (throughout_of_inv hs h0 h).last

theorem run_inv' (hs : ∀ s o, I s → I (step s o)) (h0 : I s) (os : List O) : I (run step s os) := by
  induction os generalizing s with
  | nil => exact h0
  | cons o _ ih => exact ih (hs s o h0)

/-- Operations that change nothing may be left out. -/
theorem run_filter {p : O → Bool} (hs : ∀ s o, I s → I (step s o)) (hskip : ∀ s o, I s → p o = false → step s o = s)
    (h0 : I s) (os : List O) : run step s (os.filter p) = run step s os := by
  induction os generalizing s with
  | nil => rfl
  | cons o os ih =>
    rw [run_cons, ← ih (hs s o h0), List.filter_cons]
    cases hp : p o with
    | true => rfl
    | false =>
      rw [hskip s o h0 hp]
      rfl

theorem eachStep_of_inv {Q : S → O → Prop} (hs : ∀ s o, I s → P s o → I (step s o) ∧ Q s o) (h0 : I s)
    (h : EachStep step P s os) : EachStep step Q s os := by
  induction os generalizing s with
  | nil => trivial
  | cons o _ ih =>
    obtain ⟨hi, hq⟩ := hs s o h0 h.1
    exact ⟨hq, ih hi h.2⟩

theorem run_ascends {R : S → S → Prop} (refl : ∀ s, R s s) (trans : ∀ a b c, R a b → R b c → R a c)
    (hs : ∀ s o, I s → P s o → I (step s o) ∧ R s (step s o)) (h0 : I s)
    (h : EachStep step P s os) : R s (run step s os) := by
  induction os generalizing s with
  | nil => exact refl s
  | cons o _ ih =>
    obtain ⟨hi, hr⟩ := hs s o h0 h.1
    exact trans _ _ _ hr (ih hi h.2)

end Invariants

/-! ## Traces

A machine whose steps also answer leaves a trace: its operations with their
answers. "This happened, then that" is a sublist of the trace. -/

section Traces
variable {R : Type*}

def trace (step : S → O → S × R) : S → List O → List (O × R)
  | _, [] => []
  | s, o :: os => (o, (step s o).2) :: trace step (step s o).1 os

/-- What is true of a state and the events so far, and is kept by every step
that meets `P`, is true at the end of a run of such steps. -/
theorem trace_inv {step : S → O → S × R} {P : S → O → Prop} {I : S → List (O × R) → Prop}
    (hs : ∀ s es o, I s es → P s o → I (step s o).1 (es ++ [(o, (step s o).2)])) {s : S} {es : List (O × R)}
    {os : List O} (h0 : I s es) (h : EachStep (fun s o => (step s o).1) P s os) :
    I (run (fun s o => (step s o).1) s os) (es ++ trace step s os) := by
  induction os generalizing s es with
  | nil => simpa [trace] using h0
  | cons o _ ih => simpa [trace] using ih (hs s es o h0 h.1) h.2

end Traces

end Paperboat.Lib

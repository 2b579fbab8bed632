import Mathlib.Data.List.Basic
/-!
# Sequences of checks

A call that can fail is a sequence of steps in `Except`. It succeeds exactly when
each of them does, and the `simp` set takes a success apart into those facts.
-/

namespace Paperboat.Lib

variable {E α β : Type}

def failWith : Option E → Except E Unit
  | some err => .error err
  | none => .ok ()

def refuseIf (refused : Bool) (err : E) : Except E Unit := if refused then .error err else .ok ()

@[simp] theorem failWith_eq_ok {err : Option E} {u : Unit} : failWith err = .ok u ↔ err = none := by
  cases err <;> simp [failWith]

@[simp] theorem refuseIf_eq_ok {refused : Bool} {err : E} {u : Unit} : refuseIf refused err = .ok u ↔ refused = false := by
  cases refused <;> simp [refuseIf]

theorem bind_eq_ok {x : Except E α} {f : α → Except E β} {b : β} : (x >>= f) = .ok b ↔ ∃ a, x = .ok a ∧ f a = .ok b := by
  cases x <;> simp [bind, Except.bind]

theorem check_eq_ok {x : Except E Unit} {f : Unit → Except E β} {b : β} :
    (x >>= f) = .ok b ↔ x = .ok () ∧ f () = .ok b := by
  cases x <;> simp [bind, Except.bind]

theorem bind_ne_error {x : Except E α} {f : α → Except E β} {e : E} (hx : x ≠ .error e) (hf : ∀ a, f a ≠ .error e) :
    (x >>= f) ≠ .error e := by
  cases x with
  | error e' => exact fun h => hx (congrArg Except.error (Except.error.inj h))
  | ok a => exact hf a

theorem refuseIf_ne_error {refused : Bool} {err e : E} (h : err ≠ e) : refuseIf refused err ≠ .error e := by
  cases refused <;> simp [refuseIf, h]

theorem toBool_eq_true {x : Except E α} : x.toBool ↔ ∃ a, x = .ok a := by
  cases x <;> simp [Except.toBool]

theorem map_ok {x : Except E α} {f : α → β} {b : β} (h : x.map f = .ok b) : ∃ a, x = .ok a ∧ f a = b := by
  cases x with
  | error => cases h
  | ok a => exact ⟨a, rfl, Except.ok.inj h⟩

theorem map_error {x : Except E α} {f : α → β} {e : E} (h : x.map f = .error e) : x = .error e := by
  cases x with
  | error => exact congrArg Except.error (Except.error.inj h)
  | ok => cases h

theorem mapM_ok {f : α → Except E β} {as : List α} {bs : List β} (h : as.mapM f = .ok bs) :
    (∀ a ∈ as, ∃ b ∈ bs, f a = .ok b) ∧ ∀ b ∈ bs, ∃ a ∈ as, f a = .ok b := by
  induction as generalizing bs with
  | nil =>
    obtain rfl : bs = [] := by simpa [pure, Except.pure] using h.symm
    simp
  | cons a _ ih =>
    simp only [List.mapM_cons, bind_eq_ok] at h
    obtain ⟨b, hb, bs', hbs', h⟩ := h
    obtain rfl : b :: bs' = bs := Except.ok.inj h
    obtain ⟨hleft, hright⟩ := ih hbs'
    constructor
    · intro a' ha'
      rcases List.mem_cons.1 ha' with rfl | ha'
      · exact ⟨b, List.mem_cons_self, hb⟩
      · obtain ⟨b', hb', he⟩ := hleft a' ha'
        exact ⟨b', List.mem_cons_of_mem _ hb', he⟩
    · intro b' hb'
      rcases List.mem_cons.1 hb' with rfl | hb'
      · exact ⟨a, List.mem_cons_self, hb⟩
      · obtain ⟨a', ha', he⟩ := hright b' hb'
        exact ⟨a', List.mem_cons_of_mem _ ha', he⟩

end Paperboat.Lib

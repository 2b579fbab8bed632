import Mathlib.Logic.Basic
/-!
# Programs that call their environment

A program returns, fails, or makes a call and goes on with the answer. What a
call does is not part of the program: `exec` says it, given a choice `x : X` the
environment makes (whether the call fails, which name it hands out, what it
observes). So one program stands for every run it can have: alone or between
the steps of others, to its end or stopped after any of its calls.

`Safe R P Q p s` is the rule of reasoning: from the state `s`, whatever the
others do within `R` and whatever the environment chooses, every call `p` makes
is one `P` allows where it is made, and what `p` ends with is as `Q` says.
-/

namespace Paperboat.Lib

/-- A call `c` answers with a `T c` or with an error. -/
inductive Prog {C : Type} (T : C → Type) (E α : Type) where
  | ret (a : α)
  | fail (e : E)
  | call (c : C) (next : Except E (T c) → Prog T E α)

namespace Prog

variable {C : Type} {T : C → Type} {E α β S X : Type}

/-- An error ends the sequence. -/
protected def bind : Prog T E α → (α → Prog T E β) → Prog T E β
  | .ret a, f => f a
  | .fail e, _ => .fail e
  | .call c next, f => .call c fun r => (next r).bind f

instance : Monad (Prog T E) where
  pure := .ret
  bind := Prog.bind

protected theorem bind_assoc {γ : Type} (m : Prog T E α) (f : α → Prog T E β) (g : β → Prog T E γ) :
    m >>= f >>= g = m >>= fun a => f a >>= g := by
  induction m with
  | ret | fail => rfl
  | call c _ ih => exact congrArg (Prog.call c) (funext ih)

def ofExcept : Except E α → Prog T E α
  | .ok a => .ret a
  | .error e => .fail e

def perform (c : C) : Prog T E (T c) := .call c ofExcept

/-- Run `p` and look at how it ended. -/
def attempt : Prog T E α → Prog T E (Except E α)
  | .ret a => .ret (.ok a)
  | .fail e => .ret (.error e)
  | .call c next => .call c fun r => (next r).attempt

/-! ## Running -/

section Running
variable (exec : (c : C) → X → S → Except E (T c) × S)

def step (x : X) : Prog T E α → S → Prog T E α × S
  | .call c next, s => (next (exec c x s).1, (exec c x s).2)
  | p, s => (p, s)

/-- As many calls as there are choices: the rest of the program and the state it was stopped in. -/
def runFor : List X → Prog T E α → S → Prog T E α × S
  | [], p, s => (p, s)
  | x :: xs, p, s => runFor xs (p.step exec x s).1 (p.step exec x s).2

def eval (choose : C → S → X) : Prog T E α → S → Except E α × S
  | .ret a, s => (.ok a, s)
  | .fail e, s => (.error e, s)
  | .call c next, s => eval choose (next (exec c (choose c s) s).1) (exec c (choose c s) s).2

variable {exec} {choose : C → S → X} {p : Prog T E α} {f : α → Prog T E β} {s s' : S}

@[simp] theorem eval_pure (a : α) (s : S) : eval exec choose (pure a : Prog T E α) s = (.ok a, s) := rfl

@[simp] theorem eval_perform (c : C) (s : S) : eval exec choose (perform c : Prog T E (T c)) s = exec c (choose c s) s := by
  simp only [perform, eval]
  rcases exec c (choose c s) s with ⟨_ | _, _⟩ <;> rfl

@[simp] theorem eval_ofExcept (r : Except E α) (s : S) : eval exec choose (ofExcept r : Prog T E α) s = (r, s) := by
  cases r <;> rfl

theorem eval_bind (p : Prog T E α) (f : α → Prog T E β) (s : S) : eval exec choose (p >>= f) s =
      match eval exec choose p s with
      | (.ok a, s') => eval exec choose (f a) s'
      | (.error e, s') => (.error e, s') := by
  induction p generalizing s with
  | ret | fail => rfl
  | call _ _ ih => exact ih _ _

theorem eval_bind_ok {a : α} (h : eval exec choose p s = (.ok a, s')) :
    eval exec choose (p >>= f) s = eval exec choose (f a) s' := by
  rw [eval_bind, h]

theorem eval_bind_error {e : E} (h : eval exec choose p s = (.error e, s')) :
    eval exec choose (p >>= f) s = (.error e, s') := by
  rw [eval_bind, h]

theorem eval_bind_eq_ok {b : β} (h : eval exec choose (p >>= f) s = (.ok b, s')) :
    ∃ a s1, eval exec choose p s = (.ok a, s1) ∧ eval exec choose (f a) s1 = (.ok b, s') := by
  rw [eval_bind] at h
  split at h
  · exact ⟨_, _, ‹_›, h⟩
  · cases h

theorem eval_bind_keeps {F : S → Prop} (herr : ∀ e s', eval exec choose p s = (.error e, s') → F s')
    (hok : ∀ a s', eval exec choose p s = (.ok a, s') → F (eval exec choose (f a) s').2) :
    F (eval exec choose (p >>= f) s).2 := by
  rcases h : eval exec choose p s with ⟨_ | a, s'⟩
  · rw [eval_bind_error h]
    exact herr _ s' h
  · rw [eval_bind_ok h]
    exact hok a s' h

theorem eval_attempt (p : Prog T E α) (s : S) :
    eval exec choose p.attempt s = (.ok (eval exec choose p s).1, (eval exec choose p s).2) := by
  induction p generalizing s with
  | ret | fail => rfl
  | call _ _ ih => exact ih _ _

end Running

/-! ## Safe programs -/

section Safety

/-- Between any two calls the state moves within `R`. -/
def Safe (exec : (c : C) → X → S → Except E (T c) × S) (R : S → S → Prop) (P : C → S → Prop)
    (Q : Except E α → S → Prop) : Prog T E α → S → Prop
  | .ret a, s => ∀ s', R s s' → Q (.ok a) s'
  | .fail e, s => ∀ s', R s s' → Q (.error e) s'
  | .call c next, s => ∀ s', R s s' → P c s' ∧ ∀ x, Safe exec R P Q (next (exec c x s').1) (exec c x s').2

variable {exec : (c : C) → X → S → Except E (T c) × S} {R : S → S → Prop} {P : C → S → Prop}
  {Q : Except E α → S → Prop} {p : Prog T E α} {s s' : S}

theorem Safe.later (trans : ∀ a b c, R a b → R b c → R a c)
    (h : p.Safe exec R P Q s) (hr : R s s') : p.Safe exec R P Q s' := by
  cases p with
  | ret | fail | call => exact fun s'' h'' => h s'' (trans _ _ _ hr h'')

theorem Safe.weaken {P' : C → S → Prop} {Q' : Except E α → S → Prop}
    (h : p.Safe exec R P Q s) (hP : ∀ c s, P c s → P' c s) (hQ : ∀ r s, Q r s → Q' r s) : p.Safe exec R P' Q' s := by
  induction p generalizing s with
  | ret | fail => exact fun s' hr => hQ _ _ (h s' hr)
  | call c _ ih => exact fun s' hr => ⟨hP c s' (h s' hr).1, fun x => ih _ ((h s' hr).2 x)⟩

/-- The rule of constancy: what neither the others nor the program's own calls take away is there at the end. -/
theorem Safe.frame {F : S → Prop} (h : p.Safe exec R P Q s) (hF : F s)
    (hR : ∀ s s', R s s' → F s → F s') (hP : ∀ c x s, P c s → F s → F (exec c x s).2) :
    p.Safe exec R P (fun r s => Q r s ∧ F s) s := by
  induction p generalizing s with
  | ret | fail => exact fun s' hr => ⟨h s' hr, hR s s' hr hF⟩
  | call c _ ih =>
    intro s' hr
    obtain ⟨hp, hnext⟩ := h s' hr
    exact ⟨hp, fun x => ih _ (hnext x) (hP c x s' hp (hR s s' hr hF))⟩

theorem safe_perform {c : C} {Q : Except E (T c) → S → Prop}
    (h : ∀ s', R s s' → P c s' ∧ ∀ x s'', R (exec c x s').2 s'' → Q (exec c x s').1 s'') :
    (perform c : Prog T E (T c)).Safe exec R P Q s := by
  intro s' hr
  refine ⟨(h s' hr).1, fun x => ?_⟩
  have hq := (h s' hr).2 x
  cases hx : (exec c x s').1 with
  | ok | error => exact fun s'' h'' => by simpa [hx] using hq s'' h''

section Sequencing
variable (refl : ∀ s, R s s)
include refl

/-- The rule of sequence: what the first part ends with is what the second starts from. -/
theorem Safe.bind {M : Except E α → S → Prop} {Q : Except E β → S → Prop} {f : α → Prog T E β}
    (h : p.Safe exec R P M s) (hok : ∀ a s, M (.ok a) s → (f a).Safe exec R P Q s)
    (herr : ∀ e s, M (.error e) s → Q (.error e) s) : (p >>= f).Safe exec R P Q s := by
  induction p generalizing s with
  | ret a => exact hok a s (h s (refl s))
  | fail e => exact fun s' hr => herr e s' (h s' hr)
  | call _ _ ih => exact fun s' hr => ⟨(h s' hr).1, fun x => ih _ ((h s' hr).2 x)⟩

/-- The rule of sequence where the second part looks at how the first ended. -/
theorem Safe.attempt_bind {M : Except E α → S → Prop} {Q : Except E β → S → Prop}
    {f : Except E α → Prog T E β} (h : p.Safe exec R P M s) (hf : ∀ r s, M r s → (f r).Safe exec R P Q s) :
    (p.attempt >>= f).Safe exec R P Q s := by
  induction p generalizing s with
  | ret | fail => exact hf _ s (h s (refl s))
  | call _ _ ih => exact fun s' hr => ⟨(h s' hr).1, fun x => ih _ ((h s' hr).2 x)⟩

theorem Safe.step (h : p.Safe exec R P Q s) (x : X) : (p.step exec x s).1.Safe exec R P Q (p.step exec x s).2 := by
  cases p with
  | ret | fail => exact h
  | call => exact (h s (refl s)).2 x

theorem Safe.allowed {c : C} {next : Except E (T c) → Prog T E α}
    (h : (Prog.call c next).Safe exec R P Q s) : P c s := (h s (refl s)).1

/-- What every allowed call keeps is there wherever the program is stopped. -/
theorem Safe.runFor_keeps {F : S → Prop} (hF : ∀ c x s, P c s → F s → F (exec c x s).2)
    (h : p.Safe exec R P Q s) (hs : F s) (xs : List X) : F (runFor exec xs p s).2 := by
  induction xs generalizing p s with
  | nil => exact hs
  | cons x _ ih =>
    refine ih (h.step refl x) ?_
    cases p with
    | ret | fail => exact hs
    | call c => exact hF c x s (h.allowed refl) hs

end Sequencing

end Safety

/-! ## Every call of a program -/

section Calls
variable {p : C → Prop} {m : Prog T E α}

/-- Whatever it is answered, the program makes no call but those of `p`. -/
def Makes (p : C → Prop) : Prog T E α → Prop
  | .call c next => p c ∧ ∀ r, (next r).Makes p
  | _ => True

protected theorem Makes.pure (a : α) : (pure a : Prog T E α).Makes p := trivial

protected theorem Makes.fail (e : E) : (.fail e : Prog T E α).Makes p := trivial

protected theorem Makes.ofExcept (r : Except E α) : (ofExcept r : Prog T E α).Makes p := by cases r <;> trivial

protected theorem Makes.perform {c : C} (h : p c) : (perform c : Prog T E (T c)).Makes p :=
  ⟨h, fun r => by cases r <;> trivial⟩

theorem Makes.bind {f : α → Prog T E β} (h : m.Makes p) (hf : ∀ a, (f a).Makes p) : (m >>= f).Makes p := by
  induction m with
  | ret a => exact hf a
  | fail => trivial
  | call _ _ ih => exact ⟨h.1, fun r => ih r (h.2 r)⟩

theorem Makes.attempt (h : m.Makes p) : m.attempt.Makes p := by
  induction m with
  | ret | fail => trivial
  | call _ _ ih => exact ⟨h.1, fun r => ih r (h.2 r)⟩

theorem Makes.safe {exec : (c : C) → X → S → Except E (T c) × S} {R : S → S → Prop} (h : m.Makes p) (s : S) :
    m.Safe exec R (fun c _ => p c) (fun _ _ => True) s := by
  induction m generalizing s with
  | ret | fail => exact fun _ _ => trivial
  | call _ _ ih => exact fun _ _ => ⟨h.1, fun _ => ih _ (h.2 _) _⟩

section Keeping
variable {exec : (c : C) → X → S → Except E (T c) × S} {F : S → Prop} (h : m.Makes p)
  (hF : ∀ c x s, p c → F s → F (exec c x s).2)
include h hF

theorem Makes.keeps (choose : C → S → X) {s : S} (hs : F s) : F (m.eval exec choose s).2 := by
  induction m generalizing s with
  | ret | fail => exact hs
  | call c _ ih => exact ih _ (h.2 _) (hF c _ s h.1 hs)

end Keeping

end Calls

end Prog

end Paperboat.Lib

import Mathlib.Order.Basic
import Mathlib.Tactic.SplitIfs
/-!
# Instants and durations

The library's `time.Time` and `time.Duration`. An instant is a number of
nanoseconds since the zero time; the zone is the identity of the location a
value carries, which only `==` on whole values sees (`0` is UTC). `sub`
saturates at the largest and smallest duration. Every comparison of a
difference with a bound in range is a comparison of instants (`lt_sub_iff`).
-/

namespace Paperboat.Lib

structure Time where
  ns : Int
  zone : Nat := 0
  deriving DecidableEq

/-! A duration is an integer number of nanoseconds. -/

namespace Duration

def millisecond : Int := 1000000
def second : Int := 1000 * millisecond
def minute : Int := 60 * second
def hour : Int := 60 * minute

/-- The largest value of a signed 64-bit count. -/
def max : Int := 9223372036854775807
def min : Int := -9223372036854775808

end Duration

namespace Time

def zero : Time := ⟨0, 0⟩

def isZero (t : Time) : Bool := t.ns == 0

def utc (t : Time) : Time := { t with zone := 0 }

variable (t u : Time)

def after : Bool := decide (u.ns < t.ns)

def before : Bool := decide (t.ns < u.ns)

/-- The value of a column that keeps microseconds, in UTC. -/
def stored : Time := ⟨t.ns / 1000 * 1000, 0⟩

def equal : Bool := t.ns == u.ns

def add (t : Time) (d : Int) : Time := { t with ns := t.ns + d }

def sub : Int :=
  if t.ns - u.ns > Duration.max then Duration.max
  else if t.ns - u.ns < Duration.min then Duration.min
  else t.ns - u.ns

instance : Preorder Time where
  le t u := t.ns ≤ u.ns
  le_refl t := Int.le_refl t.ns
  le_trans _ _ _ := Int.le_trans

@[simp] theorem after_iff : t.after u = true ↔ u.ns < t.ns := by simp [after]

@[simp] theorem after_eq_false : t.after u = false ↔ t.ns ≤ u.ns := by simp [after]

@[simp] theorem before_iff : t.before u = true ↔ t.ns < u.ns := by simp [before]

@[simp] theorem equal_iff : t.equal u = true ↔ t.ns = u.ns := by simp [equal]

@[simp] theorem isZero_iff (t : Time) : t.isZero = true ↔ t.ns = 0 := by simp [isZero]

@[simp] theorem isZero_zero : zero.isZero = true := rfl

@[simp] theorem add_ns (t : Time) (d : Int) : (t.add d).ns = t.ns + d := rfl

theorem stored_le : t.stored.ns ≤ t.ns := by
  change t.ns / 1000 * 1000 ≤ t.ns
  omega

@[simp] theorem utc_ns (t : Time) : t.utc.ns = t.ns := rfl

/-- A saturated difference exceeds a bound in range exactly when the true difference does. -/
theorem lt_sub_iff {d : Int} (hl : Duration.min ≤ d) (hu : d < Duration.max) : d < t.sub u ↔ d < t.ns - u.ns := by
  unfold Duration.min at hl
  unfold Duration.max at hu
  unfold sub Duration.max Duration.min
  split_ifs <;> omega

end Time

end Paperboat.Lib

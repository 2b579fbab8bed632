import Mathlib.Data.List.Basic
/-!
# Handles that have to be settled

A handle is acquired and then meant to end in one of two ways: it is committed,
or it is disposed of. The events of a run, oldest first, say what happened to
every handle. Committing settles a handle for good, so it must not be disposed
of afterwards, and disposing of it a second time is an error too.
-/

namespace Paperboat.Lib.Custody

inductive Event (H : Type*) where
  | acquired (h : H)
  | committed (h : H)
  | disposed (h : H)
  deriving DecidableEq

section Events
variable {H : Type*} {events : List (Event H)} {h : H}

def Event.handle : Event H → H
  | .acquired h | .committed h | .disposed h => h

def DisposedOnce (events : List (Event H)) : Prop :=
  events.Pairwise fun earlier later => ∀ h, later = .disposed h → earlier ≠ .disposed h

def CommittedKept (events : List (Event H)) : Prop :=
  events.Pairwise fun earlier later => ∀ h, later = .disposed h → earlier ≠ .committed h

def Settled (events : List (Event H)) (h : H) : Prop := .committed h ∈ events ∨ .disposed h ∈ events

theorem DisposedOnce.dispose (hd : DisposedOnce events) (hn : .disposed h ∉ events) :
    DisposedOnce (events ++ [.disposed h]) := by
  refine List.pairwise_append.2 ⟨hd, by simp, fun earlier he later hl => ?_⟩
  obtain rfl := List.mem_singleton.1 hl
  rintro _ ⟨⟩ rfl
  exact hn he

theorem CommittedKept.dispose (hc : CommittedKept events) (hn : .committed h ∉ events) :
    CommittedKept (events ++ [.disposed h]) := by
  refine List.pairwise_append.2 ⟨hc, by simp, fun earlier he later hl => ?_⟩
  obtain rfl := List.mem_singleton.1 hl
  rintro _ ⟨⟩ rfl
  exact hn he

theorem DisposedOnce.other (hd : DisposedOnce events) {e : Event H} (he : ∀ h, e ≠ .disposed h) :
    DisposedOnce (events ++ [e]) := by
  refine List.pairwise_append.2 ⟨hd, by simp, fun _ _ later hl h hh => ?_⟩
  exact absurd ((List.mem_singleton.1 hl).symm.trans hh) (he h)

theorem CommittedKept.other (hc : CommittedKept events) {e : Event H} (he : ∀ h, e ≠ .disposed h) :
    CommittedKept (events ++ [e]) := by
  refine List.pairwise_append.2 ⟨hc, by simp, fun _ _ later hl h hh => ?_⟩
  exact absurd ((List.mem_singleton.1 hl).symm.trans hh) (he h)

theorem Settled.append (hs : Settled events h) (more : List (Event H)) : Settled (events ++ more) h :=
  hs.imp (fun hm => List.mem_append_left _ hm) fun hm => List.mem_append_left _ hm

end Events

end Paperboat.Lib.Custody

import Paperboat.Lib.Runs
import Paperboat.Tunnel.Store
/-!
# One issuance of a domain at a time

A call of `Ensure` works on a domain from a successful `Acquire` to its release. The
row of the lock names the coordinator and not the call, so the calls of two
coordinators exclude each other, and a second call of the same one takes the lock over.
-/

namespace Paperboat.Tunnel

open Lib List

deriving instance DecidableEq for IssuanceLock

/-- The tables, and the rows of the locks that calls took and have not released, one for each call. -/
structure Issuance where
  tables : Tables
  held : List IssuanceLock

inductive IssuanceOp where
  | acquire (lock : IssuanceLock) (now : Time)
  /-- The row stays when the release fails. -/
  | release (lock : IssuanceLock) (deleted : Bool)

namespace Issuance

def step (s : Issuance) : IssuanceOp → Issuance
  | .acquire lock now =>
    match s.tables.acquire lock now with
    | .ok (some tables) => ⟨tables, lock.row :: s.held⟩
    | _ => s
  | .release lock deleted =>
    if lock ∈ s.held then
      ⟨if deleted then s.tables.releaseGeneration lock.domainID lock.ownerID lock.domainGeneration else s.tables,
        s.held.erase lock⟩
    else s

def timely (s : Issuance) : IssuanceOp → Bool
  | .acquire _ now => s.held.all (·.leaseUntil.after now)
  | .release .. => true

def oneCall (s : Issuance) : IssuanceOp → Bool
  | .acquire lock _ => s.held.all fun held => held.domainID != lock.domainID || held.ownerID != lock.ownerID
  | .release .. => true

def Exclusive (s : Issuance) : Prop := (s.held.map (·.domainID)).Nodup

structure Sound (s : Issuance) : Prop where
  exclusive : s.Exclusive
  recorded : ∀ held ∈ s.held, held ∈ s.tables.locks.rows

variable {s : Issuance} {lock : IssuanceLock} {now : Time} {tables : Tables}

theorem acquire_rows (h : s.tables.acquire lock now = .ok (some tables)) : lock.row ∈ tables.locks.rows ∧
    ∀ held ∈ s.tables.locks.rows, held.domainID ≠ lock.domainID → held ∈ tables.locks.rows := by
  simp only [Tables.acquire, check_eq_ok, Except.ok.injEq] at h
  replace h := h.2.2
  split at h
  · obtain ⟨locks, hins, rfl⟩ := Option.map_eq_some_iff.1 h
    obtain ⟨-, hrows⟩ := Table.insert_eq_some.1 hins
    simp only [hrows]
    exact ⟨by simp, fun _ hmem _ => mem_append_left _ hmem⟩
  · rename_i old hfind
    split_ifs at h
    cases h
    obtain ⟨hmem, hid⟩ := Table.find_eq_some.1 hfind
    exact ⟨mem_map.2 ⟨old, hmem, by simp [IssuanceLock.takeOver, IssuanceLock.row, hid]⟩,
      fun held hheld hne => mem_map.2 ⟨held, hheld, if_neg (by simpa using hne)⟩⟩

theorem Sound.step (h : s.Sound) {op : IssuanceOp} (ht : s.timely op) (hc : s.oneCall op) : (s.step op).Sound := by
  cases op with
  | acquire lock now =>
    simp only [Issuance.step]
    split
    · rename_i hacq
      -- A lock on the domain that is held would not have been taken over.
      have hother : ∀ held ∈ s.held, held.domainID ≠ lock.domainID := by
        intro held hh hd
        have hrow := Table.find_eq_some.2 ⟨h.recorded held hh, hd⟩
        have hafter : now.stored.ns < held.leaseUntil.ns :=
          (Time.stored_le now).trans_lt (by simpa using all_eq_true.1 ht held hh)
        have howner : held.ownerID ≠ lock.ownerID := by simpa [hd] using all_eq_true.1 hc held hh
        simp [Tables.acquire, check_eq_ok, hrow, howner] at hacq
        omega
      obtain ⟨hnew, hold⟩ := acquire_rows hacq
      refine ⟨nodup_cons.2 ⟨by simpa [IssuanceLock.row] using hother, h.exclusive⟩, fun held hh => ?_⟩
      rcases mem_cons.1 hh with rfl | hh
      · exact hnew
      · exact hold held (h.recorded held hh) (hother held hh)
    · exact h
  | release lock deleted =>
    simp only [Issuance.step]
    split_ifs with hmem hdel
    · refine ⟨h.exclusive.sublist (erase_sublist.map _), fun held hh => mem_filter.2 ⟨?_, ?_⟩⟩
      · exact h.recorded held (mem_of_mem_erase hh)
      · -- the row of another call is that of another domain
        obtain ⟨hne, hh⟩ := (h.exclusive.of_map _).mem_erase_iff.1 hh
        simp [mt (inj_on_of_nodup_map h.exclusive hh hmem) hne]
    · exact ⟨h.exclusive.sublist (erase_sublist.map _), fun held hh => h.recorded held (mem_of_mem_erase hh)⟩
    · exact h

theorem one_issuance_at_a_time (tables : Tables) (ops : List IssuanceOp)
    (h : EachStep step (fun s op => s.timely op ∧ s.oneCall op) ⟨tables, []⟩ ops) :
    Throughout step Exclusive ⟨tables, []⟩ ops :=
  (throughout_of_inv (I := Sound) (fun _ _ hs hop => hs.step hop.1 hop.2) ⟨by simp [Exclusive], by simp⟩ h).imp
    fun _ hs => hs.exclusive

def sampleTables : Tables :=
  ⟨⟨[⟨"tdom_1", "acct_1", "tun_1", .verified, true, false, 1⟩], by simp⟩, .empty, .empty, .empty, .empty, []⟩

/-- The lock of a coordinator that asks so many seconds after the start, for two minutes. -/
def lockOf (ownerID : String) (seconds : Int) : IssuanceLock :=
  ⟨"tdom_1", ownerID, 1, ⟨(seconds + 120) * Duration.second, 0⟩⟩

def ask (ownerID : String) (seconds : Int) : IssuanceOp := .acquire (lockOf ownerID seconds) ⟨seconds * Duration.second, 0⟩

/-- A second coordinator is refused while the first works on the domain, and comes after it. -/
theorem one_issuance_at_a_time_in_turn : Throughout step Exclusive ⟨sampleTables, []⟩
    [ask "own_1" 0, ask "own_2" 1, .release (lockOf "own_1" 0) true, ask "own_2" 30] :=
  one_issuance_at_a_time sampleTables _ (by decide +kernel)

theorem issuance_twice_on_coordinator :
    let s := run step ⟨sampleTables, []⟩ [ask "own_1" 0, ask "own_1" 1]
    s.held.map (·.domainID) = ["tdom_1", "tdom_1"] := by
  decide +kernel

end Issuance

end Paperboat.Tunnel

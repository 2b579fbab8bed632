import Paperboat.Bandwidth.Conservation
/-!
# Reports of a period that is over

A report is charged at the end of its interval, but against the entitlement the
owner has when it arrives. A report that arrives after the renewal of the period
it belongs to is refused, and with it the advance of its counter.
-/

namespace Paperboat.Bandwidth

open Lib World
open Connector (trimSpace)

namespace World

variable {w : World} {machine : UserMachine} {r : UsageReport} {id : String} {now dbNow : Int}

/-- A machine can be charged at an instant: the entitlement its owner has now covers it, and the period has its row
or can have one. -/
def Payable (w : World) (machine : UserMachine) (now : Int) (id : String) : Prop :=
  ∃ e, w.entitlements.find machine.userID = some e ∧ e.covers now ∧
    ((∃ p ∈ w.books.periods.rows, p.userMachineID = machine.id ∧ p.periodStart = e.currentPeriodStart) ∨
      ∀ p ∈ w.books.periods.rows, p.id ≠ id)

theorem ensure_succeeds_iff :
    (∃ answer, w.ensureCurrentBandwidthPeriodAt machine now id = .ok answer) ↔ w.Payable machine now id := by
  unfold ensureCurrentBandwidthPeriodAt Payable Books.upsertPeriod
  cases he : w.entitlements.find machine.userID with
  | none => simp
  | some e =>
    simp only [Option.some.injEq, exists_eq_left']
    by_cases hc : e.covers now
    swap
    · simp [hc]
    simp only [hc, if_true, true_and]
    cases hf : w.books.periods.rows.find? _ with
    | some q =>
      have hq := List.find?_some hf
      simp only [Bool.and_eq_true, beq_iff_eq] at hq
      exact iff_of_true ⟨_, rfl⟩ (.inl ⟨q, List.mem_of_find?_eq_some hf, hq⟩)
    | none =>
      have hno : ¬∃ p ∈ w.books.periods.rows, p.userMachineID = machine.id ∧ p.periodStart = e.currentPeriodStart := by
        rintro ⟨p, hp, hkey⟩
        simpa [hkey] using List.find?_eq_none.1 hf p hp
      simp only [hno, false_or]
      cases hi : w.books.periods.insert _ with
      | none =>
        refine iff_of_false (by simp) fun hfree => ?_
        obtain ⟨periods, hi'⟩ := Table.insert_of_find_none (r := (⟨id, machine.id, e.currentPeriodStart, e.currentPeriodEnd,
          e.allowanceBytes, 0, 0, e.ordered⟩ : BandwidthPeriod)) (List.find?_eq_none.2 fun p hp he => hfree p hp (beq_iff_eq.1 he))
        cases hi.symm.trans hi'
      | some => exact iff_of_true ⟨_, rfl⟩ (Table.insert_eq_some.1 hi).1

theorem reserve_succeeds_iff (h : w.books.Ledger) (bytes : Nat) (dbNow : Int) :
    (∃ answer, w.reserveBandwidthForMachineTx machine bytes now dbNow false id = .ok answer) ↔ w.Payable machine now id := by
  rw [← ensure_succeeds_iff]
  constructor
  · rintro ⟨⟨reservation, b⟩, hok⟩
    obtain ⟨period, b1, hen, -⟩ := reserve_ok hok
    exact ⟨_, hen⟩
  · rintro ⟨⟨period, b1⟩, hen⟩
    have hfind := (ensure_ok hen).1
    have hs := (ledger_ensure h hen).sound period (Table.find_eq_some.1 hfind).1
    obtain ⟨b2, -, hcg⟩ := Books.chargePeriod_eq hfind hs machine bytes dbNow
    exact ⟨_, bind_eq_ok.2 ⟨(), rfl, bind_eq_ok.2 ⟨_, hen, hcg⟩⟩⟩

/-- A report can be settled: it was before, or its counter can have a row and the machine of its
environment, if there is one and the counter advances, can be charged. -/
def Chargeable (w : World) (r : UsageReport) (id : String) : Prop :=
  match w.usage.receipts.find r.operationID with
  | some existing => sameUsageReport existing r
  | none => ((w.usage.counters.find r.key).isSome ∨ w.known r.key) ∧
    (w.usage.value r.key < r.bytes.toNat → ∀ machine, w.machineOfEnvironment (trimSpace r.environmentID) = some machine →
      w.Payable machine r.intervalEnd id)

theorem environment_of_valid (h : validateUsageReport r = none) : trimSpace r.environmentID ≠ "" := by
  unfold validateUsageReport at h
  split at h
  · cases h
  · rename_i hnone
    simpa using List.find?_eq_none.1 hnone ("environment_id", r.environmentID) (by simp [UsageReport.required])

theorem charge_succeeds_iff (h : w.books.Ledger) (hv : validateUsageReport r = none) (delta : Nat) (dbNow : Int) (id : String) :
    (∃ w', w.chargeUsage true r delta dbNow id = .ok w') ↔
      (0 < delta → ∀ machine, w.machineOfEnvironment (trimSpace r.environmentID) = some machine →
        w.Payable machine r.intervalEnd id) := by
  unfold chargeUsage debitEnvironmentBandwidthTx
  by_cases hd : 0 < delta
  swap
  · simp [hd]
  have hbytes : ¬(trimSpace r.environmentID = "" ∨ (delta : Int) ≤ 0) := by
    simp only [environment_of_valid hv, false_or]
    omega
  simp only [hd, and_self, if_true, if_neg hbytes, true_imp_iff]
  cases hm : w.machineOfEnvironment (trimSpace r.environmentID) with
  | none => simp
  | some machine =>
    simp only [Option.some.injEq, forall_eq', ← reserve_succeeds_iff h delta dbNow, Int.toNat_natCast]
    cases w.reserveBandwidthForMachineTx machine delta r.intervalEnd dbNow false id <;> simp

theorem upsertCounter_succeeds_iff {u : Usage} {known : Bool} {key : CounterKey} {routeRevision : Int} {bytes : Nat} :
    (∃ u', u.upsertCounter known key routeRevision bytes = .ok u') ↔ (u.counters.find key).isSome ∨ known := by
  unfold Usage.upsertCounter
  cases hc : u.counters.find key with
  | some => simp
  | none =>
    obtain ⟨counters, hi⟩ := Table.insert_of_find_none (r := (⟨key, routeRevision, bytes⟩ : UsageCounter)) hc
    cases known <;> simp [hi]

theorem known_charge {debiter : Bool} {delta : Nat} {w' : World} (h : w.chargeUsage debiter r delta dbNow id = .ok w')
    (key : CounterKey) :
    w'.known key = w.known key := by
  unfold chargeUsage at h
  split at h
  · split at h
    · cases h
      split
      · simp [known, suspendEnvironment, Table.find_update]
      · rfl
    · cases h
  · cases h
    rfl

/-- A valid report is accepted exactly when it can be settled: above all, when the entitlement the owner has by then
covers the end of its interval. -/
theorem reconcile_succeeds_iff (calls : List Call) (r : UsageReport) (hvalid : validateUsageReport r = none)
    (dbNow : Int) (id : String) :
    (∃ answer, (run step initial calls).reconcileUsageWithBandwidth r dbNow id = .ok answer) ↔
      (run step initial calls).Chargeable r id := by
  have hledger := (balanced_run calls).1
  generalize run step initial calls = w at hledger ⊢
  unfold reconcileUsageWithBandwidth reconcileUsage Chargeable
  simp only [hvalid]
  cases hf : w.usage.receipts.find r.operationID with
  | some existing => by_cases hs : sameUsageReport existing r = true <;> simp [hs]
  | none =>
    obtain ⟨receipts, hi⟩ := Table.insert_of_find_none
      (r := (⟨r.operationID, r.key, r.routeRevision, r.bytes.toNat, r.bytes.toNat - w.usage.value r.key⟩ : ReceiptRow)) hf
    have hcharges := charge_succeeds_iff hledger hvalid (r.bytes.toNat - w.usage.value r.key) dbNow id
    rw [Nat.sub_pos_iff_lt] at hcharges
    simp only [← hcharges, recordUsage, Usage.insertReceipt, hi]
    constructor
    · rintro ⟨answer, hok⟩
      obtain ⟨_, hinsert, hok⟩ := bind_eq_ok.1 hok
      cases hinsert
      obtain ⟨w₁, hcharge, hok⟩ := bind_eq_ok.1 hok
      obtain ⟨u, hupsert, -⟩ := bind_eq_ok.1 hok
      rw [known_charge hcharge] at hupsert
      have hrow := upsertCounter_succeeds_iff.1 ⟨u, hupsert⟩
      exact ⟨hrow, w₁, hcharge⟩
    · rintro ⟨hrow, w₁, hcharge⟩
      obtain ⟨u, hupsert⟩ : ∃ u, ({ w.usage with receipts } : Usage).upsertCounter (w₁.known r.key) r.key r.routeRevision r.bytes.toNat =
          .ok u := upsertCounter_succeeds_iff.2 (by rw [known_charge hcharge]; exact hrow)
      exact ⟨_, bind_eq_ok.2 ⟨_, rfl, bind_eq_ok.2 ⟨w₁, hcharge, bind_eq_ok.2 ⟨u, hupsert, rfl⟩⟩⟩⟩

/-- A report that is new, advances its counter and belongs to a machine whose owner is not entitled any more for the
end of its interval is refused. -/
theorem refused_of_not_covers {e : Entitlement} (hv : validateUsageReport r = none)
    (hnew : w.usage.receipts.find r.operationID = none) (hadv : w.usage.value r.key < r.bytes.toNat)
    (hmc : w.machineOfEnvironment (trimSpace r.environmentID) = some machine)
    (he : w.entitlements.find machine.userID = some e) (hcov : e.covers r.intervalEnd = false) :
    w.reconcileUsageWithBandwidth r dbNow id = .error .bandwidthDenied := by
  obtain ⟨receipts, hi⟩ := Table.insert_of_find_none
    (r := (⟨r.operationID, r.key, r.routeRevision, r.bytes.toNat, r.bytes.toNat - w.usage.value r.key⟩ : ReceiptRow)) hnew
  have hdt : 0 < r.bytes.toNat - w.usage.value r.key := Nat.sub_pos_of_lt hadv
  have hbytes : ¬(trimSpace r.environmentID = "" ∨ ((r.bytes.toNat - w.usage.value r.key : Nat) : Int) ≤ 0) := by
    simp only [environment_of_valid hv, false_or]
    omega
  have hcg : w.chargeUsage true r (r.bytes.toNat - w.usage.value r.key) dbNow id = .error .bandwidthDenied := by
    unfold chargeUsage debitEnvironmentBandwidthTx
    rw [if_pos ⟨rfl, hdt⟩, if_neg hbytes]
    simp [hmc, reserveBandwidthForMachineTx, ensureCurrentBandwidthPeriodAt, he, hcov, refuseIf, bind, Except.bind]
  unfold reconcileUsageWithBandwidth reconcileUsage recordUsage Usage.insertReceipt
  simp only [hv, hnew, hi, hcg]
  rfl

def EntitledAt (calls : List Call) (userID : String) (t : Int) : Prop :=
  ∃ before after, calls = before ++ after ∧ (∀ c ∈ before, c.time ≤ t) ∧ (∀ c ∈ after, t < c.time) ∧
    ∃ e, (run step initial before).entitlements.find userID = some e ∧ e.covers t

end World

namespace Sample

def renewed : Call := ⟨31 * day, .outside (tables (month (31 * day)))⟩

theorem report_valid : validateUsageReport report = none := by decide +kernel

end Sample

namespace World

open Sample

theorem report_accepted_in_time : (run step initial [started]).Chargeable report "period_1" ∧
    ∃ answer, (run step initial [started]).reconcileUsageWithBandwidth report (12 * day) "period_1" = .ok answer := by
  have hchargeable : (run step initial [started]).Chargeable report "period_1" := by
    refine ⟨.inr (by decide +kernel), fun _ m hm => ?_⟩
    obtain rfl : machine = m := Option.some.inj (.trans (by decide +kernel) hm)
    exact ⟨month day, by decide +kernel, by decide +kernel, .inr (by decide +kernel)⟩
  exact ⟨hchargeable, (reconcile_succeeds_iff [started] report report_valid (12 * day) "period_1").2 hchargeable⟩

theorem renewal_refuses_report :
    validateUsageReport report = none ∧ EntitledAt [started, renewed] machine.userID report.intervalEnd ∧
      (run step initial [started, renewed]).machineOfEnvironment (trimSpace report.environmentID) = some machine ∧
      ∀ dbNow id, (run step initial [started, renewed]).reconcileUsageWithBandwidth report dbNow id = .error .bandwidthDenied := by
  have hmachine : (run step initial [started, renewed]).machineOfEnvironment (trimSpace report.environmentID) = some machine := by
    decide +kernel
  refine ⟨report_valid, ⟨[started], [renewed], rfl, by decide +kernel, by decide +kernel,
      month day, by decide +kernel, by decide +kernel⟩,
    hmachine, fun dbNow id => ?_⟩
  exact refused_of_not_covers report_valid (by decide +kernel) (by decide +kernel) hmachine
    (show _ = some (month (31 * day)) by decide +kernel) (by decide +kernel)

end World

end Paperboat.Bandwidth

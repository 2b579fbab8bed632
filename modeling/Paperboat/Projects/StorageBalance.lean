import Paperboat.Lib.Runs
import Paperboat.Projects.Storage
/-!
# Storage accounting balances

A change of `allocated_gb` is skipped when its key is in the ledger, while
`assigned_gb` is written anyway, so the balance rests on keys that were never
used: a resize has the version of the allocation in its key, which every resize
raises. Sizes that do not fit the columns are narrowed one by one, and then the
two sides of the balance are narrowed differently.
-/

namespace Paperboat.Projects

variable {a b : String} {t1 : StorageTables}

open Lib List Table Fields

/-! ## Widths -/

theorem int32_eq {n : Int} (h0 : 0 ≤ n) (h : n ≤ maxInt32) : int32 n = n := by
  unfold maxInt32 at h
  exact Int.bmod_eq_of_le (by omega) (by omega)

def StorageOp.sizeFits : StorageOp → Bool
  | .createIntent _ storageGB _ _ | .updateDesiredConfig _ _ storageGB _ _ => 0 ≤ storageGB ∧ storageGB ≤ maxInt32
  | _ => true

/-! ## Keys -/

/-- The numbers of a resize key hold no colon, so it is read from its end. -/
theorem resizeKey_inj {v w : Nat} {o n o' n' : Int} (h : resizeKey a v o n = resizeKey b w o' n') : a = b ∧ v = w := by
  obtain ⟨h, -⟩ := last_field h (colon_toString_int n) (colon_toString_int n')
  obtain ⟨h, -⟩ := last_field h (colon_toString_int o) (colon_toString_int o')
  obtain ⟨h, hv⟩ := last_field h (colon_toString v) (colon_toString w)
  exact ⟨append_inj_left h, toString_inj hv⟩

theorem resizeKey_head (id : String) (v : Nat) (o n : Int) :
    ∃ rest, resizeKey id v o n = "project.storage.resize:" ++ rest := by
  unfold resizeKey
  simp only [String.append_assoc]
  exact ⟨_, rfl⟩

def Overlap (p q : String) : Prop := p.toList <+: q.toList ∨ q.toList <+: p.toList

structure KeyHeads : Prop where
  allocate_resize : ¬Overlap "project.storage.allocate:" "project.storage.resize:"
  allocate_delete : ¬Overlap "project.storage.allocate:" "project.storage.release.delete:"
  delete_resize : ¬Overlap "project.storage.release.delete:" "project.storage.resize:"
  projects_freePlan : ¬Overlap "project.storage." "free-plan:"
  projects : "project.storage.".toList <+: "project.storage.allocate:".toList ∧
    "project.storage.".toList <+: "project.storage.release.delete:".toList ∧
    "project.storage.".toList <+: "project.storage.resize:".toList

theorem keyHeads : KeyHeads where
  allocate_resize := by unfold Overlap; decide +kernel
  allocate_delete := by unfold Overlap; decide +kernel
  delete_resize := by unfold Overlap; decide +kernel
  projects_freePlan := by unfold Overlap; decide +kernel
  projects := by decide +kernel

theorem allocateKey_ne_resizeKey (a b : String) (v : Nat) (o n : Int) : allocateKey a ≠ resizeKey b v o n := by
  obtain ⟨rest, he⟩ := resizeKey_head b v o n
  intro h
  exact KeyHeads.allocate_resize keyHeads (heads_of_append (h.trans he))

theorem allocateKey_ne_deleteKey (a b : String) : allocateKey a ≠ deleteKey b := fun h =>
  (KeyHeads.allocate_delete keyHeads) (heads_of_append h)

theorem deleteKey_ne_resizeKey (a b : String) (v : Nat) (o n : Int) : deleteKey a ≠ resizeKey b v o n := by
  obtain ⟨rest, he⟩ := resizeKey_head b v o n
  intro h
  exact KeyHeads.delete_resize keyHeads (heads_of_append (h.trans he))

def OfProjects (key : String) : Prop := "project.storage.".toList <+: key.toList

theorem ofProjects_of_head {p rest : String} (h : "project.storage.".toList <+: p.toList) : OfProjects (p ++ rest) := by
  unfold OfProjects
  rw [String.toList_append]
  exact h.trans (prefix_append _ _)

theorem not_ofProjects_freePlanKey (planID userID : String) : ¬OfProjects (freePlanKey planID userID) := by
  have he : freePlanKey planID userID = "free-plan:" ++ (planID ++ ":storage:" ++ userID) := by
    simp only [freePlanKey, String.append_assoc]
  intro h
  rw [he] at h
  unfold OfProjects at h
  rw [String.toList_append] at h
  exact KeyHeads.projects_freePlan keyHeads (List.prefix_or_prefix_of_prefix h (prefix_append _ _))

/-! ## Sums -/

namespace StorageTables

variable {projectID accountID key userID : String} {p : StoredProject} {change : StoredProject → StoredProject}
  {a : StorageAccount} {delta storageGB : Int} {pending : PendingLimits} {entries : List StorageEntry}

variable {t t' : StorageTables}

def weight (accountID : String) (p : StoredProject) : Int :=
  if p.accountID = accountID ∧ p.state ≠ .deleted then p.assignedGB else 0

theorem assignedTo_eq (t : StorageTables) (accountID : String) :
    t.assignedTo accountID = (t.projects.rows.map (weight accountID)).sum := by
  unfold assignedTo
  induction t.projects.rows with
  | nil => rfl
  | cons p _ ih =>
    by_cases h : p.accountID = accountID ∧ p.state ≠ .deleted
    · rw [filter_cons_of_pos (by simpa using h)]
      simp only [map_cons, sum_cons, ih, weight, if_pos h]
    · rw [filter_cons_of_neg (by simpa using h)]
      simp only [map_cons, sum_cons, ih, weight, if_neg h, zero_add]

theorem mem_setProject (h : t.projects.find projectID = some p) {keeps : ∀ p, (change p).id = p.id} {q : StoredProject} :
    q ∈ (t.setProject projectID change keeps).projects.rows ↔ q = change p ∨ q ∈ t.projects.rows ∧ q.id ≠ projectID :=
  show q ∈ (t.projects.update _ change keeps).rows ↔ _ from mem_update_key h fun _ => beq_iff_eq

theorem assignedTo_congr (h : t'.projects = t.projects) (accountID : String) :
    t'.assignedTo accountID = t.assignedTo accountID := by
  unfold assignedTo
  rw [h]

/-! ## What a transaction does -/

def allocatedOf (t : StorageTables) (accountID : String) : Int := ((t.accounts.find accountID).map (·.allocatedGB)).getD 0

/-- `allocated_gb` of one account moves by `delta`, and `entries` are new in the ledger. -/
structure Moves (t t' : StorageTables) (accountID : String) (delta : Int) (entries : List StorageEntry) : Prop where
  projects : t'.projects = t.projects
  accounts : ∀ id a, t.accounts.find id = some a → ∃ a', t'.accounts.find id = some a'
  valid : (∀ a ∈ t.accounts.rows, a.valid) → ∀ a ∈ t'.accounts.rows, a.valid
  allocated : ∀ id, t'.allocatedOf id = t.allocatedOf id + if id = accountID then delta else 0
  ledger : t'.ledger.rows = t.ledger.rows ++ entries

theorem Moves.refl (t : StorageTables) (accountID : String) : t.Moves t accountID 0 [] where
  projects := rfl
  accounts _ a h := ⟨a, h⟩
  valid h := h
  allocated id := by rw [ite_self, add_zero]
  ledger := (append_nil _).symm

theorem moves_setAccount (ha : t.accounts.find accountID = some a)
    {change : StorageAccount → StorageAccount} {keeps : ∀ a, (change a).id = a.id}
    (hdt : (change a).allocatedGB = a.allocatedGB + delta) (h : t.setAccount accountID change keeps = .ok t') :
    t.Moves t' accountID delta [] := by
  unfold setAccount at h
  rw [ha] at h
  simp only at h
  split at h
  case isFalse => cases h
  rename_i hv
  cases h
  refine ⟨rfl, fun id b hb => ?_, fun hall b hb => ?_, fun id => ?_, (append_nil _).symm⟩
  · exact ⟨_, by rw [find_update, hb]; rfl⟩
  · rcases (@mem_update _ _ _ _ _ _ keeps _).1 hb with ⟨c, hc, hsel, rfl⟩ | ⟨hb, -⟩
    · obtain rfl : c = a := eq_of_find ha hc (beq_iff_eq.1 hsel)
      exact hv
    · exact hall b hb
  · unfold allocatedOf
    rw [find_update_key ha fun _ => beq_iff_eq]
    split_ifs with hid
    · subst hid
      rwa [ha]
    · rw [add_zero]

/-- A write that leaves `allocated_gb` alone, whether or not there is such an account. -/
theorem moves_setLimits {change : StorageAccount → StorageAccount} {keeps : ∀ a, (change a).id = a.id}
    (h : t.setAccount accountID change keeps = .ok t') (hsame : ∀ a, (change a).allocatedGB = a.allocatedGB) :
    t.Moves t' accountID 0 [] := by
  cases ha : t.accounts.find accountID with
  | some a => exact moves_setAccount ha ((hsame a).trans (add_zero _).symm) h
  | none =>
    unfold setAccount at h
    rw [ha] at h
    cases h
    exact .refl t accountID

theorem Moves.insertEntry {e : StorageEntry}
    (hm : t.Moves t1 accountID delta []) (h : t1.insertEntry e = .ok t') : t.Moves t' accountID delta [e] := by
  unfold StorageTables.insertEntry at h
  split at h
  · rename_i ledger hins
    cases h
    refine ⟨hm.projects, hm.accounts, hm.valid, hm.allocated, ?_⟩
    rw [(insert_eq_some.1 hins).2, hm.ledger, append_nil]
  · cases h

theorem account_eq_ok (h : t.account accountID = .ok a) : t.accounts.find accountID = some a := by
  unfold account at h
  split at h
  · rename_i hf
    rw [hf, Except.ok.inj h]
  · cases h

theorem ledgerAmount_of_fresh (h : t.ledger.find key = none) (accountID : String)
    (source : StorageSource) (entryType : StorageEntryType) : t.ledgerAmount key accountID source entryType = none := by
  simp [ledgerAmount, h]

theorem reserveStorageTx_ok {amountGB : Int}
    (hfr : t.ledger.find key = none) (h : t.reserveStorageTx accountID projectID amountGB key pending = .ok t') :
    t.Moves t' accountID (int32 amountGB) [⟨accountID, .allocation, int32 amountGB, .project projectID, key⟩] := by
  unfold reserveStorageTx at h
  rw [ledgerAmount_of_fresh hfr] at h
  simp only [bind_eq_ok] at h
  obtain ⟨account, hacc, -, -, t1, hadd, hins⟩ := h
  exact (moves_setAccount (account_eq_ok hacc) rfl hadd).insertEntry hins

theorem releaseStorageReservationTx_ok {amountGB : Int}
    (hfr : t.ledger.find key = none) (h : t.releaseStorageReservationTx accountID projectID amountGB key = .ok t') :
    t.Moves t' accountID (-int32 amountGB) [⟨accountID, .release, int32 amountGB, .project projectID, key⟩] := by
  unfold releaseStorageReservationTx at h
  rw [ledgerAmount_of_fresh hfr] at h
  simp only [bind_eq_ok] at h
  obtain ⟨account, hacc, -, -, t1, hadd, hins⟩ := h
  exact (moves_setAccount (account_eq_ok hacc) rfl hadd).insertEntry hins

theorem insertProject_ok (h : t.insertProject p = .ok t') :
    (∀ q ∈ t.projects.rows, q.id ≠ p.id) ∧ t'.projects.rows = t.projects.rows ++ [p] ∧ t'.accounts = t.accounts ∧
      t'.ledger = t.ledger := by
  unfold insertProject at h
  split at h
  · cases h
  split at h
  · rename_i projects hins
    obtain ⟨hnew, hrows⟩ := insert_eq_some.1 hins
    cases h
    exact ⟨hnew, hrows, rfl, rfl⟩
  · cases h

theorem ensureStorageAccount_ok {newID : String} (h : t.ensureStorageAccount newID userID = .ok (t', accountID)) :
    t.Moves t' accountID 0 [] ∧ ∃ a, t'.accounts.find accountID = some a := by
  unfold ensureStorageAccount at h
  split at h
  · rename_i a ha
    cases h
    exact ⟨.refl t _, a, find_eq_some.2 ⟨mem_of_find?_eq_some ha, rfl⟩⟩
  · split at h
    case h_2 => cases h
    rename_i accounts hins
    cases h
    obtain ⟨hnew, hrows⟩ := insert_eq_some.1 hins
    have hfind := find_insert hins
    refine ⟨⟨rfl, fun id b hb => ⟨b, find_insert_of_find hins hb⟩, fun hall b hb => ?_, fun id => ?_,
      (append_nil _).symm⟩, ?_⟩
    · rw [hrows] at hb
      rcases mem_append.1 hb with hb | hb
      · exact hall b hb
      · rw [mem_singleton.1 hb]
        simp [StorageAccount.valid, maxInt32]
    · simp only [allocatedOf, hfind, ite_self, add_zero]
      split
      · rename_i he
        rw [he, Option.eq_none_iff_forall_ne_some.2 fun b hb => hnew b (find_eq_some.1 hb).1 (find_eq_some.1 hb).2]
        rfl
      · rfl
    · exact ⟨_, (hfind _).trans (if_pos rfl)⟩

theorem ensureFreeStorage_ok {plan : FreePlan} (h : t.ensureFreeStorage userID accountID plan = .ok t') :
    ∃ entries, t.Moves t' accountID 0 entries ∧ ∀ e ∈ entries, e.idempotencyKey = freePlanKey plan.id userID := by
  unfold ensureFreeStorage at h
  split at h
  · split at h
    · cases h
      exact ⟨[], .refl t accountID, by simp⟩
    · cases h
  · simp only [bind_eq_ok] at h
    obtain ⟨account, hacc, -, -, t1, hset, hins⟩ := h
    exact ⟨_, (moves_setAccount (account_eq_ok hacc) (add_zero _).symm hset).insertEntry hins, by simp⟩

/-! ## Keys in the ledger -/

/-- Where the key of an entry comes from: the creation of a project, one of its resizes so
far, its deletion, or nothing that has to do with projects. -/
inductive Accounted (t : StorageTables) (key : String) : Prop where
  | allocated (p : StoredProject) (hp : p ∈ t.projects.rows) (h : key = allocateKey p.id)
  | resized (p : StoredProject) (hp : p ∈ t.projects.rows) (v : Nat) (oldGB newGB : Int)
      (hv : v < p.allocationVersion) (h : key = resizeKey p.id v oldGB newGB)
  | released (p : StoredProject) (hp : p ∈ t.projects.rows) (hd : p.state = .deleted) (h : key = deleteKey p.id)
  | other (h : ¬OfProjects key)

def Grows (t t' : StorageTables) : Prop :=
  ∀ p ∈ t.projects.rows, ∃ p' ∈ t'.projects.rows, p'.id = p.id ∧ p.allocationVersion ≤ p'.allocationVersion ∧
    (p.state = .deleted → p'.state = .deleted)

theorem grows_setProject (h : t.projects.find projectID = some p) (keeps : ∀ p, (change p).id = p.id)
    (hv : p.allocationVersion ≤ (change p).allocationVersion) (hd : p.state = .deleted → (change p).state = .deleted) :
    t.Grows (t.setProject projectID change keeps) := by
  intro q hq
  by_cases hid : q.id = projectID
  · obtain rfl : q = p := eq_of_find h hq hid
    exact ⟨change q, (mem_setProject h).2 (.inl rfl), keeps q, hv, hd⟩
  · exact ⟨q, (mem_setProject h).2 (.inr ⟨hq, hid⟩), rfl, le_refl _, fun h => h⟩

theorem Accounted.grows (h : t.Accounted key) (hg : t.Grows t') : t'.Accounted key := by
  cases h with
  | allocated p hp h =>
    obtain ⟨p', hp', hid, -, -⟩ := hg p hp
    exact .allocated p' hp' (hid ▸ h)
  | resized p hp v oldGB newGB hv h =>
    obtain ⟨p', hp', hid, hver, -⟩ := hg p hp
    exact .resized p' hp' v oldGB newGB (lt_of_lt_of_le hv hver) (hid ▸ h)
  | released p hp hd h =>
    obtain ⟨p', hp', hid, -, hdel⟩ := hg p hp
    exact .released p' hp' (hdel hd) (hid ▸ h)
  | other h => exact .other h

structure Sound (t : StorageTables) : Prop where
  valid : ∀ a ∈ t.accounts.rows, a.valid
  owned : ∀ p ∈ t.projects.rows, ∃ a, t.accounts.find p.accountID = some a
  keys : ∀ e ∈ t.ledger.rows, t.Accounted e.idempotencyKey
  released : ∀ p ∈ t.projects.rows, p.state = .deleted → ∃ e ∈ t.ledger.rows, e.idempotencyKey = deleteKey p.id

theorem Sound.accounted (h : t.Sound) {e : StorageEntry} (he : t.ledger.find key = some e) : t.Accounted key := by
  obtain ⟨hmem, rfl⟩ := find_eq_some.1 he
  exact h.keys e hmem

theorem Sound.resize_fresh (h : t.Sound) (hp : p ∈ t.projects.rows) (oldGB newGB : Int) :
    t.ledger.find (resizeKey p.id p.allocationVersion oldGB newGB) = none := by
  refine Option.eq_none_iff_forall_ne_some.2 fun e he => ?_
  cases h.accounted he with
  | allocated _ _ hk => exact allocateKey_ne_resizeKey _ _ _ _ _ hk.symm
  | resized q hq _ _ _ _ hk =>
    obtain ⟨hid, hver⟩ := resizeKey_inj hk
    obtain rfl : p = q := eq_of_key hp hq hid
    omega
  | released _ _ _ hk => exact deleteKey_ne_resizeKey _ _ _ _ _ hk.symm
  | other hn =>
    obtain ⟨rest, he⟩ := resizeKey_head _ _ _ _
    exact hn (he ▸ ofProjects_of_head (KeyHeads.projects keyHeads).2.2)

theorem Sound.allocate_fresh (h : t.Sound) (hp : ∀ p ∈ t.projects.rows, p.id ≠ projectID) :
    t.ledger.find (allocateKey projectID) = none := by
  refine Option.eq_none_iff_forall_ne_some.2 fun e he => ?_
  cases h.accounted he with
  | allocated q hq hk => exact hp q hq (append_inj_left hk).symm
  | resized _ _ _ _ _ _ hk => exact allocateKey_ne_resizeKey _ _ _ _ _ hk
  | released _ _ _ hk => exact allocateKey_ne_deleteKey _ _ hk
  | other hn => exact hn (ofProjects_of_head (KeyHeads.projects keyHeads).1)

theorem Sound.delete_fresh_iff (h : t.Sound) (hp : p ∈ t.projects.rows) :
    t.ledger.find (deleteKey p.id) = none ↔ p.state ≠ .deleted := by
  constructor
  · intro hf hd
    obtain ⟨e, he, hk⟩ := h.released p hp hd
    rw [find_eq_some.2 ⟨he, hk⟩] at hf
    cases hf
  · intro hd
    refine Option.eq_none_iff_forall_ne_some.2 fun e he => ?_
    cases h.accounted he with
    | allocated _ _ hk => exact allocateKey_ne_deleteKey _ _ hk.symm
    | resized _ _ _ _ _ _ hk => exact deleteKey_ne_resizeKey _ _ _ _ _ hk
    | released q hq hdel hk =>
      obtain rfl : p = q := eq_of_key hp hq (append_inj_left hk)
      exact hd hdel
    | other hn => exact hn (ofProjects_of_head (KeyHeads.projects keyHeads).2.1)

/-! ## Soundness -/

theorem Sound.grow (h : t.Sound) (hg : t.Grows t') (hm : t.Moves t1 accountID delta entries)
    (hacc : t'.accounts = t1.accounts) (hlg : t'.ledger = t1.ledger)
    (hrows : ∀ p ∈ t'.projects.rows, p ∈ t.projects.rows ∨ (∃ a, t.accounts.find p.accountID = some a) ∧
      (p.state = .deleted → ∃ e ∈ t'.ledger.rows, e.idempotencyKey = deleteKey p.id))
    (hkeys : ∀ e ∈ entries, t'.Accounted e.idempotencyKey) : t'.Sound where
  valid := hacc ▸ hm.valid h.valid
  owned p hp := by
    obtain ⟨a, ha⟩ := (hrows p hp).elim (h.owned p) And.left
    exact hacc ▸ hm.accounts _ a ha
  keys e he := by
    rw [hlg, hm.ledger] at he
    rcases mem_append.1 he with he | he
    · exact (h.keys e he).grows hg
    · exact hkeys e he
  released p hp hd := by
    rcases hrows p hp with hp | ⟨-, hrow⟩
    · obtain ⟨e, he, hk⟩ := h.released p hp hd
      exact ⟨e, hlg ▸ hm.ledger ▸ mem_append_left _ he, hk⟩
    · exact hrow hd

theorem Sound.moves (h : t.Sound)
    (hm : t.Moves t' accountID delta entries) (hkeys : ∀ e ∈ entries, t'.Accounted e.idempotencyKey) : t'.Sound :=
  h.grow (fun p hp => ⟨p, hm.projects ▸ hp, rfl, le_refl _, fun h => h⟩) hm rfl rfl (fun _ hp => .inl (hm.projects ▸ hp)) hkeys

theorem Sound.setProject (h : t.Sound) (hp : t.projects.find projectID = some p) (hm : t.Moves t' accountID delta entries)
    {keeps : ∀ p, (change p).id = p.id}
    (hacc : (change p).accountID = p.accountID) (hv : p.allocationVersion ≤ (change p).allocationVersion)
    (hd : p.state = .deleted → (change p).state = .deleted)
    (hr : (change p).state = .deleted → p.state = .deleted ∨ ∃ e ∈ entries, e.idempotencyKey = deleteKey projectID)
    (hkeys : change p ∈ (t'.setProject projectID change keeps).projects.rows →
      ∀ e ∈ entries, (t'.setProject projectID change keeps).Accounted e.idempotencyKey) :
    (t'.setProject projectID change keeps).Sound := by
  obtain ⟨hmem, hid⟩ := find_eq_some.1 hp
  rw [← hm.projects] at hp
  have hg : t.Grows (t'.setProject projectID change keeps) := fun q hq =>
    grows_setProject hp keeps hv hd q (hm.projects ▸ hq)
  refine h.grow hg hm rfl rfl (fun q hq => ?_) (hkeys ((mem_setProject hp).2 (.inl rfl)))
  rcases (mem_setProject hp).1 hq with rfl | ⟨hq, -⟩
  · refine .inr ⟨hacc ▸ h.owned p hmem, fun hdel => ?_⟩
    rw [keeps, hid]
    rcases hr hdel with hdel | ⟨e, he, hk⟩
    · obtain ⟨e, he, hk⟩ := h.released p hmem hdel
      exact ⟨e, hm.ledger ▸ mem_append_left _ he, hid ▸ hk⟩
    · exact ⟨e, hm.ledger ▸ mem_append_right _ he, hk⟩
  · exact .inl (hm.projects ▸ hq)

def moved (delta : Int) : Int := if delta > 0 then int32 delta else -int32 (int64 (-delta))

theorem Sound.resize_ok (h : t.Sound) (hp : p ∈ t.projects.rows) (hok : t.resize p storageGB pending = .ok t') :
    ∃ entries, t.Moves t' p.accountID (moved (int64 (storageGB - p.assignedGB))) entries ∧
      ∀ e ∈ entries, e.idempotencyKey = resizeKey p.id p.allocationVersion p.assignedGB storageGB := by
  have hfr := h.resize_fresh hp p.assignedGB storageGB
  unfold resize at hok
  simp only at hok
  split_ifs at hok with hpos hneg
  · rw [moved, if_pos hpos]
    exact ⟨_, reserveStorageTx_ok hfr hok, by simp⟩
  · rw [moved, if_neg hpos]
    exact ⟨_, releaseStorageReservationTx_ok hfr hok, by simp⟩
  cases hok
  have hz : int64 (storageGB - p.assignedGB) = 0 := by omega
  rw [hz]
  exact ⟨[], .refl t _, by simp⟩

theorem Sound.insertProject (h : t.Sound)
    (hok : t.insertProject p = .ok t') (ha : t.accounts.find p.accountID = some a) (hd : p.state ≠ .deleted) :
    t'.Sound := by
  obtain ⟨-, hrows, hacc, hlg⟩ := insertProject_ok hok
  have hg : t.Grows t' := fun q hq => ⟨q, hrows ▸ mem_append_left _ hq, rfl, le_refl _, fun h => h⟩
  refine h.grow hg (.refl t p.accountID) hacc hlg (fun q hq => ?_) (by simp)
  rcases mem_append.1 (hrows ▸ hq) with hq | hq
  · exact .inl hq
  · rw [mem_singleton.1 hq]
    exact .inr ⟨⟨a, ha⟩, fun hdel => absurd hdel hd⟩

theorem moved_eq {oldGB newGB : Int} (ho : 0 ≤ oldGB) (ho' : oldGB ≤ maxInt32) (hn : 0 ≤ newGB) (hn' : newGB ≤ maxInt32) :
    moved (int64 (newGB - oldGB)) = newGB - oldGB := by
  have hmax : maxInt32 = 2147483647 := rfl
  have hfit : int64 (newGB - oldGB) = newGB - oldGB := Int.bmod_eq_of_le (by omega) (by omega)
  have hneg : int64 (-(newGB - oldGB)) = -(newGB - oldGB) := Int.bmod_eq_of_le (by omega) (by omega)
  rw [moved, hfit]
  split
  · exact int32_eq (by omega) (by omega)
  · rw [hneg, int32_eq (by omega) (by omega), neg_neg]

/-! ## Balance -/

structure Balanced (t : StorageTables) : Prop where
  sums : ∀ id, t.allocatedOf id = t.assignedTo id
  sizes : ∀ p ∈ t.projects.rows, 0 ≤ p.assignedGB ∧ p.assignedGB ≤ maxInt32

theorem Balanced.moves (h : t.Balanced) (hm : t.Moves t' accountID 0 entries) : t'.Balanced where
  sums id := by rw [hm.allocated, ite_self, add_zero, h.sums, assignedTo_congr hm.projects]
  sizes := hm.projects ▸ h.sizes

theorem Balanced.setProject (h : t.Balanced)
    (hp : t.projects.find projectID = some p) (hm : t.Moves t' accountID delta entries) {keeps : ∀ p, (change p).id = p.id}
    (hw : ∀ id, weight id (change p) = weight id p + if id = accountID then delta else 0)
    (hs : 0 ≤ (change p).assignedGB ∧ (change p).assignedGB ≤ maxInt32) :
    (t'.setProject projectID change keeps).Balanced where
  sums id := by
    have hsum : (t'.setProject projectID change keeps).assignedTo id =
        t'.assignedTo id - weight id p + weight id (change p) := by
      rw [assignedTo_eq, assignedTo_eq]
      exact sum_update (hm.projects ▸ hp) keeps _
    have hall : (t'.setProject projectID change keeps).allocatedOf id = t'.allocatedOf id := rfl
    rw [hall, hsum, hm.allocated, hw, h.sums, assignedTo_congr hm.projects]
    omega
  sizes q hq := by
    rcases (mem_setProject (hm.projects ▸ hp)).1 hq with rfl | ⟨hq, -⟩
    · exact hs
    · exact h.sizes q (hm.projects ▸ hq)

theorem Balanced.insertProject (h : t.Balanced)
    (hok : t.insertProject p = .ok t1) (hm : t1.Moves t' p.accountID p.assignedGB entries) (hd : p.state ≠ .deleted)
    (hs : 0 ≤ p.assignedGB ∧ p.assignedGB ≤ maxInt32) : t'.Balanced := by
  obtain ⟨-, hrows, hacc, -⟩ := insertProject_ok hok
  refine ⟨fun id => ?_, fun q hq => ?_⟩
  · have hall : t1.allocatedOf id = t.allocatedOf id := by rw [allocatedOf, hacc]; rfl
    have hsum : t1.assignedTo id = t.assignedTo id + weight id p := by
      rw [assignedTo_eq, assignedTo_eq, hrows]
      simp
    have hw : weight id p = if id = p.accountID then p.assignedGB else 0 := by
      simp only [weight, hd, ne_eq, not_false_eq_true, and_true, eq_comm]
    rw [hm.allocated, assignedTo_congr hm.projects, hall, hsum, hw, h.sums]
  · rw [hm.projects, hrows] at hq
    rcases mem_append.1 hq with hq | hq
    · exact h.sizes q hq
    · rwa [mem_singleton.1 hq]

/-! ## Transactions -/

theorem createIntent_ok (h : t.Sound) {new : NewProject} {freePlan : Option FreePlan}
    (hok : t.createIntent new storageGB freePlan pending = .ok t') :
    t'.Sound ∧ (0 ≤ storageGB ∧ storageGB ≤ maxInt32 → t.Balanced → t'.Balanced) := by
  unfold createIntent at hok
  simp only [bind_eq_ok] at hok
  obtain ⟨⟨t1, accountID⟩, hens, hok⟩ := hok
  obtain ⟨hm1, a, ha⟩ := ensureStorageAccount_ok hens
  obtain ⟨t2, entries, hm2, hkeys, t3, hins, hres⟩ : ∃ t2 entries, t1.Moves t2 accountID 0 entries ∧
      (∀ e ∈ entries, ¬OfProjects e.idempotencyKey) ∧ ∃ t3,
        t2.insertProject ⟨new.id, new.userID, new.idempotencyKey, .provisioningStorage, 2, accountID, int32 storageGB, 1⟩ =
          .ok t3 ∧ t3.reserveStorageTx accountID new.id storageGB (allocateKey new.id) pending = .ok t' := by
    cases freePlan with
    | none =>
      simp only [bind_eq_ok] at hok
      obtain ⟨t2, he, t3, hins, hres⟩ := hok
      cases he
      exact ⟨t1, [], .refl _ _, by simp, t3, hins, hres⟩
    | some =>
      simp only [bind_eq_ok] at hok
      obtain ⟨t2, hfree, t3, hins, hres⟩ := hok
      obtain ⟨entries, hm, hkeys⟩ := ensureFreeStorage_ok hfree
      exact ⟨t2, entries, hm, fun e he => hkeys e he ▸ not_ofProjects_freePlanKey _ _, t3, hins, hres⟩
  have hs2 : t2.Sound := (h.moves hm1 (by simp)).moves hm2 fun e he => .other (hkeys e he)
  obtain ⟨a', ha'⟩ := hm2.accounts _ a ha
  obtain ⟨hnew, hrows, -, hlg⟩ := insertProject_ok hins
  have hs3 : t3.Sound := hs2.insertProject hins ha' nofun
  have hfr : t3.ledger.find (allocateKey new.id) = none := hlg ▸ hs2.allocate_fresh hnew
  have hm3 := reserveStorageTx_ok hfr hres
  have hmem := mem_append_right t2.projects.rows (mem_singleton_self (StoredProject.mk new.id new.userID
    new.idempotencyKey .provisioningStorage 2 accountID (int32 storageGB) 1))
  rw [← hrows, ← hm3.projects] at hmem
  refine ⟨hs3.moves hm3 fun e he => ?_, fun hsize hb => ?_⟩
  · rw [mem_singleton.1 he]
    exact .allocated _ hmem rfl
  · have hfit : int32 storageGB = storageGB := int32_eq hsize.1 hsize.2
    refine ((hb.moves hm1).moves hm2).insertProject hins hm3 nofun ?_
    simpa only [hfit] using hsize

theorem projectOf_eq_ok (h : t.projectOf userID projectID = .ok p) : t.projects.find projectID = some p := by
  unfold projectOf at h
  split at h
  · rename_i hf
    split at h
    · rw [hf, Except.ok.inj h]
    · cases h
  · cases h

theorem updateDesiredConfig_ok (h : t.Sound) {expectedVersion : Option Nat}
    (hok : t.updateDesiredConfig userID projectID storageGB expectedVersion pending = .ok t') :
    t'.Sound ∧ (0 ≤ storageGB ∧ storageGB ≤ maxInt32 → t.Balanced → t'.Balanced) := by
  unfold updateDesiredConfig at hok
  simp only [bind_eq_ok, refuseIf_eq_ok, decide_eq_false_iff_not] at hok
  obtain ⟨p, hp, -, -, -, hlive, t1, hres, hset⟩ := hok
  cases hset
  replace hp := projectOf_eq_ok hp
  obtain ⟨hmem, hid⟩ := find_eq_some.1 hp
  have hnot : p.state ≠ .deleted := fun hd => hlive (.inr hd)
  obtain ⟨entries, hm, hkeys⟩ := h.resize_ok hmem hres
  refine ⟨h.setProject hp hm rfl (Nat.le_succ _) (fun hd => hd) (fun hd => .inl hd) fun hnext e he => ?_,
    fun hsize hb => ?_⟩
  · -- The version in the key is the one before.
    exact .resized _ hnext p.allocationVersion _ _ (Nat.lt_succ_self _) (hkeys e he)
  · have hold := hb.sizes p hmem
    have hfit := int32_eq hsize.1 hsize.2
    refine hb.setProject hp hm (fun id => ?_) (by simpa only [hfit] using hsize)
    simp only [weight, hnot, ne_eq, not_false_eq_true, and_true, hfit, moved_eq hold.1 hold.2 hsize.1 hsize.2,
      eq_comm (a := id)]
    split <;> omega

theorem markDeletedAndReleaseStorage_ok (h : t.Sound)
    (hok : t.markDeletedAndReleaseStorage projectID = .ok t') : t'.Sound ∧ (t.Balanced → t'.Balanced) := by
  unfold markDeletedAndReleaseStorage at hok
  split at hok
  case h_1 => cases hok
  rename_i p hp
  obtain ⟨hmem, hid⟩ := find_eq_some.1 hp
  have hiff := h.delete_fresh_iff hmem
  rw [hid] at hiff
  obtain ⟨t1, delta, entries, hm, hkeys, hrl, hdt, rfl⟩ : ∃ t1 delta entries, t.Moves t1 p.accountID delta entries ∧
      (∀ e ∈ entries, e.idempotencyKey = deleteKey projectID) ∧ (p.state = .deleted ∨ entries ≠ []) ∧
      (delta = if p.state = .deleted then 0 else -p.assignedGB) ∧
      t' = t1.setProject projectID (fun p => { p with state := .deleted, version := p.version + 1 }) fun _ => rfl := by
    split at hok
    · rename_i e he
      have hd : p.state = .deleted := by
        by_contra hd
        rw [hiff.2 hd] at he
        cases he
      exact ⟨t, 0, [], .refl t _, by simp, .inl hd, by rw [if_pos hd], (Except.ok.inj hok).symm⟩
    · rename_i hnone
      simp only [bind_eq_ok] at hok
      obtain ⟨t0, hadd, t1, hins, hok⟩ := hok
      obtain ⟨a, ha⟩ := h.owned p hmem
      exact ⟨t1, _, _, (moves_setAccount ha rfl hadd).insertEntry hins, by simp, .inr (by simp),
        by rw [if_neg (hiff.1 hnone)], (Except.ok.inj hok).symm⟩
  refine ⟨h.setProject hp hm rfl (le_refl _) (fun _ => rfl) (fun _ => ?_) fun hnext e he => ?_, fun hb => ?_⟩
  · refine hrl.imp_right fun hne => ?_
    obtain ⟨e, he⟩ := exists_mem_of_ne_nil _ hne
    exact ⟨e, he, hkeys e he⟩
  · exact .released _ hnext rfl (hid ▸ hkeys e he)
  · refine hb.setProject hp hm (fun id => ?_) (hb.sizes p hmem)
    by_cases hd : p.state = .deleted
    · simp [hdt, weight, hd]
    simp only [hdt, weight, hd, ne_eq, not_true_eq_false, not_false_eq_true, and_false, and_true, if_false,
      eq_comm (a := id)]
    split <;> omega

/-- A state that is not `deleted` is recorded in place of one that is not either. -/
theorem recordState_ok (h : t.Sound) (hp : t.projects.find projectID = some p) (keeps : ∀ p, (change p).id = p.id)
    (hacc : (change p).accountID = p.accountID) (hv : (change p).allocationVersion = p.allocationVersion)
    (hgb : (change p).assignedGB = p.assignedGB) (hd : p.state = .deleted ↔ (change p).state = .deleted) :
    (t.setProject projectID change keeps).Sound ∧ (t.Balanced → (t.setProject projectID change keeps).Balanced) := by
  have hm := Moves.refl t p.accountID
  refine ⟨h.setProject hp hm hacc hv.ge hd.1 (fun hdel => .inl (hd.2 hdel)) (by simp), fun hb => ?_⟩
  refine hb.setProject hp hm (fun id => ?_) (hgb ▸ hb.sizes p (find_eq_some.1 hp).1)
  simp [weight, hacc, hgb, hd]

theorem markDeleting_ok (h : t.Sound) {provisioned : Bool}
    (hok : t.markDeleting userID projectID provisioned = .ok t') : t'.Sound ∧ (t.Balanced → t'.Balanced) := by
  unfold markDeleting at hok
  simp only [bind_eq_ok, refuseIf_eq_ok, decide_eq_false_iff_not] at hok
  obtain ⟨p, hp, -, hlive, hok⟩ := hok
  have hset := recordState_ok h (projectOf_eq_ok hp)
    (fun p => (rfl : { p with state := .deleting, version := p.version + 1 }.id = p.id)) rfl rfl rfl (by simpa using hlive)
  split at hok
  · cases hok
    exact hset
  exact (markDeletedAndReleaseStorage_ok hset.1 hok).imp_right fun hb h' => hb (hset.2 h')

/-! ## Histories -/

theorem exec_ok (h : t.Sound) {op : StorageOp} (hok : t.exec op = .ok t') :
    t'.Sound ∧ (op.sizeFits → t.Balanced → t'.Balanced) := by
  cases op with
  | createIntent => exact (createIntent_ok h hok).imp_right fun hb hfit => hb (of_decide_eq_true hfit)
  | updateDesiredConfig => exact (updateDesiredConfig_ok h hok).imp_right fun hb hfit => hb (of_decide_eq_true hfit)
  | markDeleting => exact (markDeleting_ok h hok).imp_right fun hb _ => hb
  | markDeletedAndReleaseStorage => exact (markDeletedAndReleaseStorage_ok h hok).imp_right fun hb _ => hb
  | openAccount newID userID =>
    simp only [exec] at hok
    cases hens : t.ensureStorageAccount newID userID with
    | error =>
      rw [hens] at hok
      cases hok
    | ok =>
      rw [hens] at hok
      cases hok
      have hm := (ensureStorageAccount_ok hens).1
      exact ⟨h.moves hm (by simp), fun _ hb => hb.moves hm⟩
  | recordState projectID state =>
    cases hok
    cases hp : t.projects.find projectID with
    | none =>
      unfold StorageTables.setProject
      rw [t.projects.update_of_find_none hp]
      exact ⟨h, fun _ hb => hb⟩
    | some p =>
      have hd : p.state = .deleted ↔
          (if p.state = .deleted ∨ state = .deleted then p else { p with state, version := p.version + 1 }).state =
            .deleted := by
        split
        · rfl
        · rename_i hn
          exact ⟨fun hd => absurd (.inl hd) hn, fun hd => absurd (.inr hd) hn⟩
      refine (recordState_ok h hp _ ?_ ?_ ?_ hd).imp_right fun hb _ => hb
      all_goals split <;> rfl
  | setLimits =>
    have hm := moves_setLimits hok fun _ => rfl
    exact ⟨h.moves hm (by simp), fun _ hb => hb.moves hm⟩

theorem NoProjects.sound (h : t.NoProjects) : t.Sound where
  valid a ha := (h.accounts a ha).1
  owned _ hp := absurd (h.projects ▸ hp) not_mem_nil
  keys e he := .other (h.ledger e he)
  released _ hp := absurd (h.projects ▸ hp) not_mem_nil

theorem NoProjects.balanced (h : t.NoProjects) : t.Balanced where
  sums id := by
    have hnone : t.assignedTo id = 0 := by rw [assignedTo_eq, h.projects]; rfl
    rw [hnone, allocatedOf]
    cases ha : t.accounts.find id with
    | none => rfl
    | some a => exact (h.accounts a (find_eq_some.1 ha).1).2
  sizes p hp := absurd (h.projects ▸ hp) not_mem_nil

theorem Sound.step (h : t.Sound) (op : StorageOp) : (t.step op).Sound := by
  unfold StorageTables.step
  split
  · exact (exec_ok h ‹_›).1
  · exact h

theorem Balanced.step (h : t.Sound) (hb : t.Balanced) {op : StorageOp} (hfit : op.sizeFits) :
    (t.step op).Balanced := by
  unfold StorageTables.step
  split
  · exact (exec_ok h ‹_›).2 hfit hb
  · exact hb

/-- What is allocated stays within what may be, and a resize never finds its key used. When every size fits the
columns, what is allocated is what the projects are assigned. -/
theorem storage_balances (h : t.NoProjects) (ops : List StorageOp) :
    (∀ a ∈ (run StorageTables.step t ops).accounts.rows, a.allocatedGB ≤ a.includedGB + a.purchasedGB) ∧
      (∀ p ∈ (run StorageTables.step t ops).projects.rows, ∀ newGB,
        (run StorageTables.step t ops).ledger.find (resizeKey p.id p.allocationVersion p.assignedGB newGB) = none) ∧
      ((∀ op ∈ ops, op.sizeFits) → ∀ a ∈ (run StorageTables.step t ops).accounts.rows,
        a.allocatedGB = (run StorageTables.step t ops).assignedTo a.id) := by
  have hs : (run StorageTables.step t ops).Sound := run_inv' (fun _ op h => h.step op) h.sound ops
  refine ⟨fun a ha => ?_, fun p hp newGB => hs.resize_fresh hp _ newGB, fun hfit a ha => ?_⟩
  · have hvalid := of_decide_eq_true (hs.valid a ha)
    exact hvalid.2.2.2.1
  · have hb : (run StorageTables.step t ops).Sound ∧ (run StorageTables.step t ops).Balanced :=
      run_inv (I := fun t => t.Sound ∧ t.Balanced) (fun t op hi hfit => ⟨hi.1.step op, hi.2.step hi.1 hfit⟩)
        ⟨h.sound, h.balanced⟩ (eachStep_of_forall hfit t)
    rw [← hb.2.sums, allocatedOf, find_eq_some.2 ⟨ha, rfl⟩]
    rfl

/-- In every run the storage of a project has been given back exactly if the project is deleted. -/
theorem released_iff_deleted (h : t.NoProjects) (ops : List StorageOp) :
    ∀ p ∈ (run StorageTables.step t ops).projects.rows,
      (run StorageTables.step t ops).ledger.find (deleteKey p.id) = none ↔ p.state ≠ .deleted := by
  have hs : (run StorageTables.step t ops).Sound := run_inv' (fun _ op h => h.step op) h.sound ops
  exact fun p hp => hs.delete_fresh_iff hp

/-- One account, with room for what an `integer` can say. -/
def oneAccount : StorageTables where
  accounts := ⟨[⟨"account", "user", 2147483647, 0, 0⟩], by decide⟩
  projects := ⟨[], by decide⟩
  ledger := ⟨[], by decide⟩

theorem oneAccount_noProjects : oneAccount.NoProjects where
  projects := rfl
  accounts := by decide
  ledger := by simp [oneAccount]

theorem released_after_deletion :
    let t := run StorageTables.step oneAccount
      [.createIntent ⟨"a", "user", "first", "unused"⟩ 10 none ⟨none, none⟩, .markDeleting "user" "a" false]
    oneAccount.NoProjects ∧ ∀ p ∈ t.projects.rows, t.ledger.find (deleteKey p.id) = none ↔ p.state ≠ .deleted :=
  ⟨oneAccount_noProjects, released_iff_deleted oneAccount_noProjects _⟩

theorem storage_balances_after_resizes : oneAccount.NoProjects ∧ ∀ a ∈ (run StorageTables.step oneAccount
        [.createIntent ⟨"a", "user", "first", "unused"⟩ 10 none ⟨none, none⟩,
          .updateDesiredConfig "user" "a" 30 none ⟨none, none⟩, .updateDesiredConfig "user" "a" 10 none ⟨none, none⟩,
          .createIntent ⟨"b", "user", "second", "unused"⟩ 5 none ⟨none, none⟩, .markDeleting "user" "a" false]).accounts.rows,
      a.allocatedGB = (run StorageTables.step oneAccount
        [.createIntent ⟨"a", "user", "first", "unused"⟩ 10 none ⟨none, none⟩,
          .updateDesiredConfig "user" "a" 30 none ⟨none, none⟩, .updateDesiredConfig "user" "a" 10 none ⟨none, none⟩,
          .createIntent ⟨"b", "user", "second", "unused"⟩ 5 none ⟨none, none⟩,
          .markDeleting "user" "a" false]).assignedTo a.id :=
  ⟨oneAccount_noProjects, (storage_balances oneAccount_noProjects _).2.2 (by decide)⟩

/-- A size past the width of `int32` is booked with one narrowing and assigned with another, so the second resize
moves by a difference that was never assigned. -/
theorem storage_off_balance : (run StorageTables.step oneAccount
      [.createIntent ⟨"a", "user", "first", "unused"⟩ 2147483647 none ⟨none, none⟩,
        .createIntent ⟨"b", "user", "second", "unused"⟩ 9223372036854775807 none ⟨none, none⟩,
        .updateDesiredConfig "user" "a" 2147483648 none ⟨none, none⟩]).accounts.rows.map (·.allocatedGB) = [2147483647] ∧
      (run StorageTables.step oneAccount
        [.createIntent ⟨"a", "user", "first", "unused"⟩ 2147483647 none ⟨none, none⟩,
          .createIntent ⟨"b", "user", "second", "unused"⟩ 9223372036854775807 none ⟨none, none⟩,
          .updateDesiredConfig "user" "a" 2147483648 none ⟨none, none⟩]).assignedTo "account" = -2147483649 := by
  decide +kernel

end StorageTables

end Paperboat.Projects

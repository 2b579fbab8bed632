import Paperboat.Lib.OneUse
import Paperboat.Connector.ProofLedger
/-!
# A connector proof is accepted once

The row of an accepted proof has to outlive the time during which the request
passes its own freshness check. An authentication keeps its row until the
request expires, so at most the rounding of the database can let go of it too
early. A renewal keeps its row for the clock skew, counted from the server's
clock, while the request stays fresh for the clock skew counted from its own
time: the row suffices exactly for requests from before the server's clock.

`Protected` is this condition. Runs that meet it are histories of a ledger of
tokens that are used once (`Paperboat.Lib.OneUse`).
-/

namespace Paperboat.Connector

open Lib List

variable {r : AuthRequest}

inductive SignedRequest where
  | auth (request : AuthRequest)
  | renewal (request : RenewalRequest)
  deriving DecidableEq

namespace SignedRequest

def key : SignedRequest → ReplayKey
  | .auth r => ⟨r.accountID, r.tunnelID, r.connectorID, .auth, r.nonce⟩
  | .renewal r => ⟨r.accountID, r.tunnelID, r.connectorID, .renew, r.nonce⟩

def validateAt : SignedRequest → Time → Option Err
  | .auth r, now => r.validate now
  | .renewal r, now => r.validateAt now

/-- When the row of a request accepted at `now` expires. -/
def expiry : SignedRequest → Time → Time
  | .auth r, _ => r.expiresAt
  | .renewal _, now => now.add maxClockSkew

/-- What makes the row of a request accepted at `now` last as long as the request is fresh: the database keeps the
expiry of an authentication exactly, or it is later than the skew allows anyway; a renewal is requested before the
server's clock. -/
def Protected (db : Database) : SignedRequest → Time → Prop
  | .auth r, _ => db.resolution ∣ r.expiresAt.ns ∨ db.tick (r.issuedAt.add maxClockSkew) < db.tick r.expiresAt
  | .renewal r, now => db.tick r.requestedAt < db.tick now

instance (db : Database) (request : SignedRequest) (now : Time) : Decidable (request.Protected db now) :=
  match request with
  | .auth _ => inferInstanceAs (Decidable (_ ∨ _))
  | .renewal _ => inferInstanceAs (Decidable (_ < _))

end SignedRequest

structure StoreCall where
  now : Time
  request : SignedRequest
  answers : StoreAnswers

variable {c : StoreCall}

namespace SQLControlStore

variable (store : SQLControlStore)

def call (l : ReplayLedger) (c : StoreCall) : Except Err (ReplayLedger × AuthResult) :=
  match c.request with
  | .auth request => store.authenticateConnector l c.now.utc request c.answers
  | .renewal request => store.renewConnector l c.now.utc request c.answers

def step (l : ReplayLedger) (c : StoreCall) : ReplayLedger × Except Err AuthResult :=
  match store.call l c with
  | .ok (l', result) => (l', .ok result)
  | .error err => (l, .error err)

def acceptedRequests : ReplayLedger → List StoreCall → List SignedRequest
  | _, [] => []
  | l, c :: calls =>
    match store.step l c with
    | (l', .ok _) => c.request :: acceptedRequests l' calls
    | (l', .error _) => acceptedRequests l' calls

end SQLControlStore

/-! ## Ticks of the database -/

namespace Database

variable {t u : Time} (db : Database)

theorem tick_mono (h : t.ns ≤ u.ns) : db.tick t ≤ db.tick u := Int.ediv_le_ediv db.pos h

theorem tick_lt_iff : db.tick t < db.tick u ↔ t.ns < db.tick u * db.resolution :=
  Int.ediv_lt_iff_lt_mul db.pos

theorem tick_add_skew (t : Time) : db.tick (t.add maxClockSkew) = db.tick t + maxClockSkew / db.resolution := by
  exact Int.add_ediv_of_dvd_right db.dvd

theorem dvd_of_tick_lt (hu : u.ns = t.ns - 1) (h : db.tick u < db.tick t) : db.resolution ∣ t.ns := by
  rw [tick_lt_iff] at h
  have hle : db.tick t * db.resolution ≤ t.ns := Int.ediv_mul_le t.ns (ne_of_gt db.pos)
  have heq : t.ns = db.tick t * db.resolution := by omega
  exact ⟨db.tick t, by rw [heq]; exact Int.mul_comm ..⟩

end Database

/-! ## What an accepted call does -/

namespace ReplayLedger

variable {db : Database} {rules : ProofRules} {l l' : ReplayLedger} {now : Time}

theorem mem_cleanup {r : ReplayRow} (hr : r ∈ l.rows) (hx : db.tick now < r.expiresAt) : r ∈ (l.cleanup db now).rows := by
  simp only [cleanup, filter, mem_filter, hr, true_and, Bool.not_eq_true', contains_eq_mem,
    decide_eq_false_iff_not, mem_map, not_exists, not_and]
  intro e he hp
  have hm := mem_of_mem_take he
  rw [mem_insertionSort, mem_filter] at hm
  obtain ⟨hl, hex⟩ := hm
  have heq : e = r := inj_on_of_nodup_map l.proofs hl hr hp
  simp only [heq, decide_eq_true_eq] at hex
  omega

theorem reserve_ok {key : ReplayKey} {generation : UInt64} {payload : Bytes} {expiresAt : Time}
    {cleanupErr insertErr : Option Err}
    (h : l.reserveControlReplay db rules key generation payload expiresAt now cleanupErr insertErr = .ok l') :
    ∃ row : ReplayRow, row.toReplayKey = key ∧ row.expiresAt = db.tick expiresAt ∧
      (∀ old ∈ (l.cleanup db now).rows, old.toReplayKey ≠ key) ∧ l'.rows = row :: (l.cleanup db now).rows := by
  simp only [reserveControlReplay, bind_eq_ok, refuseIf_eq_ok, failWith_eq_ok] at h
  obtain ⟨-, -, -, -, -, -, answer, hi, h⟩ := h
  unfold insert at hi
  split at hi
  · cases hi
  split at hi
  · cases hi
    cases h
  rename_i hu
  cases hi
  cases h
  refine ⟨_, rfl, rfl, fun old ho he => hu (.inl ?_), rfl⟩
  exact mem_map.2 ⟨old, ho, he⟩

end ReplayLedger

theorem SQLControlStore.call_ok {store : SQLControlStore} {l l' : ReplayLedger} {result : AuthResult}
    (h : store.call l c = .ok (l', result)) :
    c.request.validateAt c.now.utc = none ∧ ∃ row : ReplayRow, row.toReplayKey = c.request.key ∧
      row.expiresAt = store.db.tick (c.request.expiry c.now) ∧
      (∀ old ∈ (l.cleanup store.db c.now.utc).rows, old.toReplayKey ≠ c.request.key) ∧
      l'.rows = row :: (l.cleanup store.db c.now.utc).rows := by
  unfold call at h
  split at h
  · rename_i request hr
    simp only [authenticateConnector, bind_eq_ok, failWith_eq_ok, refuseIf_eq_ok] at h
    obtain ⟨-, hv, _, -, _, -, _, -, _, -, -, -, l'', hres, -, -, -, -, he⟩ := h
    cases he
    rw [hr]
    exact ⟨hv, ReplayLedger.reserve_ok hres⟩
  · rename_i request hr
    simp only [renewConnector, bind_eq_ok, failWith_eq_ok, refuseIf_eq_ok] at h
    obtain ⟨-, hv, _, -, _, -, _, -, _, -, -, -, -, -, l'', hres, -, -, -, -, -, -, -, -, he⟩ := h
    cases he
    rw [hr]
    exact ⟨hv, ReplayLedger.reserve_ok hres⟩

/-! ## How long a request is fresh -/

theorem skew_lt_sub_iff (t u : Time) : maxClockSkew < t.sub u ↔ u.ns + maxClockSkew < t.ns := by
  rw [Time.lt_sub_iff t u (by decide) (by decide)]
  omega

theorem AuthRequest.validate_eq_none (now : Time) (h0 : 0 < now.ns) :
    r.validate now = none ↔ r.wellFormed true ∧ r.issuedAt.ns ≤ now.ns + maxClockSkew ∧
      now.ns ≤ r.issuedAt.ns + maxClockSkew ∧ now.ns < r.expiresAt.ns := by
  have hz : now.isZero = false := by
    rw [← Bool.not_eq_true, Time.isZero_iff]
    omega
  unfold validate checkAt
  by_cases hw : r.wellFormed true
  · simp [hw, hz, skew_lt_sub_iff, and_assoc]
  · simp [hw]

theorem RenewalRequest.validateAt_eq_none {r : RenewalRequest} (now : Time) (h0 : 0 < now.ns) :
    r.validateAt now = none ↔ r.wellFormed true ∧ r.requestedAt.ns ≤ now.ns + maxClockSkew ∧
      now.ns ≤ r.requestedAt.ns + maxClockSkew := by
  have hz : now.isZero = false := by
    rw [← Bool.not_eq_true, Time.isZero_iff]
    omega
  unfold validateAt validate
  by_cases hw : r.wellFormed true
  · simp [hw, hz, skew_lt_sub_iff]
  · simp [hw]

def oneUse (db : Database) : OneUse SignedRequest ReplayKey ReplayRow Time where
  key := SignedRequest.key
  rowKey := ReplayRow.toReplayKey
  fresh request t := request.validateAt t.utc = none
  deletable row t := row.expiresAt ≤ db.tick t.utc
  deletable_mono h hd := le_trans hd (db.tick_mono h)

section Protection
variable {db : Database} {row : ReplayRow} (now : Time)

theorem protects_auth (h0 : 0 < now.ns) (hf : r.validate now = none) (hx : row.expiresAt = db.tick r.expiresAt) :
    (oneUse db).Protects row (.auth r) now ↔ (SignedRequest.auth r).Protected db now := by
  obtain ⟨hw, hi, hs, he⟩ := (AuthRequest.validate_eq_none now h0).1 hf
  have hfr : ∀ t : Time, now.ns ≤ t.ns → ((oneUse db).fresh (.auth r) t ↔
      t.ns ≤ r.issuedAt.ns + maxClockSkew ∧ t.ns < r.expiresAt.ns) := by
    intro t ht
    refine (AuthRequest.validate_eq_none t.utc (lt_of_lt_of_le h0 ht)).trans ?_
    simp only [hw, true_and, Time.utc_ns]
    omega
  constructor
  · intro hp
    -- the request is fresh last at the end of the skew, or right before it expires
    by_cases hlast : r.issuedAt.ns + maxClockSkew < r.expiresAt.ns
    · have hn := hp (r.issuedAt.add maxClockSkew) hs ((hfr _ hs).2 ⟨le_rfl, hlast⟩)
      simp only [oneUse, hx, not_le] at hn
      exact .inr hn
    · have hlast' : (r.expiresAt.add (-1)).ns = r.expiresAt.ns - 1 := rfl
      have hle : now.ns ≤ (r.expiresAt.add (-1)).ns := by omega
      have hn := hp (r.expiresAt.add (-1)) hle ((hfr _ hle).2 (by omega))
      simp only [oneUse, hx, not_le] at hn
      exact .inl (db.dvd_of_tick_lt rfl hn)
  · intro hp t ht hft
    obtain ⟨hts, hte⟩ := (hfr t ht).1 hft
    simp only [oneUse, hx, not_le]
    rcases hp with hd | hlt
    · rwa [Database.tick_lt_iff, Database.tick, Int.ediv_mul_cancel hd]
    · exact lt_of_le_of_lt (db.tick_mono (by simpa using hts)) hlt

theorem protects_renewal {r : RenewalRequest} (h0 : 0 < now.ns) (hf : r.validateAt now = none)
    (hx : row.expiresAt = db.tick (now.add maxClockSkew)) :
    (oneUse db).Protects row (.renewal r) now ↔ (SignedRequest.renewal r).Protected db now := by
  obtain ⟨hw, hi, hs⟩ := (RenewalRequest.validateAt_eq_none now h0).1 hf
  have hfr : ∀ t : Time, now.ns ≤ t.ns →
      ((oneUse db).fresh (.renewal r) t ↔ t.ns ≤ r.requestedAt.ns + maxClockSkew) := by
    intro t ht
    refine (RenewalRequest.validateAt_eq_none t.utc (lt_of_lt_of_le h0 ht)).trans ?_
    simp only [hw, true_and, Time.utc_ns]
    omega
  constructor
  · intro hp
    have hn := hp (r.requestedAt.add maxClockSkew) hs ((hfr _ hs).2 le_rfl)
    simp only [oneUse, hx, not_le] at hn
    have hlast : db.tick (r.requestedAt.add maxClockSkew) < db.tick (now.add maxClockSkew) := hn
    rw [db.tick_add_skew, db.tick_add_skew] at hlast
    exact Int.lt_of_add_lt_add_right hlast
  · intro hp t ht hft
    have hts : t.ns ≤ (r.requestedAt.add maxClockSkew).ns := (hfr t ht).1 hft
    simp only [oneUse, hx, not_le]
    calc db.tick t.utc ≤ db.tick (r.requestedAt.add maxClockSkew) := db.tick_mono hts
      _ < db.tick (now.add maxClockSkew) := by
        rw [db.tick_add_skew, db.tick_add_skew]
        exact Int.add_lt_add_right hp _

theorem protects_iff {request : SignedRequest} (h0 : 0 < now.ns) (hf : request.validateAt now.utc = none)
    (hx : row.expiresAt = db.tick (request.expiry now)) :
    (oneUse db).Protects row request now ↔ request.Protected db now := by
  cases request with
  | auth => exact protects_auth now.utc h0 hf hx
  | renewal => exact protects_renewal now.utc h0 hf hx

end Protection

/-! ## Runs of calls -/

/-- The server's clock is past the zero time, where the freshness checks look at
it, and a request that is fresh is protected. -/
def StoreCall.Sound (db : Database) (c : StoreCall) : Prop :=
  0 < c.now.ns ∧ (c.request.validateAt c.now.utc = none → c.request.Protected db c.now)

instance (db : Database) (c : StoreCall) : Decidable (c.Sound db) := inferInstanceAs (Decidable (_ ∧ _))

section Runs
variable {store : SQLControlStore} {l : ReplayLedger} {now : Time} {ps : List SignedRequest}

theorem SQLControlStore.step_run (h : (oneUse store.db).Run {r | r ∈ l.rows} now ps)
    (hle : now ≤ c.now) (hc : c.Sound store.db) : (oneUse store.db).Run {r | r ∈ (store.step l c).1.rows} c.now
      (ps ++ if (store.step l c).2.isOk then [c.request] else []) := by
  unfold step
  split
  · rename_i l' result hcall
    obtain ⟨hf, row, hk, hx, hu, hrows⟩ := call_ok hcall
    have hp := (protects_iff c.now hc.1 hf hx).2 (hc.2 hf)
    have hset : {r | r ∈ l'.rows} = insert row {r | r ∈ (l.cleanup store.db c.now.utc).rows} := by
      ext r
      simp [hrows]
    rw [hset]
    refine OneUse.Run.accept h hle hf (fun r hr hd => ?_) hu hk hp
    exact ReplayLedger.mem_cleanup hr (not_le.1 hd)
  · simpa [Except.isOk, Except.toBool] using h.refuse hle

theorem SQLControlStore.run_calls (calls : List StoreCall) (h : (oneUse store.db).Run {r | r ∈ l.rows} now ps)
    (hle : ∀ c ∈ calls, now ≤ c.now) (hm : calls.Pairwise fun a b => a.now.ns ≤ b.now.ns)
    (hc : ∀ c ∈ calls, c.Sound store.db) :
    ∃ rows now', (oneUse store.db).Run rows now' (ps ++ store.acceptedRequests l calls) := by
  induction calls generalizing l now ps with
  | nil => exact ⟨_, _, by simpa [acceptedRequests] using h⟩
  | cons c _ ih =>
    obtain ⟨hft, hm⟩ := pairwise_cons.1 hm
    have hstep := step_run h (hle c (by simp)) (hc c (by simp))
    obtain ⟨rows, now', hrun⟩ := ih hstep hft hm fun d hd => hc d (by simp [hd])
    refine ⟨rows, now', ?_⟩
    unfold acceptedRequests
    split
    · rename_i l' result hs
      simpa [hs, Except.isOk, Except.toBool] using hrun
    · rename_i l' err hs
      simpa [hs, Except.isOk, Except.toBool] using hrun

end Runs

/-- The row of an accepted request protects it as long as it is fresh exactly if the request is `Protected`; if all
are, no request is accepted twice at times that do not decrease. -/
theorem proof_accepted_once (store : SQLControlStore) :
    (∀ (l l' : ReplayLedger) (c : StoreCall) (result : AuthResult), store.call l c = .ok (l', result) → 0 < c.now.ns →
      ∃ row ∈ l'.rows, row.toReplayKey = c.request.key ∧
        ((oneUse store.db).Protects row c.request c.now ↔ c.request.Protected store.db c.now)) ∧
    ∀ (l : ReplayLedger) (calls : List StoreCall), (calls.Pairwise fun a b => a.now.ns ≤ b.now.ns) →
      (∀ c ∈ calls, c.Sound store.db) → (store.acceptedRequests l calls).Nodup := by
  refine ⟨fun l l' c result h h0 => ?_, fun l calls hm hc => ?_⟩
  · obtain ⟨hf, row, hk, hx, -, hrows⟩ := SQLControlStore.call_ok h
    exact ⟨row, by simp [hrows], hk, protects_iff c.now h0 hf hx⟩
  · cases calls with
    | nil => exact nodup_nil
    | cons c calls =>
      have hle : ∀ d ∈ c :: calls, c.now ≤ d.now := by
        intro d hd
        rcases mem_cons.1 hd with rfl | hd
        · exact le_rfl
        · exact (pairwise_cons.1 hm).1 d hd
      obtain ⟨rows, now', hrun⟩ := SQLControlStore.run_calls (c :: calls)
        (OneUse.Run.start {r | r ∈ l.rows} c.now) hle hm hc
      simpa using hrun.nodup

namespace Sample

def database : Database where
  resolution := 1000
  textBefore a b := decide (a < b)
  pos := by decide
  dvd := by decide

def proofRules : ProofRules where
  authTranscript r := .ok r.nonce.toByteArray.data.toList
  renewalTranscript r := .ok r.nonce.toByteArray.data.toList
  digest payload := payload
  decodeBase64 text := some (List.replicate (if text == "host_key" then 32 else 64) 0)
  thumbprint _ := thumbprint
  verify _ _ _ := true

def store : SQLControlStore where
  db := database
  rules := proofRules
  leaseDuration := defaultLease
  lease_pos := defaultLease_pos
  lease_le := defaultLease_le

def answers : StoreAnswers where
  material := .ok (some ⟨"account_1", "host_1", "host_key", thumbprint, "ed25519", List.replicate 32 0, now.add Duration.hour⟩)
  session := .ok (some "ready")
  cleanupErr := none
  insertErr := none
  sessionErr := none
  connectorErr := none
  commitErr := none

def renewal (requestedAt : Time) : RenewalRequest where
  sessionID := "session_1"
  accountID := "account_1"
  tunnelID := "tunnel_1"
  connectorID := "connector_1"
  hostID := "host_1"
  identityKeyID := "ed25519:" ++ thumbprint
  identityKeyThumbprint := thumbprint
  processGeneration := 1
  credentialGeneration := 1
  nonce := "renew_0123456789"
  signedProof := "proof_01234567890123456789012345"
  requestedAt := requestedAt

def later (minutes : Int) : Time := now.add (minutes * Duration.minute)

def callAt (minutes : Int) (request : SignedRequest) : StoreCall := ⟨later minutes, request, answers⟩

end Sample

open Sample

/-- A renewal requested two minutes ahead of the server's clock is accepted again two minutes later, when its row has
expired but the request has not. -/
theorem future_renewal_accepted_twice :
    let request := SignedRequest.renewal (renewal (later 2))
    ([callAt 0 request, callAt 2 request].Pairwise fun a b => a.now.ns ≤ b.now.ns) ∧
      store.acceptedRequests .empty [callAt 0 request, callAt 2 request] = [request, request] := by
  decide +kernel

theorem proof_accepted_once_session :
    let auth := SignedRequest.auth authRequest
    let renewal := SignedRequest.renewal (renewal (later (-1)))
    let calls := [callAt 0 auth, callAt 0 renewal, callAt 1 renewal, callAt 2 auth]
    store.acceptedRequests .empty calls = [auth, renewal] ∧ (store.acceptedRequests .empty calls).Nodup := by
  intro auth renewal calls
  have hs : (calls.Pairwise fun a b => a.now.ns ≤ b.now.ns) ∧ ∀ c ∈ calls, c.Sound store.db := by decide +kernel
  exact ⟨by decide +kernel, (proof_accepted_once store).2 .empty calls hs.1 hs.2⟩

end Paperboat.Connector

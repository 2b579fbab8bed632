import Paperboat.Lib.Runs
import Paperboat.Lib.Table
import Paperboat.Connector.ProofLedger
import Paperboat.Connector.Registry
/-!
# Activation of tunnel configurations

`RecordReady` makes the generation that a connector reports ready the active one
of its tunnel: it supersedes whatever else is active and activates the reported
generation, if that is pending or active. Both updates compare states only. So
each tunnel has at most one active generation, but a connector that reports an
older generation, still pending, after another connector has activated a newer
one takes the tunnel back; the newer generation is superseded for good.

`InOrder` excludes exactly such a report.
-/

namespace Paperboat.Connector

open Lib

namespace Err

def configNotFound : Err := .text "tunnel configuration generation is not available"
def configHashCorrupt : Err := .text "tunnel configuration content hash is corrupt"

end Err

/-! ## The table -/

/-- `activation_state` with `activated_at`, which is set exactly in state active. -/
inductive Activation where
  | pending
  | active (activatedAt : Time)
  | superseded
  | rejected
  deriving DecidableEq

def Activation.isActive : Activation → Bool
  | .active _ => true
  | _ => false

/-- A row of `tunnel_config_generations`. -/
structure ConfigRow where
  tunnelID : String
  generation : Nat
  contentHash : Bytes
  activation : Activation

def ConfigRow.key (r : ConfigRow) : String × Nat := (r.tunnelID, r.generation)

abbrev ConfigTable := Table ConfigRow.key

namespace ConfigTable

/-- `UPDATE ... SET activation WHERE selected`. -/
def setActivation (t : ConfigTable) (selected : ConfigRow → Bool) (activation : Activation) : ConfigTable :=
  t.update selected (fun r => { r with activation }) fun _ => rfl

def activeGenerations (t : ConfigTable) (tunnelID : String) : List Nat :=
  (t.rows.filter fun r => r.tunnelID == tunnelID && r.activation.isActive).map ConfigRow.generation

def generationHash (t : ConfigTable) (tunnelID : String) (generation : UInt64) : Except Err Bytes :=
  if generation == 0 || generation > 9223372036854775807 then .error .configNotFound
  else match t.find (tunnelID, generation.toNat) with
  | none => .error .configNotFound
  | some row => if row.contentHash.length != 32 then .error .configHashCorrupt else .ok row.contentHash

end ConfigTable

def hexDigit (c : Char) : Option UInt8 :=
  if isDigit c then some (UInt8.ofNat (c.toNat - '0'.toNat))
  else if 'a' ≤ c && c ≤ 'f' then some (UInt8.ofNat (c.toNat - 'a'.toNat + 10))
  else if 'A' ≤ c && c ≤ 'F' then some (UInt8.ofNat (c.toNat - 'A'.toNat + 10))
  else none

def hexDecode : List Char → Option Bytes
  | [] => some []
  | [_] => none
  | high :: low :: rest => do
    let high ← hexDigit high
    let low ← hexDigit low
    let bytes ← hexDecode rest
    return (high * 16 + low) :: bytes

/-- `strings.TrimPrefix(s, "sha256:")`. -/
def trimHashName (s : String) : List Char :=
  if (byteChars s).take 7 == byteChars "sha256:" then (byteChars s).drop 7 else byteChars s

def configHashMatches (stored : Bytes) (contentHash : String) : Bool :=
  stored.length == 32 && hexDecode (trimHashName contentHash) == some stored

/-! ## The transaction -/

/-- What the database answers: the locked session with its state, account and
tunnel, and failures of the statements. -/
structure ReadyAnswers where
  session : Answer (String × String × String)
  (hashErr supersedeErr activateErr sessionErr connectorErr operationErr commitErr : Option Err)

/-- `lockSession` on the answer of its query; returns the account. -/
def lockSession (answer : Answer (String × String × String)) (ref : SessionRef) : Except Err String :=
  match answer with
  | .error err => .error err
  | .ok none => .error .sessionNotFound
  | .ok (some (state, accountID, tunnelID)) =>
    if tunnelID != ref.tunnelID || state == "" then .error .sessionNotFound else .ok accountID

structure ReadyCall where
  now : Time
  ref : SessionRef
  readiness : Readiness
  answers : ReadyAnswers

namespace ReadyCall

def accepted (c : ReadyCall) : Bool :=
  c.ref.validate.isNone && c.readiness.validate.isNone && c.readiness.tunnelID == c.ref.tunnelID &&
    c.readiness.connectorID == c.ref.connectorID && c.readiness.sessionID == c.ref.sessionID &&
    c.readiness.processGeneration == c.ref.processGeneration && c.readiness.edgeReady && c.readiness.routeReady &&
    c.readiness.originReady

def supersedes (c : ReadyCall) (r : ConfigRow) : Bool :=
  r.tunnelID == c.ref.tunnelID && r.activation.isActive && r.generation != c.readiness.generation.toNat

def activates (c : ReadyCall) (r : ConfigRow) : Bool :=
  r.tunnelID == c.ref.tunnelID && r.generation == c.readiness.generation.toNat &&
    (r.activation == .pending || r.activation.isActive)

end ReadyCall

namespace ConfigTable

variable {selected : ConfigRow → Bool} {activation : Activation}

/-- `RecordReady`: the table it commits. -/
def recordReady (t : ConfigTable) (c : ReadyCall) : Except Err ConfigTable := do
  refuseIf (!c.accepted) .invalidInput
  let accountID ← lockSession c.answers.session c.ref
  refuseIf (c.readiness.accountID != accountID) .identityMismatch
  failWith c.answers.hashErr
  let stored ← t.generationHash c.ref.tunnelID c.readiness.generation
  refuseIf (!configHashMatches stored c.readiness.contentHash) .configHashCorrupt
  failWith c.answers.supersedeErr
  let superseded := t.setActivation c.supersedes .superseded
  failWith c.answers.activateErr
  refuseIf (superseded.rows.countP c.activates != 1) .configNotFound
  failWith c.answers.sessionErr
  failWith c.answers.connectorErr
  failWith c.answers.operationErr
  failWith c.answers.commitErr
  return superseded.setActivation c.activates (.active c.now.utc)

def next (t : ConfigTable) (c : ReadyCall) : ConfigTable :=
  match t.recordReady c with
  | .ok t' => t'
  | .error _ => t

def OneActive (t : ConfigTable) (tunnelID : String) : Prop :=
  ∀ g ∈ t.activeGenerations tunnelID, ∀ g' ∈ t.activeGenerations tunnelID, g = g'

def Onward (tunnelID : String) (t t' : ConfigTable) : Prop :=
  ∀ g ∈ t.activeGenerations tunnelID, ∃ g' ∈ t'.activeGenerations tunnelID, g ≤ g'

def InOrder (t : ConfigTable) (c : ReadyCall) : Prop :=
  ∀ r ∈ t.rows, r.key = (c.ref.tunnelID, c.readiness.generation.toNat) → r.activation = .pending →
    ∀ g ∈ t.activeGenerations c.ref.tunnelID, g ≤ r.generation

instance (t : ConfigTable) (c : ReadyCall) : Decidable (t.InOrder c) :=
  inferInstanceAs (Decidable (∀ r ∈ t.rows, _))

/-! ## One transaction -/

variable {t t' : ConfigTable} {c : ReadyCall} {tunnelID : String} {g : Nat}

theorem mem_activeGenerations : g ∈ t.activeGenerations tunnelID ↔
    ∃ r ∈ t.rows, r.tunnelID = tunnelID ∧ r.activation.isActive ∧ r.generation = g := by
  simp [activeGenerations, and_assoc]

theorem mem_setActivation {r' : ConfigRow} : r' ∈ (t.setActivation selected activation).rows ↔
      (∃ r ∈ t.rows, selected r ∧ r' = { r with activation }) ∨ (r' ∈ t.rows ∧ selected r' = false) :=
  Table.mem_update

theorem mem_activeGenerations_setActivation (h : ∀ r, selected r → r.tunnelID ≠ tunnelID) :
    g ∈ (t.setActivation selected activation).activeGenerations tunnelID ↔ g ∈ t.activeGenerations tunnelID := by
  rw [mem_activeGenerations, mem_activeGenerations]
  constructor
  · rintro ⟨r', hr', ht, ha⟩
    rcases mem_setActivation.1 hr' with ⟨r, -, hs, rfl⟩ | ⟨hr, -⟩
    · exact absurd ht (h r hs)
    · exact ⟨r', hr, ht, ha⟩
  · rintro ⟨r, hr, ht, ha⟩
    refine ⟨r, mem_setActivation.2 (.inr ⟨hr, ?_⟩), ht, ha⟩
    by_contra hs
    exact h r (by simpa using hs) ht

theorem recordReady_ok (h : t.recordReady c = .ok t') :
    t' = (t.setActivation c.supersedes .superseded).setActivation c.activates (.active c.now.utc) ∧
      ∃ r ∈ t.rows, c.activates r ∧ c.supersedes r = false := by
  simp only [recordReady, bind_eq_ok, refuseIf_eq_ok, failWith_eq_ok] at h
  obtain ⟨-, -, _, -, -, -, -, -, _, -, -, -, -, -, -, -, -, hone, -, -, -, -, -, -, -, -, ht⟩ := h
  cases ht
  refine ⟨rfl, ?_⟩
  have hpos : 0 < (t.setActivation c.supersedes .superseded).rows.countP c.activates := by
    simp only [bne_eq_false_iff_eq] at hone
    omega
  obtain ⟨r', hr', ha⟩ := List.countP_pos_iff.1 hpos
  rcases mem_setActivation.1 hr' with ⟨r, -, -, rfl⟩ | ⟨hr, hs⟩
  · simp [ReadyCall.activates, Activation.isActive] at ha
  · exact ⟨r', hr, ha, hs⟩

theorem active_after (h : t.recordReady c = .ok t') :
    g ∈ t'.activeGenerations c.ref.tunnelID ↔ g = c.readiness.generation.toNat := by
  obtain ⟨rfl, r, hr, ha, hs⟩ := recordReady_ok h
  rw [mem_activeGenerations]
  constructor
  · rintro ⟨r', hr', ht, hact, rfl⟩
    rcases mem_setActivation.1 hr' with ⟨r1, -, hsel, rfl⟩ | ⟨hr1, -⟩
    · simp only [ReadyCall.activates, Bool.and_eq_true, beq_iff_eq] at hsel
      exact hsel.1.2
    rcases mem_setActivation.1 hr1 with ⟨r2, -, -, rfl⟩ | ⟨-, hkept⟩
    · cases hact
    · simpa [ReadyCall.supersedes, ht, hact] using hkept
  · rintro rfl
    have hk := ha
    simp only [ReadyCall.activates, Bool.and_eq_true, beq_iff_eq] at hk
    exact ⟨{ r with activation := .active c.now.utc },
      mem_setActivation.2 (.inl ⟨r, mem_setActivation.2 (.inr ⟨hr, hs⟩), ha, rfl⟩), hk.1.1, rfl, hk.1.2⟩

theorem active_elsewhere (h : t.recordReady c = .ok t') (hne : tunnelID ≠ c.ref.tunnelID) :
    g ∈ t'.activeGenerations tunnelID ↔ g ∈ t.activeGenerations tunnelID := by
  obtain ⟨rfl, -⟩ := recordReady_ok h
  rw [mem_activeGenerations_setActivation, mem_activeGenerations_setActivation]
  · intro r hr he
    simp only [ReadyCall.supersedes, Bool.and_eq_true, beq_iff_eq] at hr
    exact hne (he.symm.trans hr.1.1)
  · intro r hr he
    simp only [ReadyCall.activates, Bool.and_eq_true, beq_iff_eq] at hr
    exact hne (he.symm.trans hr.1.1)

theorem next_oneActive (h : ∀ tunnelID, t.OneActive tunnelID) (c : ReadyCall) :
    ∀ tunnelID, (t.next c).OneActive tunnelID := by
  unfold next
  split
  · rename_i t' hok
    intro tunnelID g hg g' hg'
    by_cases he : tunnelID = c.ref.tunnelID
    · subst he
      rw [(active_after hok).1 hg, (active_after hok).1 hg']
    · exact h tunnelID g ((active_elsewhere hok he).1 hg) g' ((active_elsewhere hok he).1 hg')
  · exact h

theorem onward_iff_inOrder (h : t.OneActive c.ref.tunnelID) (hok : t.recordReady c = .ok t') :
    Onward c.ref.tunnelID t t' ↔ t.InOrder c := by
  constructor
  · intro hon r hr hk _ g hg
    obtain ⟨g', hg', hle⟩ := hon g hg
    have hgen : r.generation = c.readiness.generation.toNat := congrArg Prod.snd hk
    rwa [hgen, ← (active_after hok).1 hg']
  · intro hin g hg
    refine ⟨_, (active_after hok).2 rfl, ?_⟩
    -- the reported row is pending, or it is the active one already
    obtain ⟨-, r, hr, ha, -⟩ := recordReady_ok hok
    simp only [ReadyCall.activates, Bool.and_eq_true, Bool.or_eq_true, beq_iff_eq] at ha
    obtain ⟨⟨ht, hgen⟩, hp | hact⟩ := ha
    · rw [← hgen]
      exact hin r hr (by rw [ConfigRow.key, ht, hgen]) hp g hg
    · rw [← hgen]
      exact le_of_eq (h g hg r.generation (mem_activeGenerations.2 ⟨r, hr, ht, hact, rfl⟩))

/-! ## Every run -/

theorem Onward.refl (tunnelID : String) (t : ConfigTable) : Onward tunnelID t t := fun g hg => ⟨g, hg, le_rfl⟩

theorem Onward.trans {a b c : ConfigTable} (h : Onward tunnelID a b) (h' : Onward tunnelID b c) : Onward tunnelID a c := by
  intro g hg
  obtain ⟨g1, hg1, hle1⟩ := h g hg
  obtain ⟨g2, hg2, hle2⟩ := h' g1 hg1
  exact ⟨g2, hg2, le_trans hle1 hle2⟩

theorem next_onward (h : ∀ tunnelID, t.OneActive tunnelID) (hin : t.InOrder c) : Onward tunnelID t (t.next c) := by
  unfold next
  split
  · rename_i t' hok
    by_cases he : tunnelID = c.ref.tunnelID
    · subst he
      exact (onward_iff_inOrder (h _) hok).2 hin
    · exact fun g hg => ⟨g, (active_elsewhere hok he).2 hg, le_rfl⟩
  · exact Onward.refl tunnelID t

end ConfigTable

/-- A table keeps at most one active generation per tunnel. A committed transaction takes it back exactly if it is out
of order, and in a run of transactions in order it never decreases. -/
theorem activation_never_goes_back (t : ConfigTable) (h : ∀ tunnelID, t.OneActive tunnelID) (pre post : List ReadyCall) :
    (∀ tunnelID, (run ConfigTable.next t pre).OneActive tunnelID) ∧
    (∀ c t', (run ConfigTable.next t pre).recordReady c = .ok t' →
      (ConfigTable.Onward c.ref.tunnelID (run ConfigTable.next t pre) t' ↔ (run ConfigTable.next t pre).InOrder c)) ∧
    (EachStep ConfigTable.next ConfigTable.InOrder t (pre ++ post) → ∀ tunnelID,
      ConfigTable.Onward tunnelID (run ConfigTable.next t pre) (run ConfigTable.next t (pre ++ post))) := by
  have hone := run_inv' (I := fun t : ConfigTable => ∀ tunnelID, t.OneActive tunnelID)
    (fun _ c hi => ConfigTable.next_oneActive hi c) h pre
  refine ⟨hone, fun c t' hok => ConfigTable.onward_iff_inOrder (hone _) hok, fun hin tunnelID => ?_⟩
  rw [run_append]
  exact run_ascends (ConfigTable.Onward.refl tunnelID) (fun _ _ _ => ConfigTable.Onward.trans)
    (fun t c hi hin => ⟨ConfigTable.next_oneActive hi c, ConfigTable.next_onward hi hin⟩) hone
    ((eachStep_append _ _ _ _).1 hin).2

namespace Sample

def configRow (generation : Nat) (activation : Activation) : ConfigRow :=
  ⟨"tunnel_1", generation, List.replicate 31 0 ++ [UInt8.ofNat generation], activation⟩

def configs : ConfigTable where
  rows := [configRow 1 (.active now), configRow 2 .pending, configRow 3 .pending]
  keys := by decide

def readyCall (connectorID sessionID : String) (generation : UInt64) : ReadyCall where
  now := now
  ref := ⟨"tunnel_1", connectorID, sessionID, 1⟩
  readiness := ⟨"account_1", sessionID, "tunnel_1", connectorID, 1, generation,
    "sha256:" ++ String.ofList (List.replicate 63 '0') ++ toString generation, true, true, true⟩
  answers := ⟨.ok (some ("authenticating", "account_1", "tunnel_1")), none, none, none, none, none, none, none⟩

theorem configs_oneActive (tunnelID : String) : configs.OneActive tunnelID := by
  have hone : ∀ g ∈ configs.activeGenerations tunnelID, g = 1 := by
    intro g hg
    obtain ⟨r, hr, -, ha, rfl⟩ := ConfigTable.mem_activeGenerations.1 hg
    simp only [configs, List.mem_cons, List.not_mem_nil, or_false] at hr
    rcases hr with rfl | rfl | rfl
    · rfl
    · cases ha
    · cases ha
  intro g hg g' hg'
  rw [hone g hg, hone g' hg']

end Sample

open Sample

/-- One connector activates generation 3; another one, which was handed
generation 2 before, reports it ready and takes the tunnel back to it. -/
theorem older_generation_activated : (∀ tunnelID, configs.OneActive tunnelID) ∧
      let newer := configs.next (readyCall "connector_2" "session_2" 3)
      newer.activeGenerations "tunnel_1" = [3] ∧
        (newer.next (readyCall "connector_1" "session_1" 2)).activeGenerations "tunnel_1" = [2] :=
  ⟨configs_oneActive, by decide +kernel⟩

theorem activation_in_order :
    let calls := [readyCall "connector_1" "session_1" 2, readyCall "connector_2" "session_2" 3]
    (∀ tunnelID, ConfigTable.Onward tunnelID configs (run ConfigTable.next configs calls)) ∧
      (run ConfigTable.next configs calls).activeGenerations "tunnel_1" = [3] := by
  intro calls
  have h := activation_never_goes_back configs configs_oneActive [] calls
  exact ⟨h.2.2 (by decide +kernel), by decide +kernel⟩

end Paperboat.Connector

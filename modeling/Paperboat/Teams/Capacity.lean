import Paperboat.Lib.Checks
import Paperboat.Lib.Runs
/-!
# Places in a team

`capacity` of `teams`, and the limit on the bindings of a team. Both count rows
that have ended too: a member who left and a resource that is no longer shared
keep their rows. So a team runs out of places over its history, and only as long
as nothing has ended or the rows are few do the limits speak about the team as it is.
-/

namespace Paperboat.Teams

open Lib

inductive Err where
  | forbidden | conflict | limit | other
  deriving DecidableEq

inductive ResourceKind where
  | env | preview | tunnel | lazyPolicy | machine | terminalSession
  deriving DecidableEq

structure MemberRow where
  (teamID accountID : String)
  active : Bool

structure BindingRow where
  teamID : String
  resourceKind : ResourceKind
  (resourceID ownerAccount : String)
  active : Bool
  terminalProcessGeneration : Option Nat

def BindingRow.binds (b : BindingRow) (team : String) (kind : ResourceKind) (id : String) : Bool :=
  b.teamID == team && b.resourceKind == kind && b.resourceID == id

/-- `ON CONFLICT ... DO UPDATE`. -/
def upsert {R : Type*} (same : R → Bool) (change : R → R) (new : R) (rows : List R) : List R :=
  if rows.any same then rows.map fun r => if same r then change r else r else rows ++ [new]

structure Tables where
  /-- Teams and whether each is deleted. -/
  teams : List (String × Bool)
  members : List MemberRow
  bindings : List BindingRow

def maximumMembers : Nat := 128

def maximumResources : Nat := 128

/-- A request that passed the checks before these tables. What else is written, by creating and deleting teams or by
members who leave, is rows that are `added` and rows that have `ended`. -/
inductive Op where
  | accept (account team : String)
  | attach (account team : String) (kind : ResourceKind) (id : String) (active : Bool)
  | bindMachine (account team machine : String)
  | grantTerminalSession (account team session : String) (active : Bool) (runtimeGeneration : Nat)
  | added (rows : Tables)
  | ended (left : MemberRow → Bool) (unbound : BindingRow → Bool) (deleted : String → Bool)

def Op.members : Op → List MemberRow
  | .accept account team => [⟨team, account, true⟩]
  | .added rows => rows.members
  | _ => []

def Op.bindings : Op → List BindingRow
  | .attach account team kind id active => [⟨team, kind, id, account, active, none⟩]
  | .bindMachine account team machine => [⟨team, .machine, machine, account, true, none⟩]
  | .grantTerminalSession account team session _ generation =>
    [⟨team, .terminalSession, session, account, true, some generation⟩]
  | .added rows => rows.bindings
  | _ => []

def Op.leaves : Op → MemberRow → Bool
  | .ended left _ _ => left
  | _ => fun _ => false

def Op.unbinds : Op → BindingRow → Bool
  | .ended _ unbound _ => unbound
  | _ => fun _ => false

namespace Tables

variable (s : Tables) (account team : String)

def deleted : Bool := s.teams.any fun t => t.1 == team && t.2

def member : Bool := s.members.any fun m => m.teamID == team && m.accountID == account && m.active

def activeTeams : Nat := s.members.countP fun m => m.accountID == account && m.active && !s.deleted m.teamID

def activeMembers : Nat := s.members.countP fun m => m.teamID == team && m.active

def activeBindings : Nat := s.bindings.countP fun b => b.teamID == team && b.active

def capacity : Except Err Unit :=
  refuseIf (decide (s.activeTeams account ≥ maximumMembers) ||
    decide ((s.members.countP fun m => m.teamID == team && m.accountID != account) ≥ maximumMembers)) .limit

/-- `Service.Accept` of an invitation that is usable. -/
def accept : Except Err Tables := do
  refuseIf (s.deleted team) .forbidden
  refuseIf (s.member account team) .conflict
  s.capacity account team
  let same (m : MemberRow) := m.teamID == team && m.accountID == account
  .ok { s with members := upsert same (fun m => { m with active := true }) ⟨team, account, true⟩ s.members }

def bindResource (b : BindingRow) (change : BindingRow → BindingRow) : Except Err Tables := do
  let same (r : BindingRow) := r.binds b.teamID b.resourceKind b.resourceID
  refuseIf (!s.bindings.any same && decide (s.bindings.countP (·.teamID == b.teamID) ≥ maximumResources)) .limit
  .ok { s with bindings := upsert same change b s.bindings }

def attach (kind : ResourceKind) (id : String) (active : Bool) : Except Err Tables :=
  s.bindResource ⟨team, kind, id, account, active, none⟩ fun b => { b with active }

def bindMachine (machine : String) : Except Err Tables :=
  s.bindResource ⟨team, .machine, machine, account, true, none⟩ fun b => { b with active := true }

def grantTerminalSession (session : String) (active : Bool) (runtimeGeneration : Nat) : Except Err Tables := do
  refuseIf (s.bindings.any fun b => b.resourceKind == .terminalSession && b.resourceID == session && b.teamID != team &&
    b.active) .conflict
  let new : BindingRow := ⟨team, .terminalSession, session, account, true, some runtimeGeneration⟩
  match s.bindings.find? (·.binds team .terminalSession session) with
  | none => s.bindResource new id
  | some b =>
    if b.ownerAccount != account then .error .forbidden
    else if active && (!b.active || b.terminalProcessGeneration != some runtimeGeneration) then
      s.bindResource new fun b => { b with active := true, terminalProcessGeneration := some runtimeGeneration }
    else .ok s

variable {s s' : Tables} {account team : String}

def exec (s : Tables) : Op → Except Err Tables
  | .accept account team => s.accept account team
  | .attach account team kind id active => s.attach account team kind id active
  | .bindMachine account team machine => s.bindMachine account team machine
  | .grantTerminalSession account team session active generation =>
    s.grantTerminalSession account team session active generation
  | .added rows => .ok ⟨s.teams ++ rows.teams, s.members ++ rows.members, s.bindings ++ rows.bindings⟩
  | .ended left unbound deleted => .ok
    { teams := s.teams.map fun t => (t.1, t.2 || deleted t.1)
      members := s.members.map fun m => { m with active := m.active && !left m }
      bindings := s.bindings.map fun b => { b with active := b.active && !unbound b } }

def step (s : Tables) (op : Op) : Tables :=
  match s.exec op with
  | .ok s' => s'
  | .error _ => s

/-- Nobody is refused a place as long as the team and the account have one. -/
structure Free (s : Tables) : Prop where
  accept (account team : String) : s.activeMembers team < maximumMembers → s.activeTeams account < maximumMembers →
    s.accept account team ≠ .error .limit
  bind (account team id : String) (kind : ResourceKind) (active : Bool) (generation : Nat) :
    s.activeBindings team < maximumResources → s.attach account team kind id active ≠ .error .limit ∧
      s.bindMachine account team id ≠ .error .limit ∧
      s.grantTerminalSession account team id active generation ≠ .error .limit

/-! ## Rows that have ended -/

end Tables

section
variable {R : Type*} {team : R → String} {lasts active : R → Bool} {limit : Nat} {rows new : List R}

/-- For each team: all its rows last, or they are fewer than the limit, those that have ended included. -/
def HasRoom (team : R → String) (lasts : R → Bool) (limit : Nat) (rows : List R) : Prop :=
  ∀ t, (∀ r ∈ rows, team r = t → lasts r) ∨ rows.countP (team · == t) < limit

theorem HasRoom.map (h : HasRoom team lasts limit (rows ++ new)) {f : R → R} (hf : ∀ r, team (f r) = team r)
    (ha : ∀ t, (∀ r ∈ rows ++ new, team r = t → lasts r) → ∀ r ∈ rows, team r = t → active (f r)) :
    HasRoom team active limit (rows.map f) := by
  intro t
  refine (h t).imp (fun hall r' hr' ht => ?_) fun hfew => ?_
  · obtain ⟨r, hr, rfl⟩ := List.mem_map.1 hr'
    exact ha t hall r hr ((hf r).symm.trans ht)
  · rw [List.countP_append] at hfew
    rw [List.countP_map, show ((team · == t) ∘ f) = (team · == t) by funext r; simp [hf]]
    omega

theorem HasRoom.upsert {r₀ : R} (h : HasRoom team active limit (rows ++ [r₀])) {same : R → Bool} {change : R → R}
    (hs : ∀ r, same r → team r = team r₀) (ht : ∀ r, team (change r) = team r)
    (hc : ∀ r, active r₀ → active r → active (change r)) : HasRoom team active limit (upsert same change r₀ rows) := by
  unfold Teams.upsert
  split
  · refine h.map (fun r => ?_) fun t hall r hr hrt => ?_
    · split
      · exact ht r
      · rfl
    · have hrow := hall r (List.mem_append_left _ hr) hrt
      split
      · next hsame =>
        have hnew := hall r₀ (by simp) ((hs r hsame).symm.trans hrt)
        exact hc r hnew hrow
      · exact hrow
  · exact h

theorem HasRoom.count_lt (h : HasRoom team active limit rows) {t : String}
    (hlt : rows.countP (fun r => team r == t && active r) < limit) : rows.countP (team · == t) < limit := by
  rcases h t with hall | hfew
  · have hle : rows.countP (team · == t) ≤ rows.countP fun r => team r == t && active r :=
      List.countP_mono_left fun r hr => by simpa using fun ht => ⟨ht, hall r hr ht⟩
    exact Nat.lt_of_le_of_lt hle hlt
  · exact hfew

theorem hasRoom_of_length (h : rows.length < limit) : HasRoom team lasts limit rows :=
  fun _ => .inr (Nat.lt_of_le_of_lt List.countP_le_length h)

end

namespace Tables

variable {s s' : Tables} {team : String} {op : Op}

structure Roomy (s : Tables) : Prop where
  members : HasRoom MemberRow.teamID MemberRow.active maximumMembers s.members
  bindings : HasRoom BindingRow.teamID BindingRow.active maximumResources s.bindings

/-- With the rows that the request adds, each team has places left, or no row of it has ended and none ends now. -/
structure Fits (s : Tables) (op : Op) : Prop where
  members : HasRoom MemberRow.teamID (fun m => !op.leaves m && m.active) maximumMembers (s.members ++ op.members)
  bindings : HasRoom BindingRow.teamID (fun b => !op.unbinds b && b.active) maximumResources (s.bindings ++ op.bindings)

namespace Roomy

theorem bindResource (h : s.Roomy) {b : BindingRow} {change : BindingRow → BindingRow}
    (hb : HasRoom BindingRow.teamID BindingRow.active maximumResources (s.bindings ++ [b]))
    (hok : s.bindResource b change = .ok s') (ht : ∀ r, (change r).teamID = r.teamID)
    (hc : ∀ r : BindingRow, b.active → r.active → (change r).active) : s'.Roomy := by
  obtain ⟨-, hok⟩ := check_eq_ok.1 hok
  cases hok
  refine ⟨h.members, hb.upsert (fun r hr => ?_) ht hc⟩
  simp only [BindingRow.binds, Bool.and_eq_true, beq_iff_eq] at hr
  exact hr.1.1

theorem step (h : s.Roomy) (hfits : s.Fits op) : (s.step op).Roomy := by
  unfold Tables.step
  split
  · next s' hok =>
    cases op with
    | accept account team =>
      simp only [exec, accept, check_eq_ok] at hok
      obtain ⟨-, -, -, hok⟩ := hok
      cases hok
      refine ⟨HasRoom.upsert hfits.members (fun m hm => ?_) (fun _ => rfl) fun _ _ _ => rfl, h.bindings⟩
      simp only [Bool.and_eq_true, beq_iff_eq] at hm
      exact hm.1
    | attach => exact h.bindResource hfits.bindings hok (fun _ => rfl) fun _ ha _ => ha
    | bindMachine => exact h.bindResource hfits.bindings hok (fun _ => rfl) fun _ ha _ => ha
    | grantTerminalSession =>
      obtain ⟨-, hok⟩ := check_eq_ok.1 hok
      simp only at hok
      split at hok
      · exact h.bindResource hfits.bindings hok (fun _ => rfl) fun _ _ hr => hr
      split at hok
      · cases hok
      split at hok
      · exact h.bindResource hfits.bindings hok (fun _ => rfl) fun _ ha _ => ha
      · cases hok
        exact h
    | added =>
      cases hok
      exact ⟨hfits.members, hfits.bindings⟩
    | ended =>
      cases hok
      have hlasts {ends active : Bool} (hl : !ends && active) : active && !ends := by rwa [Bool.and_comm]
      exact ⟨hfits.members.map (fun _ => rfl) fun _ hall m hm ht => hlasts (hall m (List.mem_append_left _ hm) ht),
        hfits.bindings.map (fun _ => rfl) fun _ hall b hb ht => hlasts (hall b (List.mem_append_left _ hb) ht)⟩
  · exact h

theorem bindResource_ne (h : s.Roomy) (hlt : s.activeBindings team < maximumResources) {b : BindingRow}
    (hb : b.teamID = team) (change : BindingRow → BindingRow) : s.bindResource b change ≠ .error .limit := by
  have hno := decide_eq_false (Nat.not_le.2 (h.bindings.count_lt hlt))
  refine bind_ne_error ?_ fun _ => by simp
  simp [refuseIf, hb, hno]

theorem free (h : s.Roomy) : s.Free := by
  refine ⟨fun account team hm ht => ?_, fun account team id kind active generation hb => ⟨?_, ?_, ?_⟩⟩
  · have hle : s.members.countP (fun m => m.teamID == team && m.accountID != account) ≤
        s.members.countP (·.teamID == team) := List.countP_mono_left fun m _ => by simp +contextual
    have hcap : s.capacity account team = .ok () := by
      simpa [capacity] using ⟨ht, Nat.lt_of_le_of_lt hle (h.members.count_lt hm)⟩
    refine bind_ne_error (refuseIf_ne_error (by simp)) fun _ => bind_ne_error (refuseIf_ne_error (by simp)) fun _ => ?_
    simp [hcap, bind, Except.bind]
  · exact h.bindResource_ne hb rfl _
  · exact h.bindResource_ne hb rfl _
  · refine bind_ne_error (refuseIf_ne_error (by simp)) fun _ => ?_
    dsimp only
    split
    · exact h.bindResource_ne hb rfl _
    · split_ifs
      · simp
      · exact h.bindResource_ne hb rfl _
      · simp

end Roomy

end Tables

/-- There is a place for everyone whom the limits on active members, teams and bindings leave one, in every run whose
steps fit. -/
theorem places_while_rows_fit (ops : List Op) (h : EachStep Tables.step Tables.Fits ⟨[], [], []⟩ ops) :
    (run Tables.step ⟨[], [], []⟩ ops).Free := by
  have hinv : (run Tables.step ⟨[], [], []⟩ ops).Roomy :=
    run_inv (fun _ _ hs hfits => hs.step hfits) ⟨fun _ => .inl nofun, fun _ => .inl nofun⟩ h
  exact hinv.free

namespace Sample

def newTeam : Tables := ⟨[("team", false)], [⟨"team", "acc", true⟩], []⟩

def comingAndGoing : List Op :=
  [.added newTeam, .accept "acc2" "team", .attach "acc" "team" .preview "pre" true,
    .ended (·.accountID == "acc2") (fun _ => false) (fun _ => false), .attach "acc" "team" .preview "pre" false]

theorem comingAndGoing_fits : EachStep Tables.step Tables.Fits ⟨[], [], []⟩ comingAndGoing :=
  eachStep_of_inv (I := fun _ => True)
    (P := fun s op => (s.members ++ op.members).length < 128 ∧ (s.bindings ++ op.bindings).length < 128)
    (fun _ _ _ h => ⟨trivial, hasRoom_of_length h.1, hasRoom_of_length h.2⟩) trivial (by decide +kernel)

end Sample

open Sample

theorem places_while_rows_fit_after_endings :
    let s := run Tables.step ⟨[], [], []⟩ comingAndGoing
    s.members.length = 2 ∧ s.activeMembers "team" = 1 ∧ s.bindings.length = 1 ∧ s.activeBindings "team" = 0 ∧ s.Free :=
  ⟨by decide +kernel, by decide +kernel, by decide +kernel, by decide +kernel,
    places_while_rows_fit _ comingAndGoing_fits⟩

/-- Previews that were shared, one after the other, fill a team in which nothing is shared any more. -/
theorem ended_bindings_fill_team :
    let s := run Tables.step ⟨[], [], []⟩ (.added newTeam :: (List.range 128).flatMap fun n =>
      [true, false].map (.attach "acc" "team" .preview (toString n)))
    s.activeBindings "team" = 0 ∧ s.bindings.any (·.binds "team" .tunnel "tun") = false ∧
      (s.attach "acc" "team" .tunnel "tun" true).map (fun _ => ()) = .error .limit := by
  decide +kernel

end Paperboat.Teams

import Paperboat.Previews.Effects
/-!
# The domains shown with a preview

A preview is shown with all its domains, the withdrawn ones included, and not at all
if there are more than eight. The batch a preview is created with is held to that
number; later domains are not, and a row is never removed.
-/

namespace Paperboat.Previews

open Lib List Tables

namespace Tables

/-- The order of `created_at, id`. -/
def listedBefore (a b : PreviewDomain) : Bool :=
  a.createdAt.before b.createdAt || a.createdAt.equal b.createdAt && decide (a.id ≤ b.id)

variable (s : Tables)

def listProjection (accountID previewID : String) (limit : Nat) : Except Err (List PreviewDomain) := do
  refuseIf (!validScope accountID previewID || decide (limit < 1) || decide (limit > maxDomains + 1)) .invalidInput
  return ((s.domains.rows.filter (·.ofLease accountID previewID)).mergeSort listedBefore).take limit

/-- `Service.previewView`: a lease and its domains. -/
def previewView (l : Lease) : Except Err (Lease × List PreviewDomain) := do
  let rows ← s.listProjection l.accountID l.id (maxDomains + 1)
  refuseIf (decide (rows.length > maxDomains)) .invalidInput
  return (l, rows)

def places : List (String × String) := s.domains.rows.map fun d => (d.accountID, d.previewID)

def names : List (String × String) := s.leases.rows.map fun l => (l.accountID, l.id)

/-- A request that creates a domain finds fewer than eight of the preview, withdrawn ones included. -/
def HasRoom : Op → Prop
  | .createDomain input env => (s.step (.createDomain input env)).places ≠ s.places →
      s.places.count (input.accountID, input.previewID) < maxDomains
  | _ => True

variable {s} {s' : Tables} {op : Op}

theorem length_filter_ofLease (accountID previewID : String) :
    (s.domains.rows.filter (·.ofLease accountID previewID)).length = s.places.count (accountID, previewID) := by
  rw [places, List.count, countP_map, countP_eq_length_filter]
  congr 2
  funext d
  exact Bool.and_comm _ _

theorem previewView_ok_iff (l : Lease) (hscope : validScope l.accountID l.id) :
    (∃ view, s.previewView l = .ok view) ↔ s.places.count (l.accountID, l.id) ≤ maxDomains := by
  rw [← length_filter_ofLease]
  simp only [previewView, listProjection, hscope]
  constructor
  · rintro ⟨view, hview⟩
    have hfew := refuseIf_eq_ok.1 (check_eq_ok.1 hview).1
    simp at hfew
    omega
  · exact fun h => ⟨_, check_eq_ok.2 ⟨refuseIf_eq_ok.2 (by simp; omega), rfl⟩⟩

theorem ending_places (h : Ending s s') : s'.names = s.names ∧ s'.places = s.places := by
  obtain ⟨now, selected, change, keeps, ended, -, hchange, hw⟩ := h
  constructor
  · rw [names, hw.leases]
    exact Table.map_update keeps fun l => by rw [(hchange l).accountID, keeps]
  · have hplace := hw.domains.imp fun d d' hd => show (d.accountID, d.previewID) = (d'.accountID, d'.previewID) by
      rcases hd.1 with rfl | ⟨-, rfl⟩ <;> rfl
    have heq : List.Forall₂ Eq s.places s'.places := forall₂_map_left_iff.2 (forall₂_map_right_iff.2 hplace)
    rw [forall₂_eq_eq_eq] at heq
    exact heq.symm

structure Shown (s : Tables) : Prop where
  scopes : ∀ n ∈ s.names, validScope n.1 n.2
  leased : ∀ p ∈ s.places, p ∈ s.names
  few : ∀ p, s.places.count p ≤ maxDomains

variable {ns ps : List (String × String)}

theorem Shown.append (h : Shown s) (hn : s'.names = s.names ++ ns) (hp : s'.places = s.places ++ ps)
    (hns : ∀ n ∈ ns, validScope n.1 n.2) (hps : ∀ p ∈ ps, p ∈ s'.names)
    (hfew : ∀ p ∈ ps, s.places.count p + ps.count p ≤ maxDomains) : Shown s' := by
  refine ⟨fun n hmem => ?_, fun p hmem => ?_, fun p => ?_⟩
  · rw [hn] at hmem
    exact (mem_append.1 hmem).elim (h.scopes n) (hns n)
  · rw [hp] at hmem
    refine (mem_append.1 hmem).elim (fun hmem => ?_) (hps p)
    exact hn ▸ mem_append_left _ (h.leased p hmem)
  · rw [hp, count_append]
    by_cases hmem : p ∈ ps
    · exact hfew p hmem
    · rw [count_eq_zero.2 hmem]
      exact h.few p

theorem Shown.of_eq (h : Shown s) (hn : s'.names = s.names) (hp : s'.places = s.places) : Shown s' :=
  h.append (hn.trans (append_nil _).symm) (hp.trans (append_nil _).symm) nofun nofun nofun

theorem names_of_leases (h : s'.leases = s.leases) : s'.names = s.names := by rw [names, h, names]

theorem places_of_domains (h : s'.domains = s.domains) : s'.places = s.places := by rw [places, h, places]

theorem Shown.step (h : Shown s) (hroom : s.HasRoom op) : Shown (s.step op) := by
  have heffect := effect_of_step s op
  generalize hs' : s.step op = s' at heffect
  cases heffect with
  | kept hs => exact h.of_eq (names_of_leases hs.leases) (places_of_domains hs.domains)
  | created l ds hfresh _ _ hds hleases hdomains _ hscope hfew =>
    have hn : s'.names = s.names ++ [(l.accountID, l.id)] := by rw [names, hleases, map_append]; rfl
    have hnew : ∀ p ∈ ds.map fun d => (d.accountID, d.previewID), p = (l.accountID, l.id) := fun p hp => by
      obtain ⟨d, hd, rfl⟩ := mem_map.1 hp
      have hof := (hds d hd).1
      simp only [PreviewDomain.ofLease, Bool.and_eq_true, beq_iff_eq] at hof
      rw [hof.1, hof.2]
    refine h.append hn (by rw [places, hdomains, map_append]; rfl) (fun n hmem => ?_) (fun p hp => ?_) fun p hp => ?_
    · rwa [mem_singleton.1 hmem]
    · rw [hn, hnew p hp]
      exact mem_append_right _ (mem_singleton_self _)
    · -- The preview is new, so no domain was created for it.
      have hnone : s.places.count p = 0 := count_eq_zero.2 fun hmem => by
        obtain ⟨l', hl', he⟩ := mem_map.1 (h.leased p hmem)
        have hid : l'.id = l.id := (Prod.mk.inj (he.trans (hnew p hp))).2
        simpa [hid] using List.find?_eq_none.1 hfresh l' hl'
      rw [hnone, Nat.zero_add]
      exact count_le_length.trans ((length_map _).trans_le hfew)
  | renewed l _ _ _ _ _ _ hmidLeases hmidDomains hleases hdomains =>
    refine h.of_eq ?_ ?_
    · rw [names, hleases, hmidLeases]
      exact Table.map_update _ fun _ => rfl
    · rw [places, hdomains, hmidDomains]
      exact Table.map_update _ fun _ => rfl
  | marked l _ _ _ hleases hdomains =>
    refine h.of_eq ?_ (places_of_domains hdomains)
    rw [names, hleases]
    exact Table.map_update _ fun _ => rfl
  | ended mid he he' =>
    obtain ⟨hn, hp⟩ := ending_places he
    have hmid := h.of_eq hn hp
    rcases he' with he' | hs
    · exact hmid.of_eq (ending_places he').1 (ending_places he').2
    · exact hmid.of_eq (names_of_leases hs.leases) (places_of_domains hs.domains)
  | domainAdded d l hlease _ _ _ _ _ hleases hdomains _ hplace =>
    have hn := names_of_leases hleases
    have hp : s'.places = s.places ++ [(d.accountID, d.previewID)] := by rw [places, hdomains, map_append]; rfl
    refine h.append (hn.trans (append_nil _).symm) hp (by simp) ?_ ?_
    · simp only [mem_singleton, forall_eq]
      obtain ⟨hmem, hid, hacc⟩ := lease?_eq_some.1 hlease
      exact hn ▸ mem_map.2 ⟨l, hmem, by rw [hid, hacc]⟩
    · simp only [mem_singleton, forall_eq, count_singleton_self, hplace]
      exact hroom (by simp [hs', hp])
  | domainsChanged _ _ _ hchange _ hleases hdomains =>
    refine h.of_eq (names_of_leases hleases) ?_
    rw [places, hdomains]
    exact Table.map_update _ fun d => by rw [(hchange d).1, (hchange d).2.1]
  | recorded hleases hdomains => exact h.of_eq (names_of_leases hleases) (places_of_domains hdomains)

end Tables

open Tables

/-- Every preview can be shown if a domain is created only for one that has fewer than eight rows of domains. -/
theorem previews_shown (ops : List Op) (h : EachStep step HasRoom initial ops) :
    Throughout step (fun s => ∀ l ∈ s.leases.rows, ∃ view, s.previewView l = .ok view) initial ops := by
  have hrun : Throughout step Shown initial ops := throughout_of_inv (fun _ _ hs hroom => hs.step hroom)
    ⟨nofun, nofun, fun _ => Nat.zero_le _⟩ h
  refine hrun.imp fun s hs l hl => (previewView_ok_iff l ?_).2 (hs.few _)
  exact hs.scopes (l.accountID, l.id) (mem_map.2 ⟨l, hl, rfl⟩)

namespace Sample

def domains : List DomainRequest :=
  shop :: (List.range 7).map fun n =>
    ⟨"pdom_" ++ toString (n + 2), "shop" ++ toString n ++ ".example", .exact, "dns-challenge://1", .generic, .managed⟩

def ninth : CreateDomain where
  mutation := ⟨"op_4", "aud_4", "key_4", 4⟩
  accountID := "acc_1"
  previewID := "pvw_1"
  previewGeneration := 1
  request := ⟨"pdom_9", "shop9.example", .exact, "dns-challenge://1", .generic, .managed⟩
  dnsTarget := "one.example"
  now := at_ 3

end Sample

open Sample

theorem previews_shown_once : Throughout step (fun s => ∀ l ∈ s.leases.rows, ∃ view, s.previewView l = .ok view)
    initial [create, .mutateDomain deletion false, .createDomain ninth env] :=
  previews_shown _ ⟨trivial, trivial, fun _ => show _ < maxDomains by decide +kernel, trivial⟩

/-- A preview that was created with eight domains, of which one was withdrawn and another one created. -/
theorem preview_not_shown :
    let s := run step initial
      [.createLease hosts { lease with domains } (some false) env, .mutateDomain deletion false, .createDomain ninth env]
    (s.domains.rows.filter (·.live)).length = 8 ∧ ∃ l ∈ s.leases.rows, ¬∃ view, s.previewView l = .ok view := by
  intro s
  refine ⟨by decide +kernel, lease.row (at_ 1), ?_, mt (previewView_ok_iff _ (by decide)).1 (by decide +kernel)⟩
  exact mem_singleton.2 rfl

end Paperboat.Previews

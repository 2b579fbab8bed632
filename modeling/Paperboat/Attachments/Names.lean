import Paperboat.Attachments.Authority
import Paperboat.Lib.Fields
/-!
# The texts that are derived

The names of a carrier are digests behind a short word, and a thumbprint is one in
another encoding. Whatever the digests are, the names pass the checks of the code and
of the table.
-/

namespace Paperboat.Attachments

variable {v : String} {c : Char}

open Lib List

variable {codec : Codec}

/-! ## Digits -/

theorem isLowerHex_bounds (h : isLowerHex c) : '0' ≤ c ∧ c ≤ 'f' := by
  simp only [isLowerHex, Bool.or_eq_true, Bool.and_eq_true, decide_eq_true_eq] at h
  rcases h with ⟨hlow, hhigh⟩ | ⟨hlow, hhigh⟩
  · exact ⟨hlow, Char.le_trans hhigh (by decide)⟩
  · exact ⟨Char.le_trans (by decide) hlow, hhigh⟩

theorem base64Value_bounds (h : (base64Value c).isSome) : '-' ≤ c ∧ c ≤ 'z' := by
  unfold base64Value at h
  split_ifs at h with hupper hlower hdg hdash hline
  · exact ⟨Char.le_trans (by decide) hupper.1, Char.le_trans hupper.2 (by decide)⟩
  · exact ⟨Char.le_trans (by decide) hlower.1, hlower.2⟩
  · exact ⟨Char.le_trans (by decide) hdg.1, Char.le_trans hdg.2 (by decide)⟩
  · subst hdash
    decide
  · subst hline
    decide
  · cases h

theorem printable (hlow : '!' ≤ c) (hhigh : c ≤ '~') :
    (decide (c < ' ') || c == '\x7f') = false ∧ (c != '\r' && c != '\n') := by
  have hlow' : 33 ≤ c.val.toNat := hlow
  have hhigh' : c.val.toNat ≤ 126 := hhigh
  have hne : ∀ d : Char, d.val.toNat < 33 ∨ 126 < d.val.toNat → c ≠ d := by
    rintro d hd rfl
    omega
  have hlt : ¬c < ' ' := fun h => by
    have : c.val.toNat < 32 := h
    omega
  simp only [Bool.or_eq_false_iff, decide_eq_false_iff_not, beq_eq_false_iff_ne, Bool.and_eq_true, bne_iff_ne]
  exact ⟨⟨hlt, hne _ (.inr (by decide))⟩, hne _ (.inl (by decide)), hne _ (.inl (by decide))⟩

/-! ## Texts -/

theorem text_of_printable (h : ∀ c ∈ v.toList, '!' ≤ c ∧ c ≤ '~') :
    v.utf8ByteSize = v.toList.length ∧ hasControl v = false ∧ v.toList.filter (fun c => c != '\r' && c != '\n') = v.toList := by
  refine ⟨Fields.utf8ByteSize_of_ascii fun c hc => ?_, ?_, ?_⟩
  · have hval : c.val.toNat ≤ 126 := (h c hc).2
    rw [Char.utf8Size, if_pos]
    exact UInt32.le_iff_toNat_le.2 (le_trans hval (by decide))
  · rw [hasControl, any_eq_false]
    intro c hc
    rw [(printable (h c hc).1 (h c hc).2).1]
    exact Bool.false_ne_true
  · rw [filter_eq_self]
    exact fun c hc => (printable (h c hc).1 (h c hc).2).2

theorem sha256Rest_append (rest : String) : sha256Rest ("sha256:" ++ rest) = some rest.toList := by
  rw [sha256Rest, String.toList_append, if_pos]
  · rfl
  · exact isPrefixOf_iff_prefix.2 (prefix_append _ _)

theorem sha256Text_sha256 (text : String) : sha256Text isLowerHex ("sha256:" ++ codec.sha256 text) := by
  obtain ⟨hlen, hhex⟩ := codec.sha256_hex text
  simp [sha256Text, sha256Rest_append, hlen, hhex]

theorem sha256Text_isHex (h : sha256Text isLowerHex v) : sha256Text isHex v := by
  unfold sha256Text at h ⊢
  cases hrest : sha256Rest v with
  | none => rw [hrest] at h; cases h
  | some =>
    rw [hrest] at h
    simp only [Option.any_some, Bool.and_eq_true, all_eq_true] at h ⊢
    exact ⟨h.1, fun c hc => by rw [isHex, h.2 c hc, Bool.true_or]⟩

namespace CarrierSeed

theorem toList_suffix (codec : Codec) (parts : List String) :
    (suffix codec parts).toList.length = 32 ∧ ∀ c ∈ (suffix codec parts).toList, isLowerHex c := by
  obtain ⟨hlen, hhex⟩ := codec.sha256_hex (joined parts)
  rw [suffix, String.toList_ofList, length_take, hlen]
  exact ⟨rfl, fun c hc => all_eq_true.1 hhex c (mem_of_mem_take hc)⟩

theorem validID_suffix {word : String} (hword : word.toList.all (fun c => decide ('!' ≤ c) && decide (c ≤ '~')))
    (hlength : word.toList.length = 8) (parts : List String) : validID (word ++ suffix codec parts) := by
  obtain ⟨hlen, hhex⟩ := toList_suffix codec parts
  have hchs : ∀ c ∈ (word ++ suffix codec parts).toList, '!' ≤ c ∧ c ≤ '~' := by
    intro c hc
    rw [String.toList_append] at hc
    rcases mem_append.1 hc with hc | hc
    · simpa using all_eq_true.1 hword c hc
    · have hbs := isLowerHex_bounds (hhex c hc)
      exact ⟨Char.le_trans (by decide) hbs.1, Char.le_trans hbs.2 (by decide)⟩
  obtain ⟨hsize, -⟩ := text_of_printable hchs
  rw [String.toList_append, length_append, hlength, hlen] at hsize
  simp only [validID, hsize, Bool.and_eq_true, decide_eq_true_eq, all_eq_true]
  exact ⟨⟨by decide, by decide⟩, hchs⟩

theorem ids_valid (i : CarrierSeed) (codec : Codec) :
    validID (i.ids codec).tunnelID ∧ validID (i.ids codec).connectorID ∧
      validID (i.ids codec).sessionID ∧ validID (i.ids codec).routeID :=
  ⟨validID_suffix (by decide +kernel) (by decide +kernel) _, validID_suffix (by decide +kernel) (by decide +kernel) _,
    validID_suffix (by decide +kernel) (by decide +kernel) _, validID_suffix (by decide +kernel) (by decide +kernel) _⟩

theorem configHash_form (i : CarrierSeed) (codec : Codec) : sha256Text isLowerHex (i.configHash codec) := sha256Text_sha256 _

end CarrierSeed

/-! ## Keys -/

def Machine.key (m : Machine) : String := m.publicIdentityKey.getD ""

def Machine.thumbprint (codec : Codec) (m : Machine) : String := "sha256:" ++ codec.keyDigest m.key

theorem base64Of32_printable {cs : List Char} (h : base64Of32 cs) : ∀ c ∈ cs, '!' ≤ c ∧ c ≤ '~' := by
  simp only [base64Of32, Bool.and_eq_true, all_eq_true] at h
  intro c hc
  have hbs := base64Value_bounds (h.1.2 c hc)
  exact ⟨Char.le_trans (by decide) hbs.1, Char.le_trans hbs.2 (by decide)⟩

theorem Machine.thumbprint_valid (m : Machine) : validMachineIdentityThumbprint (m.thumbprint codec) := by
  have hform := codec.keyDigest_form m.key
  have hchs := base64Of32_printable hform
  obtain ⟨-, -, hfilter⟩ := text_of_printable hchs
  have hall : ∀ c ∈ (m.thumbprint codec).toList, '!' ≤ c ∧ c ≤ '~' := by
    intro c hc
    rw [thumbprint, String.toList_append] at hc
    rcases mem_append.1 hc with hc | hc
    · have hword : "sha256:".toList.all (fun c => decide ('!' ≤ c) && decide (c ≤ '~')) := by decide +kernel
      simpa using all_eq_true.1 hword c hc
    · exact hchs c hc
  have hlen : (codec.keyDigest m.key).toList.length = 43 := by
    simp only [base64Of32, Bool.and_eq_true, beq_iff_eq] at hform
    exact hform.1.1
  obtain ⟨hsize, hcontrol, -⟩ := text_of_printable hall
  have hword : "sha256:".toList.length = 7 := by decide +kernel
  rw [thumbprint, String.toList_append, length_append, hlen, hword] at hsize
  simp only [validMachineIdentityThumbprint, hcontrol, Bool.not_false, Bool.and_true, Bool.and_eq_true, beq_iff_eq]
  refine ⟨hsize, ?_⟩
  rwa [thumbprint, sha256Rest_append, Option.any_some, decodesTo32, hfilter]

end Paperboat.Attachments

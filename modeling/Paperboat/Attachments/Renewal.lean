import Paperboat.Attachments.Allocation
/-!
# Renewed rows

What `renewAttachmentSQL` makes of a row: within the same attachment the binding is the
next one. With the same carrier the row keeps its state, and with another it has to be
admitted again. Either way it is as valid as the row and the next attachment are.
-/

namespace Paperboat.Attachments

open Lib

theorem Binding.renew_eq {b next : Binding} (hlog : b.logicalEqual next)
    (hrt : b.routeGeneration = next.routeGeneration) : b.renew next = next := by
  simp only [logicalEqual, Bool.and_eq_true, beq_iff_eq] at hlog
  obtain ⟨⟨⟨⟨⟨⟨⟨⟨⟨hacc, hpv⟩, hop⟩, hdv⟩, hss⟩, hhost⟩, htn⟩, hcn⟩, hrouteID⟩, hn⟩ := hlog
  cases b
  cases next
  simp only [renew, mk.injEq, and_true, true_and]
  exact ⟨hacc, hpv, hop, hdv, hss, hhost, htn, hcn, hrouteID, hrt⟩

namespace Row

variable {codec : Codec} {p : Previews.Lease} {r next : Row}

theorem renew_of_other_carrier (h : r.carrier ≠ next.carrier) : r.renew next = { r with
      binding := r.binding.renew next.binding
      configContentHash := next.configContentHash
      edgeEndpoints := next.edgeEndpoints
      attachmentGeneration := r.attachmentGeneration + 1
      state := .pending
      edgeReady := false
      originReady := false
      readyAt := none
      expiresAt := next.expiresAt } := by
  simp [Row.renew, h]

theorem renew_of_same_carrier (h : r.carrier = next.carrier) : r.renew next = { r with
      binding := { r.binding with leaseGeneration := next.binding.leaseGeneration }
      edgeEndpoints := next.edgeEndpoints
      attachmentGeneration := r.attachmentGeneration + 1
      expiresAt := next.expiresAt } := by
  have hfs := h
  simp only [carrier, Binding.carrier, Carrier.mk.injEq] at hfs
  obtain ⟨hss, hproc, hconfigGeneration, hcf, hn, hep, hsp, hcn, hkey, hthumbprint⟩ := hfs
  simp [Row.renew, Binding.renew, h, ← hss, ← hproc, ← hconfigGeneration, ← hcf, ← hn, ← hep, ← hsp, ← hcn, ← hkey, ← hthumbprint]

theorem releasedAt_of_live (hlive : r.live) (hcs : r.consistent) : r.releasedAt = none := by
  unfold live at hlive
  unfold consistent at hcs
  cases hst : r.state <;> simp [hst, State.terminal] at hlive hcs <;> tauto

theorem validate_renew (hr : (r.attached p).validate codec = .ok ()) (hnext : (next.attached p).validate codec = .ok ())
    (hlive : r.live) (hbd : r.binding.renew next.binding = next.binding)
    (haf : next.expiresAt.after r.issuedAt) : ((r.renew next).attached p).validate codec = .ok () := by
  simp only [Attachment.validate, check_eq_ok, refuseIf_eq_ok, Bool.not_eq_false', Bool.or_eq_false_iff] at hr hnext ⊢
  obtain ⟨-, hkeys, hhash, htg, hept, -, -, ⟨⟨⟨-, his⟩, -⟩, -⟩, hcs⟩ := hr
  obtain ⟨hv, -, -, -, -, heps, hcf, ⟨⟨⟨-, -⟩, hzero⟩, -⟩, -⟩ := hnext
  refine ⟨?_, hkeys, hhash, htg, hept, heps, hcf, ⟨⟨⟨rfl, his⟩, hzero⟩, haf⟩, ?_⟩
  · exact (congrArg Binding.valid hbd).trans hv
  change (r.renew next).consistent = true
  by_cases hcr : r.carrier = next.carrier
  · rwa [renew_of_same_carrier hcr]
  · rw [renew_of_other_carrier hcr]
    simp [consistent, releasedAt_of_live hlive hcs]

theorem checks_renew (hr : r.checks) (hnext : next.checks) (hrl : r.releasedAt = none)
    (hbd : r.binding.renew next.binding = next.binding) (haf : next.expiresAt.after r.issuedAt) :
    (r.renew next).checks := by
  simp only [checks, Bool.and_eq_true] at hr hnext ⊢
  obtain ⟨⟨⟨⟨hrq, -⟩, hst⟩, -⟩, -⟩ := hr
  obtain ⟨⟨⟨⟨-, hcr⟩, -⟩, -⟩, -⟩ := hnext
  refine ⟨⟨⟨⟨hrq, ?_⟩, ?_⟩, rfl⟩, haf⟩
  · have hcongr : (r.renew next).carrierChecks = next.carrierChecks := by
      have hb : (r.renew next).binding = next.binding := hbd
      simp only [carrierChecks, hb]
      rfl
    rwa [hcongr]
  by_cases hcr : r.carrier = next.carrier
  · rwa [renew_of_same_carrier hcr]
  · rw [renew_of_other_carrier hcr]
    simp [stateChecks, hrl]

end Row

theorem Registry.guards_congr {w : Registry} {r r' : Row} (hbd : r.binding = r'.binding) (hlive : r.live = r'.live) :
    (w.leaseGuard r && w.epochGuard r) = (w.leaseGuard r' && w.epochGuard r') := by
  simp only [leaseGuard, epochGuard, hbd, hlive]

end Paperboat.Attachments

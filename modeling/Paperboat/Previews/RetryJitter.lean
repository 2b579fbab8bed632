import Paperboat.Lib.Time
/-!
# The jitter of a DNS retry

The offset of a retry is a 16-bit number of nanoseconds, reduced modulo a width
of at least two seconds. The reduction never changes it, so every delay lies
within 66 microseconds of the lower end of the window it should be spread over.
-/

namespace Paperboat.Previews

open Lib

/-- `deterministicDNSJitter`; `digest` is the first two bytes of the digest of the domain and the attempt. -/
def deterministicDNSJitter (digest : BitVec 16) (base : Int) : Int :=
  if base ≤ Duration.second then base
  else
    let span := max (base / 10) Duration.second
    let width := span * 2 + 1
    base + ((digest.toNat : Int) % width - span)

theorem deterministicDNSJitter_eq {base : Int} (h : 10 * Duration.second < base) (digest : BitVec 16) :
    deterministicDNSJitter digest base = base - base / 10 + digest.toNat := by
  simp only [Duration.second, Duration.millisecond] at h
  have hspan : max (base / 10) 1000000000 = base / 10 := by omega
  have hmod : (digest.toNat : Int) % (base / 10 * 2 + 1) = digest.toNat := Int.emod_eq_of_lt (by omega) (by omega)
  simp only [deterministicDNSJitter, Duration.second, Duration.millisecond, Int.reduceMul, hspan, hmod]
  omega

/-- Every delay is below its base, and the points of the window that some delay comes close to are those
near its lower end, which are never all of them. -/
theorem deterministicDNSJitter_stays_low (base : Int) (h : 10 * Duration.second < base) :
    (∀ digest, deterministicDNSJitter digest base = base - base / 10 + digest.toNat ∧ deterministicDNSJitter digest base < base) ∧
    (∀ point, base - base / 10 ≤ point → point ≤ base + base / 10 →
      ((∃ digest, 1000 * ((deterministicDNSJitter digest base - point).natAbs : Int) ≤ base / 10) ↔
        1000 * (point - (base - base / 10) - 65535) ≤ base / 10)) ∧
    ¬∀ point, base - base / 10 ≤ point → point ≤ base + base / 10 →
      ∃ digest, 1000 * ((deterministicDNSJitter digest base - point).natAbs : Int) ≤ base / 10 := by
  have hs := h
  simp only [Duration.second, Duration.millisecond] at hs
  simp only [deterministicDNSJitter_eq h, true_and]
  refine ⟨fun digest => by omega, fun point hlow _ => ⟨?_, fun hclose => ?_⟩, fun hall => ?_⟩
  · rintro ⟨digest, hdigest⟩
    omega
  · -- the closest delay is the point itself, or the largest delay
    refine ⟨.ofNat 16 (min (point - (base - base / 10)).toNat 65535), ?_⟩
    rw [BitVec.toNat_ofNat, Nat.mod_eq_of_lt (by omega)]
    omega
  · obtain ⟨digest, hdigest⟩ := hall base (by omega) (by omega)
    omega

theorem deterministicDNSJitter_stays_low_minute :
    ¬∃ digest, 1000 * ((deterministicDNSJitter digest Duration.minute - Duration.minute).natAbs : Int) ≤ Duration.minute / 10 :=
  fun h => absurd (((deterministicDNSJitter_stays_low Duration.minute (by decide)).2.1 Duration.minute
    (by decide) (by decide)).1 h) (by decide)

theorem deterministicDNSJitter_one_sided : ¬∃ digest, Duration.minute ≤ deterministicDNSJitter digest Duration.minute := by
  rintro ⟨digest, h⟩
  rw [deterministicDNSJitter_eq (by decide)] at h
  simp only [Duration.minute, Duration.second, Duration.millisecond] at h
  omega

end Paperboat.Previews

import CallAudio.Config
import Mathlib.Tactic.Ring

/-! The delay before a retry. Seconds and nanoseconds are multiplied apart, in machine words, with a carry
between them; counted in nanoseconds the product is exact up to the longest span and stays there beyond. -/
namespace CallAudio

namespace Duration

theorem toNanos_inj {d e : Duration} : d.toNanos = e.toNanos ↔ d = e := by
  constructor
  · intro same
    have first := d.nanos_lt
    have second := e.nanos_lt
    unfold toNanos at same
    obtain ⟨secs, nanos, _⟩ := d
    obtain ⟨secs', nanos', _⟩ := e
    have seconds : secs = secs' := by
      apply UInt64.toNat_inj.mp
      dsimp only at *
      omega
    have rest : nanos = nanos' := by
      apply UInt32.toNat_inj.mp
      dsimp only at *
      omega
    subst seconds rest
    rfl
  · rintro rfl
    rfl

theorem toNanos_longest : longest.toNanos = 18446744073709551616 * 1000000000 - 1 := by decide

theorem toNanos_le_longest (d : Duration) : d.toNanos ≤ longest.toNanos := by
  have seconds := d.secs.toNat_lt
  have rest := d.nanos_lt
  rw [toNanos_longest]
  unfold toNanos
  omega

theorem word?_eq_some {n : Nat} {w : UInt64} : word? n = some w ↔ n = w.toNat := by
  have bound : w.toNat < UInt64.size := w.toNat_lt
  unfold word?
  split
  · next fits =>
    rw [Option.some.injEq, ← UInt64.toNat_inj]
    have exact : (UInt64.ofNat n).toNat = n := Nat.mod_eq_of_lt fits
    rw [exact]
  · next outgrown => exact ⟨nofun, fun same => absurd (same ▸ bound) outgrown⟩

theorem word?_eq_none {n : Nat} : word? n = none ↔ UInt64.size ≤ n := by
  unfold word?
  split
  · next fits => exact ⟨nofun, fun outgrown => absurd fits (Nat.not_lt.mpr outgrown)⟩
  · next outgrown => exact ⟨fun _ => Nat.not_lt.mp outgrown, fun _ => rfl⟩

variable (d : Duration) (factor : UInt32)

/-- The nanoseconds below one second never outgrow a word, whatever the factor. -/
theorem nanos_mul_lt : d.nanos.toNat * factor.toNat < UInt64.size := by
  have rest := d.nanos_lt
  have bound := factor.toNat_lt
  calc d.nanos.toNat * factor.toNat
    _ ≤ 1000000000 * 4294967296 := Nat.mul_le_mul (by omega) (by omega)
    _ < UInt64.size := by decide

theorem toNat_nanos_mul :
    (d.nanos.toUInt64 * factor.toUInt64).toNat = d.nanos.toNat * factor.toNat := by
  rw [UInt64.toNat_mul, UInt32.toNat_toUInt64, UInt32.toNat_toUInt64]
  exact Nat.mod_eq_of_lt (d.nanos_mul_lt factor)

/-- The product is exact up to the longest span. -/
theorem toNanos_saturatingMul : (d.saturatingMul factor).toNanos =
    min (d.toNanos * factor.toNat) longest.toNanos := by
  have product : d.toNanos * factor.toNat =
      d.secs.toNat * factor.toUInt64.toNat * 1000000000 +
        (d.nanos.toUInt64 * factor.toUInt64).toNat := by
    rw [toNat_nanos_mul, UInt32.toNat_toUInt64]
    unfold toNanos
    ring
  rw [product, toNanos_longest]
  unfold saturatingMul
  dsimp only
  generalize d.nanos.toUInt64 * factor.toUInt64 = total
  have carry : (total / 1000000000).toNat = total.toNat / 1000000000 := UInt64.toNat_div ..
  split
  · next none =>
    -- The seconds alone outgrow a word.
    have outgrown : 18446744073709551616 ≤ _ := word?_eq_none.mp none
    rw [toNanos_longest]
    omega
  · next whole some =>
    have seconds := word?_eq_some.mp some
    split
    · next none =>
      -- The seconds outgrow it with the carry.
      have outgrown : 18446744073709551616 ≤ _ := word?_eq_none.mp none
      rw [toNanos_longest]
      omega
    · next secs some =>
      have carried := word?_eq_some.mp some
      have bound := secs.toNat_lt
      have rest : (total % 1000000000).toUInt32.toNat = total.toNat % 1000000000 := by
        rw [UInt64.toNat_toUInt32, UInt64.toNat_mod]
        change total.toNat % 1000000000 % 4294967296 = _
        omega
      unfold toNanos
      dsimp only
      omega

end Duration

namespace RouteConfig

open Duration

theorem toNat_backoffFactor (attempt : Nat) :
    (backoffFactor attempt).toNat = 2 ^ doublings attempt := by
  have few : doublings attempt ≤ 16 := Nat.min_le_right ..
  unfold backoffFactor
  generalize doublings attempt = k at few
  have shift : k.toUInt32.toNat % 32 = k := by
    change k % 4294967296 % 32 = k
    omega
  have fits : 2 ^ k < 4294967296 :=
    calc 2 ^ k
      _ ≤ 2 ^ 16 := Nat.pow_le_pow_right (by decide) few
      _ < 4294967296 := by decide
  rw [UInt32.toNat_shiftLeft, shift]
  change 1 <<< k % 4294967296 = _
  rw [Nat.one_shiftLeft, Nat.mod_eq_of_lt fits]

theorem doublings_mono {n m : Nat} (h : n ≤ m) : doublings n ≤ doublings m := by
  unfold doublings
  omega

theorem doublings_succ {n : Nat} (first : 1 ≤ n) (last : n ≤ 16) :
    doublings (n + 1) = doublings n + 1 := by
  unfold doublings
  omega

variable (c : RouteConfig)

theorem toNanos_backoff (n : Nat) : (c.backoff n).toNanos =
    min (c.retryBackoff.toNanos * 2 ^ doublings n) longest.toNanos := by
  unfold backoff
  rw [toNanos_saturatingMul, toNat_backoffFactor]

theorem toNanos_backoff_succ {n : Nat} (first : 1 ≤ n) (last : n ≤ 16) :
    (c.backoff (n + 1)).toNanos = min (2 * (c.backoff n).toNanos) longest.toNanos := by
  have doubled : c.retryBackoff.toNanos * 2 ^ doublings (n + 1) =
      2 * (c.retryBackoff.toNanos * 2 ^ doublings n) := by
    rw [doublings_succ first last]
    ring
  rw [toNanos_backoff, toNanos_backoff, doubled]
  omega

/-- The delay is the base doubled for each attempt after the first, sixteen times at most, counted in
nanoseconds and cut off at the longest span. Neither the shift nor the product of the nanoseconds wraps
around; later attempts and longer bases never shorten the delay; and up to the seventeenth attempt each
delay is twice the last one unless that is longer than the longest. -/
theorem backoff_exact (n : Nat) :
    (c.backoff n).toNanos =
        min (c.retryBackoff.toNanos * 2 ^ min (n - 1) 16) longest.toNanos ∧
      (doublings n < 32 ∧ (backoffFactor n).toNat = 2 ^ doublings n ∧
        c.retryBackoff.nanos.toNat * (backoffFactor n).toNat < UInt64.size) ∧
      (∀ m, n ≤ m → (c.backoff n).toNanos ≤ (c.backoff m).toNanos) ∧
      (∀ other : RouteConfig, c.retryBackoff.toNanos ≤ other.retryBackoff.toNanos →
        (c.backoff n).toNanos ≤ (other.backoff n).toNanos) ∧
      (1 ≤ n → n ≤ 16 → (c.backoff (n + 1)).toNanos = 2 * (c.backoff n).toNanos ∨
        c.backoff (n + 1) = longest ∧ longest.toNanos < 2 * (c.backoff n).toNanos) := by
  refine ⟨c.toNanos_backoff n, ⟨?_, toNat_backoffFactor n, nanos_mul_lt _ _⟩, ?_, ?_, ?_⟩
  · unfold doublings
    omega
  · intro m later
    rw [toNanos_backoff, toNanos_backoff]
    have grown : 2 ^ doublings n ≤ 2 ^ doublings m :=
      Nat.pow_le_pow_right (by decide) (doublings_mono later)
    have longer := Nat.mul_le_mul_left c.retryBackoff.toNanos grown
    omega
  · intro other longer
    rw [toNanos_backoff, toNanos_backoff]
    have grown := Nat.mul_le_mul_right (2 ^ doublings n) longer
    omega
  · intro first last
    have next := c.toNanos_backoff_succ first last
    rcases Nat.lt_or_ge longest.toNanos (2 * (c.backoff n).toNanos) with beyond | within
    · rw [Nat.min_eq_right beyond.le] at next
      exact Or.inr ⟨toNanos_inj.mp next, beyond⟩
    · exact Or.inl (next.trans (Nat.min_eq_left within))

/-- With the longest base that a number of milliseconds gives, the tenth delay is the last that is twice
its predecessor. -/
theorem backoff_exact_of_longest_millis :
    let c : RouteConfig := { retryBackoff := .ofMillis 18446744073709551615 }
    (c.backoff 10).toNanos = 2 * (c.backoff 9).toNanos ∧ c.backoff 11 = longest := by
  intro c
  have nine := (c.backoff_exact 9).2.2.2.2 (by decide) (by decide)
  have ten := (c.backoff_exact 10).2.2.2.2 (by decide) (by decide)
  have within : ¬longest.toNanos < 2 * (c.backoff 9).toNanos := by decide
  have beyond : longest.toNanos < 2 * (c.backoff 10).toNanos := by decide
  constructor
  · exact nine.resolve_right fun h => within h.2
  · refine (ten.resolve_left fun h => ?_).1
    change (c.backoff 11).toNanos = _ at h
    have := (c.backoff 11).toNanos_le_longest
    omega

end RouteConfig

end CallAudio

/-! Spans of time as whole seconds and nanoseconds below one second, with arithmetic that
saturates. -/
namespace CallAudio

/-- A span of time of at most `2 ^ 64` seconds. -/
structure Duration where
  secs : UInt64
  nanos : UInt32
  nanos_lt : nanos.toNat < 1000000000
deriving DecidableEq, Repr

namespace Duration

def longest : Duration := ⟨18446744073709551615, 999999999, by decide⟩

def toNanos (d : Duration) : Nat := d.secs.toNat * 1000000000 + d.nanos.toNat

theorem millis_nanos_lt (ms : UInt64) : ((ms % 1000).toUInt32 * 1000000).toNat < 1000000000 := by
  have h : ms.toNat % 1000 < 1000 := Nat.mod_lt _ (by decide)
  rw [UInt32.toNat_mul, UInt64.toNat_toUInt32, UInt64.toNat_mod]
  change ms.toNat % 1000 % 4294967296 * 1000000 % 4294967296 < _
  have small : ms.toNat % 1000 % 4294967296 = ms.toNat % 1000 := Nat.mod_eq_of_lt (by omega)
  rw [small, Nat.mod_eq_of_lt (by omega)]
  omega

def ofMillis (ms : UInt64) : Duration :=
  ⟨ms / 1000, (ms % 1000).toUInt32 * 1000000, millis_nanos_lt ms⟩

/-- A number as a word, unless it overflows. -/
def word? (n : Nat) : Option UInt64 := if n < UInt64.size then some (.ofNat n) else none

def checkedMul (x y : UInt64) : Option UInt64 := word? (x.toNat * y.toNat)

def checkedAdd (x y : UInt64) : Option UInt64 := word? (x.toNat + y.toNat)

theorem carried_nanos_lt (total : UInt64) : (total % 1000000000).toUInt32.toNat < 1000000000 := by
  have h : total.toNat % 1000000000 < 1000000000 := Nat.mod_lt _ (by decide)
  rw [UInt64.toNat_toUInt32, UInt64.toNat_mod]
  change total.toNat % 1000000000 % 4294967296 < _
  omega

/-- The span times `factor`; what does not fit becomes the longest span. -/
def saturatingMul (d : Duration) (factor : UInt32) : Duration :=
  let total := d.nanos.toUInt64 * factor.toUInt64
  match checkedMul d.secs factor.toUInt64 with
  | none => longest
  | some whole =>
    match checkedAdd whole (total / 1000000000) with
    | none => longest
    | some secs => ⟨secs, (total % 1000000000).toUInt32, carried_nanos_lt total⟩

end Duration
end CallAudio

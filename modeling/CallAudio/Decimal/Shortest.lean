/-! The shortest decimal that reads back as a given binary floating-point number. Of the decimals
with the fewest digits inside the interval that rounds to the number, the nearest is taken. -/
namespace CallAudio.Decimal

/-- The decimal `digits * 10 ^ exponent`. -/
structure Scaled where
  digits : Nat
  exponent : Int
deriving DecidableEq, Repr

/-- The number `significand * 2 ^ exponent`; below it the gap to its neighbour is halved if
`narrow`. -/
structure Binary where
  significand : Nat
  exponent : Int
  narrow : Bool
deriving DecidableEq, Repr

namespace Binary

/-- The magnitude of a finite double-precision number with the given bits. -/
def ofBits (bits : UInt64) : Binary :=
  let fraction : Nat := (bits &&& 0xFFFFFFFFFFFFF).toNat
  let biased : Nat := (bits >>> 52 &&& 0x7FF).toNat
  if biased = 0 then ⟨fraction, -1074, false⟩
  else ⟨fraction + 0x10000000000000, biased - 1075, fraction = 0 ∧ 1 < biased⟩

/-- What a quarter of the last binary place weighs against one unit of the decimal place `k`. -/
def binaryWeight (x : Binary) (k : Int) : Nat :=
  Nat.pow 2 (x.exponent - 2).toNat * Nat.pow 10 (-k).toNat

/-- What one unit of the decimal place `k` weighs against a quarter of the last binary place. -/
def decimalWeight (x : Binary) (k : Int) : Nat :=
  Nat.pow 2 (2 - x.exponent).toNat * Nat.pow 10 k.toNat

/-- Whether `c * 10 ^ k` rounds to the number; the ends of the interval round to an even
significand. -/
def readsBack (x : Binary) (k : Int) (c : Nat) : Bool :=
  let lower := (4 * x.significand - if x.narrow then 1 else 2) * x.binaryWeight k
  let upper := (4 * x.significand + 2) * x.binaryWeight k
  let point := c * x.decimalWeight k
  if x.significand % 2 = 0 then lower ≤ point && point ≤ upper else lower < point && point < upper

/-- The place of the leading decimal digit. -/
def leadingPlace (x : Binary) : Int :=
  let scaled := 4 * x.significand * x.binaryWeight (-400) / x.decimalWeight (-400)
  (Nat.toDigits 10 scaled).length - 401

/-- The better of the two neighbours on the grid of the place `k`, if one of them reads back. -/
def onGrid? (x : Binary) (k : Int) : Option Nat :=
  let value := 4 * x.significand * x.binaryWeight k
  let below := value / x.decimalWeight k
  let twiceOver := 2 * (value - below * x.decimalWeight k)
  let unit := x.decimalWeight k
  let preferBelow := twiceOver < unit || (twiceOver = unit && below % 2 = 0)
  match x.readsBack k below, x.readsBack k (below + 1) with
  | true, true => some (if preferBelow then below else below + 1)
  | true, false => some below
  | false, true => some (below + 1)
  | false, false => none

end Binary

/-- Moves trailing zeros of the digits into the exponent. -/
def Scaled.trim (x : Scaled) : Scaled :=
  if 0 < x.digits ∧ x.digits % 10 = 0 then Scaled.trim ⟨x.digits / 10, x.exponent + 1⟩ else x
termination_by x.digits
decreasing_by omega

/-- The fewest digits that read back; seventeen always suffice. -/
def shortest (x : Binary) : Scaled :=
  let found := (List.range' 1 17).findSome? fun (count : Nat) =>
    let k := x.leadingPlace - count + 1
    (x.onGrid? k).map fun c => (⟨c, k⟩ : Scaled)
  (found.getD ⟨0, 0⟩).trim

end CallAudio.Decimal

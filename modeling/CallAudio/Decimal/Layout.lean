import CallAudio.Decimal.Shortest

/-! How the digits of a decimal are laid out as text. -/
namespace CallAudio.Decimal

/-- Positional notation holds while the point falls between `lowest` (exclusive) and `highest`
places after the first digit; outside, an exponent is written with its sign as given. -/
structure Layout where
  lowest : Int
  highest : Int
  positiveSign : String
  wholeTail : String

def zeros (n : Nat) : String := String.ofList (List.replicate n '0')

def Layout.render (layout : Layout) (x : Scaled) : String :=
  let digits := Nat.repr x.digits
  let point := digits.length + x.exponent
  if 0 ≤ x.exponent ∧ point ≤ layout.highest then digits ++ zeros x.exponent.toNat ++ layout.wholeTail
  else if 0 < point ∧ point ≤ layout.highest then
    let (whole, fraction) := digits.toList.splitAt point.toNat
    String.ofList whole ++ "." ++ String.ofList fraction
  else if layout.lowest < point ∧ point ≤ 0 then "0." ++ zeros (-point).toNat ++ digits
  else
    let sign := if 0 < point then layout.positiveSign else "-"
    let lead := String.ofList (digits.toList.take 1)
    let tail := String.ofList (digits.toList.drop 1)
    lead ++ (if tail.isEmpty then "" else "." ++ tail) ++ "e" ++ sign ++ Nat.repr (point - 1).natAbs

end CallAudio.Decimal

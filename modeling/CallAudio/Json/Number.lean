import CallAudio.Decimal.Layout

/-! Numbers of a JSON document: machine integers where the literal is one that fits, and
double-precision numbers otherwise. -/
namespace CallAudio.Json

/-- A number as it was read; a real number is held by the bits of its double-precision value. -/
inductive Number
  | natural (n : UInt64)
  | negative (magnitude : UInt64)
  | real (bits : UInt64)
deriving DecidableEq, Repr

/-- The parts of a number literal; its digits are values below ten. -/
structure Literal where
  negative : Bool
  whole : List Nat
  fraction : Option (List Nat)
  exponent : Option Int
deriving DecidableEq, Repr

namespace Literal

def digitValues (cs : List Char) : List Nat := cs.map fun c => c.toNat - '0'.toNat

def exponent? (cs : List Char) : Option Int :=
  let (sign, digits) := match cs with
    | '+' :: r => ((1 : Int), r)
    | '-' :: r => (-1, r)
    | r => (1, r)
  if digits.isEmpty || !digits.all Char.isDigit then none
  else
    let magnitude : Nat := (digitValues digits).foldl (fun n d => 10 * n + d) 0
    some (sign * magnitude)

/-- A minus sign, a whole part without leading zeros, then perhaps a fraction and an exponent. -/
def ofChars? (cs : List Char) : Option Literal :=
  let (negative, cs) := match cs with
    | '-' :: r => (true, r)
    | r => (false, r)
  let whole := cs.takeWhile Char.isDigit
  let rest := cs.dropWhile Char.isDigit
  let (fraction, rest) := match rest with
    | '.' :: r => (some (digitValues (r.takeWhile Char.isDigit)), r.dropWhile Char.isDigit)
    | r => (none, r)
  if whole.isEmpty || (whole.length ≠ 1 && whole.head? = some '0') || fraction = some [] then none
  else match rest with
    | [] => some ⟨negative, digitValues whole, fraction, none⟩
    | c :: r =>
      if c = 'e' ∨ c = 'E' then
        (exponent? r).map fun e => ⟨negative, digitValues whole, fraction, some e⟩
      else none

/-- Takes digits into a 64-bit significand until the next one no longer fits; the rest is
returned. -/
def absorb (significand : Nat) : List Nat → Nat × List Nat
  | [] => (significand, [])
  | d :: ds =>
    if 10 * significand + d < UInt64.size then absorb (10 * significand + d) ds else (significand, d :: ds)

/-- The power of ten as the nearest double-precision number. -/
def powerOfTen (n : Nat) : Float := Float.ofScientific 1 false n

/-- Scales by a power of ten in steps of at most 308 places; a result that is not finite is
refused. -/
def scale : Nat → Float → Int → Option Float
  | 0, x, _ => some x
  | fuel + 1, x, e =>
    if e.natAbs ≤ 308 then
      if 0 ≤ e then
        let y := x * powerOfTen e.toNat
        if y.isInf then none else some y
      else some (x / powerOfTen (-e).toNat)
    else if x == 0 then some x
    else if 0 ≤ e then none
    else scale fuel (x / powerOfTen 308) (e + 308)

/-- The value of a literal. Digits beyond the significand only count as places. -/
def value? (l : Literal) : Option Number :=
  let (m, spare) := absorb 0 l.whole
  let plain := spare.isEmpty && l.fraction.isNone && l.exponent.isNone
  if plain && (!l.negative || (0 < m && m ≤ 0x8000000000000000)) then
    some (if l.negative then .negative (.ofNat m) else .natural (.ofNat m))
  else
    let fraction := l.fraction.getD []
    let (significand, ignored) := absorb m fraction
    let places : Int := spare.length - (fraction.length - ignored.length : Nat) + l.exponent.getD 0
    (scale 4 (UInt64.ofNat significand).toFloat places).map fun x =>
      .real (if l.negative then (-x).toBits else x.toBits)

end Literal

namespace Number

/-- Positional from `0.00001` to below `1e16`, whole numbers with a trailing `.0`, exponents
signed. -/
def layout : Decimal.Layout := ⟨-5, 16, "+", ".0"⟩

/-- The text of the double-precision number with the given bits. -/
def realText (bits : UInt64) : String :=
  let sign := if bits < 0x8000000000000000 then "" else "-"
  let magnitude := Decimal.Binary.ofBits bits
  if magnitude.significand = 0 then sign ++ "0.0"
  else sign ++ layout.render (Decimal.shortest magnitude)

def text : Number → String
  | natural n => Nat.repr n.toNat
  | negative magnitude => "-" ++ Nat.repr magnitude.toNat
  | real bits => realText bits

end Number
end CallAudio.Json

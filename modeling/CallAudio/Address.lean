import CallAudio.Text.Hexadecimal

/-! Device addresses: six octets, written as colon-separated pairs of hexadecimal digits.
Logs and dumps show the last two octets only. -/
namespace CallAudio

/-- A device address, first octet first; the derived order is lexicographic. -/
structure Address where
  a : UInt8
  b : UInt8
  c : UInt8
  d : UInt8
  e : UInt8
  f : UInt8
deriving DecidableEq, Ord, Repr, Inhabited

/-- A text that denotes no address, kept whole. -/
structure InvalidAddress where
  text : String
deriving DecidableEq, Repr

namespace Address

open Text

/-- The all-zero address, which no device may carry. -/
def empty : Address := ⟨0, 0, 0, 0, 0, 0⟩

def octets (x : Address) : List UInt8 := [x.a, x.b, x.c, x.d, x.e, x.f]

/-- The octet of two characters: two hexadecimal digits, or a plus sign and one digit. -/
def octet? (hi lo : Char) : Option UInt8 :=
  if hi = '+' then hexValue? lo
  else do
    let h ← hexValue? hi
    let l ← hexValue? lo
    return 16 * h + l

/-- A value with one more digit behind it, unless it outgrows an octet. -/
def withDigit? (n : UInt8) (c : Char) : Option UInt8 := do
  let digit ← hexValue? c
  if n.toNat * 16 + digit.toNat < UInt8.size then some (n * 16 + digit) else none

/-- The value of one hexadecimal digit or more. -/
def digits? (cs : List Char) : Option UInt8 :=
  if cs.isEmpty then none else cs.foldlM withDigit? 0

/-- The value of a number in hexadecimal, which may have a plus sign. -/
def number? : List Char → Option UInt8
  | '+' :: digits => digits? digits
  | digits => digits? digits

/-- The octet written by a group: a number that takes two bytes of text. -/
def group? (cs : List Char) : Option UInt8 :=
  if (String.ofList cs).utf8ByteSize = 2 then number? cs else none

def ofGroups? : List (List Char) → Option Address
  | [a, b, c, d, e, f] => do
    return ⟨← group? a, ← group? b, ← group? c, ← group? d, ← group? e, ← group? f⟩
  | _ => none

/-- Six groups separated by single colons and nothing else. -/
def parse (text : String) : Except InvalidAddress Address :=
  match ofGroups? (text.toList.splitOn ':') with
  | some address => .ok address
  | none => .error ⟨text⟩

def chars (x : Address) : List Char :=
  octetChars x.a ++ ':' :: octetChars x.b ++ ':' :: octetChars x.c ++ ':' :: octetChars x.d
    ++ ':' :: octetChars x.e ++ ':' :: octetChars x.f

def text (x : Address) : String := String.ofList x.chars

/-- The text for logs and dumps, which hides the first four octets. -/
def redacted (x : Address) : String :=
  String.ofList ("xx:xx:xx:xx:".toList ++ octetChars x.e ++ ':' :: octetChars x.f)

def sort (addresses : List Address) : List Address :=
  addresses.mergeSort fun x y => (compare x y).isLE

end Address
end CallAudio

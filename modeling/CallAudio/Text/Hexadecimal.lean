/-! Hexadecimal digits, as addresses and the escapes of JSON texts have them. -/
namespace CallAudio.Text

/-- The upper-case hexadecimal digit of a value below sixteen. -/
def hexDigit (n : UInt8) : Char :=
  Char.ofNat (if n < 10 then 48 + n.toNat else 55 + n.toNat)

/-- The value of a hexadecimal digit of either case. -/
def hexValue? (c : Char) : Option UInt8 :=
  if '0' ≤ c ∧ c ≤ '9' then some (c.toNat - 48).toUInt8
  else if 'a' ≤ c ∧ c ≤ 'f' then some (c.toNat - 87).toUInt8
  else if 'A' ≤ c ∧ c ≤ 'F' then some (c.toNat - 55).toUInt8
  else none

/-- The two upper-case digits of an octet. -/
def octetChars (n : UInt8) : List Char := [hexDigit (n / 16), hexDigit (n % 16)]

end CallAudio.Text

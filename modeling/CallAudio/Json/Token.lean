import CallAudio.Json.Basic
import CallAudio.Text.Hexadecimal

/-! The tokens of a JSON text: brackets, separators and scalar values. -/
namespace CallAudio.Json

inductive Token
  | openArray
  | closeArray
  | openObject
  | closeObject
  | comma
  | colon
  | scalar (value : Json)
deriving Repr

namespace Token

/-- The code unit written by four hexadecimal digits. -/
def codeUnit? (a b c d : Char) : Option Nat := do
  return 4096 * (← Text.hexValue? a).toNat + 256 * (← Text.hexValue? b).toNat
    + 16 * (← Text.hexValue? c).toNat + (← Text.hexValue? d).toNat

/-- The character meant by a single letter after a backslash. -/
def escape? (c : Char) : Option Char :=
  if c = '"' ∨ c = '\\' ∨ c = '/' then some c
  else if c = 'b' then some '\x08'
  else if c = 'f' then some '\x0c'
  else if c = 'n' then some '\n'
  else if c = 'r' then some '\r'
  else if c = 't' then some '\t'
  else none

/-- One more decoded character, and how many characters of the text it took. -/
def extend (c : Char) (taken : Nat) (tail : List Char × Nat) : List Char × Nat :=
  (c :: tail.1, taken + tail.2)

/-- Decodes a text up to its closing quote and counts the characters read, the quote included.
Control characters, unknown escapes and surrogates outside a pair are refused. -/
def quotation? : List Char → Option (List Char × Nat)
  | [] => none
  | '"' :: _ => some ([], 1)
  | '\\' :: 'u' :: a :: b :: c :: d :: rest => do
    let high ← codeUnit? a b c d
    if 0xDC00 ≤ high ∧ high < 0xE000 then none
    else if 0xD800 ≤ high ∧ high < 0xDC00 then
      match rest with
      | '\\' :: 'u' :: e :: f :: g :: h :: rest => do
        let low ← codeUnit? e f g h
        if 0xDC00 ≤ low ∧ low < 0xE000 then
          let c := Char.ofNat (0x10000 + 0x400 * (high - 0xD800) + (low - 0xDC00))
          extend c 12 <$> quotation? rest
        else none
      | _ => none
    else extend (Char.ofNat high) 6 <$> quotation? rest
  | '\\' :: c :: rest => do extend (← escape? c) 2 <$> quotation? rest
  | c :: rest => if c = '\\' ∨ c.toNat < 32 then none else extend c 1 <$> quotation? rest

def isBlank (c : Char) : Bool := c = ' ' || c = '\n' || c = '\t' || c = '\r'

def isNumberChar (c : Char) : Bool := c.isDigit || c = '-' || c = '+' || c = '.' || c = 'e' || c = 'E'

def punctuation? (c : Char) : Option Token :=
  if c = '[' then some openArray
  else if c = ']' then some closeArray
  else if c = '\x7b' then some openObject
  else if c = '\x7d' then some closeObject
  else if c = ',' then some comma
  else if c = ':' then some colon
  else none

def number? (cs : List Char) : Option Token := do
  let value ← (← Literal.ofChars? cs).value?
  return scalar (.number value)

def word? (cs : List Char) : Option Token :=
  if cs = "null".toList then some (scalar .null)
  else if cs = "true".toList then some (scalar (.bool true))
  else if cs = "false".toList then some (scalar (.bool false))
  else none

/-- Splits a text into tokens; blanks between tokens are skipped. -/
def scan : List Char → Option (List Token)
  | [] => some []
  | c :: cs =>
    if isBlank c then scan cs
    else match punctuation? c with
      | some t => (t :: ·) <$> scan cs
      | none =>
        if c = '"' then
          match quotation? cs with
          | some (s, taken) => (scalar (.string (String.ofList s)) :: ·) <$> scan (cs.drop taken)
          | none => none
        else if c = '-' || c.isDigit then
          match number? (c :: cs.takeWhile isNumberChar) with
          | some t => (t :: ·) <$> scan (cs.dropWhile isNumberChar)
          | none => none
        else
          match word? (c :: cs.takeWhile Char.isAlpha) with
          | some t => (t :: ·) <$> scan (cs.dropWhile Char.isAlpha)
          | none => none
termination_by cs => cs.length
decreasing_by
  · simp
  · simp
  · simp only [List.length_drop, List.length_cons]; omega
  · have := (List.dropWhile_sublist isNumberChar (l := cs)).length_le
    simp only [List.length_cons]; omega
  · have := (List.dropWhile_sublist Char.isAlpha (l := cs)).length_le
    simp only [List.length_cons]; omega

end Token
end CallAudio.Json

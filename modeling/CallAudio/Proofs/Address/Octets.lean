import CallAudio.Address
import CallAudio.Proofs.Hexadecimal

/-! Octets in hexadecimal. A group of an address stands for an octet exactly if it is two hexadecimal
digits, where a plus sign may take the place of the first; and the octet is then written with the same
digits in upper case, the plus sign as a zero. -/
namespace CallAudio.Address

open Text

/-- How a character of a group is written back. -/
def shown (c : Char) : Char := if c = '+' then '0' else c.toUpper

/-- Two characters that stand for an octet. -/
def IsOctet (hi lo : Char) : Prop := (hi = '+' ∨ IsHexDigit hi) ∧ IsHexDigit lo

/-- A group that stands for an octet. -/
def IsGroup (cs : List Char) : Prop := ∃ hi lo, cs = [hi, lo] ∧ IsOctet hi lo

theorem not_isHexDigit_plus : ¬IsHexDigit '+' := by decide

theorem shown_of_isHexDigit {c : Char} (h : IsHexDigit c) : shown c = c.toUpper :=
  if_neg fun (plus : c = '+') => not_isHexDigit_plus (plus ▸ h)

/-! Two characters. -/

theorem octet?_plus (lo : Char) : octet? '+' lo = octet? '0' lo := by
  have zero : hexValue? '0' = some 0 := by decide
  have unsigned : '0' ≠ '+' := by decide
  unfold octet?
  rw [if_pos rfl, if_neg unsigned, zero]
  cases hexValue? lo with
  | none => rfl
  | some l => exact congrArg some (UInt8.zero_add l).symm

/-- Each digit gives half of the octet. -/
theorem octet?_of_digits {hi lo : Char} (unsigned : hi ≠ '+') {n : UInt8} :
    octet? hi lo = some n ↔ hexValue? hi = some (n / 16) ∧ hexValue? lo = some (n % 16) := by
  unfold octet?
  rw [if_neg unsigned]
  constructor
  · intro read
    obtain ⟨h, high, rest⟩ := Option.bind_eq_some_iff.mp read
    obtain ⟨l, low, whole⟩ := Option.bind_eq_some_iff.mp rest
    have hs := (hexValue?_eq_some.mp high).2.1
    have ls := (hexValue?_eq_some.mp low).2.1
    obtain ⟨rfl, rfl⟩ := (halves_eq_iff hs ls).mp (Option.some.inj whole)
    exact ⟨high, low⟩
  · rintro ⟨high, low⟩
    rw [high, low]
    exact congrArg some ((halves_eq_iff (halves_lt n).1 (halves_lt n).2).mpr ⟨rfl, rfl⟩)

theorem octet?_eq_some {hi lo : Char} {n : UInt8} :
    octet? hi lo = some n ↔ IsOctet hi lo ∧ octetChars n = [shown hi, shown lo] := by
  have digits (high : Char) (unsigned : high ≠ '+') : octet? high lo = some n ↔
      (IsHexDigit high ∧ IsHexDigit lo) ∧ octetChars n = [high.toUpper, lo.toUpper] := by
    rw [octet?_of_digits unsigned, hexValue?_eq_some, hexValue?_eq_some]
    unfold octetChars
    rw [List.cons.injEq, List.cons.injEq]
    constructor
    · rintro ⟨⟨high, -, first⟩, low, -, second⟩
      exact ⟨⟨high, low⟩, first, second, rfl⟩
    · rintro ⟨⟨high, low⟩, first, second, -⟩
      exact ⟨⟨high, (halves_lt n).1, first⟩, low, (halves_lt n).2, second⟩
  unfold IsOctet
  by_cases plus : hi = '+'
  · -- A plus sign is read as the zero that it is shown as.
    subst plus
    rw [octet?_plus, digits '0' (by decide)]
    constructor
    · rintro ⟨⟨-, low⟩, same⟩
      exact ⟨⟨Or.inl rfl, low⟩, by rw [same, shown_of_isHexDigit low]; rfl⟩
    · rintro ⟨⟨-, low⟩, same⟩
      exact ⟨⟨by decide, low⟩, by rw [same, shown_of_isHexDigit low]; rfl⟩
  · rw [digits hi plus]
    constructor
    · rintro ⟨⟨high, low⟩, same⟩
      exact ⟨⟨Or.inr high, low⟩, by rw [same, shown_of_isHexDigit high, shown_of_isHexDigit low]⟩
    · rintro ⟨⟨signed, low⟩, same⟩
      have high := signed.resolve_left plus
      exact ⟨⟨high, low⟩, by rw [same, shown_of_isHexDigit high, shown_of_isHexDigit low]⟩

theorem IsOctet.exists_octet {hi lo : Char} (h : IsOctet hi lo) : ∃ n, octet? hi lo = some n := by
  obtain ⟨l, low⟩ := h.2.exists_hexValue
  rcases h.1 with rfl | digit
  · exact ⟨l, low⟩
  · obtain ⟨h, high⟩ := digit.exists_hexValue
    have unsigned : hi ≠ '+' := fun plus => not_isHexDigit_plus (plus ▸ digit)
    refine ⟨16 * h + l, ?_⟩
    unfold octet?
    rw [if_neg unsigned, high, low]
    rfl

/-! Numbers of any length, of which a group admits those of two bytes. -/

theorem withDigit?_of_lt {n : UInt8} (h : n.toNat < 16) (c : Char) :
    withDigit? n c = (hexValue? c).map (16 * n + ·) := by
  unfold withDigit?
  cases read : hexValue? c with
  | none => rfl
  | some digit =>
    have small := (hexValue?_eq_some.mp read).2.1
    have fits : n.toNat * 16 + digit.toNat < UInt8.size := by
      change _ < 256
      omega
    change (if n.toNat * 16 + digit.toNat < UInt8.size then some (n * 16 + digit) else none) =
      some (16 * n + digit)
    rw [if_pos fits, UInt8.mul_comm]

theorem withDigit?_zero (c : Char) : withDigit? 0 c = hexValue? c := by
  rw [withDigit?_of_lt (by decide)]
  cases hexValue? c with
  | none => rfl
  | some digit => exact congrArg some (UInt8.zero_add digit)

theorem digits?_single (c : Char) : digits? [c] = hexValue? c := by
  rw [← withDigit?_zero]
  simp [digits?]

theorem digits?_pair (hi lo : Char) :
    digits? [hi, lo] = (hexValue? hi).bind fun h => withDigit? h lo := by
  rw [← withDigit?_zero]
  simp [digits?]

theorem number?_unsigned {c : Char} (h : c ≠ '+') (cs : List Char) :
    number? (c :: cs) = digits? (c :: cs) := by
  unfold number?
  split
  · next same => exact absurd (List.cons.inj same).1 h
  · rfl

theorem number?_pair (hi lo : Char) : number? [hi, lo] = octet? hi lo := by
  unfold octet?
  by_cases plus : hi = '+'
  · subst plus
    exact digits?_single lo
  · rw [number?_unsigned plus, digits?_pair, if_neg plus]
    cases high : hexValue? hi with
    | none => rfl
    | some h =>
      -- After one digit the value is below sixteen, so a second one never outgrows an octet.
      refine (withDigit?_of_lt (hexValue?_eq_some.mp high).2.1 lo).trans ?_
      cases hexValue? lo <;> rfl

/-- A single character of two bytes is no number. -/
theorem number?_single {c : Char} (h : c.utf8Size = 2) : number? [c] = none := by
  have unsigned : c ≠ '+' := by
    rintro rfl
    exact absurd h (by decide)
  rw [number?_unsigned unsigned, digits?_single]
  cases read : hexValue? c with
  | none => rfl
  | some n =>
    have one := (hexValue?_eq_some.mp read).1.utf8Size
    omega

theorem utf8ByteSize_cons (c : Char) (cs : List Char) : (String.ofList (c :: cs)).utf8ByteSize =
    c.utf8Size + (String.ofList cs).utf8ByteSize := by
  rw [String.ofList_cons, String.utf8ByteSize_append, String.utf8ByteSize_singleton]

theorem IsOctet.utf8ByteSize {hi lo : Char} (h : IsOctet hi lo) :
    (String.ofList [hi, lo]).utf8ByteSize = 2 := by
  have first : hi.utf8Size = 1 := by
    rcases h.1 with rfl | digit
    · rfl
    · exact digit.utf8Size
  rw [utf8ByteSize_cons, utf8ByteSize_cons, first, h.2.utf8Size]
  rfl

/-- What a group is read as: the octet that is written as the group is shown. -/
theorem group?_eq_some {cs : List Char} {n : UInt8} :
    group? cs = some n ↔ IsGroup cs ∧ octetChars n = cs.map shown := by
  constructor
  · intro h
    obtain ⟨size, read⟩ := Option.ite_none_right_eq_some.mp h
    match cs with
    | [] => cases size
    | [c] =>
      rw [utf8ByteSize_cons] at size
      rw [number?_single size] at read
      cases read
    | [hi, lo] =>
      rw [number?_pair] at read
      have octet := octet?_eq_some.mp read
      exact ⟨⟨hi, lo, rfl, octet.1⟩, octet.2⟩
    | a :: b :: c :: rest =>
      -- Three characters take three bytes at least.
      have := a.utf8Size_pos
      have := b.utf8Size_pos
      have := c.utf8Size_pos
      rw [utf8ByteSize_cons, utf8ByteSize_cons, utf8ByteSize_cons] at size
      omega
  · rintro ⟨⟨hi, lo, rfl, octet⟩, same⟩
    unfold group?
    rw [if_pos octet.utf8ByteSize, number?_pair]
    exact octet?_eq_some.mpr ⟨octet, same⟩

theorem IsGroup.exists_octet {cs : List Char} (h : IsGroup cs) : ∃ n, group? cs = some n := by
  obtain ⟨hi, lo, rfl, octet⟩ := h
  obtain ⟨n, read⟩ := octet.exists_octet
  exact ⟨n, group?_eq_some.mpr ⟨⟨hi, lo, rfl, octet⟩, (octet?_eq_some.mp read).2⟩⟩

theorem IsGroup.not_mem_colon {cs : List Char} (h : IsGroup cs) : ':' ∉ cs := by
  obtain ⟨hi, lo, rfl, high, low⟩ := h
  intro member
  rcases List.mem_pair.mp member with rfl | rfl
  · exact absurd high (by decide)
  · exact absurd low (by decide)

end CallAudio.Address

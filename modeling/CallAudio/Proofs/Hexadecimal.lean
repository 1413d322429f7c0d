import CallAudio.Text.Hexadecimal
import Mathlib.Data.List.Basic
import Mathlib.Tactic.SplitIfs

/-! Hexadecimal digits are read as the values that they write, in either case, and an octet is put together
from two of them. Letters and digits are compared by their code points. -/
namespace CallAudio.Text

/-- A hexadecimal digit of either case. -/
def IsHexDigit (c : Char) : Prop :=
  '0' ≤ c ∧ c ≤ '9' ∨ 'a' ≤ c ∧ c ≤ 'f' ∨ 'A' ≤ c ∧ c ≤ 'F'

instance : DecidablePred IsHexDigit := fun _ => inferInstanceAs (Decidable (_ ∨ _))

/-! The case of letters. -/

theorem toNat_toUpper (c : Char) : c.toUpper.toNat =
    if 97 ≤ c.toNat ∧ c.toNat ≤ 122 then c.toNat - 32 else c.toNat := by
  have lower : 'a'.val ≤ c.val ∧ c.val ≤ 'z'.val ↔ 97 ≤ c.toNat ∧ c.toNat ≤ 122 := Iff.rfl
  unfold Char.toUpper
  split
  · next h =>
    have range := lower.mp h
    rw [if_pos range]
    -- Adding the distance from `a` to `A` wraps around.
    change (c.val + 4294967264).toNat = _
    rw [UInt32.toNat_add]
    change (c.toNat + 4294967264) % 4294967296 = _
    omega
  · next h => rw [if_neg fun range => h (lower.mpr range)]

theorem toNat_toLower (c : Char) : c.toLower.toNat =
    if 65 ≤ c.toNat ∧ c.toNat ≤ 90 then c.toNat + 32 else c.toNat := by
  have upper : c.val ≥ 'A'.val ∧ c.val ≤ 'Z'.val ↔ 65 ≤ c.toNat ∧ c.toNat ≤ 90 := Iff.rfl
  unfold Char.toLower
  split
  · next h =>
    have range := upper.mp h
    rw [if_pos range]
    change (c.val + 32).toNat = _
    rw [UInt32.toNat_add]
    change (c.toNat + 32) % 4294967296 = _
    omega
  · next h => rw [if_neg fun range => h (upper.mpr range)]

theorem toUpper_toLower (c : Char) : c.toLower.toUpper = c.toUpper := by
  rw [← Char.toNat_inj, toNat_toUpper, toNat_toUpper, toNat_toLower]
  split_ifs <;> omega

/-! One digit. -/

theorem isHexDigit_iff {c : Char} : IsHexDigit c ↔
    48 ≤ c.toNat ∧ c.toNat ≤ 57 ∨ 97 ≤ c.toNat ∧ c.toNat ≤ 102 ∨ 65 ≤ c.toNat ∧ c.toNat ≤ 70 :=
  Iff.rfl

theorem IsHexDigit.utf8Size {c : Char} (h : IsHexDigit c) : c.utf8Size = 1 := by
  have ascii : c.toNat ≤ 127 := by
    have := isHexDigit_iff.mp h
    omega
  exact Char.utf8Size_eq_one_iff.mpr ascii

theorem toNat_ofNat {n : Nat} (h : n < 128) : (Char.ofNat n).toNat = n := by
  have valid : n.isValidChar := Or.inl (by omega)
  unfold Char.ofNat
  rw [dif_pos valid]
  rfl

theorem toNat_hexDigit {n : UInt8} (h : n.toNat < 16) :
    (hexDigit n).toNat = if n.toNat < 10 then 48 + n.toNat else 55 + n.toNat := by
  have ten : n < 10 ↔ n.toNat < 10 := Iff.rfl
  unfold hexDigit
  simp only [ten]
  apply toNat_ofNat
  split <;> omega

theorem hexValue?_toNat {c : Char} {n : UInt8} : hexValue? c = some n ↔
    48 ≤ c.toNat ∧ c.toNat ≤ 57 ∧ n.toNat + 48 = c.toNat ∨
      97 ≤ c.toNat ∧ c.toNat ≤ 102 ∧ n.toNat + 87 = c.toNat ∨
      65 ≤ c.toNat ∧ c.toNat ≤ 70 ∧ n.toNat + 55 = c.toNat := by
  have same (k : Nat) (small : k < 256) : some k.toUInt8 = some n ↔ n.toNat = k := by
    rw [Option.some.injEq, ← UInt8.toNat_inj]
    change k % 256 = n.toNat ↔ _
    omega
  have digit : '0' ≤ c ∧ c ≤ '9' ↔ 48 ≤ c.toNat ∧ c.toNat ≤ 57 := Iff.rfl
  have lower : 'a' ≤ c ∧ c ≤ 'f' ↔ 97 ≤ c.toNat ∧ c.toNat ≤ 102 := Iff.rfl
  have upper : 'A' ≤ c ∧ c ≤ 'F' ↔ 65 ≤ c.toNat ∧ c.toNat ≤ 70 := Iff.rfl
  unfold hexValue?
  simp only [digit, lower, upper]
  split
  · rw [same _ (by omega)]
    omega
  split
  · rw [same _ (by omega)]
    omega
  split
  · rw [same _ (by omega)]
    omega
  · constructor
    · intro h
      cases h
    · omega

/-- A digit is read as the value that it writes. -/
theorem hexValue?_eq_some {c : Char} {n : UInt8} : hexValue? c = some n ↔
    IsHexDigit c ∧ n.toNat < 16 ∧ hexDigit n = c.toUpper := by
  rw [hexValue?_toNat, isHexDigit_iff, ← Char.toNat_inj, toNat_toUpper]
  constructor
  · intro h
    have small : n.toNat < 16 := by omega
    refine ⟨by omega, small, ?_⟩
    rw [toNat_hexDigit small]
    split <;> split <;> omega
  · rintro ⟨range, small, h⟩
    rw [toNat_hexDigit small] at h
    split at h <;> split at h <;> omega

theorem IsHexDigit.exists_hexValue {c : Char} (h : IsHexDigit c) : ∃ n, hexValue? c = some n := by
  unfold hexValue?
  split
  · exact ⟨_, rfl⟩
  split
  · exact ⟨_, rfl⟩
  · next digit lower =>
    rw [if_pos ((h.resolve_left digit).resolve_left lower)]
    exact ⟨_, rfl⟩

theorem isHexDigit_hexDigit {n : UInt8} (h : n.toNat < 16) : IsHexDigit (hexDigit n) := by
  rw [isHexDigit_iff, toNat_hexDigit h]
  split <;> omega

theorem isHexDigit_toUpper {c : Char} : IsHexDigit c.toUpper ↔ IsHexDigit c := by
  rw [isHexDigit_iff, isHexDigit_iff, toNat_toUpper]
  split <;> omega

theorem toUpper_hexDigit {n : UInt8} (h : n.toNat < 16) : (hexDigit n).toUpper = hexDigit n := by
  rw [← Char.toNat_inj, toNat_toUpper, toNat_hexDigit h]
  split <;> split <;> omega

/-! The two halves of an octet. -/

theorem halves_lt (n : UInt8) : (n / 16).toNat < 16 ∧ (n % 16).toNat < 16 := by
  rw [UInt8.toNat_div, UInt8.toNat_mod]
  change n.toNat / 16 < 16 ∧ n.toNat % 16 < 16
  have := n.toNat_lt
  omega

theorem isHexDigit_of_mem_octetChars {n : UInt8} {c : Char} (h : c ∈ octetChars n) :
    IsHexDigit c := by
  rcases List.mem_pair.mp h with rfl | rfl
  · exact isHexDigit_hexDigit (halves_lt n).1
  · exact isHexDigit_hexDigit (halves_lt n).2

theorem toNat_halves {h l : UInt8} (hs : h.toNat < 16) (ls : l.toNat < 16) :
    (16 * h + l).toNat = 16 * h.toNat + l.toNat := by
  rw [UInt8.toNat_add, UInt8.toNat_mul]
  change (16 * h.toNat % 256 + l.toNat) % 256 = _
  omega

/-- An octet is put together from two halves exactly if it comes apart into them. -/
theorem halves_eq_iff {h l n : UInt8} (hs : h.toNat < 16) (ls : l.toNat < 16) :
    16 * h + l = n ↔ h = n / 16 ∧ l = n % 16 := by
  have high : (n / 16).toNat = n.toNat / 16 := UInt8.toNat_div ..
  have low : (n % 16).toNat = n.toNat % 16 := UInt8.toNat_mod ..
  rw [← UInt8.toNat_inj, ← UInt8.toNat_inj, ← UInt8.toNat_inj, toNat_halves hs ls, high, low]
  omega

end CallAudio.Text

import CallAudio.Proofs.Address.Octets
import Mathlib.Data.List.Forall2

/-! Texts of addresses. The text of an address reads back, in whichever case its letters are; and what
reads as an address is six groups between single colons that show the text of that very address, up to the
case of letters and the plus signs that stand in for leading zeros. -/
namespace CallAudio.Address

open Text

/-- The text with its letters upper-cased and a zero for each plus sign. -/
def canonical (s : String) : String := String.ofList (s.toList.map shown)

/-- Six groups, each as told, with single colons between them. -/
def InSixGroups (told : List Char → Prop) (s : String) : Prop :=
  ∃ groups : List (List Char),
    groups.length = 6 ∧ (∀ g ∈ groups, told g) ∧ s.toList = [':'].intercalate groups

/-- Two hexadecimal digits. -/
def IsDigitPair (cs : List Char) : Prop :=
  ∃ hi lo, cs = [hi, lo] ∧ IsHexDigit hi ∧ IsHexDigit lo

theorem IsDigitPair.isGroup {cs : List Char} (h : IsDigitPair cs) : IsGroup cs := by
  obtain ⟨hi, lo, rfl, high, low⟩ := h
  exact ⟨hi, lo, rfl, Or.inr high, low⟩

theorem IsDigitPair.map_shown {cs : List Char} (h : IsDigitPair cs) :
    cs.map shown = cs.map Char.toUpper := by
  obtain ⟨hi, lo, rfl, high, low⟩ := h
  simp [shown_of_isHexDigit high, shown_of_isHexDigit low]

/-! Splitting at the colons. -/

/-- Colons stay where they are if only colons become colons. -/
theorem splitOn_map {f : Char → Char} (h : ∀ c, f c = ':' ↔ c = ':') (cs : List Char) :
    (cs.map f).splitOn ':' = (cs.splitOn ':').map (List.map f) := by
  induction cs with
  | nil => rfl
  | cons c rest ih =>
    rw [List.map_cons, List.splitOn_cons_eq_if_modifyHead, List.splitOn_cons_eq_if_modifyHead, ih]
    by_cases colon : c = ':'
    · simp [colon, (h ':').mpr rfl]
    · have other : f c ≠ ':' := fun same => colon ((h c).mp same)
      obtain ⟨first, more, split⟩ := List.exists_cons_of_ne_nil (List.splitOn_ne_nil ':' rest)
      simp [colon, other, split]

theorem splitOn_inj {s t : List Char} : s.splitOn ':' = t.splitOn ':' ↔ s = t := by
  constructor
  · intro h
    calc s
      _ = [':'].intercalate (s.splitOn ':') := (List.intercalate_splitOn ':').symm
      _ = [':'].intercalate (t.splitOn ':') := by rw [h]
      _ = t := List.intercalate_splitOn ':'
  · rintro rfl
    rfl

theorem inSixGroups_iff {told : List Char → Prop} (h : ∀ g, told g → ':' ∉ g) {s : String} :
    InSixGroups told s ↔
      (s.toList.splitOn ':').length = 6 ∧ ∀ g ∈ s.toList.splitOn ':', told g := by
  constructor
  · rintro ⟨groups, six, each, joined⟩
    have nonempty : groups ≠ [] := by
      rintro rfl
      cases six
    rw [joined, List.splitOn_intercalate ':' (fun g member => h g (each g member)) nonempty]
    exact ⟨six, each⟩
  · rintro ⟨six, each⟩
    exact ⟨_, six, each, (List.intercalate_splitOn ':').symm⟩

theorem toUpper_eq_colon (c : Char) : c.toUpper = ':' ↔ c = ':' := by
  rw [← Char.toNat_inj, ← Char.toNat_inj, toNat_toUpper]
  change _ = 58 ↔ _ = 58
  split <;> omega

theorem shown_eq_colon (c : Char) : shown c = ':' ↔ c = ':' := by
  unfold shown
  split
  · next plus =>
    subst plus
    decide
  · exact toUpper_eq_colon c

theorem splitOn_chars (a : Address) : a.chars.splitOn ':' = a.octets.map octetChars := by
  have joined : a.chars = [':'].intercalate (a.octets.map octetChars) := by
    simp [chars, octets]
  rw [joined]
  apply List.splitOn_intercalate
  · intro group member colon
    obtain ⟨n, -, rfl⟩ := List.mem_map.mp member
    exact absurd (isHexDigit_of_mem_octetChars colon) (by decide)
  · exact List.cons_ne_nil _ _

/-! Reading. -/

theorem ofGroups?_eq_some {groups : List (List Char)} {a : Address} : ofGroups? groups = some a ↔
    List.Forall₂ (fun g n => group? g = some n) groups a.octets := by
  constructor
  · intro h
    unfold ofGroups? at h
    split at h
    · obtain ⟨_, ha, h⟩ := Option.bind_eq_some_iff.mp h
      obtain ⟨_, hb, h⟩ := Option.bind_eq_some_iff.mp h
      obtain ⟨_, hc, h⟩ := Option.bind_eq_some_iff.mp h
      obtain ⟨_, hd, h⟩ := Option.bind_eq_some_iff.mp h
      obtain ⟨_, he, h⟩ := Option.bind_eq_some_iff.mp h
      obtain ⟨_, hf, h⟩ := Option.bind_eq_some_iff.mp h
      cases h
      exact .cons ha (.cons hb (.cons hc (.cons hd (.cons he (.cons hf .nil)))))
    · cases h
  · intro h
    unfold octets at h
    obtain _ | ⟨ha, _ | ⟨hb, _ | ⟨hc, _ | ⟨hd, _ | ⟨he, _ | ⟨hf, _ | _⟩⟩⟩⟩⟩⟩ := h
    simp [ofGroups?, ha, hb, hc, hd, he, hf]

theorem exists_ofGroups? {groups : List (List Char)} (six : groups.length = 6)
    (each : ∀ g ∈ groups, IsGroup g) : ∃ a, ofGroups? groups = some a := by
  match groups, six with
  | [a, b, c, d, e, f], _ =>
    have read (g : List Char) (member : g ∈ [a, b, c, d, e, f]) := (each g member).exists_octet
    obtain ⟨_, ha⟩ := read a (by simp)
    obtain ⟨_, hb⟩ := read b (by simp)
    obtain ⟨_, hc⟩ := read c (by simp)
    obtain ⟨_, hd⟩ := read d (by simp)
    obtain ⟨_, he⟩ := read e (by simp)
    obtain ⟨_, hf⟩ := read f (by simp)
    simp [ofGroups?, ha, hb, hc, hd, he, hf]

theorem parse_eq_ok {s : String} {a : Address} :
    parse s = .ok a ↔ ofGroups? (s.toList.splitOn ':') = some a := by
  unfold parse
  split
  · next found => rw [found, Except.ok.injEq, Option.some.injEq]
  · next missing =>
    rw [missing]
    exact ⟨nofun, nofun⟩

theorem parse_eq_error {s : String} {e : InvalidAddress} :
    parse s = .error e ↔ (∀ a, parse s ≠ .ok a) ∧ e = ⟨s⟩ := by
  unfold parse
  split
  · exact ⟨nofun, fun h => absurd rfl (h.1 _)⟩
  · rw [Except.error.injEq]
    exact ⟨fun same => ⟨nofun, same.symm⟩, fun h => h.2.symm⟩

/-- The octets are read off the groups one by one. -/
theorem parse_iff_groups {s : String} {a : Address} : parse s = .ok a ↔
    (∀ g ∈ s.toList.splitOn ':', IsGroup g) ∧
      (s.toList.splitOn ':').map (List.map shown) = a.octets.map octetChars := by
  rw [parse_eq_ok, ofGroups?_eq_some]
  generalize s.toList.splitOn ':' = groups
  have shownAs : List.Forall₂ (fun g n => octetChars n = g.map shown) groups a.octets ↔
      groups.map (List.map shown) = a.octets.map octetChars :=
    calc List.Forall₂ (fun g n => octetChars n = g.map shown) groups a.octets
      _ ↔ List.Forall₂ (fun t n => octetChars n = t) (groups.map (List.map shown)) a.octets :=
        (List.forall₂_map_left_iff (R := fun t n => octetChars n = t)).symm
      _ ↔ List.Forall₂ (fun t u => u = t) (groups.map (List.map shown)) (a.octets.map octetChars) :=
        (List.forall₂_map_right_iff (R := fun t u => u = t)).symm
      _ ↔ _ := by simp only [eq_comm, List.forall₂_eq_eq_eq]
  simp only [group?_eq_some, List.forall₂_and_left, shownAs]

theorem exists_parse_iff {s : String} : (∃ a, parse s = .ok a) ↔ InSixGroups IsGroup s := by
  rw [inSixGroups_iff fun _ => IsGroup.not_mem_colon]
  constructor
  · rintro ⟨a, read⟩
    obtain ⟨groups, same⟩ := parse_iff_groups.mp read
    have count := congrArg List.length same
    rw [List.length_map, List.length_map] at count
    exact ⟨count, groups⟩
  · rintro ⟨six, groups⟩
    obtain ⟨a, read⟩ := exists_ofGroups? six groups
    exact ⟨a, parse_eq_ok.mpr read⟩

/-- Of the texts in six groups, an address is read from those that show its own. -/
theorem parse_iff {s : String} {a : Address} :
    parse s = .ok a ↔ InSixGroups IsGroup s ∧ a.text = canonical s := by
  have shownAs : (s.toList.splitOn ':').map (List.map shown) = a.octets.map octetChars ↔
      a.text = canonical s := by
    unfold canonical text
    rw [← splitOn_map shown_eq_colon, ← splitOn_chars, splitOn_inj, ← String.toList_inj,
      String.toList_ofList, String.toList_ofList, eq_comm]
  constructor
  · intro read
    exact ⟨exists_parse_iff.mp ⟨a, read⟩, shownAs.mp (parse_iff_groups.mp read).2⟩
  · rintro ⟨groups, same⟩
    have each := ((inSixGroups_iff fun _ => IsGroup.not_mem_colon).mp groups).2
    exact parse_iff_groups.mpr ⟨each, shownAs.mpr same⟩

/-! The case of letters. -/

/-- The second text is the first with some of its letters lower-cased. -/
def Lowered (t s : String) : Prop :=
  List.Forall₂ (fun c d => d = c ∨ d = c.toLower) t.toList s.toList

theorem map_toUpper_chars (a : Address) : a.chars.map Char.toUpper = a.chars := by
  have same (n : UInt8) : (octetChars n).map Char.toUpper = octetChars n := by
    simp [octetChars, toUpper_hexDigit (halves_lt n).1, toUpper_hexDigit (halves_lt n).2]
  have colon : ':'.toUpper = ':' := by decide
  simp [chars, same, colon]

theorem Lowered.toUpper {t s : String} (h : Lowered t s) : s.toUpper = t.toUpper := by
  unfold Lowered at h
  apply String.toList_inj.mp
  unfold String.toUpper
  rw [String.toList_map, String.toList_map]
  generalize t.toList = before, s.toList = after at h
  induction h with
  | nil => rfl
  | cons first _ ih =>
    rw [List.map_cons, List.map_cons, ih]
    rcases first with rfl | rfl
    · rfl
    · rw [toUpper_toLower]

/-! A text that shows an address in upper case. -/

section
variable {s : String} {a : Address} (h : s.toUpper = a.text)
include h

theorem splitOn_of_toUpper :
    (s.toList.splitOn ':').map (List.map Char.toUpper) = a.octets.map octetChars := by
  rw [← splitOn_map toUpper_eq_colon, ← splitOn_chars, splitOn_inj, ← String.toList_map]
  exact (congrArg String.toList h).trans (String.toList_ofList ..)

/-- The digits of an octet in whichever case are two digits. -/
theorem isDigitPair_of_toUpper : ∀ g ∈ s.toList.splitOn ':', IsDigitPair g := by
  intro g member
  have listed : g.map Char.toUpper ∈ a.octets.map octetChars :=
    splitOn_of_toUpper h ▸ List.mem_map_of_mem member
  obtain ⟨n, -, same⟩ := List.mem_map.mp listed
  obtain ⟨hi, rest, rfl, high, tail⟩ := List.map_eq_cons_iff.mp same.symm
  obtain ⟨lo, none, rfl, low, last⟩ := List.map_eq_cons_iff.mp tail
  obtain rfl := List.map_eq_nil_iff.mp last
  refine ⟨hi, lo, rfl, isHexDigit_toUpper.mp ?_, isHexDigit_toUpper.mp ?_⟩
  · rw [high]
    exact isHexDigit_hexDigit (halves_lt n).1
  · rw [low]
    exact isHexDigit_hexDigit (halves_lt n).2

theorem inSixGroups_of_toUpper : InSixGroups IsDigitPair s := by
  have six := congrArg List.length (splitOn_of_toUpper h)
  rw [List.length_map, List.length_map] at six
  exact (inSixGroups_iff fun _ pair => pair.isGroup.not_mem_colon).mpr ⟨six, isDigitPair_of_toUpper h⟩

theorem parse_of_toUpper : parse s = .ok a := by
  have pairs := isDigitPair_of_toUpper h
  refine parse_iff_groups.mpr ⟨fun g member => (pairs g member).isGroup, ?_⟩
  rw [← splitOn_of_toUpper h]
  exact List.map_congr_left fun g member => (pairs g member).map_shown

end

/-- An address is read back from its text, and from the text with any of its letters lower-cased. -/
theorem parse_lowered_text (a : Address) :
    parse a.text = .ok a ∧ ∀ s, Lowered a.text s → parse s = .ok a := by
  have upper : a.text.toUpper = a.text := by
    apply String.toList_inj.mp
    unfold String.toUpper text
    rw [String.toList_map, String.toList_ofList, map_toUpper_chars]
  exact ⟨parse_of_toUpper upper, fun s lowered => parse_of_toUpper (lowered.toUpper.trans upper)⟩

/-- Some letters are lower-cased, within an octet and across octets. -/
theorem parse_lowered_text_of_mixed :
    Lowered (text ⟨0x0A, 0xBC, 0xDE, 0xF0, 0x12, 0xFF⟩) "0a:Bc:De:f0:12:fF" ∧
      parse "0a:Bc:De:f0:12:fF" = .ok ⟨0x0A, 0xBC, 0xDE, 0xF0, 0x12, 0xFF⟩ := by
  have lowered : Lowered (text ⟨0x0A, 0xBC, 0xDE, 0xF0, 0x12, 0xFF⟩) "0a:Bc:De:f0:12:fF" := by
    unfold Lowered
    decide
  exact ⟨lowered, (parse_lowered_text _).2 _ lowered⟩

/-! Plus signs. -/

/-- A text is read as it is written: it is taken exactly if it is six pairs of digits, the address it is
taken for shows the same text in upper case, and a text that is not taken is handed back whole. -/
structure ReadAsWritten (s : String) : Prop where
  taken : (∃ a, parse s = .ok a) ↔ InSixGroups IsDigitPair s
  written : ∀ a, parse s = .ok a → a.text = s.toUpper
  refused : (∀ a, parse s ≠ .ok a) → parse s = .error ⟨s⟩

theorem canonical_eq_toUpper_iff {s : String} : canonical s = s.toUpper ↔ '+' ∉ s.toList := by
  unfold canonical String.toUpper
  rw [← String.toList_inj, String.toList_ofList, String.toList_map, List.map_inj_left]
  constructor
  · intro same plus
    exact absurd (same '+' plus) (by decide)
  · intro unsigned c member
    exact if_neg fun (plus : c = '+') => unsigned (plus ▸ member)

theorem InSixGroups.mono {told other : List Char → Prop} (h : ∀ g, told g → other g) {s : String} :
    InSixGroups told s → InSixGroups other s := by
  rintro ⟨groups, six, each, joined⟩
  exact ⟨groups, six, fun g member => h g (each g member), joined⟩

theorem readAsWritten_iff {s : String} :
    ReadAsWritten s ↔ ¬(InSixGroups IsGroup s ∧ '+' ∈ s.toList) := by
  constructor
  · rintro whole ⟨groups, plus⟩
    obtain ⟨a, read⟩ := exists_parse_iff.mpr groups
    have same := (parse_iff.mp read).2.symm.trans (whole.written a read)
    exact canonical_eq_toUpper_iff.mp same plus
  · intro fits
    have written (a : Address) (read : parse s = .ok a) : a.text = s.toUpper := by
      obtain ⟨groups, same⟩ := parse_iff.mp read
      exact same.trans (canonical_eq_toUpper_iff.mpr fun plus => fits ⟨groups, plus⟩)
    refine ⟨⟨?_, ?_⟩, written, fun none => parse_eq_error.mpr ⟨none, rfl⟩⟩
    · rintro ⟨a, read⟩
      exact inSixGroups_of_toUpper (written a read).symm
    · intro pairs
      exact exists_parse_iff.mpr (pairs.mono fun _ => IsDigitPair.isGroup)

/-- A text is read as it is written unless it is six groups with a plus sign in them. Then it is taken
nevertheless, as what it shows with zeros for the plus signs; and two texts stand for one address
exactly if they show the same. -/
theorem read_as_written_iff (s : String) :
    (ReadAsWritten s ↔ ¬(InSixGroups IsGroup s ∧ '+' ∈ s.toList)) ∧
      (∀ a, parse s = .ok a ↔ InSixGroups IsGroup s ∧ a.text = canonical s) ∧
      (∀ e, parse s = .error e ↔ ¬InSixGroups IsGroup s ∧ e = ⟨s⟩) ∧
      ∀ t, (∃ a, parse s = .ok a ∧ parse t = .ok a) ↔
        InSixGroups IsGroup s ∧ InSixGroups IsGroup t ∧ canonical s = canonical t := by
  refine ⟨readAsWritten_iff, fun _ => parse_iff, fun e => ?_, fun t => ⟨?_, ?_⟩⟩
  · rw [parse_eq_error, ← exists_parse_iff, not_exists]
  · rintro ⟨a, first, second⟩
    obtain ⟨groups, shows⟩ := parse_iff.mp first
    obtain ⟨others, same⟩ := parse_iff.mp second
    exact ⟨groups, others, shows.symm.trans same⟩
  · rintro ⟨groups, others, same⟩
    obtain ⟨a, read⟩ := exists_parse_iff.mpr groups
    exact ⟨a, read, parse_iff.mpr ⟨others, (parse_iff.mp read).2.trans same⟩⟩

/-- One text has a plus sign where the other has a zero. -/
theorem read_as_written_iff_of_signed :
    ¬ReadAsWritten "+1:02:03:04:05:fF" ∧
      ∃ a, parse "+1:02:03:04:05:fF" = .ok a ∧ parse "01:02:03:04:05:Ff" = .ok a := by
  have signed : InSixGroups IsGroup "+1:02:03:04:05:fF" :=
    exists_parse_iff.mp ⟨⟨1, 2, 3, 4, 5, 255⟩, rfl⟩
  have plain : InSixGroups IsGroup "01:02:03:04:05:Ff" :=
    exists_parse_iff.mp ⟨⟨1, 2, 3, 4, 5, 255⟩, rfl⟩
  obtain ⟨whole, -, -, same⟩ := read_as_written_iff "+1:02:03:04:05:fF"
  exact ⟨fun written => whole.mp written ⟨signed, by decide⟩, (same _).mpr ⟨signed, plain, by decide⟩⟩

/-- A plus sign and one digit pass for an octet, and the address has another text already. -/
theorem signed_octet_accepted :
    parse "+1:02:03:04:05:06" = .ok ⟨1, 2, 3, 4, 5, 6⟩ ∧
      parse "01:02:03:04:05:06" = .ok ⟨1, 2, 3, 4, 5, 6⟩ ∧
      ¬InSixGroups IsDigitPair "+1:02:03:04:05:06" := by
  refine ⟨rfl, rfl, fun pairs => ?_⟩
  have each := ((inSixGroups_iff fun _ pair => pair.isGroup.not_mem_colon).mp pairs).2
  obtain ⟨hi, lo, same, high, -⟩ := each ['+', '1'] (by decide)
  cases same
  exact not_isHexDigit_plus high

end CallAudio.Address

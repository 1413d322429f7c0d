/-! Finite maps as lists of pairs with at most one pair for each key. -/
namespace CallAudio

abbrev Table (κ α : Type) := List (κ × α)

namespace Table

variable {κ α : Type} [DecidableEq κ]

def get? (t : Table κ α) (key : κ) : Option α :=
  match t with
  | [] => none
  | (k, v) :: rest => if k = key then some v else get? rest key

def erase (t : Table κ α) (key : κ) : Table κ α := t.filter fun entry => entry.1 ≠ key

def set (t : Table κ α) (key : κ) (value : α) : Table κ α := (key, value) :: erase t key

@[simp] theorem get?_nil (key : κ) : get? ([] : Table κ α) key = none := rfl

theorem get?_erase (t : Table κ α) (key other : κ) :
    get? (erase t key) other = if other = key then none else get? t other := by
  induction t with
  | nil =>
    rw [get?_nil, ite_self]
    exact get?_nil other
  | cons entry rest ih =>
    obtain ⟨k, v⟩ := entry
    simp only [erase] at ih
    by_cases hk : k = key
    · subst hk
      by_cases ho : other = k
      · simp_all [erase]
      · simp_all [erase, get?, Ne.symm ho]
    · by_cases ho : k = other
      · subst ho; simp [erase, get?, hk]
      · simp_all [erase, get?]

theorem get?_set (t : Table κ α) (key other : κ) (value : α) :
    get? (set t key value) other = if other = key then some value else get? t other := by
  by_cases h : other = key
  · simp [set, get?, h]
  · simp [set, get?, get?_erase, h, Ne.symm h]

end Table
end CallAudio

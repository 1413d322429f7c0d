import Mathlib.Data.List.Forall2

/-! When attempts made one after another succeed, and with which error they fail. -/
namespace Except

variable {α β ε : Type}

theorem bind_eq_ok {x : Except ε α} {f : α → Except ε β} {b : β} :
    x >>= f = .ok b ↔ ∃ a, x = .ok a ∧ f a = .ok b := by
  cases x with
  | error e => exact ⟨nofun, nofun⟩
  | ok a => exact ⟨fun h => ⟨a, rfl, h⟩, fun ⟨_, same, h⟩ => Except.ok.inj same ▸ h⟩

theorem bind_eq_error {x : Except ε α} {f : α → Except ε β} {e : ε} :
    x >>= f = .error e ↔ x = .error e ∨ ∃ a, x = .ok a ∧ f a = .error e := by
  cases x with
  | error e' =>
    refine ⟨fun h => .inl (congrArg _ (Except.error.inj h)), ?_⟩
    rintro (same | ⟨_, none, -⟩)
    · exact congrArg _ (Except.error.inj same)
    · cases none
  | ok a =>
    refine ⟨fun h => .inr ⟨a, rfl, h⟩, ?_⟩
    rintro (none | ⟨_, same, h⟩)
    · cases none
    · exact Except.ok.inj same ▸ h

variable {f : α → Except ε β} {l : List α}

theorem mapM_eq_ok {bs : List β} :
    l.mapM f = .ok bs ↔ List.Forall₂ (fun a b => f a = .ok b) l bs := by
  induction l generalizing bs with
  | nil =>
    rw [List.forall₂_nil_left_iff]
    exact ⟨fun h => (Except.ok.inj h).symm, fun h => congrArg Except.ok h.symm⟩
  | cons a rest ih =>
    rw [List.mapM_cons, bind_eq_ok, List.forall₂_cons_left_iff]
    simp only [bind_eq_ok, ih]
    constructor
    · rintro ⟨b, first, others, more, same⟩
      exact ⟨b, others, first, more, (Except.ok.inj same).symm⟩
    · rintro ⟨b, others, first, more, rfl⟩
      exact ⟨b, first, others, more, rfl⟩

/-- A list is run through up to the first element that fails. -/
theorem mapM_eq_error {e : ε} : l.mapM f = .error e ↔ ∃ before a after,
    l = before ++ a :: after ∧ (∀ x ∈ before, ∃ b, f x = .ok b) ∧ f a = .error e := by
  induction l with
  | nil => exact ⟨nofun, fun ⟨_, _, _, split, _⟩ => absurd split (by simp)⟩
  | cons a rest ih =>
    have later (b : β) : (rest.mapM f >>= fun bs => pure (b :: bs)) = .error e ↔
        rest.mapM f = .error e := by
      rw [bind_eq_error]
      refine or_iff_left ?_
      rintro ⟨_, -, never⟩
      cases never
    rw [List.mapM_cons, bind_eq_error]
    simp only [later, ih]
    constructor
    · rintro (failed | ⟨b, first, before, x, after, rfl, fine, failed⟩)
      · exact ⟨[], a, rest, rfl, nofun, failed⟩
      · exact ⟨a :: before, x, after, rfl, List.forall_mem_cons.mpr ⟨⟨b, first⟩, fine⟩, failed⟩
    · rintro ⟨before, x, after, split, fine, failed⟩
      cases before with
      | nil =>
        cases split
        exact .inl failed
      | cons y more =>
        cases split
        obtain ⟨⟨b, first⟩, others⟩ := List.forall_mem_cons.mp fine
        exact .inr ⟨b, first, more, x, after, rfl, others, failed⟩

end Except

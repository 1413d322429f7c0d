import CallAudio.RouteState
import Mathlib.Data.List.Induction
import Mathlib.Data.List.Nodup

/-! The order in which devices were last used, told from all that ever happened to them: audio that was moved
to a device, and devices that were lost. -/
namespace CallAudio

/-- Audio is moved to a device from elsewhere, or a device is lost with its last profile. -/
inductive Usage
  | entered (address : Address)
  | lost (address : Address)
deriving DecidableEq, Repr

namespace Usage

variable {usages : List Usage} {u happened undone : Usage}

/-- It happened, and the other did not happen since. -/
def Stands (happened undone : Usage) (usages : List Usage) : Prop :=
  ∃ before after, usages = before ++ happened :: after ∧ undone ∉ after

theorem not_stands_nil : ¬Stands happened undone [] := by
  rintro ⟨before, after, split, -⟩
  exact List.cons_ne_nil _ _ (List.append_eq_nil_iff.mp split.symm).2

theorem stands_concat :
    Stands happened undone (usages ++ [u]) ↔ u = happened ∨ u ≠ undone ∧ Stands happened undone usages := by
  constructor
  · rintro ⟨before, after, split, spared⟩
    -- Either it is the last that happened, or what happened last came after it.
    rcases List.eq_nil_or_concat after with rfl | ⟨later, last, rfl⟩
    · exact Or.inl (List.append_inj_right' split rfl |> List.singleton_inj.mp)
    · rw [List.concat_eq_append, ← List.cons_append, ← List.append_assoc] at split
      obtain ⟨earlier, same⟩ := List.append_inj' split rfl
      obtain rfl := List.singleton_inj.mp same
      rw [List.concat_eq_append, List.mem_append, not_or, List.mem_singleton] at spared
      exact Or.inr ⟨Ne.symm spared.2, before, later, earlier, spared.1⟩
  · rintro (rfl | ⟨other, before, after, rfl, spared⟩)
    · exact ⟨usages, [], rfl, List.not_mem_nil⟩
    · refine ⟨before, after ++ [u], by simp, ?_⟩
      rw [List.mem_append, not_or, List.mem_singleton]
      exact ⟨spared, Ne.symm other⟩

/-- The device last used comes last; one that is lost is forgotten. -/
def apply (recent : List Address) : Usage → List Address
  | entered address => recent.filter (· ≠ address) ++ [address]
  | lost address => recent.filter (· ≠ address)

end Usage

open Usage

/-- The devices that audio was moved to and that were not lost since, each once. Of any two the later is the one
that audio was last moved to. -/
structure RanksByUse (usages : List Usage) (recent : List Address) : Prop where
  nodup : recent.Nodup
  used : ∀ address, address ∈ recent ↔ Stands (.entered address) (.lost address) usages
  ordered : recent.Pairwise fun earlier later => Stands (.entered later) (.entered earlier) usages

namespace RanksByUse

variable {usages : List Usage} {recent : List Address}

theorem entered (h : RanksByUse usages recent) (address : Address) :
    RanksByUse (usages ++ [.entered address]) (recent.filter (· ≠ address) ++ [address]) where
  nodup := by
    rw [List.nodup_append]
    refine ⟨h.nodup.filter _, List.nodup_singleton address, fun other mem last mem' => ?_⟩
    obtain rfl := List.mem_singleton.mp mem'
    exact of_decide_eq_true (List.mem_filter.mp mem).2
  used other := by
    -- The entry itself stands; it undoes no other device.
    rw [stands_concat, ← h.used, List.mem_append, List.mem_filter, List.mem_singleton, decide_eq_true_eq]
    by_cases same : other = address
    · simp [same]
    · simp [same, Ne.symm same]
  ordered := by
    rw [List.pairwise_append]
    refine ⟨?_, List.pairwise_singleton _ _, fun other _ last mem => ?_⟩
    · apply (h.ordered.filter _).imp_of_mem
      intro earlier later mem _ stands
      have spared : earlier ≠ address := of_decide_eq_true (List.mem_filter.mp mem).2
      exact stands_concat.mpr (Or.inr ⟨fun same => spared (Usage.entered.inj same).symm, stands⟩)
    · -- Whatever else is ranked was entered before.
      obtain rfl := List.mem_singleton.mp mem
      exact stands_concat.mpr (Or.inl rfl)

theorem lost (h : RanksByUse usages recent) (address : Address) :
    RanksByUse (usages ++ [.lost address]) (recent.filter (· ≠ address)) where
  nodup := h.nodup.filter _
  used other := by
    rw [stands_concat, ← h.used, List.mem_filter, decide_eq_true_eq]
    by_cases same : other = address
    · simp [same]
    · simp [same, Ne.symm same]
  ordered := by
    apply (h.ordered.filter _).imp
    intro earlier later stands
    exact stands_concat.mpr (Or.inr ⟨nofun, stands⟩)

/-- Devices are ranked by their use if every usage is applied in its turn. -/
theorem foldl (usages : List Usage) : RanksByUse usages (usages.foldl Usage.apply []) := by
  induction usages using List.reverseRecOn with
  | nil => exact ⟨List.nodup_nil, fun _ => iff_of_false List.not_mem_nil not_stands_nil, List.Pairwise.nil⟩
  | append_singleton usages u ih =>
    rw [List.foldl_append]
    cases u with
    | entered address => exact ih.entered address
    | lost address => exact ih.lost address

end RanksByUse
end CallAudio

import CallAudio.Notice
import CallAudio.Proofs.Transition.Effect
import Mathlib.Data.List.Nodup
import Mathlib.Data.List.Perm.Basic
import Mathlib.Data.List.Perm.Subperm

/-! What a pending transition still waits for once it was given some confirmations. As the tokens of a plan
all have different signals, that is every token that none of them gave. -/
namespace CallAudio

/-- Moving the last element to a position removes the one that stood there. -/
theorem swapErase_perm {α : Type} {items : List α} {i : Nat} (h : i < items.length) :
    (swapErase items i).Perm (items.eraseIdx i) := by
  rcases List.eq_nil_or_concat items with rfl | ⟨init, z, rfl⟩
  · cases h
  rw [List.concat_eq_append] at h ⊢
  have moved : swapErase (init ++ [z]) i = ((init ++ [z]).set i z).dropLast := by
    simp only [swapErase, List.getLast?_concat]
  rw [moved]
  rw [List.length_append, List.length_singleton] at h
  by_cases hl : i < init.length
  · rw [List.set_append_left _ _ hl, List.dropLast_concat, List.eraseIdx_append_of_lt_length hl]
    have first : (init.set i z).Perm (z :: init.eraseIdx i) := List.set_perm_cons_eraseIdx hl z
    exact first.trans (List.perm_append_singleton z _).symm
  · obtain rfl : i = init.length := by omega
    rw [List.set_append_right _ _ Nat.le.refl, Nat.sub_self, List.set_cons_zero, List.dropLast_concat,
      List.eraseIdx_append_of_length_le Nat.le.refl, Nat.sub_self, List.eraseIdx_cons_zero,
      List.append_nil]

theorem mem_swapErase {α : Type} {items : List α} {i : Nat} {x y : α} (hi : items[i]? = some y)
    (hx : x ∈ items) : x ∈ swapErase items i ∨ x = y := by
  obtain ⟨hl, rfl⟩ := List.getElem?_eq_some_iff.mp hi
  rw [(swapErase_perm hl).mem_iff]
  have taken : (items[i] :: items.eraseIdx i).Perm items := List.getElem_cons_eraseIdx_perm hl
  exact (List.mem_cons.mp (taken.mem_iff.mpr hx)).symm

theorem mem_swapErase_of_nodup {α : Type} [DecidableEq α] {items : List α} {i : Nat} {x y : α}
    (nodup : items.Nodup) (hi : items[i]? = some y) :
    x ∈ swapErase items i ↔ x ∈ items ∧ x ≠ y := by
  obtain ⟨hl, rfl⟩ := List.getElem?_eq_some_iff.mp hi
  rw [(swapErase_perm hl).mem_iff, ← nodup.erase_getElem i hl, nodup.mem_erase_iff, and_comm]

/-- The confirmation gives the token to the transition of this number: it is meant for that transition or
for any, and it satisfies the token. -/
def Confirmation.Gives (c : Confirmation) (id : TransitionId) (token : ConfirmationToken) : Prop :=
  (∀ x ∈ c.transition, x = id) ∧ token.isSatisfiedBy c.token = true

theorem ConfirmationToken.signal_eq {token observed : ConfirmationToken}
    (h : token.isSatisfiedBy observed = true) : token.signal = observed.signal := by
  unfold isSatisfiedBy at h
  exact of_decide_eq_true (Bool.and_eq_true_iff.mp h).1

namespace PendingTransition

/-- All that is waited for has a signal of its own. -/
def Distinct (T : PendingTransition) : Prop := (T.outstanding.map ConfirmationToken.signal).Nodup

/-- What remains of a transition that was given these confirmations and is not over yet. -/
structure Remains (T : PendingTransition) (cs : List Confirmation) (T' : PendingTransition) : Prop where
  same : T' = { T with outstanding := T'.outstanding }
  fewer : T'.outstanding.Subperm T.outstanding
  awaited : ∀ token, token ∈ T'.outstanding ↔
    token ∈ T.outstanding ∧ ∀ c ∈ cs, ¬c.Gives T.id token

variable {T T' T'' : PendingTransition} {c : Confirmation} {cs ds : List Confirmation}

theorem Distinct.nodup (h : T.Distinct) : T.outstanding.Nodup := List.Nodup.of_map _ h

/-- Only one of the tokens waited for is satisfied by a confirmation. -/
theorem Distinct.eq_of_satisfied (h : T.Distinct) {x y observed : ConfirmationToken}
    (hx : x ∈ T.outstanding) (hy : y ∈ T.outstanding) (xs : x.isSatisfiedBy observed = true)
    (ys : y.isSatisfiedBy observed = true) : x = y :=
  List.inj_on_of_nodup_map h hx hy ((ConfirmationToken.signal_eq xs).trans (ConfirmationToken.signal_eq ys).symm)

namespace Remains

theorem refl (T : PendingTransition) : T.Remains [] T :=
  ⟨rfl, List.Subperm.refl _, fun _ => (and_iff_left (List.forall_mem_nil _)).symm⟩

theorem id_eq (h : T.Remains cs T') : T'.id = T.id := by rw [h.same]

theorem destination_eq (h : T.Remains cs T') : T'.destination = T.destination := by rw [h.same]

theorem distinct (h : T.Remains cs T') (hT : T.Distinct) : T'.Distinct := by
  obtain ⟨found, perm, sub⟩ := h.fewer
  have kept : (found.map ConfirmationToken.signal).Nodup := (sub.map _).nodup hT
  exact (perm.map _).nodup_iff.mp kept

theorem trans (h : T.Remains cs T') (h' : T'.Remains ds T'') : T.Remains (cs ++ ds) T'' := by
  refine ⟨?_, h'.fewer.trans h.fewer, fun token => ?_⟩
  · have last := h'.same
    rwa [h.same] at last
  · rw [h'.awaited, h.awaited, h.id_eq, List.forall_mem_append, and_assoc]

/-- A confirmation that gives nothing leaves everything to be waited for. -/
theorem of_none (h : ∀ token ∈ T.outstanding, ¬c.Gives T.id token) : T.Remains [c] T := by
  refine ⟨rfl, List.Subperm.refl _, fun token => ?_⟩
  rw [List.forall_mem_singleton]
  exact ⟨fun mem => ⟨mem, h token mem⟩, And.left⟩

theorem of_given (distinct : T.Distinct) (meant : ∀ x ∈ c.transition, x = T.id) {i : Nat}
    {given : ConfirmationToken} (hi : T.outstanding[i]? = some given)
    (satisfied : given.isSatisfiedBy c.token = true) :
    T.Remains [c] { T with outstanding := swapErase T.outstanding i } := by
  obtain ⟨hl, he⟩ := List.getElem?_eq_some_iff.mp hi
  have mem : given ∈ T.outstanding := he ▸ List.getElem_mem hl
  refine ⟨rfl, ?_, fun token => ?_⟩
  · exact (swapErase_perm hl).subperm.trans (List.eraseIdx_sublist _ _).subperm
  · change token ∈ swapErase T.outstanding i ↔ _
    rw [mem_swapErase_of_nodup distinct.nodup hi, List.forall_mem_singleton]
    refine and_congr_right fun ht => not_congr ⟨?_, fun gives => ?_⟩
    · rintro rfl
      exact ⟨meant, satisfied⟩
    · exact distinct.eq_of_satisfied ht mem gives.2 satisfied

end Remains
end PendingTransition

namespace TransitionTracker

variable {t : TransitionTracker} {T : PendingTransition}

theorem confirm_of_none (h : t.pending = none) (c : Confirmation) : t.confirm c = (none, t) := by
  unfold confirm
  rw [h]

theorem settle_of_none (h : t.pending = none) : t.settle = (none, t) := by
  unfold settle
  rw [h]

theorem fail_of_none (h : t.pending = none) (failed : Option Address) : t.fail failed = (none, t) := by
  unfold fail
  rw [h]

theorem fail_pending (t : TransitionTracker) (failed : Option Address) :
    (t.fail failed).2.pending = none := by
  rcases t.fail_cases failed with ⟨none, h⟩ | ⟨T, -, h⟩
  · rw [h]
    exact none
  · rw [h]

/-- A confirmation takes off what it gives. That was all there was to wait for, or the transition goes on. -/
theorem confirm_given (h : t.pending = some T) (distinct : T.Distinct) (c : Confirmation) :
    ∃ T', T.Remains [c] T' ∧ t.confirm c =
      if T.outstanding ≠ [] ∧ T'.outstanding = [] then
        (some (.resolved T.id T.destination), { t with pending := none, active := T.destinationActive })
      else (none, { t with pending := some T' }) := by
  have unchanged : (none, t) = if T.outstanding ≠ [] ∧ T.outstanding = [] then
      (some (.resolved T.id T.destination), { t with pending := none, active := T.destinationActive })
      else ((none : Option TransitionOutcome), { t with pending := some T }) := by
    rw [if_neg fun both => both.1 both.2, ← h]
  unfold confirm
  rw [h]
  dsimp only
  by_cases meant : c.transition.any (· ≠ T.id) = true
  · -- The confirmation is tagged with another transition.
    obtain ⟨x, mem, other⟩ := (Option.any_eq_true _ _).mp meant
    rw [decide_eq_true_eq] at other
    rw [if_pos meant]
    exact ⟨T, .of_none fun token _ gives => other (gives.1 x mem), unchanged⟩
  · rw [if_neg meant]
    cases hi : T.outstanding.findIdx? (·.isSatisfiedBy c.token) with
    | none =>
      rw [List.findIdx?_eq_none_iff] at hi
      refine ⟨T, .of_none fun token mem gives => ?_, unchanged⟩
      exact Bool.false_ne_true ((hi token mem).symm.trans gives.2)
    | some i =>
      obtain ⟨hl, satisfied, -⟩ := List.findIdx?_eq_some_iff_getElem.mp hi
      have meant' : ∀ x ∈ c.transition, x = T.id := by
        intro x mem
        by_contra other
        exact meant ((Option.any_eq_true _ _).mpr ⟨x, mem, decide_eq_true other⟩)
      have waited : T.outstanding ≠ [] := List.ne_nil_of_length_pos (Nat.zero_lt_of_lt hl)
      refine ⟨{ T with outstanding := swapErase T.outstanding i },
        .of_given distinct meant' (List.getElem?_eq_getElem hl) satisfied, ?_⟩
      simp only [settle, List.isEmpty_iff, waited, ne_eq, not_false_eq_true, true_and]

/-- A confirmation resolves the pending transition, or leaves it waiting for what it does not give. -/
theorem confirm_remains (h : t.pending = some T) (distinct : T.Distinct) (c : Confirmation) :
    ((t.confirm c).1 = some (.resolved T.id T.destination) ∧ (t.confirm c).2.pending = none) ∨
      (t.confirm c).1 = none ∧ ∃ T', (t.confirm c).2.pending = some T' ∧ T.Remains [c] T' := by
  obtain ⟨T', remains, given⟩ := confirm_given h distinct c
  rw [given]
  split_ifs
  · exact Or.inl ⟨rfl, rfl⟩
  · exact Or.inr ⟨rfl, T', rfl, remains⟩

end TransitionTracker

/-- The listener is told of how a transition ends. -/
def TransitionOutcome.event : TransitionOutcome → TransitionEvent
  | .resolved _ destination => .routeActive destination
  | .fallBackToBaseline exclude => .switchToBaseline exclude

/-- How far transitions have come: the tracker, with what was announced until now. -/
@[ext] structure Progress where
  tracker : TransitionTracker
  events : List TransitionEvent

namespace Progress

def tracked (v : Progress) (f : TransitionTracker → Option TransitionOutcome × TransitionTracker) :
    Progress :=
  ⟨(f v.tracker).2, v.events ++ ((f v.tracker).1.map TransitionOutcome.event).toList⟩

/-- Confirmations come one after the other. -/
def heard (v : Progress) (cs : List Confirmation) : Progress :=
  cs.foldl (fun v c => v.tracked (·.confirm c)) v

variable {v : Progress} {T : PendingTransition}

theorem tracked_of_unchanged {f : TransitionTracker → Option TransitionOutcome × TransitionTracker}
    (h : f v.tracker = (none, v.tracker)) : v.tracked f = v := by
  unfold tracked
  rw [h]
  exact Progress.ext rfl (List.append_nil _)

/-- Actions of the tracker that come to the same are the same progress. -/
theorem tracked_congr {f g : TransitionTracker → Option TransitionOutcome × TransitionTracker}
    (h : f v.tracker = g v.tracker) : v.tracked f = v.tracked g := by
  unfold tracked
  rw [h]

theorem heard_singleton (v : Progress) (c : Confirmation) : v.heard [c] = v.tracked (·.confirm c) :=
  rfl

theorem heard_append (v : Progress) (cs ds : List Confirmation) :
    v.heard (cs ++ ds) = (v.heard cs).heard ds := List.foldl_append

theorem heard_of_none (h : v.tracker.pending = none) (cs : List Confirmation) : v.heard cs = v := by
  induction cs with
  | nil => rfl
  | cons c rest ih =>
    have first : v.tracked (·.confirm c) = v :=
      tracked_of_unchanged (TransitionTracker.confirm_of_none h c)
    change (v.tracked (·.confirm c)).heard rest = v
    rw [first, ih]

/-- The pending transition was resolved. -/
structure Resolves (T : PendingTransition) (v w : Progress) : Prop where
  ended : w.tracker.pending = none
  told : w.events = v.events ++ [.routeActive T.destination]

/-- The pending transition goes on, having been given these confirmations. -/
structure GoesOn (T : PendingTransition) (cs : List Confirmation) (v w : Progress) : Prop where
  untold : w.events = v.events
  remains : ∃ T', w.tracker.pending = some T' ∧ T.Remains cs T'

/-- Confirmations resolve the pending transition, or leave it waiting for what they do not give. -/
theorem heard_cases (h : v.tracker.pending = some T) (distinct : T.Distinct)
    (cs : List Confirmation) : Resolves T v (v.heard cs) ∨ GoesOn T cs v (v.heard cs) := by
  induction cs generalizing v T with
  | nil => exact Or.inr ⟨rfl, T, h, .refl T⟩
  | cons c rest ih =>
    let w := v.tracked (·.confirm c)
    have events : w.events = v.events ++ ((v.tracker.confirm c).1.map TransitionOutcome.event).toList :=
      rfl
    change Resolves T v (w.heard rest) ∨ GoesOn T (c :: rest) v (w.heard rest)
    rcases TransitionTracker.confirm_remains h distinct c with ⟨resolved, ended⟩ | ⟨none, T', hp, remains⟩
    · -- A transition that is resolved hears of no more confirmations.
      rw [resolved] at events
      rw [heard_of_none ended]
      exact Or.inl ⟨ended, events⟩
    · have untold : w.events = v.events := by
        rw [events, none]
        exact List.append_nil _
      rcases ih (v := w) hp (remains.distinct distinct) with resolves | ⟨untold', T'', hp', remains'⟩
      · refine Or.inl ⟨resolves.ended, ?_⟩
        rw [resolves.told, untold, remains.destination_eq]
      · exact Or.inr ⟨untold'.trans untold, T'', hp', remains.trans remains'⟩

end Progress

namespace TransitionPlan

/-- No two tokens of a plan have the same signal. -/
theorem between_distinct (active : Bool) (origin destination : AudioRoute) (destinationActive : Bool) :
    ((between active origin destination destinationActive).tokens.map ConfirmationToken.signal).Nodup := by
  simp only [between, leaving, entering]
  split_ifs <;> simp_all

end TransitionPlan
end CallAudio

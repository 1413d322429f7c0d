import CallAudio.Proofs.Transition.Effect
import Mathlib.Data.List.Induction

/-! Histories of the tracker: which transitions were begun, and what became of them. -/
namespace CallAudio.TrackerStep

def after (t : TransitionTracker) (steps : List TrackerStep) : TransitionTracker :=
  steps.foldl (fun t step => (step.run t).2) t

/-- The outcomes of one transition: those reported while it is the pending one. -/
def outcomesOf (id : TransitionId) (t : TransitionTracker) :
    List TrackerStep → List TransitionOutcome
  | [] => []
  | step :: rest =>
    (if t.pending.map PendingTransition.id = some id then (step.run t).1.outcome?.toList else []) ++
      outcomesOf id (step.run t).2 rest

/-- The identifiers returned by the steps that begin a transition. -/
def begunIds (t : TransitionTracker) : List TrackerStep → List TransitionId
  | [] => []
  | step :: rest =>
    (match (step.run t).1 with
      | .begun id _ => [id]
      | _ => []) ++ begunIds (step.run t).2 rest

@[simp] theorem after_nil (t : TransitionTracker) : after t [] = t := rfl

@[simp] theorem after_cons (t : TransitionTracker) (step : TrackerStep) (rest : List TrackerStep) :
    after t (step :: rest) = after (step.run t).2 rest := rfl

theorem after_append (t : TransitionTracker) (xs ys : List TrackerStep) :
    after t (xs ++ ys) = after (after t xs) ys := List.foldl_append

theorem outcomesOf_append (id : TransitionId) (t : TransitionTracker) (xs ys : List TrackerStep) :
    outcomesOf id t (xs ++ ys) = outcomesOf id t xs ++ outcomesOf id (after t xs) ys := by
  induction xs generalizing t with
  | nil => rfl
  | cons step rest ih => simp only [List.cons_append, outcomesOf, after_cons, ih, List.append_assoc]

theorem begunIds_append (t : TransitionTracker) (xs ys : List TrackerStep) :
    begunIds t (xs ++ ys) = begunIds t xs ++ begunIds (after t xs) ys := by
  induction xs generalizing t with
  | nil => rfl
  | cons step rest ih => simp only [List.cons_append, begunIds, after_cons, ih, List.append_assoc]

theorem next_toNat (id : TransitionId) (h : id.value.toNat + 1 < UInt64.size) :
    id.next.value.toNat = id.value.toNat + 1 := by
  rw [TransitionId.next, UInt64.toNat_add]
  exact Nat.mod_eq_of_lt h

/-- The pending transition is one of those numbered so far. -/
def Numbered (t : TransitionTracker) : Prop :=
  ∀ p, t.pending = some p → p.id.value.toNat < t.nextId.value.toNat

theorem run_nextId (t : TransitionTracker) (step : TrackerStep) :
    (step.run t).2.nextId = if step.isBegin then t.nextId.next else t.nextId := by
  have he := effect t step
  generalize (step.run t).2 = u at he ⊢
  generalize (step.run t).1.outcome? = out at he
  cases he with
  | begun => rfl
  | kept _ hb | resolved _ _ hb | failed _ _ _ hb => simp only [hb, Bool.false_eq_true, ↓reduceIte]
  | trimmed | dropped => rfl

/-- There is a number left for each transition that the steps begin. -/
def Room (t : TransitionTracker) (steps : List TrackerStep) : Prop :=
  t.nextId.value.toNat + steps.countP isBegin < UInt64.size

theorem Room.run_nextId {t : TransitionTracker} {step : TrackerStep} {rest : List TrackerStep}
    (few : Room t (step :: rest)) :
    (step.run t).2.nextId.value.toNat = t.nextId.value.toNat + if step.isBegin then 1 else 0 := by
  rw [Room, List.countP_cons] at few
  rw [TrackerStep.run_nextId]
  by_cases hb : step.isBegin = true
  · rw [if_pos hb] at few
    rw [if_pos hb, if_pos hb, next_toNat _ (by omega)]
  · rw [if_neg hb, if_neg hb, Nat.add_zero]

theorem Room.run {t : TransitionTracker} {step : TrackerStep} {rest : List TrackerStep}
    (few : Room t (step :: rest)) : Room (step.run t).2 rest := by
  rw [Room, few.run_nextId]
  rw [Room, List.countP_cons] at few
  omega

theorem Room.left {t : TransitionTracker} {xs ys : List TrackerStep} (few : Room t (xs ++ ys)) :
    Room t xs := by
  rw [Room, List.countP_append] at few
  rw [Room]
  omega

/-- While there is room, `nextId` counts the transitions begun. -/
theorem Room.after_nextId {t : TransitionTracker} {steps : List TrackerStep} (few : Room t steps) :
    (after t steps).nextId.value.toNat = t.nextId.value.toNat + steps.countP isBegin := by
  induction steps generalizing t with
  | nil => rfl
  | cons step rest ih => rw [after_cons, ih few.run, few.run_nextId, List.countP_cons]; omega

theorem Room.right {t : TransitionTracker} {xs ys : List TrackerStep} (few : Room t (xs ++ ys)) :
    Room (after t xs) ys := by
  rw [Room, few.left.after_nextId]
  rw [Room, List.countP_append] at few
  omega

theorem numbered_run {t : TransitionTracker} {step : TrackerStep} {rest : List TrackerStep}
    (hn : Numbered t) (few : Room t (step :: rest)) : Numbered (step.run t).2 := by
  intro q hq
  have hi := few.run_nextId
  have he := effect t step
  generalize (step.run t).2 = u at he hq hi ⊢
  generalize (step.run t).1.outcome? = out at he
  cases he with
  | begun origin destination destinationActive outstanding kind =>
    obtain rfl := Option.some.inj hq
    simp only [isBegin, ↓reduceIte] at hi
    simp only [hi, Nat.lt_succ_self]
  | kept => exact hn q hq
  | trimmed c p outstanding hp =>
    obtain rfl := Option.some.inj hq
    exact hn p hp
  | resolved | failed | dropped => cases hq

theorem numbered_after {t : TransitionTracker} {steps : List TrackerStep} (hn : Numbered t)
    (few : Room t steps) : Numbered (after t steps) := by
  induction steps generalizing t with
  | nil => exact hn
  | cons step rest ih => exact ih (numbered_run hn few) few.run

/-- A number given out earlier is not given out again. -/
theorem outcomesOf_retired {id : TransitionId} {t : TransitionTracker} {steps : List TrackerStep}
    (few : Room t steps) (hid : id.value.toNat < t.nextId.value.toNat)
    (hp : t.pending.map PendingTransition.id ≠ some id) : outcomesOf id t steps = [] := by
  induction steps generalizing t with
  | nil => rfl
  | cons step rest ih =>
    rw [outcomesOf, if_neg hp, List.nil_append]
    apply ih few.run
    · rw [few.run_nextId]
      omega
    have he := effect t step
    generalize (step.run t).2 = u at he ⊢
    generalize (step.run t).1.outcome? = out at he
    cases he with
    | begun =>
      intro h
      rw [← Option.some.inj h] at hid
      exact absurd hid (Nat.lt_irrefl _)
    | kept => exact hp
    | trimmed c p outstanding hq => simpa only [hq, Option.map_some] using hp
    | resolved | failed | dropped =>
      intro h
      cases h

/-- Before its number is given out a transition has no outcome. -/
theorem outcomesOf_unborn {id : TransitionId} {t : TransitionTracker} {steps : List TrackerStep}
    (hn : Numbered t) (few : Room t steps)
    (hid : (after t steps).nextId.value.toNat ≤ id.value.toNat) : outcomesOf id t steps = [] := by
  induction steps generalizing t with
  | nil => rfl
  | cons step rest ih =>
    -- The pending one has a number below the counter, and the counter never goes back.
    have hp : t.pending.map PendingTransition.id ≠ some id := by
      intro h
      obtain ⟨p, hp, rfl⟩ := Option.map_eq_some_iff.mp h
      have hlt := hn p hp
      rw [few.after_nextId] at hid
      omega
    rw [outcomesOf, if_neg hp, List.nil_append]
    exact ih (numbered_run hn few) few.run hid

/-- The pending transition ends at most once: it is resolved with its own destination or fails. -/
theorem outcomesOf_pending {p : PendingTransition} {t : TransitionTracker}
    {steps : List TrackerStep} (hn : Numbered t) (few : Room t steps) (hp : t.pending = some p) :
    outcomesOf p.id t steps = [] ∨ outcomesOf p.id t steps = [.resolved p.id p.destination] ∨
      ∃ x, outcomesOf p.id t steps = [.fallBackToBaseline x] := by
  -- For every pending transition at once, since a confirmation takes a token off it.
  induction steps generalizing t p with
  | nil => exact Or.inl rfl
  | cons step rest ih =>
    have hlt := hn p hp
    have hi := few.run_nextId
    have hn' := numbered_run hn few
    have few' := few.run
    have he := effect t step
    rw [outcomesOf, if_pos (by rw [hp, Option.map_some])]
    generalize (step.run t).2 = u at he hi hn' few' ⊢
    generalize (step.run t).1.outcome? = out at he ⊢
    -- Once it is not pending any more, its number is not given out again.
    have retired (hu : u.pending.map PendingTransition.id ≠ some p.id) :
        outcomesOf p.id u rest = [] := outcomesOf_retired few' (by rw [hi]; omega) hu
    cases he with
    | begun =>
      rw [retired]
      · exact Or.inl rfl
      · intro h
        rw [← Option.some.inj h] at hlt
        exact absurd hlt (Nat.lt_irrefl _)
    | kept => exact ih hn' few' hp
    | trimmed c q outstanding hq =>
      obtain rfl := Option.some.inj (hp.symm.trans hq)
      exact ih (p := { p with outstanding }) hn' few' rfl
    | resolved step q _ hq =>
      obtain rfl := Option.some.inj (hp.symm.trans hq)
      rw [retired (by simp)]
      exact Or.inr (Or.inl rfl)
    | failed step q x _ hq =>
      rw [retired (by simp)]
      exact Or.inr (Or.inr ⟨x, rfl⟩)
    | dropped =>
      rw [retired (by simp)]
      exact Or.inl rfl

/-- A transition that is still pending has no outcome yet. -/
theorem outcomesOf_of_still_pending {id : TransitionId} {t : TransitionTracker}
    {steps : List TrackerStep} (hn : Numbered t) (few : Room t steps)
    (hp : (after t steps).pending.map PendingTransition.id = some id) :
    outcomesOf id t steps = [] := by
  induction steps using List.reverseRecOn with
  | nil => rfl
  | append_singleton steps step ih =>
    have hs := numbered_after hn few.left
    have unborn : (after t steps).nextId.value.toNat ≤ id.value.toNat →
        outcomesOf id t steps = [] := outcomesOf_unborn hn few.left
    have he := effect (after t steps) step
    rw [after_append, after_cons, after_nil] at hp
    rw [outcomesOf_append, outcomesOf, outcomesOf, List.append_nil]
    generalize after t steps = u at he hp hs unborn ih ⊢
    generalize (step.run u).2 = w at he hp
    generalize (step.run u).1.outcome? = out at he ⊢
    cases he with
    | begun =>
      obtain rfl := Option.some.inj hp
      rw [unborn Nat.le.refl, Option.toList_none, ite_self, List.append_nil]
    | kept => rw [ih few.left hp, Option.toList_none, ite_self, List.append_nil]
    | trimmed c p outstanding hq =>
      rw [ih few.left (by rw [hq]; exact hp), Option.toList_none, ite_self, List.append_nil]
    | resolved | failed | dropped => cases hp

theorem begunIds_cons (t : TransitionTracker) (step : TrackerStep) (rest : List TrackerStep) :
    begunIds t (step :: rest) =
      (if step.isBegin then [t.nextId] else []) ++ begunIds (step.run t).2 rest := by
  cases step <;> rfl

/-- Numbers are given out in ascending order. -/
theorem begunIds_bounds {id : TransitionId} {t : TransitionTracker} {steps : List TrackerStep}
    (few : Room t steps) (hm : id ∈ begunIds t steps) :
    t.nextId.value.toNat ≤ id.value.toNat ∧
      id.value.toNat < (after t steps).nextId.value.toNat := by
  induction steps generalizing t with
  | nil => cases hm
  | cons step rest ih =>
    have hi := few.run_nextId
    have hl := few.run.after_nextId
    rw [begunIds_cons] at hm
    rw [after_cons]
    rcases List.mem_append.mp hm with hm | hm
    · by_cases hb : step.isBegin = true
      · rw [if_pos hb] at hm hi
        obtain rfl := List.mem_singleton.mp hm
        omega
      · rw [if_neg hb] at hm
        cases hm
    · have h := ih few.run hm
      omega

theorem begunIds_nodup {t : TransitionTracker} {steps : List TrackerStep} (few : Room t steps) :
    (begunIds t steps).Nodup := by
  induction steps generalizing t with
  | nil => exact List.nodup_nil
  | cons step rest ih =>
    rw [begunIds_cons]
    by_cases hb : step.isBegin = true
    · rw [if_pos hb, List.singleton_append, List.nodup_cons]
      -- Whatever is given out later is above this number.
      refine ⟨fun hm => ?_, ih few.run⟩
      have h := (begunIds_bounds few.run hm).1
      rw [few.run_nextId, if_pos hb] at h
      omega
    · rw [if_neg hb, List.nil_append]
      exact ih few.run

/-- The pending transition was begun by a step of the history, and neither was another one begun since nor
did activity change. -/
theorem pending_since_begun {steps : List TrackerStep} {p : PendingTransition}
    (hp : (after {} steps).pending = some p) :
    ∃ pre post, steps = pre ++ .begin p.origin p.destination p.destinationActive :: post ∧
      (after {} pre).nextId = p.id ∧ (∀ step ∈ post, step.isBegin = false) ∧
      (after {} pre).active = (after {} steps).active := by
  induction steps using List.reverseRecOn generalizing p with
  | nil => cases hp
  | append_singleton steps step ih =>
    -- The last step began the pending transition, or left one in place that was begun before.
    have earlier {q : PendingTransition} (hq : (after {} steps).pending = some q)
        (hb : step.isBegin = false) :
        ∃ pre post, steps ++ [step] =
            pre ++ .begin q.origin q.destination q.destinationActive :: post ∧
          (after {} pre).nextId = q.id ∧ (∀ step ∈ post, step.isBegin = false) ∧
          (after {} pre).active = (after {} steps).active := by
      obtain ⟨pre, post, hs, hi, hn, ha⟩ := ih hq
      refine ⟨pre, post ++ [step], by rw [hs, List.append_assoc, List.cons_append], hi, ?_, ha⟩
      rw [List.forall_mem_append, List.forall_mem_singleton]
      exact ⟨hn, hb⟩
    have he := effect (after {} steps) step
    rw [after_append, after_cons, after_nil] at hp ⊢
    generalize hu : after {} steps = u at he hp earlier
    generalize (step.run u).2 = w at he hp
    generalize (step.run u).1.outcome? = out at he
    cases he with
    | begun =>
      obtain rfl := Option.some.inj hp
      exact ⟨steps, [], rfl, by rw [hu], List.forall_mem_nil _, by rw [hu]⟩
    | kept _ hb => exact earlier hp hb
    | trimmed c q outstanding hq =>
      obtain rfl := Option.some.inj hp
      exact earlier (q := q) hq rfl
    | resolved | failed | dropped => cases hp

/-- The pending transition was begun by a step of the history. -/
theorem pending_begun {steps : List TrackerStep} {p : PendingTransition}
    (hp : (after {} steps).pending = some p) :
    ∃ pre post, steps = pre ++ .begin p.origin p.destination p.destinationActive :: post ∧
      (after {} pre).nextId = p.id := by
  obtain ⟨pre, post, hs, hi, -⟩ := pending_since_begun hp
  exact ⟨pre, post, hs, hi⟩

theorem mem_begunIds_of_begin {pre post : List TrackerStep} {origin destination : AudioRoute}
    {destinationActive : Bool} :
    (after {} pre).nextId ∈
      begunIds {} (pre ++ .begin origin destination destinationActive :: post) := by
  rw [begunIds_append, begunIds_cons, isBegin, if_pos rfl]
  exact List.mem_append_right _ List.mem_cons_self

end CallAudio.TrackerStep

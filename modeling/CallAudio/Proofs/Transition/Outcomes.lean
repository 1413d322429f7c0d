import CallAudio.Proofs.Transition.History

/-! The law of outcomes: a transition has at most one outcome, and none once another took its place
or it was dropped. -/
namespace CallAudio.TrackerStep

/-- The identifiers in the outcomes that resolve a transition. -/
def resolvedIds (t : TransitionTracker) : List TrackerStep → List TransitionId
  | [] => []
  | step :: rest =>
    (match (step.run t).1.outcome? with
      | some (.resolved id _) => [id]
      | _ => []) ++ resolvedIds (step.run t).2 rest

theorem resolvedIds_append (t : TransitionTracker) (xs ys : List TrackerStep) :
    resolvedIds t (xs ++ ys) = resolvedIds t xs ++ resolvedIds (after t xs) ys := by
  induction xs generalizing t with
  | nil => rfl
  | cons step rest ih =>
    simp only [List.cons_append, resolvedIds, after_cons, ih, List.append_assoc]

/-- The tracker is active if the destination of the last transition resolved is. -/
def ActiveAsResolved (steps : List TrackerStep) : Prop :=
  match (resolvedIds {} steps).getLast? with
  | none => (after {} steps).active = false
  | some id => ∃ pre origin destination post,
      steps = pre ++ .begin origin destination (after {} steps).active :: post ∧
        (after {} pre).nextId = id

theorem ActiveAsResolved.snoc {steps : List TrackerStep} (step : TrackerStep)
    (h : ActiveAsResolved steps)
    (ha : (after {} (steps ++ [step])).active = (after {} steps).active)
    (hr : resolvedIds {} (steps ++ [step]) = resolvedIds {} steps) :
    ActiveAsResolved (steps ++ [step]) := by
  rw [ActiveAsResolved, hr, ha]
  rw [ActiveAsResolved] at h
  cases hl : (resolvedIds {} steps).getLast? with
  | none => simpa only [hl] using h
  | some id =>
    rw [hl] at h
    obtain ⟨pre, origin, destination, post, hs, hi⟩ := h
    refine ⟨pre, origin, destination, post ++ [step], ?_, hi⟩
    exact (congrArg (· ++ [step]) hs).trans (by rw [List.append_assoc, List.cons_append])

theorem activeAsResolved (steps : List TrackerStep) : ActiveAsResolved steps := by
  induction steps using List.reverseRecOn with
  | nil => rfl
  | append_singleton steps step ih =>
    have he := effect (after {} steps) step
    have hr : resolvedIds {} (steps ++ [step]) = resolvedIds {} steps ++
        match (step.run (after {} steps)).1.outcome? with
        | some (.resolved id _) => [id]
        | _ => [] := by
      rw [resolvedIds_append, resolvedIds, resolvedIds, List.append_nil]
    have ha : (after {} (steps ++ [step])).active = (step.run (after {} steps)).2.active := by
      rw [after_append, after_cons, after_nil]
    generalize (step.run (after {} steps)).2 = w at he ha
    generalize (step.run (after {} steps)).1.outcome? = out at he hr
    -- Only a resolution changes what is active, to what the resolved transition was begun with.
    cases he with
    | begun | kept | trimmed | failed | dropped =>
      exact ih.snoc _ ha (hr.trans (List.append_nil _))
    | resolved step p _ hp =>
      obtain ⟨pre, post, hs, hi⟩ := pending_begun hp
      rw [ActiveAsResolved, hr, List.getLast?_append, ha]
      refine ⟨pre, p.origin, p.destination, post ++ [step], ?_, hi⟩
      exact (congrArg (· ++ [step]) hs).trans (by rw [List.append_assoc, List.cons_append])

/-- How the outcomes of a history belong to the transitions begun in it. -/
structure OutcomesLawful (steps : List TrackerStep) : Prop where
  distinct : (begunIds {} steps).Nodup
  /-- An outcome is that of the pending transition, which was begun before. -/
  owned : ∀ pre step post outcome, steps = pre ++ step :: post →
    (step.run (after {} pre)).1.outcome? = some outcome →
    ∃ p, (after {} pre).pending = some p ∧ p.id ∈ begunIds {} pre
  atMostOne : ∀ pre origin destination destinationActive post id actions,
    steps = pre ++ .begin origin destination destinationActive :: post →
    (run (after {} pre) (.begin origin destination destinationActive)).1 = .begun id actions →
    outcomesOf id {} steps = [] ∨ outcomesOf id {} steps = [.resolved id destination] ∨
      ∃ exclude, outcomesOf id {} steps = [.fallBackToBaseline exclude]
  /-- Once another transition is begun or the pending one is dropped, those begun before have no
  outcome; the one that was pending never had any. -/
  replaced : ∀ pre last post id, steps = pre ++ last :: post →
    last.isBegin = true ∨ last = .abandon → id ∈ begunIds {} pre →
    outcomesOf id (after {} (pre ++ [last])) post = [] ∧
      ((after {} pre).pending.map PendingTransition.id = some id → outcomesOf id {} steps = [])
  foreignConfirmation : ∀ pre c post id, steps = pre ++ .confirm c :: post →
    c.transition = some id → (after {} pre).pending.map PendingTransition.id ≠ some id →
    run (after {} pre) (.confirm c) = (.outcome none, after {} pre)
  foreignDeadline : ∀ pre id post, steps = pre ++ .timeOut id :: post →
    (after {} pre).pending.map PendingTransition.id ≠ some id →
    run (after {} pre) (.timeOut id) = (.outcome none, after {} pre)
  active : ActiveAsResolved steps

theorem numbered_fresh : Numbered {} := fun _ h => by cases h

theorem outcome_owned {t : TransitionTracker} {step : TrackerStep} {outcome : TransitionOutcome}
    (h : (step.run t).1.outcome? = some outcome) : ∃ p, t.pending = some p := by
  have he := effect t step
  rw [h] at he
  generalize (step.run t).2 = u at he
  cases he with
  | resolved step p _ hp => exact ⟨p, hp⟩
  | failed step p _ _ hp => exact ⟨p, hp⟩

theorem outcomesOf_replaced {id : TransitionId} {pre post : List TrackerStep} {last : TrackerStep}
    (few : Room {} (pre ++ last :: post)) (hl : last.isBegin = true ∨ last = .abandon)
    (hm : id ∈ begunIds {} pre) : outcomesOf id (after {} (pre ++ [last])) post = [] := by
  have hlt := (begunIds_bounds few.left hm).2
  have hi := few.right.run_nextId
  have hr := few.right.run
  have he := effect (after {} pre) last
  rw [after_append, after_cons, after_nil]
  generalize after {} pre = u at he hlt hi hr ⊢
  generalize (last.run u).2 = w at he hi hr ⊢
  generalize (last.run u).1.outcome? = out at he
  apply outcomesOf_retired hr (by rw [hi]; omega)
  cases he with
  | begun =>
    intro h
    rw [← Option.some.inj h] at hlt
    exact absurd hlt (Nat.lt_irrefl _)
  | kept _ hb ha =>
    rw [ha (hl.resolve_left (by simp only [hb, Bool.false_eq_true, not_false_eq_true]))]
    intro h
    cases h
  | trimmed => simp [isBegin] at hl
  | resolved | failed | dropped =>
    intro h
    cases h

theorem silent_of_replacing (t : TransitionTracker) {step : TrackerStep}
    (hl : step.isBegin = true ∨ step = .abandon) : (step.run t).1.outcome? = none := by
  rcases hl with hb | rfl
  · cases step <;> first | rfl | cases hb
  · rfl

/-- Whatever is done to a fresh tracker in whatever order, its outcomes are lawful as long as
numbers do not repeat. -/
theorem history_lawful (steps : List TrackerStep) (few : steps.countP isBegin < UInt64.size) :
    OutcomesLawful steps := by
  have room : Room {} steps := by simpa [Room] using few
  refine ⟨begunIds_nodup room, ?_, ?_, ?_, ?_, ?_, activeAsResolved steps⟩
  · -- An outcome needs a pending transition, and that was begun earlier.
    rintro pre step post outcome rfl ho
    obtain ⟨p, hp⟩ := outcome_owned ho
    obtain ⟨before, between, hs, hi⟩ := pending_begun hp
    exact ⟨p, hp, by rw [hs, ← hi]; exact mem_begunIds_of_begin⟩
  · -- Nothing before the begin has its number, and from there on the transition is pending.
    rintro pre origin destination destinationActive post id actions rfl hb
    obtain ⟨rfl, -⟩ := TrackerReply.begun.inj hb
    have numbered := numbered_run (numbered_after numbered_fresh room.left) room.right
    rw [outcomesOf_append, outcomesOf_unborn numbered_fresh room.left Nat.le.refl, outcomesOf]
    simpa only [run, TrackerReply.outcome?, Option.toList_none, ite_self, List.nil_append] using
      outcomesOf_pending numbered room.right.run rfl
  · -- What was pending until the last step had no outcome before, and the step itself gives none.
    rintro pre last post id rfl hl hm
    have hr := outcomesOf_replaced room hl hm
    refine ⟨hr, fun hp => ?_⟩
    rw [after_append, after_cons, after_nil] at hr
    rw [outcomesOf_append, outcomesOf_of_still_pending numbered_fresh room.left hp, outcomesOf, hr,
      silent_of_replacing _ hl, Option.toList_none, ite_self, List.append_nil, List.append_nil]
  · rintro pre c post id rfl hc hp
    simp only [run, TransitionTracker.confirm_of_other _ c id hc hp, Prod.map_apply, id_eq]
  · rintro pre id post rfl hp
    simp only [run, TransitionTracker.timeOut_of_other _ id hp, Prod.map_apply, id_eq]

/-- The second transition takes the place of the first, whose confirmation and deadline come late. -/
theorem history_lawful_of_replaced :
    let steps : List TrackerStep := [.begin ⟨.earpiece, none⟩ ⟨.bluetoothSco, some default⟩ true,
      .begin ⟨.earpiece, none⟩ ⟨.speaker, none⟩ true,
      .confirm ⟨some ⟨0⟩, .bluetoothAudioConnected, some default⟩, .timeOut ⟨0⟩,
      .confirm ⟨some ⟨1⟩, .speakerOn, none⟩, .fail none]
    steps.countP isBegin < UInt64.size ∧ OutcomesLawful steps ∧ outcomesOf ⟨0⟩ {} steps = [] ∧
      outcomesOf ⟨1⟩ {} steps = [.resolved ⟨1⟩ ⟨.speaker, none⟩] := by
  intro steps
  have few : steps.countP isBegin < UInt64.size := by decide
  exact ⟨few, history_lawful steps few, by decide, by decide⟩

end CallAudio.TrackerStep

import CallAudio.Proofs.Transition.History
import CallAudio.Proofs.Transition.Tokens

/-! A transition that is left to its confirmations resolves when the last token of its plan is given.
Neither the order of the confirmations matters nor that some come again. -/
namespace CallAudio

instance (c : Confirmation) (id : TransitionId) (token : ConfirmationToken) :
    Decidable (c.Gives id token) := inferInstanceAs (Decidable (_ ∧ _))

/-- The tokens that the pending transition waits for. -/
def TransitionTracker.awaited (t : TransitionTracker) : List ConfirmationToken :=
  (t.pending.map PendingTransition.outstanding).getD []

namespace TrackerStep

/-- Settling and confirming, that is all that can happen to a transition left to its confirmations. -/
def isAnswer : TrackerStep → Bool
  | settle | confirm _ => true
  | _ => false

def confirmations (steps : List TrackerStep) : List Confirmation :=
  steps.filterMap fun
    | confirm c => some c
    | _ => none

theorem confirmations_append (xs ys : List TrackerStep) :
    confirmations (xs ++ ys) = confirmations xs ++ confirmations ys := List.filterMap_append

/-- Every token was given by some confirmation. With no token to give it takes settling. -/
def Cover (id : TransitionId) (tokens : List ConfirmationToken) (steps : List TrackerStep) : Prop :=
  (∀ token ∈ tokens, ∃ c ∈ confirmations steps, c.Gives id token) ∧ (tokens = [] → .settle ∈ steps)

instance (id : TransitionId) (tokens : List ConfirmationToken) (steps : List TrackerStep) :
    Decidable (Cover id tokens steps) := inferInstanceAs (Decidable (_ ∧ _))

section
variable {id : TransitionId} {tokens : List ConfirmationToken} {steps later : List TrackerStep}

theorem Cover.append (h : Cover id tokens steps) (later : List TrackerStep) :
    Cover id tokens (steps ++ later) := by
  refine ⟨fun token mem => ?_, fun none => List.mem_append_left _ (h.2 none)⟩
  obtain ⟨c, hc, gives⟩ := h.1 token mem
  rw [confirmations_append]
  exact ⟨c, List.mem_append_left _ hc, gives⟩

/-- Only which confirmations came counts, and with nothing to wait for whether anything settled. -/
theorem Cover.congr (same : ∀ c, c ∈ confirmations later ↔ c ∈ confirmations steps)
    (settled : tokens = [] → (.settle ∈ later ↔ .settle ∈ steps)) :
    Cover id tokens later ↔ Cover id tokens steps := by
  simp only [Cover, same]
  exact and_congr_right fun _ => forall_congr' settled

end

/-- A transition waits for what the steps did not give, or they covered its plan and it is over. -/
inductive Standing (t : TransitionTracker) (T : PendingTransition) (steps : List TrackerStep) :
    TransitionTracker → Prop
  | waiting (T' : PendingTransition) (remains : T.Remains (confirmations steps) T')
      (uncovered : ¬Cover T.id T.outstanding steps) : Standing t T steps { t with pending := some T' }
  | resolved (covered : Cover T.id T.outstanding steps) :
      Standing t T steps { t with pending := none, active := T.destinationActive }

variable {t u : TransitionTracker} {T T' : PendingTransition} {steps : List TrackerStep}

theorem cover_iff_of_remains (h : T.Remains (confirmations steps) T') :
    Cover T.id T.outstanding steps ↔
      T'.outstanding = [] ∧ (T.outstanding = [] → .settle ∈ steps) := by
  refine and_congr_left fun _ => ?_
  rw [List.eq_nil_iff_forall_not_mem]
  refine forall_congr' fun token => ?_
  rw [h.awaited, not_and]
  refine imp_congr_right fun _ => ?_
  rw [not_forall]
  exact exists_congr fun c => (by rw [Classical.not_imp, not_not])

/-- The outcome of a step, and how the transition stands then: it resolves with the step that completes the
cover of its plan. -/
structure Answers (t : TransitionTracker) (T : PendingTransition) (steps : List TrackerStep)
    (step : TrackerStep) (ran : Option TransitionOutcome × TransitionTracker) : Prop where
  standing : Standing t T (steps ++ [step]) ran.2
  outcome_iff : ∀ outcome, ran.1 = some outcome ↔ outcome = .resolved T.id T.destination ∧
    Cover T.id T.outstanding (steps ++ [step]) ∧ ¬Cover T.id T.outstanding steps

namespace Answers

variable {step : TrackerStep}

theorem completing (covered : Cover T.id T.outstanding (steps ++ [step]))
    (uncovered : ¬Cover T.id T.outstanding steps) :
    Answers t T steps step (some (.resolved T.id T.destination),
      { t with pending := none, active := T.destinationActive }) := by
  refine ⟨.resolved covered, fun outcome => ?_⟩
  rw [Option.some.injEq, eq_comm]
  exact (and_iff_left ⟨covered, uncovered⟩).symm

theorem silent (standing : Standing t T (steps ++ [step]) u)
    (same : Cover T.id T.outstanding (steps ++ [step]) → Cover T.id T.outstanding steps) :
    Answers t T steps step (none, u) :=
  ⟨standing, fun outcome =>
    iff_of_false (Option.some_ne_none outcome).symm fun h => h.2.2 (same h.2.1)⟩

end Answers

theorem settle_answers (h : Standing t T steps u) : Answers t T steps .settle u.settle := by
  cases h with
  | resolved covered =>
    rw [TransitionTracker.settle_of_none rfl]
    exact .silent (.resolved (covered.append _)) fun _ => covered
  | waiting T' remains uncovered =>
    let waiting : TransitionTracker := { t with pending := some T' }
    have remains' : T.Remains (confirmations (steps ++ [.settle])) T' := by
      rw [confirmations_append]
      exact (List.append_nil (confirmations steps)).symm ▸ remains
    change Answers t T steps .settle waiting.settle
    by_cases done : T'.outstanding = []
    · have resolves : waiting.settle = (some (.resolved T'.id T'.destination),
          { t with pending := none, active := T'.destinationActive }) := by
        simp only [waiting, TransitionTracker.settle, done, List.isEmpty_nil, ↓reduceIte]
      have covered : Cover T.id T.outstanding (steps ++ [.settle]) :=
        (cover_iff_of_remains remains').mpr ⟨done, fun _ => List.mem_concat_self⟩
      rw [resolves, remains.same]
      exact .completing covered uncovered
    · have same : waiting.settle = (none, waiting) := by
        simp only [waiting, TransitionTracker.settle, List.isEmpty_iff, done, ↓reduceIte]
      have left : ¬Cover T.id T.outstanding (steps ++ [.settle]) :=
        fun covered => done ((cover_iff_of_remains remains').mp covered).1
      rw [same]
      exact .silent (.waiting T' remains' left) fun covered => absurd covered left

theorem confirm_answers (h : Standing t T steps u) (distinct : T.Distinct) (c : Confirmation) :
    Answers t T steps (.confirm c) (u.confirm c) := by
  cases h with
  | resolved covered =>
    rw [TransitionTracker.confirm_of_none rfl]
    exact .silent (.resolved (covered.append _)) fun _ => covered
  | waiting T' remains uncovered =>
    obtain ⟨T'', taken, given⟩ := TransitionTracker.confirm_given
      (t := { t with pending := some T' }) rfl (remains.distinct distinct) c
    have remains' : T.Remains (confirmations (steps ++ [.confirm c])) T'' := by
      rw [confirmations_append]
      exact remains.trans taken
    have settled : .settle ∈ steps ++ [.confirm c] ↔ .settle ∈ steps := by
      rw [List.mem_append, List.mem_singleton, or_iff_left TrackerStep.noConfusion]
    rw [given]
    split_ifs with last
    · -- Something was planned, as something was left until now.
      have planned : T.outstanding ≠ [] := by
        intro none
        have fewer := none ▸ remains.fewer
        exact last.1 (List.subperm_nil.mp fewer)
      have covered : Cover T.id T.outstanding (steps ++ [.confirm c]) :=
        (cover_iff_of_remains remains').mpr ⟨last.2, fun none => absurd none planned⟩
      rw [remains.same]
      exact .completing covered uncovered
    · have left : ¬Cover T.id T.outstanding (steps ++ [.confirm c]) := by
        intro covered
        obtain ⟨none, settles⟩ := (cover_iff_of_remains remains').mp covered
        -- With nothing left before either, only settling is missing.
        have before : T'.outstanding = [] := by
          by_contra some
          exact last ⟨some, none⟩
        exact uncovered ((cover_iff_of_remains remains).mpr ⟨before, fun h => settled.mp (settles h)⟩)
      exact .silent (.waiting T'' remains' left) fun covered => absurd covered left

theorem answers_run {step : TrackerStep} (h : Standing t T steps u) (distinct : T.Distinct)
    (answer : step.isAnswer = true) :
    Answers t T steps step ((step.run u).1.outcome?, (step.run u).2) := by
  cases step with
  | settle => exact settle_answers h
  | confirm c => exact confirm_answers h distinct c
  | begin | fail | timeOut | isAwaiting | abandon => cases answer

/-- How a transition stands after all of its answers. -/
theorem standing_after (begun : t.pending = some T) (distinct : T.Distinct)
    (answers : ∀ step ∈ steps, step.isAnswer = true) : Standing t T steps (after t steps) := by
  induction steps using List.reverseRecOn with
  | nil =>
    have uncovered : ¬Cover T.id T.outstanding [] := by
      rintro ⟨given, settled⟩
      have none : T.outstanding = [] := List.eq_nil_iff_forall_not_mem.mpr fun token mem =>
        (given token mem).elim fun _ h => List.not_mem_nil h.1
      exact List.not_mem_nil (settled none)
    have start : t = { t with pending := some T } := by rw [← begun]
    rw [after_nil]
    exact start ▸ .waiting T (.refl T) uncovered
  | append_singleton steps step ih =>
    rw [List.forall_mem_append, List.forall_mem_singleton] at answers
    rw [after_append]
    exact (answers_run (ih answers.1) distinct answers.2).standing

namespace Standing

theorem mem_awaited (h : Standing t T steps u) (token : ConfirmationToken) :
    token ∈ u.awaited ↔ token ∈ T.outstanding ∧ ∀ c ∈ confirmations steps, ¬c.Gives T.id token := by
  cases h with
  | waiting T' remains _ => exact remains.awaited token
  | resolved covered =>
    refine iff_of_false List.not_mem_nil fun ⟨mem, missing⟩ => ?_
    obtain ⟨c, hc, gives⟩ := covered.1 token mem
    exact missing c hc gives

theorem awaited_nodup (h : Standing t T steps u) (distinct : T.Distinct) : u.awaited.Nodup := by
  cases h with
  | waiting T' remains _ => exact (remains.distinct distinct).nodup
  | resolved => exact List.nodup_nil

theorem over_iff (h : Standing t T steps u) : u.pending = none ↔ Cover T.id T.outstanding steps := by
  cases h with
  | waiting T' _ uncovered => exact iff_of_false (Option.some_ne_none T') uncovered
  | resolved covered => exact iff_of_true rfl covered

end Standing

/-- A transition that is left to its confirmations resolves with the first step that completes the cover of
its plan, and no other step has an outcome. What it waits for are the tokens not given so far, so that
neither the order nor the repetition of the confirmations makes a difference. -/
theorem resolves_at_cover (t : TransitionTracker) (origin destination : AudioRoute)
    (destinationActive : Bool) (steps : List TrackerStep)
    (answers : ∀ step ∈ steps, step.isAnswer = true) :
    let id := t.nextId
    let plan := TransitionPlan.between t.active origin destination destinationActive
    let begun := (TrackerStep.begin origin destination destinationActive).run t
    begun.1 = .begun id plan.actions ∧ (plan.tokens.map ConfirmationToken.signal).Nodup ∧
      (∀ pre step post outcome, steps = pre ++ step :: post →
        ((step.run (after begun.2 pre)).1.outcome? = some outcome ↔
          outcome = .resolved id destination ∧ Cover id plan.tokens (pre ++ [step]) ∧
            ¬Cover id plan.tokens pre)) ∧
      (∀ token, token ∈ (after begun.2 steps).awaited ↔
        token ∈ plan.tokens ∧ ∀ c ∈ confirmations steps, ¬c.Gives id token) ∧
      ((after begun.2 steps).pending = none ↔ Cover id plan.tokens steps) ∧
      ∀ later : List TrackerStep, (∀ step ∈ later, step.isAnswer = true) →
        (∀ c, c ∈ confirmations later ↔ c ∈ confirmations steps) →
        (after begun.2 later).awaited.Perm (after begun.2 steps).awaited ∧
          ((plan.tokens = [] → (.settle ∈ later ↔ .settle ∈ steps)) →
            ((after begun.2 later).pending = none ↔ (after begun.2 steps).pending = none)) := by
  intro id plan begun
  let T : PendingTransition :=
    { id, origin, destination, destinationActive, outstanding := plan.tokens
      communicationKind := plan.communicationKind }
  have distinct : T.Distinct := TransitionPlan.between_distinct ..
  have standing (xs : List TrackerStep) (h : ∀ step ∈ xs, step.isAnswer = true) :
      Standing begun.2 T xs (after begun.2 xs) := standing_after rfl distinct h
  refine ⟨rfl, distinct, ?_, (standing steps answers).mem_awaited, (standing steps answers).over_iff, ?_⟩
  · rintro pre step post outcome rfl
    rw [List.forall_mem_append, List.forall_mem_cons] at answers
    exact (answers_run (standing pre answers.1) distinct answers.2.1).outcome_iff outcome
  · intro later answers' same
    refine ⟨?_, fun settled => ?_⟩
    · rw [List.perm_ext_iff_of_nodup ((standing later answers').awaited_nodup distinct)
        ((standing steps answers).awaited_nodup distinct)]
      intro token
      rw [(standing later answers').mem_awaited, (standing steps answers).mem_awaited]
      simp only [same]
    · rw [(standing later answers').over_iff, (standing steps answers).over_iff]
      exact Cover.congr same settled

/-- The second signal of the headset resolves its transition. A foreign tag and a foreign device before it,
and settling too early, do not. -/
theorem resolves_at_cover_of_headset :
    let headset : AudioRoute := ⟨.bluetoothSco, some default⟩
    let begun := (TrackerStep.begin ⟨.earpiece, none⟩ headset true).run {}
    let early : List TrackerStep := [.settle, .confirm ⟨none, .communicationDeviceChanged, some default⟩,
      .confirm ⟨some ⟨7⟩, .bluetoothAudioConnected, some default⟩,
      .confirm ⟨none, .bluetoothAudioConnected, none⟩]
    let last : TrackerStep := .confirm ⟨some ⟨0⟩, .bluetoothAudioConnected, some default⟩
    (∀ step ∈ early ++ [last], step.isAnswer = true) ∧
      (last.run (after begun.2 early)).1.outcome? = some (.resolved ⟨0⟩ headset) ∧
      (after begun.2 (last :: early ++ [last])).pending = none := by
  intro headset begun early last
  have answers : ∀ step ∈ early ++ [last], step.isAnswer = true := by decide
  obtain ⟨-, -, first, -, ended, order⟩ :=
    resolves_at_cover {} ⟨.earpiece, none⟩ headset true (early ++ [last]) answers
  refine ⟨answers, ?_, ?_⟩
  · exact (first early last [] _ rfl).mpr ⟨rfl, by decide, by decide⟩
  · have again := (order (last :: early ++ [last]) (by decide) fun c => ?_).2 (by decide)
    · exact again.mpr (ended.mpr (by decide))
    · simp only [confirmations, early, last, List.filterMap_cons, List.cons_append, List.filterMap_append,
        List.mem_append, List.mem_cons]
      tauto

end TrackerStep
end CallAudio

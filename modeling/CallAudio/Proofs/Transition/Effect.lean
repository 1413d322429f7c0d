import CallAudio.Transition.Run

/-! What one step can do to the tracker: everything known about histories is derived from this. -/
namespace CallAudio

namespace TransitionTracker

theorem settle_cases (t : TransitionTracker) :
    t.settle = (none, t) ∨ ∃ p, t.pending = some p ∧ p.outstanding = [] ∧
      t.settle = (some (.resolved p.id p.destination),
        { t with pending := none, active := p.destinationActive }) := by
  unfold settle
  cases hp : t.pending with
  | none => exact Or.inl rfl
  | some p =>
    by_cases he : p.outstanding = []
    · exact Or.inr ⟨p, rfl, he, by simp only [he, List.isEmpty_nil, ↓reduceIte]⟩
    · exact Or.inl (by simp only [List.isEmpty_iff, he, ↓reduceIte])

/-- A confirmation is dropped, or takes one token that it satisfies off the pending transition. -/
theorem confirm_cases (t : TransitionTracker) (c : Confirmation) :
    t.confirm c = (none, t) ∨ ∃ p i token, t.pending = some p ∧ (∀ x ∈ c.transition, x = p.id) ∧
      p.outstanding[i]? = some token ∧ token.isSatisfiedBy c.token = true ∧
      t.confirm c =
        settle { t with pending := some { p with outstanding := swapErase p.outstanding i } } := by
  unfold confirm
  cases hp : t.pending with
  | none => exact Or.inl rfl
  | some p =>
    by_cases hx : c.transition.any (· ≠ p.id)
    · exact Or.inl (by simp only [hx, ↓reduceIte])
    · cases hi : p.outstanding.findIdx? (·.isSatisfiedBy c.token) with
      | none => exact Or.inl (by simp only [hx, hi, Bool.false_eq_true, ↓reduceIte])
      | some i =>
        obtain ⟨hl, hs, -⟩ := List.findIdx?_eq_some_iff_getElem.mp hi
        refine Or.inr ⟨p, i, p.outstanding[i], rfl, ?_, List.getElem?_eq_getElem hl, hs, ?_⟩
        · intro x hm
          rw [Option.mem_def.mp hm, Option.any_some, decide_eq_true_eq] at hx
          exact Decidable.of_not_not hx
        · simp only [hx, hi, Bool.false_eq_true, ↓reduceIte]

theorem fail_cases (t : TransitionTracker) (x : Option Address) :
    (t.pending = none ∧ t.fail x = (none, t)) ∨ ∃ p, t.pending = some p ∧
      t.fail x = (some (.fallBackToBaseline (x.or p.destination.address)),
        { t with pending := none }) := by
  unfold fail
  cases hp : t.pending with
  | none => exact Or.inl ⟨rfl, rfl⟩
  | some p => exact Or.inr ⟨p, rfl, rfl⟩

theorem timeOut_cases (t : TransitionTracker) (id : TransitionId) :
    t.timeOut id = (none, t) ∨ ∃ p, t.pending = some p ∧ p.id = id ∧
      t.timeOut id = t.fail none := by
  unfold timeOut
  cases hp : t.pending with
  | none => exact Or.inl rfl
  | some p =>
    by_cases h : p.id = id
    · exact Or.inr ⟨p, rfl, h, by simp only [h, ↓reduceIte]⟩
    · exact Or.inl (by simp only [h, ↓reduceIte])

/-- A confirmation tagged with another transition than the pending one is dropped. -/
theorem confirm_of_other (t : TransitionTracker) (c : Confirmation) (x : TransitionId)
    (hx : c.transition = some x) (ho : t.pending.map PendingTransition.id ≠ some x) :
    t.confirm c = (none, t) := by
  rcases confirm_cases t c with h | ⟨p, _, _, hp, ht, _⟩
  · exact h
  · exact absurd (by rw [hp, Option.map_some, ht x hx]) ho

theorem timeOut_of_other (t : TransitionTracker) (x : TransitionId)
    (ho : t.pending.map PendingTransition.id ≠ some x) : t.timeOut x = (none, t) := by
  rcases timeOut_cases t x with h | ⟨p, hp, hx, _⟩
  · exact h
  · exact absurd (by rw [hp, Option.map_some, hx]) ho

end TransitionTracker

def TrackerReply.outcome? : TrackerReply → Option TransitionOutcome
  | .outcome value => value
  | _ => none

namespace TrackerStep

def isBegin : TrackerStep → Bool
  | .begin .. => true
  | _ => false

/-- What a step can do to the tracker, with the outcome in its reply. -/
inductive Effect (t : TransitionTracker) :
    TrackerStep → Option TransitionOutcome → TransitionTracker → Prop
  | begun (origin destination : AudioRoute) (destinationActive : Bool)
      (outstanding : List ConfirmationToken) (kind : Option EndpointKind) :
      Effect t (.begin origin destination destinationActive) none
        { t with
          nextId := t.nextId.next
          pending := some ⟨t.nextId, origin, destination, destinationActive, outstanding, kind⟩ }
  | kept (step : TrackerStep) (hb : step.isBegin = false) (ha : step = .abandon → t.pending = none) :
      Effect t step none t
  | trimmed (c : Confirmation) (p : PendingTransition) (outstanding : List ConfirmationToken)
      (hp : t.pending = some p) :
      Effect t (.confirm c) none { t with pending := some { p with outstanding } }
  | resolved (step : TrackerStep) (p : PendingTransition) (hb : step.isBegin = false)
      (hp : t.pending = some p) :
      Effect t step (some (.resolved p.id p.destination))
        { t with pending := none, active := p.destinationActive }
  | failed (step : TrackerStep) (p : PendingTransition) (exclude : Option Address)
      (hb : step.isBegin = false) (hp : t.pending = some p) :
      Effect t step (some (.fallBackToBaseline exclude)) { t with pending := none }
  | dropped (p : PendingTransition) (hp : t.pending = some p) :
      Effect t .abandon none { t with pending := none }

theorem settle_effect (t : TransitionTracker) (step : TrackerStep) (hb : step.isBegin = false)
    (ha : step ≠ .abandon) : Effect t step t.settle.1 t.settle.2 := by
  rcases t.settle_cases with h | ⟨p, hp, _, h⟩
  · rw [h]
    exact .kept step hb fun hs => absurd hs ha
  · rw [h]
    exact .resolved step p hb hp

theorem confirm_effect (t : TransitionTracker) (c : Confirmation) :
    Effect t (.confirm c) (t.confirm c).1 (t.confirm c).2 := by
  rcases t.confirm_cases c with h | ⟨p, i, _, hp, _, _, _, h⟩
  · rw [h]
    exact .kept _ rfl (by simp)
  · rw [h]
    -- Without further tokens the confirmation resolves the transition at once.
    rcases TransitionTracker.settle_cases
      { t with pending := some { p with outstanding := swapErase p.outstanding i } } with hs | hs
    · rw [hs]
      exact .trimmed c p _ hp
    · obtain ⟨q, hq, _, hs⟩ := hs
      rw [hs]
      obtain rfl := Option.some.inj hq
      exact .resolved (.confirm c) p rfl hp

theorem fail_effect (t : TransitionTracker) (step : TrackerStep) (x : Option Address)
    (hb : step.isBegin = false) (ha : step ≠ .abandon) :
    Effect t step (t.fail x).1 (t.fail x).2 := by
  rcases t.fail_cases x with ⟨_, h⟩ | ⟨p, hp, h⟩
  · rw [h]
    exact .kept step hb fun hs => absurd hs ha
  · rw [h]
    exact .failed step p _ hb hp

theorem timeOut_effect (t : TransitionTracker) (id : TransitionId) :
    Effect t (.timeOut id) (t.timeOut id).1 (t.timeOut id).2 := by
  rcases t.timeOut_cases id with h | ⟨p, _, _, h⟩
  · rw [h]
    exact .kept _ rfl (by simp)
  · rw [h]
    exact fail_effect t _ none rfl (by simp)

theorem abandon_effect (t : TransitionTracker) : Effect t .abandon none t.abandon.2 := by
  cases hp : t.pending with
  | none =>
    have h : t.abandon.2 = t := by simp only [TransitionTracker.abandon, ← hp]
    rw [h]
    exact .kept _ rfl fun _ => hp
  | some p => exact .dropped p hp

theorem effect (t : TransitionTracker) (step : TrackerStep) :
    Effect t step (step.run t).1.outcome? (step.run t).2 := by
  cases step with
  | begin origin destination destinationActive => exact .begun ..
  | settle => exact settle_effect t _ rfl (by simp)
  | confirm c => exact confirm_effect t c
  | fail x => exact fail_effect t _ x rfl (by simp)
  | timeOut id => exact timeOut_effect t id
  | isAwaiting token => exact .kept _ rfl (by simp)
  | abandon => exact abandon_effect t

end TrackerStep
end CallAudio

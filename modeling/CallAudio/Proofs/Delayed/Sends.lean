import CallAudio.Bench.Delayed
import Mathlib.Data.List.TakeWhile

/-! The sends of a schedule, and what the schedule says of each: when it is made, how long its handle is kept,
and whether its deadline is reached until then. -/
namespace CallAudio

variable {μ : Type}

namespace DelayedStep

/-- The time that a step takes. -/
def span : DelayedStep μ → Nat
  | advance span => span
  | _ => 0

/-- The step drops the handle that is kept under a key, or puts another one in its place. -/
def frees (key : Nat) : DelayedStep μ → Bool
  | send other _ _ | drop other => other = key
  | _ => false

/-- The time that steps take. -/
def passed : List (DelayedStep μ) → Nat
  | [] => 0
  | step :: rest => step.span + passed rest

theorem passed_append (steps rest : List (DelayedStep μ)) :
    passed (steps ++ rest) = passed steps + passed rest := by
  induction steps with
  | nil => exact (Nat.zero_add _).symm
  | cons step others ih =>
    calc step.span + passed (others ++ rest)
      _ = step.span + (passed others + passed rest) := congrArg _ ih
      _ = passed (step :: others) + passed rest := (Nat.add_assoc _ _ _).symm

end DelayedStep

open DelayedStep

/-- A send: where it stands in the schedule, the time at which it is made, and what it is made with. -/
structure Sending (μ : Type) where
  place : Nat
  time : Nat
  key : Nat
  value : μ
  delay : Nat
deriving DecidableEq, Repr

namespace Sending

variable (s : Sending μ)

def due : Nat := s.time + s.delay

/-- The schedule makes this send. -/
structure MadeIn (steps : List (DelayedStep μ)) : Prop where
  step : steps[s.place]? = some (.send s.key s.value s.delay)
  time : s.time = passed (steps.take s.place)

/-- What follows the send. -/
def later (steps : List (DelayedStep μ)) : List (DelayedStep μ) := steps.drop (s.place + 1)

/-- What follows the send until its handle is dropped. -/
def kept (steps : List (DelayedStep μ)) : List (DelayedStep μ) :=
  (s.later steps).takeWhile fun step => !step.frees s.key

/-- The handle was never dropped. -/
def Held (steps : List (DelayedStep μ)) : Prop := ∀ step ∈ s.later steps, step.frees s.key = false

/-- The deadline is reached before the handle is dropped. -/
def InTime (steps : List (DelayedStep μ)) : Prop := s.delay ≤ passed (s.kept steps)

/-- The deadline is the earlier one, or it is the same and the send was made first. -/
def Before (s s' : Sending μ) : Prop := s.due < s'.due ∨ s.due = s'.due ∧ s.place < s'.place

theorem Before.trans {a b c : Sending μ} (h : a.Before b) (h' : b.Before c) : a.Before c := by
  unfold Before at h h' ⊢
  omega

variable {s} {steps rest : List (DelayedStep μ)} {step : DelayedStep μ}

theorem MadeIn.place_lt (h : s.MadeIn steps) : s.place < steps.length :=
  (List.getElem?_eq_some_iff.mp h.step).1

theorem MadeIn.append (h : s.MadeIn steps) (rest : List (DelayedStep μ)) : s.MadeIn (steps ++ rest) where
  step := by
    rw [List.getElem?_append_left h.place_lt]
    exact h.step
  time := by
    rw [List.take_append_of_le_length h.place_lt.le]
    exact h.time

theorem MadeIn.of_append (h : s.MadeIn (steps ++ rest)) (before : s.place < steps.length) : s.MadeIn steps where
  step := by
    rw [← List.getElem?_append_left before]
    exact h.step
  time := by
    have same : (steps ++ rest).take s.place = steps.take s.place := List.take_append_of_le_length before.le
    rw [← same]
    exact h.time

/-- The send that the last step makes, if it makes one, is the only new one. -/
theorem madeIn_concat : s.MadeIn (steps ++ [step]) ↔ s.MadeIn steps ∨
    s.place = steps.length ∧ s.time = passed steps ∧ step = .send s.key s.value s.delay := by
  constructor
  · intro h
    by_cases before : s.place < steps.length
    · exact Or.inl (h.of_append before)
    · have last : s.place = steps.length := by
        have bound := h.place_lt
        rw [List.length_append, List.length_singleton] at bound
        omega
      obtain ⟨made, time⟩ := h
      rw [last, List.getElem?_concat_length] at made
      rw [last, List.take_left] at time
      exact Or.inr ⟨last, time, Option.some.inj made⟩
  · rintro (h | ⟨last, time, rfl⟩)
    · exact h.append _
    · refine ⟨?_, ?_⟩
      · rw [last, List.getElem?_concat_length]
      · rw [last, List.take_left]
        exact time

/-- All time passes before the send or after it. -/
theorem MadeIn.passed_later (h : s.MadeIn steps) : s.time + passed (s.later steps) = passed steps := by
  obtain ⟨bound, at_place⟩ := List.getElem?_eq_some_iff.mp h.step
  have split : steps = steps.take s.place ++ .send s.key s.value s.delay :: s.later steps := by
    rw [← at_place]
    exact (List.take_append_drop s.place steps).symm.trans (by rw [List.drop_eq_getElem_cons bound]; rfl)
  calc s.time + passed (s.later steps)
    _ = passed (steps.take s.place) + passed (.send s.key s.value s.delay :: s.later steps) := by
      rw [h.time]
      show _ = _ + (0 + passed (s.later steps))
      omega
    _ = passed steps := by rw [← passed_append, ← split]

theorem later_append (before : s.place < steps.length) (rest : List (DelayedStep μ)) :
    s.later (steps ++ rest) = s.later steps ++ rest := List.drop_append_of_le_length before

theorem kept_of_held (h : s.Held steps) : s.kept steps = s.later steps := by
  unfold kept
  rw [List.takeWhile_eq_self_iff]
  intro step mem
  rw [h step mem]
  rfl

/-- Once the handle is dropped nothing that follows matters. -/
theorem kept_append_of_dropped (before : s.place < steps.length) (h : ¬s.Held steps)
    (rest : List (DelayedStep μ)) : s.kept (steps ++ rest) = s.kept steps := by
  unfold kept
  rw [later_append before, List.takeWhile_append, if_neg]
  intro whole
  have all := List.takeWhile_eq_self_iff.mp ((List.takeWhile_prefix _).eq_of_length whole)
  exact h fun step mem => by simpa using all step mem

theorem kept_append_of_held (before : s.place < steps.length) (h : s.Held steps)
    (rest : List (DelayedStep μ)) :
    s.kept (steps ++ rest) = s.later steps ++ rest.takeWhile fun step => !step.frees s.key := by
  unfold kept
  rw [later_append before]
  apply List.takeWhile_append_of_pos
  intro step mem
  rw [h step mem]
  rfl

theorem held_append (before : s.place < steps.length) :
    s.Held (steps ++ rest) ↔ s.Held steps ∧ ∀ step ∈ rest, step.frees s.key = false := by
  unfold Held
  rw [later_append before]
  exact List.forall_mem_append

theorem held_of_last (last : s.place = steps.length) : s.Held (steps ++ [step]) := by
  have none : s.later (steps ++ [step]) = [] := by
    apply List.drop_eq_nil_of_le
    rw [List.length_append, List.length_singleton, last]
  unfold Held
  rw [none]
  exact List.forall_mem_nil _

theorem InTime.append (before : s.place < steps.length) (h : s.InTime steps)
    (rest : List (DelayedStep μ)) : s.InTime (steps ++ rest) := by
  unfold InTime at h ⊢
  by_cases held : s.Held steps
  · rw [kept_append_of_held before held, passed_append]
    rw [kept_of_held held] at h
    omega
  · rwa [kept_append_of_dropped before held]

theorem InTime.of_append (before : s.place < steps.length) (dropped : ¬s.Held steps)
    (h : s.InTime (steps ++ rest)) : s.InTime steps := by
  unfold InTime at h ⊢
  rwa [kept_append_of_dropped before dropped] at h

/-- With a single further step the deadline is reached only as long as the handle is kept. -/
theorem InTime.of_concat (before : s.place < steps.length) (h : s.InTime (steps ++ [step])) :
    s.InTime steps ∨ s.Held (steps ++ [step]) := by
  -- A step that frees the handle takes no time any more, so the deadline was reached before.
  by_cases held : s.Held steps
  · cases freed : step.frees s.key with
    | true =>
      left
      unfold InTime at h ⊢
      rw [kept_append_of_held before held, List.takeWhile_cons_of_neg (by simp [freed]),
        List.append_nil] at h
      rwa [kept_of_held held]
    | false =>
      right
      rw [held_append before]
      exact ⟨held, fun other mem => List.mem_singleton.mp mem ▸ freed⟩
  · exact Or.inl (h.of_append before held)

/-- A deadline that was reached in time is past. -/
theorem InTime.due_le (h : s.InTime steps) (made : s.MadeIn steps) : s.due ≤ passed steps := by
  -- The handle is kept for a part of the time since the send.
  have shorter : passed (s.kept steps) ≤ passed (s.later steps) := by
    obtain ⟨rest, split⟩ := List.takeWhile_prefix (l := s.later steps) fun step => !step.frees s.key
    calc passed (s.kept steps)
      _ ≤ passed (s.kept steps) + passed rest := Nat.le_add_right _ _
      _ = passed (s.later steps) := by
        rw [← passed_append]
        exact congrArg passed split
  have whole := made.passed_later
  unfold InTime at h
  unfold due
  omega

theorem inTime_of_held (made : s.MadeIn steps) (held : s.Held steps) (h : s.due ≤ passed steps) :
    s.InTime steps := by
  have whole := made.passed_later
  unfold InTime
  rw [kept_of_held held]
  unfold due at h
  omega

section
variable {other : DelayedStep μ}

/-- No send is made where another step stands. -/
theorem MadeIn.elsewhere (h : s.MadeIn (steps ++ step :: rest))
    (unsent : ∀ key value delay, step ≠ .send key value delay) : s.place ≠ steps.length := by
  intro here
  have made := h.step
  rw [here, List.getElem?_append_right le_rfl, Nat.sub_self] at made
  exact unsent _ _ _ (Option.some.inj made)

variable (spans : step.span = other.span) (elsewhere : s.place ≠ steps.length)
include spans elsewhere

/-- A send does not depend on which of two steps stands in another place if they take the same time. -/
theorem MadeIn.replaced (h : s.MadeIn (steps ++ step :: rest)) : s.MadeIn (steps ++ other :: rest) where
  step := by
    have same : (steps ++ other :: rest)[s.place]? = (steps ++ step :: rest)[s.place]? := by
      -- The two schedules differ in one place only, and the send stands before it or behind it.
      rcases Nat.lt_or_gt_of_ne elsewhere with before | behind
      · rw [List.getElem?_append_left before, List.getElem?_append_left before]
      · obtain ⟨n, hn⟩ : ∃ n, s.place - steps.length = n + 1 := ⟨s.place - steps.length - 1, by omega⟩
        rw [List.getElem?_append_right behind.le, List.getElem?_append_right behind.le, hn]
        rfl
    rw [same]
    exact h.step
  time := by
    have same : passed ((other :: rest).take (s.place - steps.length)) =
        passed ((step :: rest).take (s.place - steps.length)) := by
      cases s.place - steps.length with
      | zero => rfl
      | succ n =>
        show other.span + passed (rest.take n) = step.span + passed (rest.take n)
        rw [spans]
    rw [List.take_append, passed_append, same, ← passed_append, ← List.take_append]
    exact h.time

theorem InTime.replaced (spared : s.place < steps.length → s.Held steps →
    step.frees s.key = false ∧ other.frees s.key = false) (h : s.InTime (steps ++ step :: rest)) :
    s.InTime (steps ++ other :: rest) := by
  have taken (x : DelayedStep μ) (keeps : x.frees s.key = false) :
      passed ((x :: rest).takeWhile fun y => !y.frees s.key) =
        x.span + passed (rest.takeWhile fun y => !y.frees s.key) := by
    have kept : (!x.frees s.key) = true := by
      rw [keeps]
      rfl
    rw [List.takeWhile_cons, if_pos kept]
    rfl
  have same : passed (s.kept (steps ++ other :: rest)) = passed (s.kept (steps ++ step :: rest)) := by
    -- Behind the exchanged step nothing of the send depends on it.
    rcases Nat.lt_or_gt_of_ne elsewhere with before | behind
    · by_cases held : s.Held steps
      · obtain ⟨keeps, keeps'⟩ := spared before held
        rw [kept_append_of_held before held, kept_append_of_held before held, passed_append,
          passed_append, taken step keeps, taken other keeps', spans]
      · rw [kept_append_of_dropped before held, kept_append_of_dropped before held]
    · obtain ⟨n, hn⟩ : ∃ n, s.place + 1 - steps.length = n + 1 := ⟨s.place - steps.length, by omega⟩
      unfold kept later
      rw [List.drop_append, List.drop_append, hn]
      rfl
  unfold InTime at h ⊢
  rwa [same]

end

end Sending

end CallAudio

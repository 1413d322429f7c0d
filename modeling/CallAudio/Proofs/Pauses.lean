import CallAudio.Proofs.Along

/-! How a step ends, given what comes of its waits for the headset service. -/
namespace CallAudio

/-- One wait: whether the service is attached at its end, and what goes on outside until then. -/
structure Pause where
  attached : Bool
  meanwhile : List Outside

/-- The waits of a step, one after the other. -/
abbrev Pauses := Nat → Pause

namespace Pauses

def rest (pauses : Pauses) : Pauses := fun n => pauses (n + 1)

def cons (pause : Pause) (pauses : Pauses) : Pauses
  | 0 => pause
  | n + 1 => pauses n

/-- Only such things go on outside during the waits. -/
def Only (ok : Outside → Prop) (pauses : Pauses) : Prop := ∀ n, ∀ o ∈ (pauses n).meanwhile, ok o

variable {ok : Outside → Prop} {pauses : Pauses}

theorem Only.rest (h : pauses.Only ok) : pauses.rest.Only ok := fun n => h (n + 1)

theorem Only.cons (h : pauses.Only ok) {pause : Pause} (hp : ∀ o ∈ pause.meanwhile, ok o) :
    (Pauses.cons pause pauses).Only ok := by
  intro n
  cases n with
  | zero => exact hp
  | succ n => exact h n

end Pauses

/-- The end of a step, with the waits that it did not come to. -/
structure Ending (α : Type) where
  value : α
  phone : Phone
  pauses : Pauses

variable {α β : Type}

namespace Step

def finish : Step α → Pauses → Ending α
  | .done value p, pauses => ⟨value, p, pauses⟩
  | .wait p resume, pauses =>
    (resume (pauses 0).attached (p.outsides (pauses 0).meanwhile)).finish pauses.rest

theorem finish_bind (s : Step α) (next : α → Job β) (pauses : Pauses) :
    (s.bind next).finish pauses =
      (next (s.finish pauses).value (s.finish pauses).phone).finish (s.finish pauses).pauses := by
  induction s generalizing pauses with
  | done value p => rfl
  | wait p resume ih => exact ih _ _ _

/-- What is known along a step is known of its end. -/
theorem Along.finish {R : Phone → Phone → Prop} {p : Phone} {post : α → Phone → Prop} {s : Step α}
    (h : s.Along R p post) (pauses : Pauses) :
    R p (s.finish pauses).phone ∧ post (s.finish pauses).value (s.finish pauses).phone := by
  induction s generalizing pauses with
  | done value q => exact h
  | wait q resume ih => exact ih _ _ (h.2 _ _) _

end Step

namespace Job

variable (p : Phone) (pauses : Pauses)

theorem finish_bind (job : Job α) (next : α → Job β) :
    ((job >>= next) p).finish pauses =
      (next ((job p).finish pauses).value ((job p).finish pauses).phone).finish
        ((job p).finish pauses).pauses :=
  Step.finish_bind _ _ _

theorem finish_update_bind (f : Phone → Phone) (next : Unit → Job β) :
    ((Job.update f >>= next) p).finish pauses = (next () (f p)).finish pauses := rfl

theorem finish_change_bind (f : Phone → α × Phone) (next : α → Job β) :
    ((Job.change f >>= next) p).finish pauses = (next (f p).1 (f p).2).finish pauses := rfl

theorem finish_read_bind (next : Phone → Job β) :
    ((Job.read >>= next) p).finish pauses = (next p p).finish pauses := rfl

/-- Waiting for the headset service is over at once, or goes on for a pause. -/
theorem finish_awaitHeadset :
    (Job.awaitHeadset p).finish pauses = ⟨true, p, pauses⟩ ∨
      (Job.awaitHeadset p).finish pauses =
        ⟨(pauses 0).attached, p.outsides (pauses 0).meanwhile, pauses.rest⟩ := by
  unfold Job.awaitHeadset
  split
  · exact Or.inl rfl
  · exact Or.inr rfl

end Job
end CallAudio

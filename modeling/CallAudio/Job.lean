import CallAudio.Phone

/-! Work on the phone that may have to wait for the headset service. While it waits anything else
may happen to the phone; it goes on from the phone as it then is. -/
namespace CallAudio

/-- Work is done with a value, or waits; it is resumed with whether the service is attached. -/
inductive Step (α : Type) where
  | done (value : α) (phone : Phone)
  | wait (phone : Phone) (resume : Bool → Phone → Step α)

def Job (α : Type) : Type := Phone → Step α

namespace Step

variable {α β : Type}

def phone : Step α → Phone
  | done _ p => p
  | wait p _ => p

def bind (s : Step α) (next : α → Job β) : Step β :=
  match s with
  | done value p => next value p
  | wait p resume => .wait p fun attached q => (resume attached q).bind next

theorem bind_pure (s : Step α) : s.bind (fun value p => .done value p) = s := by
  induction s with
  | done => rfl
  | wait p resume ih => simp only [bind, ih]

theorem bind_assoc {γ : Type} (s : Step α) (f : α → Job β) (g : β → Job γ) :
    (s.bind f).bind g = s.bind fun value p => (f value p).bind g := by
  induction s with
  | done => rfl
  | wait p resume ih => simp only [bind, ih]

end Step

namespace Job

variable {α β : Type}

instance : Monad Job where
  pure value := fun p => .done value p
  bind job next := fun p => (job p).bind next

instance : LawfulMonad Job :=
  LawfulMonad.mk' Job (fun job => funext fun p => Step.bind_pure (job p)) (fun _ _ => rfl)
    (fun job _ _ => funext fun p => Step.bind_assoc (job p) _ _)

def read : Job Phone := fun p => .done p p

def update (f : Phone → Phone) : Job Unit := fun p => .done () (f p)

/-- Changes the phone and gives the answer that came with the change. -/
def change (f : Phone → α × Phone) : Job α := fun p => .done (f p).1 (f p).2

def when (condition : Bool) (job : Job Unit) : Job Unit := if condition then job else pure ()

/-- Whether the headset service is attached, waiting a bounded time for it. -/
def awaitHeadset : Job Bool := fun p =>
  if p.registry.bound.classicHeadset then .done true p
  else .wait p fun attached q => .done attached q

end Job
end CallAudio

import CallAudio.Job

/-! Work that is finished or waits for the headset service until some time. -/
namespace CallAudio

inductive Work (α : Type) where
  | finished (value : α)
  | waiting (deadline : Nat) (resume : Bool → Phone → Step α)

namespace Work

variable {α : Type}

/-- A step that waits does so for the configured time, counted from now. -/
def ofStep : Step α → Work α × Phone
  | .done value p => (.finished value, p)
  | .wait p resume => (.waiting (p.now + p.config.headsetBindTimeout.toNanos) resume, p)

/-- Goes on as soon as the service is attached, or without it once the time is up. -/
def resume? (w : Work α) (p : Phone) : Option (Work α × Phone) :=
  match w with
  | finished _ => none
  | waiting deadline resume =>
    if p.registry.bound.classicHeadset then some (ofStep (resume true p))
    else if deadline ≤ p.now then some (ofStep (resume false p))
    else none

def deadline? : Work α → Option Nat
  | finished _ => none
  | waiting deadline _ => some deadline

def value? : Work α → Option α
  | finished value => some value
  | waiting _ _ => none

end Work
end CallAudio

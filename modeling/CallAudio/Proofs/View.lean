import CallAudio.Bench.Scenario
import CallAudio.Proofs.Along
import CallAudio.Proofs.Forms
import Mathlib.Logic.Relation

/-! What listeners and messages can tell of the route thread: the view of a phone, and what each
operation does to it. -/
namespace CallAudio

structure RouteView where
  state : RouteState
  tracker : TransitionTracker
  inbox : List Message
  journal : List JournalEntry

namespace RouteView

def posted (v : RouteView) (message : Message) : RouteView :=
  { v with inbox := v.inbox ++ [message] }

def recorded (v : RouteView) (happening : Happening) : RouteView :=
  { v with journal := v.journal ++ [⟨happening, v.state⟩] }

def moved (v : RouteView) (state : RouteState) : RouteView := { v with state }

def reported (v : RouteView) : Option TransitionOutcome → RouteView
  | some (.resolved _ destination) => v.recorded (.announced (.routeActive destination))
  | some (.fallBackToBaseline exclude) => v.recorded (.announced (.switchToBaseline exclude))
  | none => v

/-- The tracker acts and what comes of it is announced. -/
def tracked (v : RouteView) (f : TransitionTracker → Option TransitionOutcome × TransitionTracker) :
    RouteView :=
  { v with tracker := (f v.tracker).2 }.reported (f v.tracker).1

section
variable (v : RouteView) (f : TransitionTracker → Option TransitionOutcome × TransitionTracker)

@[simp] theorem tracked_state : (v.tracked f).state = v.state := by
  unfold tracked reported
  split <;> rfl

@[simp] theorem tracked_tracker : (v.tracked f).tracker = (f v.tracker).2 := by
  unfold tracked reported
  split <;> rfl

@[simp] theorem tracked_inbox : (v.tracked f).inbox = v.inbox := by
  unfold tracked reported
  split <;> rfl

theorem tracked_journal : (v.tracked f).journal = v.journal ∨
    ∃ event, (v.tracked f).journal = v.journal ++ [⟨.announced event, v.state⟩] := by
  unfold tracked reported
  split
  · exact Or.inr ⟨_, rfl⟩
  · exact Or.inr ⟨_, rfl⟩
  · exact Or.inl rfl

end

/-- What two actions of the tracker have in common shows in the view. -/
theorem tracked_eq {v : RouteView} {t : TransitionTracker}
    {f g : TransitionTracker → Option TransitionOutcome × TransitionTracker}
    (h : f v.tracker = g t) : v.tracked f = { v with tracker := t }.tracked g := by
  unfold tracked
  rw [h]

theorem tracked_of_unchanged {v : RouteView}
    {f : TransitionTracker → Option TransitionOutcome × TransitionTracker}
    (h : f v.tracker = (none, v.tracker)) : v.tracked f = v := by
  unfold tracked
  rw [h]
  rfl

def begun (v : RouteView) (origin destination : AudioRoute) (destinationActive : Bool) : RouteView :=
  let (id, actions, tracker) := v.tracker.begin origin destination destinationActive
  { v with tracker }.recorded (.begun id actions)

end RouteView

namespace Phone

def view (p : Phone) : RouteView := ⟨p.machine.state, p.tracker, p.inbox, p.journal⟩

section
variable (p : Phone)

theorem view_post (message : Message) :
    (p.post message).view = if p.closed then p.view else p.view.posted message := by
  unfold post
  split <;> rfl

@[simp] theorem view_tell (event : RouteEvent) :
    (p.tell event).view = p.view.recorded (.told event) := rfl

@[simp] theorem view_note (entry : HistoryEntry) : (p.note entry).view = p.view := rfl

@[simp] theorem view_answer (ticket : Ticket) (value : Answer) :
    (p.answer ticket value).view = p.view := rfl

@[simp] theorem view_cancel (timer : Option Nat) : (p.cancel timer).view = p.view := by
  cases timer <;> rfl

@[simp] theorem view_dropRetry : p.dropRetry.view = p.view := p.view_cancel p.machine.retry

@[simp] theorem view_dropConnectionTimer : p.dropConnectionTimer.view = p.view :=
  p.view_cancel p.machine.connectionTimer

@[simp] theorem view_dropDeadline : p.dropDeadline.view = p.view := p.view_cancel p.deadline

@[simp] theorem view_scheduleRetry (target : Address) (attempt : Nat) :
    (p.scheduleRetry target attempt).view = p.view :=
  (p.postAfter (p.config.backoff attempt) (.retryConnect target attempt)).view_cancel _

@[simp] theorem view_startDeadline (id : TransitionId) : (p.startDeadline id).view = p.view :=
  (p.postAfter p.config.transitionTimeout (.transitionTimeout id)).view_cancel _

@[simp] theorem view_addDevice (device : Device) (profile : Profile) :
    (p.addDevice device profile).2.view = p.view := rfl

@[simp] theorem view_removeDevice (address : Address) (profile : Profile) :
    (p.removeDevice address profile).2.view = p.view := rfl

@[simp] theorem view_setActiveDevice (profile : Profile) (address : Option Address) :
    (p.setActiveDevice profile address).2.view = p.view := rfl

@[simp] theorem view_clearCommunicationDevice : p.clearCommunicationDevice.view = p.view := rfl

@[simp] theorem view_makeCommunicationDevice (address : Address) :
    (p.makeCommunicationDevice address).2.view = p.view := by
  obtain ⟨platform, communication, h⟩ := p.makeCommunicationDevice_eq address
  rw [h]
  rfl

@[simp] theorem view_activate (address : Address) (use : ActiveUse) :
    (p.activate address use).2.view = p.view := rfl

@[simp] theorem view_connectSco : p.connectSco.2.view = p.view := rfl

@[simp] theorem view_report (outcome : Option TransitionOutcome) :
    (p.report outcome).view = p.view.reported outcome := by
  rcases outcome with _ | outcome
  · rfl
  · cases outcome <;> rfl

@[simp] theorem view_track
    (f : TransitionTracker → Option TransitionOutcome × TransitionTracker) :
    (p.track f).view = p.view.tracked f :=
  view_report { p with tracker := (f p.tracker).2 } (f p.tracker).1

end
end Phone
end CallAudio

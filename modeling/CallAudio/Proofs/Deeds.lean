import CallAudio.Proofs.Queue
import CallAudio.Proofs.Touches
import CallAudio.Proofs.Turns
import CallAudio.Proofs.Undisturbed

/-! The deeds of the route thread: all it ever does to the phone while it handles a message, each at
once. What every deed keeps, and everything that goes on outside, a handled message keeps. -/
namespace CallAudio

/-- One deed in the handling of a message. The note that the message is handled comes before all
deeds. -/
inductive Deed (m : Message) (p : Phone) : Phone → Prop
  | recorded (happening : Happening) (h : happening.message? = none) :
      Deed m p (p.record happening)
  | noted (entry : HistoryEntry) : Deed m p (p.note entry)
  | answered (ticket : Ticket) (value : Answer) : Deed m p (p.answer ticket value)
  | posted (message : Message) (h : message.isReport = true) : Deed m p (p.post message)
  | serviced (platform : Platform) (communication : Option (Address × EndpointKind)) :
      Deed m p { p with platform, registry := { p.registry with communication } }
  | added (device : Device) (profile : Profile) (h : m = .deviceAdded device profile) :
      Deed m p (p.addDevice device profile).2
  | removed (address : Address) (profile : Profile) (h : m = .deviceLost address profile) :
      Deed m p (p.removeDevice address profile).2
  | activated (profile : Profile) (address : Option Address)
      (h : m = .activeDeviceChanged profile address) :
      Deed m p (p.setActiveDevice profile address).2
  | unused (address : Address) : Deed m p { p with machine := p.machine.unuse address }
  | moved (target : RouteState) : Deed m p (p.moveTo target)
  | retryDropped : Deed m p p.dropRetry
  | retryScheduled (target : Address) (attempt : Nat) : Deed m p (p.scheduleRetry target attempt)
  | begun (origin destination : AudioRoute) (destinationActive : Bool) (ticket : Ticket)
      (h : m = .beginTransition origin destination destinationActive ticket) :
      Deed m p ((p.begun origin destination destinationActive).startDeadline p.tracker.nextId)
  | tracked (f : TransitionTracker → Option TransitionOutcome × TransitionTracker)
      (step : TrackerStep) (hs : step.isBegin = false)
      (hf : ∀ t, TrackerStep.Effect t step (f t).1 (f t).2) : Deed m p (p.track f)
  | abandoned (exclude : Option Address) (h : m = .switchToBaseline exclude) :
      Deed m p ({ p with tracker := p.tracker.abandon.2 }.announce (.switchToBaseline exclude))
  | deadlineDropped (h : p.tracker.pending = none) : Deed m p p.dropDeadline

/-- A deed of the thread, or something that goes on outside while the thread waits. -/
inductive Advance (ok : Outside → Prop) (m : Message) (p : Phone) : Phone → Prop
  | deed {q : Phone} (h : Deed m p q) : Advance ok m p q
  | outside (o : Outside) (h : ok o) : Advance ok m p (p.outside o)

/-- The course of handling a message: deeds, and what goes on outside in between. -/
def Course (ok : Outside → Prop) (m : Message) : Phone → Phone → Prop :=
  Relation.ReflTransGen (Advance ok m)

variable {α β : Type} {ok : Outside → Prop} {m : Message} {p q r : Phone}

namespace Course

theorem refl : Course ok m p p := Relation.ReflTransGen.refl

theorem trans (h : Course ok m p q) (h' : Course ok m q r) : Course ok m p r :=
  Relation.ReflTransGen.trans h h'

theorem deed (h : Deed m p q) : Course ok m p q := Relation.ReflTransGen.single (.deed h)

theorem outsides (p : Phone) {os : List Outside} (h : ∀ o ∈ os, ok o) :
    Course ok m p (p.outsides os) := by
  induction os generalizing p with
  | nil => exact refl
  | cons o rest ih =>
    have first : Course ok m p (p.outside o) :=
      Relation.ReflTransGen.single (.outside o (h o List.mem_cons_self))
    exact first.trans (ih _ fun x hx => h x (List.mem_cons_of_mem o hx))

/-- What each deed keeps, and what goes on outside, the whole course keeps. -/
theorem keeps {P : Phone → Prop} (h : Course ok m p q) (hd : ∀ p q, Deed m p q → P p → P q)
    (ho : ∀ p o, ok o → P p → P (p.outside o)) (hp : P p) : P q := by
  induction h with
  | refl => exact hp
  | tail _ step ih =>
    cases step with
    | deed h => exact hd _ _ h ih
    | outside o h => exact ho _ o h ih

end Course

/-- The step takes the course of a message from `p`; where it waits, it goes on from wherever things
outside have led by then. -/
def Step.Takes (ok : Outside → Prop) (m : Message) (p : Phone) : Step α → Prop
  | .done _ q => Course ok m p q
  | .wait q resume => Course ok m p q ∧ ∀ attached os, (∀ o ∈ os, ok o) →
      (resume attached (q.outsides os)).Takes ok m (q.outsides os)

namespace Step

variable {s : Step α}

/-- The whole course of a step, given how its waits end. -/
theorem Takes.finish (h : s.Takes ok m p) {pauses : Pauses} (hp : pauses.Only ok) :
    Course ok m p (s.finish pauses).phone := by
  induction s generalizing p pauses with
  | done value q => exact h
  | wait q resume ih =>
    have waited : Course ok m p (q.outsides (pauses 0).meanwhile) := h.1.trans (.outsides q (hp 0))
    exact waited.trans (ih _ _ (h.2 _ _ (hp 0)) hp.rest)

end Step

namespace Phone

theorem makeCommunicationDevice_course (p : Phone) (address : Address) :
    Course ok m p (p.makeCommunicationDevice address).2 := by
  obtain ⟨platform, communication, h⟩ := p.makeCommunicationDevice_eq address
  rw [h]
  exact .deed (.serviced platform communication)

theorem platform_course (p : Phone) (platform : Platform) : Course ok m p { p with platform } :=
  .deed (.serviced platform p.registry.communication)

theorem releaseCommunicationDevice_course (p : Phone) :
    Course ok m p p.releaseCommunicationDevice := by
  obtain ⟨platform, h | ⟨address, h⟩⟩ := p.releaseCommunicationDevice_eq
  · rw [h]
    exact .deed (.serviced platform none)
  · rw [h]
    exact (Course.deed (.serviced platform none)).trans (.deed (.posted _ rfl))

theorem onRejected_course (p : Phone) (target : Address) (attempt : Nat) (failure : ConnectFailure) :
    Course ok m p (p.onRejected target attempt failure) := by
  have noted : Course ok m p (p.note (.connectFailed target attempt failure)) := .deed (.noted _)
  unfold onRejected
  dsimp only
  split
  · exact noted.trans (.deed (.retryScheduled target (attempt + 1)))
  · exact (noted.trans (.deed .retryDropped)).trans (.deed (.posted _ rfl))

theorem onDeviceAdded_course (p : Phone) (device : Device) (profile : Profile)
    (h : m = .deviceAdded device profile) : Course ok m p (p.onDeviceAdded device profile) := by
  have added : Course ok m p (p.addDevice device profile).2 := .deed (.added device profile h)
  rcases p.onDeviceAdded_eq device profile with h | h
  · rwa [h]
  · rw [h]
    exact added.trans (.deed (.recorded _ rfl))

theorem onActiveDeviceChanged_course (p : Phone) (profile : Profile) (address : Option Address)
    (h : m = .activeDeviceChanged profile address) :
    Course ok m p (p.onActiveDeviceChanged profile address) := by
  have activated : Course ok m p (p.setActiveDevice profile address).2 :=
    .deed (.activated profile address h)
  rcases p.onActiveDeviceChanged_eq profile address with h | h | h
  · rwa [h]
  · rw [h]
    exact activated.trans (.deed (.recorded _ rfl))
  · rw [h]
    exact activated.trans (.deed (.recorded _ rfl))

theorem setCommunicationKind_course (p : Phone) (kind : EndpointKind) :
    Course ok m p (p.setCommunicationKind kind) := by
  have failed (q : Phone) : Course ok m q (q.track (·.fail none)) :=
    .deed (.tracked _ (.fail none) rfl fun t => TrackerStep.effect t (.fail none))
  obtain ⟨platform, h | h⟩ := p.setCommunicationKind_eq kind
  · rw [h]
    exact p.platform_course platform
  · rw [h]
    exact (p.platform_course platform).trans (failed _)

end Phone

/-- A touch in the handling of a message is a few deeds. -/
theorem Touch.course (h : Touch m.concerns p q) : Course ok m p q := by
  -- What only single messages bring about tells the message.
  have of_arrival {device profile} (h : .arrival device profile ∈ m.concerns) :
      m = .deviceAdded device profile := by
    cases m <;> simp at h
    simp [h]
  have of_loss {address profile} (h : .loss address profile ∈ m.concerns) :
      m = .deviceLost address profile := by
    cases m <;> simp at h
    simp [h]
  have of_activity {profile address} (h : .activity profile address ∈ m.concerns) :
      m = .activeDeviceChanged profile address := by
    cases m <;> simp at h
    simp [h]
  have of_baseline {exclude} (h : .baseline exclude ∈ m.concerns) : m = .switchToBaseline exclude := by
    cases m <;> simp at h
    simp [h]
  have of_start {origin destination destinationActive}
      (h : .start origin destination destinationActive ∈ m.concerns) :
      ∃ ticket, m = .beginTransition origin destination destinationActive ticket := by
    cases m <;> simp at h
    simp [h]
  cases h with
  | recorded happening plain =>
    refine .deed (.recorded happening ?_)
    cases happening <;> first | rfl | cases plain
  | noted entry => exact .deed (.noted entry)
  | answered ticket value => exact .deed (.answered ticket value)
  | posted message report => exact .deed (.posted message report)
  | requested address => exact .deed (.recorded _ rfl)
  | asked adapter headset => exact p.platform_course _
  | made address => exact p.makeCommunicationDevice_course address
  | released => exact p.releaseCommunicationDevice_course
  | retryDropped => exact .deed .retryDropped
  | rejected target attempt failure => exact p.onRejected_course target attempt failure
  | moved target => exact .deed (.moved target)
  | chosen kind => exact p.setCommunicationKind_course kind
  | cleared => exact p.platform_course _
  | added device profile h => exact p.onDeviceAdded_course device profile (of_arrival h)
  | removed address profile h => exact .deed (.removed address profile (of_loss h))
  | unused address => exact .deed (.unused address)
  | activated profile address h =>
    exact p.onActiveDeviceChanged_course profile address (of_activity h)
  | begun origin destination destinationActive h =>
    obtain ⟨ticket, h⟩ := of_start h
    exact .deed (.begun origin destination destinationActive ticket h)
  | tracked f step hs hf => exact .deed (.tracked f step hs hf)
  | abandoned exclude h => exact .deed (.abandoned exclude (of_baseline h))
  | deadlineDropped none => exact .deed (.deadlineDropped none)

theorem Touches.course (h : Touches m.concerns p q) : Course ok m p q := by
  induction h with
  | refl => exact .refl
  | tail _ touch ih => exact ih.trans touch.course

/-- What each deed keeps, all touches in the handling of a message keep. -/
theorem Touches.keeps_deeds {P : Phone → Prop} (h : Touches m.concerns p q)
    (hd : ∀ p q, Deed m p q → P p → P q) (hp : P p) : P q := by
  have course : Course (fun _ => False) m p q := h.course
  exact course.keeps hd (fun _ _ none => none.elim) hp

theorem Step.Does.takes {s : Step α} (h : s.Does m.concerns p) : s.Takes ok m p := by
  induction s generalizing p with
  | done value q => exact Touches.course h
  | wait q resume ih =>
    refine ⟨Touches.course h.1, fun attached os _ => ?_⟩
    exact ih attached _ (h.2 attached _)

namespace Phone

theorem clearStaleDeadline_course (p : Phone) : Course ok m p p.clearStaleDeadline :=
  p.clearStaleDeadline_touches.course

theorem handled_eq (p : Phone) (message : Message) (pauses : Pauses) : p.handled message pauses =
    ((act message (p.record (.handled message))).finish pauses).phone.accounted message
      p.machine.state := by
  unfold handled
  rw [handle_eq, Step.finish_bind]
  rfl

/-- A message takes its course once it is noted. -/
theorem handle_takes (p : Phone) (message : Message) :
    (handle message p).Takes ok message (p.record (.handled message)) :=
  (p.handle_does message).takes

theorem handled_course (p : Phone) (message : Message) {pauses : Pauses} (hp : pauses.Only ok) :
    Course ok message (p.record (.handled message)) (p.handled message pauses) :=
  (p.handle_takes message).finish hp

end Phone
end CallAudio

import CallAudio.Proofs.Along
import CallAudio.Proofs.Forms

/-! What goes on around the route thread. It changes things beside the thread and posts messages, or a
timer fires. -/
namespace CallAudio

/-- Devices come and go by messages only. -/
def Outside.SparesDevices : Outside → Prop
  | .registry (.connect _ _) | .registry (.disconnect _ _) => False
  | _ => True

/-- All that can come of something outside. The messages of timers are posted by hand, or by a timer that
fires. -/
inductive Intrusion (o : Outside) (p : Phone) : Phone → Prop
  | around (platform : Platform) (registry : Registry) (dispatcher : Dispatcher) (now : Nat)
      (messages : List Message) (h : o.SparesDevices → registry.devices = p.registry.devices)
      (hm : ∀ message ∈ messages, o = .post message ∨ message.slot? = none) :
      Intrusion o p (({ p with platform, registry, dispatcher, now } : Phone).postAll messages)
  | fired (t : Timer Message) (ho : o = .fire t.id) (h : t ∈ p.timers.armed) :
      Intrusion o p (({ p with timers := p.timers.cancel t.id } : Phone).post t.value)

/-- The platform never posts what timers post. -/
theorem PlatformEvent.slot?_of_mem_messages {event : PlatformEvent} {inCall : Bool} {message : Message}
    (h : message ∈ event.messages inCall) : message.slot? = none := by
  unfold messages at h
  split at h <;> grind [Message.slot?]

namespace Phone

theorem postAll_eq (p : Phone) (messages : List Message) : p.postAll messages =
    { p with inbox := if p.closed then p.inbox else p.inbox ++ messages } := by
  induction messages generalizing p with
  | nil =>
    rw [List.append_nil, ite_self]
    rfl
  | cons message rest ih =>
    change (p.post message).postAll rest = _
    rw [ih, post_eq]
    cases p.closed
    · rw [if_neg Bool.false_ne_true, if_neg Bool.false_ne_true, List.append_assoc]
      rfl
    · rfl

theorem outside_intrusion (p : Phone) (o : Outside) : Intrusion o p (p.outside o) := by
  have silent (message : Message) (h : message ∈ ([] : List Message)) :
      o = .post message ∨ message.slot? = none := nomatch h
  have posted (messages : List Message)
      (hm : ∀ message ∈ messages, o = .post message ∨ message.slot? = none) :
      Intrusion o p (p.postAll messages) :=
    .around p.platform p.registry p.dispatcher p.now messages (fun _ => rfl) hm
  have registered (registry : Registry) (h : registry.devices = p.registry.devices) :
      Intrusion o p { p with registry } :=
    .around p.platform registry p.dispatcher p.now [] (fun _ => h) silent
  have event (event : Option PlatformEvent) : Intrusion o p (Bench.onEvent event p).2 := by
    cases event with
    | none => exact posted [] silent
    | some event => exact posted _ fun message mem => Or.inr (event.slot?_of_mem_messages mem)
  cases o with
  | post message => exact posted [message] fun m mem => Or.inl (List.mem_singleton.mp mem ▸ rfl)
  | event act =>
    cases act with
    | serviceAttached profile => exact registered _ rfl
    | serviceLost profile =>
      refine .around p.platform _ p.dispatcher p.now _ (fun _ => rfl) fun message mem => ?_
      obtain ⟨address, -, rfl⟩ := List.mem_map.mp mem
      exact Or.inr rfl
    | setInCall inCall =>
      exact .around p.platform p.registry { p.dispatcher with inCall } p.now [] (fun _ => rfl) silent
    | event | rawConnection | rawSco => exact event _
    | communicationDeviceChanged device =>
      refine .around p.platform p.registry _ p.now _ (fun _ => rfl) fun message mem => ?_
      obtain ⟨confirmation, -, rfl⟩ := List.mem_map.mp mem
      exact Or.inr rfl
  | registry act =>
    cases act with
    | connect | disconnect => exact .around p.platform _ p.dispatcher p.now [] (fun h => h.elim) silent
    | attach | detach | setActive => exact registered _ rfl
    | makeCommunicationDevice address =>
      obtain ⟨platform, communication, h⟩ := p.makeCommunicationDevice_eq address
      change Intrusion _ p (p.makeCommunicationDevice address).2
      rw [h]
      exact .around platform _ p.dispatcher p.now [] (fun _ => rfl) silent
    | _ => exact posted [] silent
  | communication device => exact registered _ rfl
  | platform platform => exact .around platform p.registry p.dispatcher p.now [] (fun _ => rfl) silent
  | fire timer =>
    change Intrusion _ p (p.fireTimer timer)
    unfold fireTimer
    cases hf : p.timers.armed.find? fun t => t.id = timer with
    | none => exact posted [] silent
    | some t =>
      dsimp only
      split
      · have same := List.find?_some hf
        obtain rfl : t.id = timer := of_decide_eq_true same
        exact .fired t rfl (List.mem_of_find?_eq_some hf)
      · exact posted [] silent
  | pass span => exact .around p.platform p.registry p.dispatcher (p.now + span) [] (fun _ => rfl) silent

end Phone
end CallAudio

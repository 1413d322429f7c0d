import CallAudio.Proofs.Alarms
import CallAudio.Proofs.MachineStrides
import CallAudio.Proofs.Undisturbed

/-! The moves of the machine from one state to another, and what they have no part in. -/
namespace CallAudio
namespace Phone

variable (p : Phone)

theorem departed_eq (target : RouteState) : p.departed target = { p with
    timers := (p.timers.release p.machine.retry).release p.machine.connectionTimer
    machine := { p.machine with
      state := target
      retry := none
      connectionTimer := none
      history := p.machine.history.push (.moved p.machine.state target) } } := by
  unfold departed dropConnectionTimer
  rw [dropRetry_eq, cancel_eq]
  rfl

/-- What the machine and its timers have no part in is the same, apart from posts and the choice of
the communication device. -/
structure Aside (p q : Phone) : Prop where
  inbox : p.inbox <+: q.inbox
  closed : q.closed = p.closed
  tracker : q.tracker = p.tracker
  registry : ∃ communication, q.registry = { p.registry with communication }

variable {p} in
theorem Aside.trans {q r : Phone} (h : Aside p q) (h' : Aside q r) : Aside p r where
  inbox := h.inbox.trans h'.inbox
  closed := h'.closed.trans h.closed
  tracker := h'.tracker.trans h.tracker
  registry := by
    obtain ⟨c, hc⟩ := h.registry
    obtain ⟨c', hc'⟩ := h'.registry
    exact ⟨c', by rw [hc', hc]⟩

theorem aside_post (message : Message) : Aside p (p.post message) := by
  unfold post
  split
  · exact ⟨List.prefix_rfl, rfl, rfl, _, rfl⟩
  · exact ⟨List.prefix_append _ _, rfl, rfl, _, rfl⟩

theorem aside_makeCommunicationDevice (address : Address) :
    Aside p (p.makeCommunicationDevice address).2 := by
  obtain ⟨platform, communication, h⟩ := p.makeCommunicationDevice_eq address
  rw [h]
  exact ⟨List.prefix_rfl, rfl, rfl, communication, rfl⟩

/-- The machine arrives at a device that carries audio; the device is made the communication device
after that. -/
def arrived (address : Address) (p : Phone) : Phone :=
  let q := p.departed (.connected address)
  { q with machine := q.machine.use address }.tell (.audioConnected address)

/-- Makes a device the communication device; a refusal is posted. -/
def claim (address : Address) (p : Phone) : Phone :=
  let (accepted, q) := p.makeCommunicationDevice address
  if accepted then q else q.post (.transitionFailed (some address))

/-- The ways a move to another state can go. -/
theorem moveTo_eq {target : RouteState} (h : target ≠ p.machine.state) :
    p.moveTo target = match target with
      | .audioOff => (p.departed .audioOff).tell .audioDisconnected
      | .connecting address => (p.departed (.connecting address)).startConnectionTimer address
      | .connected address => (p.arrived address).claim address := by
  unfold moveTo
  dsimp only
  rw [if_neg h]
  cases target <;> rfl

theorem moveTo_same {target : RouteState} (h : target = p.machine.state) : p.moveTo target = p := by
  unfold moveTo
  exact if_pos h

theorem claim_eq (address : Address) :
    let made := (p.makeCommunicationDevice address).2
    p.claim address = made ∨ p.claim address = made.post (.transitionFailed (some address)) := by
  unfold claim
  dsimp only
  split
  · exact Or.inl rfl
  · exact Or.inr rfl

theorem claim_undisturbed (address : Address) : Undisturbed p (p.claim address) := by
  have made := p.makeCommunicationDevice_undisturbed address
  rcases p.claim_eq address with h | h
  · rwa [h]
  · rw [h]
    exact made.trans (.post _ _)

theorem aside_claim (address : Address) : Aside p (p.claim address) := by
  have made := p.aside_makeCommunicationDevice address
  rcases p.claim_eq address with h | h
  · rwa [h]
  · rw [h]
    exact made.trans (aside_post _ _)

theorem aside_moveTo (target : RouteState) : Aside p (p.moveTo target) := by
  have departed : Aside p (p.departed target) := by
    rw [departed_eq]
    exact ⟨List.prefix_rfl, rfl, rfl, _, rfl⟩
  by_cases h : target = p.machine.state
  · rw [moveTo_same p h]
    exact ⟨List.prefix_rfl, rfl, rfl, _, rfl⟩
  · rw [moveTo_eq p h]
    cases target with
    | audioOff | connecting => exact departed.trans ⟨List.prefix_rfl, rfl, rfl, _, rfl⟩
    | connected address =>
      have arrived : Aside p (p.arrived address) :=
        departed.trans ⟨List.prefix_rfl, rfl, rfl, _, rfl⟩
      exact arrived.trans (aside_claim _ address)

end Phone
end CallAudio

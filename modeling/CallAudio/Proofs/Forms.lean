import CallAudio.Phone.Coordinator
import CallAudio.Proofs.Alarms

/-! The forms of the operations: what each leaves of the phone. Whatever else is proved of an operation
follows from its form. -/
namespace CallAudio

namespace Registry

variable (r : Registry)

/-- A device that connects is not active by that, and is not the communication device. -/
theorem connect_eq (membership : SetMembership) (device : Device) (profile : Profile) :
    ∃ devices groups pairs, (r.connect membership device profile).2 =
      { r with devices, groups, pairs } := by
  unfold connect
  dsimp only
  split
  · exact ⟨r.devices, r.groups, r.pairs, rfl⟩
  split
  · exact ⟨r.devices, r.groups, r.pairs, rfl⟩
  split
  · exact ⟨r.devices, r.groups, r.pairs, rfl⟩
  · exact ⟨_, _, _, rfl⟩

/-- What is active, or is the communication device, once a device has disconnected was so before. -/
theorem disconnect_eq (address : Address) (profile : Profile) :
    ∃ devices active groups pairs communication,
      (r.disconnect address profile).2 = { r with devices, active, groups, pairs, communication } ∧
        (∀ profile' a, active.get profile' = some a → r.active.get profile' = some a) ∧
        ∀ c, communication = some c → r.communication = some c := by
  let active := if r.active.get profile = some address then r.active.set profile none else r.active
  have was (profile' : Profile) (a : Address) (h : active.get profile' = some a) :
      r.active.get profile' = some a := by
    simp only [active] at h
    split at h
    · rw [PerProfile.get_set] at h
      split at h
      · cases h
      · exact h
    · exact h
  by_cases held : r.holds profile address
  · let others := (r.devices.get profile).filter fun d => d.address ≠ address
    let left : Registry := { r with devices := r.devices.set profile others, active }
    have taken : (r.disconnect address profile).2 =
        if left.isConnected address then left else left.forget address := by
      unfold disconnect
      rw [if_pos held]
    rw [taken]
    split
    · exact ⟨_, active, _, _, _, rfl, was, fun _ => id⟩
    · exact ⟨_, active, _, _, _, rfl, was, fun c hc => (Option.filter_eq_some_iff.mp hc).1⟩
  · have same : (r.disconnect address profile).2 = r := by
      unfold disconnect
      rw [if_neg held]
    rw [same]
    exact ⟨_, _, _, _, _, rfl, fun _ _ => id, fun _ => id⟩

end Registry

namespace Phone

variable (p : Phone)

theorem post_eq (message : Message) :
    p.post message = { p with inbox := if p.closed then p.inbox else p.inbox ++ [message] } := by
  unfold post
  split <;> rfl

theorem cancel_eq (held : Option Nat) : p.cancel held = { p with timers := p.timers.release held } := by
  cases held <;> rfl

theorem dropRetry_eq : p.dropRetry = { p with
    timers := p.timers.release p.machine.retry
    machine := { p.machine with retry := none } } := by
  unfold dropRetry
  rw [cancel_eq]

theorem dropDeadline_eq : p.dropDeadline = { p with
    timers := p.timers.release p.deadline
    deadline := none } := by
  unfold dropDeadline
  rw [cancel_eq]

theorem scheduleRetry_eq (target : Address) (attempt : Nat) : p.scheduleRetry target attempt = { p with
    timers := (p.timers.arm (p.now + (p.config.backoff attempt).toNanos)
      (.retryConnect target attempt)).release p.machine.retry
    machine := { p.machine with retry := some p.timers.nextId } } := by
  unfold scheduleRetry
  dsimp only
  rw [cancel_eq]
  rfl

theorem startDeadline_eq (id : TransitionId) : p.startDeadline id = { p with
    timers := (p.timers.arm (p.now + p.config.transitionTimeout.toNanos)
      (.transitionTimeout id)).release p.deadline
    deadline := some p.timers.nextId } := by
  unfold startDeadline
  dsimp only
  rw [cancel_eq]
  rfl

/-- The tracker acts, and an outcome is announced. -/
theorem track_eq (f : TransitionTracker → Option TransitionOutcome × TransitionTracker) :
    p.track f = { p with tracker := (f p.tracker).2 } ∨
      ∃ event, p.track f = ({ p with tracker := (f p.tracker).2 } : Phone).announce event := by
  unfold track report
  dsimp only
  split
  · exact Or.inr ⟨_, rfl⟩
  · exact Or.inr ⟨_, rfl⟩
  · exact Or.inl rfl

theorem makeCommunicationDevice_eq (address : Address) :
    ∃ platform communication, (p.makeCommunicationDevice address).2 =
      { p with platform, registry := { p.registry with communication } } := by
  unfold makeCommunicationDevice
  split
  · exact ⟨p.platform, p.registry.communication, rfl⟩
  dsimp only
  split
  · exact ⟨p.platform, p.registry.communication, rfl⟩
  split
  · exact ⟨p.platform, p.registry.communication, rfl⟩
  split
  · exact ⟨_, _, rfl⟩
  · exact ⟨_, p.registry.communication, rfl⟩

/-- No communication device is stored any more; the loss may be posted. -/
theorem releaseCommunicationDevice_eq : ∃ platform,
    let released : Phone := { p with platform, registry := { p.registry with communication := none } }
    p.releaseCommunicationDevice = released ∨
      ∃ address, p.releaseCommunicationDevice = released.post (.audioLost (some address)) := by
  unfold releaseCommunicationDevice
  split
  · rename_i none
    refine ⟨p.platform, Or.inl ?_⟩
    rw [← none]
  dsimp only
  split
  · exact ⟨_, Or.inl rfl⟩
  · exact ⟨_, Or.inr ⟨_, rfl⟩⟩

/-- The audio service is asked, and a refusal fails the transition. -/
theorem setCommunicationKind_eq (kind : EndpointKind) : ∃ platform,
    p.setCommunicationKind kind = { p with platform } ∨
      p.setCommunicationKind kind = ({ p with platform } : Phone).track (·.fail none) := by
  unfold setCommunicationKind
  split
  rename_i accepted asked h
  obtain ⟨platform, rfl⟩ : ∃ platform, asked = { p with platform } := by
    split at h <;> exact ⟨_, (Prod.mk.inj h).2.symm⟩
  refine ⟨platform, ?_⟩
  split
  · exact Or.inl rfl
  · exact Or.inr rfl

theorem onDeviceAdded_eq (device : Device) (profile : Profile) :
    p.onDeviceAdded device profile = (p.addDevice device profile).2 ∨
      p.onDeviceAdded device profile = (p.addDevice device profile).2.tell .deviceListChanged := by
  unfold onDeviceAdded
  dsimp only
  split
  · exact Or.inr rfl
  · exact Or.inl rfl

theorem onActiveDeviceChanged_eq (profile : Profile) (address : Option Address) :
    let changed := (p.setActiveDevice profile address).2
    p.onActiveDeviceChanged profile address = changed ∨
      p.onActiveDeviceChanged profile address = changed.tell .activeDevicePresent ∨
      p.onActiveDeviceChanged profile address = changed.tell .activeDeviceGone := by
  unfold onActiveDeviceChanged
  dsimp only
  split
  · exact Or.inr (Or.inl rfl)
  · exact Or.inr (Or.inr rfl)
  · exact Or.inl rfl

/-- But for the retry and the history nothing of the machine changes, and nobody is told. -/
theorem onRejected_same (target : Address) (attempt : Nat) (failure : ConnectFailure) :
    let rejected := p.onRejected target attempt failure
    rejected.machine = { p.machine with
      retry := rejected.machine.retry
      history := rejected.machine.history } ∧ rejected.journal = p.journal := by
  unfold onRejected
  dsimp only
  split
  · rw [scheduleRetry_eq]
    exact ⟨rfl, rfl⟩
  · rw [post_eq, dropRetry_eq]
    exact ⟨rfl, rfl⟩

end Phone
end CallAudio

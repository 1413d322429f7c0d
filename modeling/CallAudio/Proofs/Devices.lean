import CallAudio.Proofs.Deeds
import CallAudio.Proofs.Moves
import CallAudio.Proofs.Services

/-! The devices of the registry: where they come from, and that nothing but the loss of a device over a
profile takes it away from there. -/
namespace CallAudio

namespace Registry

variable {r r' : Registry} {profile profile' : Profile} {address address' : Address}

theorem isConnected_iff : r.isConnected address ↔ ∃ profile, r.holds profile address := by
  have listed (profile : Profile) : profile ∈ connectPriority := by cases profile <;> decide
  unfold isConnected profileOf
  rw [List.find?_isSome]
  exact ⟨fun ⟨profile, _, held⟩ => ⟨profile, held⟩, fun ⟨profile, held⟩ => ⟨profile, listed profile, held⟩⟩

theorem holds_iff : r.holds profile address ↔
    ∃ d ∈ r.devices.get profile, d.address = address := by
  unfold holds
  simp only [List.any_eq_true, decide_eq_true_eq]

theorem holds_of_devices (h : r'.devices = r.devices) :
    r'.holds profile address = r.holds profile address := by
  unfold holds
  rw [h]

theorem isConnected_of_holds
    (h : ∀ profile, r.holds profile address → r'.holds profile address)
    (hc : r.isConnected address) : r'.isConnected address := by
  obtain ⟨profile, held⟩ := isConnected_iff.mp hc
  exact isConnected_iff.mpr ⟨profile, h profile held⟩

theorem devices_eq_nil_iff : r.devices.get profile = [] ↔ ∀ address, ¬r.holds profile address := by
  simp only [holds_iff, List.eq_nil_iff_forall_not_mem]
  exact ⟨fun h _ ⟨d, mem, _⟩ => h d mem, fun h d mem => h d.address ⟨d, mem, rfl⟩⟩

/-- A device over the profile is taken in, unless it is there already. -/
def Admits (r : Registry) (device : Device) (profile : Profile) : Prop :=
  device.address ≠ .empty ∧ (profile = .leAudio → r.bound.leAudio = true)

/-- Taking in a device brings just that. -/
theorem holds_connect (membership : SetMembership) (device : Device) :
    (r.connect membership device profile).2.holds profile' address ↔ r.holds profile' address ∨
      (profile' = profile ∧ address = device.address) ∧ r.Admits device profile := by
  unfold connect
  dsimp only
  split
  · rename_i empty
    exact (or_iff_left fun h => h.2.1 empty).symm
  split
  · rename_i unbound
    refine (or_iff_left fun h => ?_).symm
    exact Bool.false_ne_true (unbound.2.symm.trans (h.2.2 unbound.1))
  split
  · rename_i held
    refine (or_iff_left_of_imp ?_).symm
    rintro ⟨⟨rfl, rfl⟩, -⟩
    exact held
  · rename_i named bound _
    have admits : r.Admits device profile := ⟨named, fun le => by simpa [le] using bound⟩
    rw [holds_iff, holds_iff]
    change (∃ d ∈ (r.devices.set profile _).get profile', _) ↔ _
    rw [PerProfile.get_set]
    by_cases same : profile' = profile
    · subst same
      simp only [if_true, List.mem_append, List.mem_singleton, or_and_right, exists_or, exists_eq_left,
        true_and, and_iff_left admits, eq_comm (a := address)]
    · simp only [same, if_false, false_and, or_false]

/-- A device is taken off the list of a profile, and is no longer active there. -/
def delisted (r : Registry) (address : Address) (profile : Profile) : Registry :=
  { r with
    devices := r.devices.set profile ((r.devices.get profile).filter fun d => d.address ≠ address)
    active := if r.active.get profile = some address then r.active.set profile none else r.active }

theorem disconnect_delisted (r : Registry) (address : Address) (profile : Profile) :
    r.disconnect address profile =
      if r.holds profile address then
        (true, if (r.delisted address profile).isConnected address then r.delisted address profile
          else (r.delisted address profile).forget address)
      else (false, r) := rfl

/-- Removing a device from a profile takes just that away. -/
theorem holds_disconnect : (r.disconnect address profile).2.holds profile' address' ↔
    r.holds profile' address' ∧ ¬(profile' = profile ∧ address' = address) := by
  unfold disconnect
  split
  · -- What is stored about the device besides has no part in this.
    let others := (r.devices.get profile).filter fun d => d.address ≠ address
    have devices (left : Registry) (h : left.devices = r.devices.set profile others) :
        left.holds profile' address' ↔
          r.holds profile' address' ∧ ¬(profile' = profile ∧ address' = address) := by
      rw [holds_iff, holds_iff, h, PerProfile.get_set]
      split
      · rename_i he
        subst he
        simp only [others, List.mem_filter, decide_eq_true_eq, true_and]
        refine ⟨fun ⟨d, ⟨mem, ne⟩, same⟩ => ⟨⟨d, mem, same⟩, same ▸ ne⟩, ?_⟩
        exact fun ⟨⟨d, mem, same⟩, ne⟩ => ⟨d, ⟨mem, same ▸ ne⟩, same⟩
      · rename_i he
        exact (and_iff_left fun h => he h.1).symm
    refine devices _ ?_
    dsimp only
    rw [apply_ite Registry.devices]
    exact ite_self _
  · rename_i hn
    refine (and_iff_left_of_imp ?_).symm
    rintro held ⟨rfl, rfl⟩
    exact hn held

theorem mem_connected {d : Device} (h : d ∈ r.connected) : r.isConnected d.address := by
  -- The listing grows by what the profiles hold.
  have held (entries : List (Profile × Device)) (listing : Listing)
      (he : ∀ e ∈ entries, r.isConnected e.2.address)
      (hl : ∀ d ∈ listing.devices, r.isConnected d.address) :
      ∀ d ∈ (entries.foldl (Listing.add r) listing).devices, r.isConnected d.address := by
    induction entries generalizing listing with
    | nil => exact hl
    | cons e rest ih =>
      refine ih _ (fun e' he' => he e' (List.mem_cons_of_mem e he')) fun d hd => ?_
      have new : ∀ d ∈ listing.devices ++ [e.2], r.isConnected d.address := by
        intro d hd
        rcases List.mem_append.mp hd with hd | hd
        · exact hl d hd
        · exact List.mem_singleton.mp hd ▸ he e List.mem_cons_self
      unfold Listing.add at hd
      dsimp only at hd
      split at hd
      · exact hl d hd
      split at hd
      · exact new d hd
      · exact new d hd
      · split at hd
        · exact hl d hd
        · exact new d hd
  refine held _ {} (fun e he => ?_) (List.forall_mem_nil _) d h
  obtain ⟨profile, -, he⟩ := List.mem_flatMap.mp he
  obtain ⟨device, mem, rfl⟩ := List.mem_map.mp he
  exact isConnected_iff.mpr ⟨profile, holds_iff.mpr ⟨device, mem, rfl⟩⟩

/-- A connect only ever goes to a connected device. -/
theorem connectTarget_isConnected {requested : Option Address} {recent : List Address}
    {target : Address} (h : r.connectTarget requested recent = some target) :
    r.isConnected target := by
  unfold connectTarget at h
  dsimp only at h
  rcases Option.or_eq_some_iff.mp h with asked | ⟨-, h⟩
  · exact (Option.filter_eq_some_iff.mp asked).2
  rcases Option.or_eq_some_iff.mp h with active | ⟨-, h⟩
  · exact List.find?_some active
  rcases Option.or_eq_some_iff.mp h with used | ⟨-, h⟩
  · exact List.find?_some used
  obtain ⟨d, found, rfl⟩ := Option.map_eq_some_iff.mp h
  rcases Option.or_eq_some_iff.mp found with worn | ⟨-, first⟩
  · exact mem_connected (List.mem_of_find?_eq_some worn)
  · exact mem_connected (List.mem_of_head? first)

end Registry

/-- What a deed does to the registry. -/
theorem Deed.registry {m : Message} {p q : Phone} (h : Deed m p q) :
    (∃ communication, q.registry = { p.registry with communication }) ∨
      (∃ device profile, m = .deviceAdded device profile ∧
        q.registry = (p.registry.connect p.membership device profile).2) ∨
      (∃ address profile, m = .deviceLost address profile ∧
        q.registry = (p.registry.disconnect address profile).2) ∨
      ∃ profile address, m = .activeDeviceChanged profile address ∧
        q.registry = (p.registry.setActive profile address).2 := by
  have same {q : Phone} (h : q.registry = p.registry) :
      ∃ communication, q.registry = { p.registry with communication } := ⟨_, h⟩
  cases h with
  | posted message => exact Or.inl (p.aside_post message).registry
  | moved target => exact Or.inl (p.aside_moveTo target).registry
  | serviced platform communication => exact Or.inl ⟨communication, rfl⟩
  | added device profile hm => exact Or.inr (Or.inl ⟨device, profile, hm, rfl⟩)
  | removed address profile hm => exact Or.inr (Or.inr (Or.inl ⟨address, profile, hm, rfl⟩))
  | activated profile address hm => exact Or.inr (Or.inr (Or.inr ⟨profile, address, hm, rfl⟩))
  | retryDropped =>
    rw [Phone.dropRetry_eq]
    exact Or.inl (same rfl)
  | deadlineDropped =>
    rw [Phone.dropDeadline_eq]
    exact Or.inl (same rfl)
  | retryScheduled target attempt =>
    rw [Phone.scheduleRetry_eq]
    exact Or.inl (same rfl)
  | begun =>
    rw [Phone.startDeadline_eq]
    exact Or.inl (same rfl)
  | tracked f =>
    rcases p.track_eq f with h | ⟨event, h⟩ <;> (rw [h]; exact Or.inl (same rfl))
  | _ => exact Or.inl (same rfl)

/-- Devices neither come nor go by this. -/
def Concern.SparesDevices : Concern → Prop
  | .arrival _ _ | .loss _ _ => False
  | _ => True

section
variable {cs : List Concern} {p q : Phone}

theorem Touch.devices (h : Touch cs p q) (spares : ∀ c ∈ cs, c.SparesDevices) :
    q.registry.devices = p.registry.devices := by
  have aside {q : Phone} (h : Phone.Aside p q) : q.registry.devices = p.registry.devices := by
    obtain ⟨communication, h⟩ := h.registry
    rw [h]
  have served {q : Phone} (h : q.services = p.services) : q.registry.devices = p.registry.devices :=
    congrArg Registry.devices (Phone.registry_of_services h)
  cases h with
  | added _ _ mem => exact (spares _ mem).elim
  | removed _ _ mem => exact (spares _ mem).elim
  | posted message => exact aside (p.aside_post message)
  | made address => exact aside (p.aside_makeCommunicationDevice address)
  | released =>
    obtain ⟨platform, h | ⟨address, h⟩⟩ := p.releaseCommunicationDevice_eq
    · rw [h]
    · rw [h, Phone.post_eq]
  | moved target => exact aside (p.aside_moveTo target)
  | rejected target attempt failure => exact served (p.services_onRejected target attempt failure)
  | chosen kind =>
    obtain ⟨platform, h | h⟩ := p.setCommunicationKind_eq kind
    · rw [h]
    · rw [h, Phone.registry_of_services (Phone.services_track _ _)]
  | activated profile address =>
    rcases p.onActiveDeviceChanged_eq profile address with h | h | h <;> (rw [h]; rfl)
  | tracked f => exact served (p.services_track f)
  | deadlineDropped => exact served p.services_dropDeadline
  | retryDropped => rw [Phone.dropRetry_eq]
  | begun =>
    rw [Phone.startDeadline_eq]
    rfl
  | _ => rfl

theorem Touches.devices (h : Touches cs p q) (spares : ∀ c ∈ cs, c.SparesDevices) :
    q.registry.devices = p.registry.devices :=
  h.keeps (P := fun q => q.registry.devices = p.registry.devices)
    (fun _ _ touch same => (touch.devices spares).trans same) rfl

end

namespace Phone

variable {p q : Phone} {profile : Profile} {address : Address}

/-- The phone once a message has brought its device, or has taken it away. -/
def placed (message : Message) (p : Phone) : Phone :=
  let noted := p.record (.handled message)
  match message with
  | .deviceAdded device profile => noted.onDeviceAdded device profile
  | .deviceLost address profile => (noted.removeDevice address profile).2
  | _ => noted

/-- Once its device is there or gone, devices have no part in the rest of a message. -/
theorem handle_placed_does (p : Phone) (message : Message) :
    ∃ cs : List Concern, (∀ c ∈ cs, c.SparesDevices) ∧ (handle message p).Does cs (p.placed message) := by
  cases message with
  | deviceAdded device profile =>
    refine ⟨[], List.forall_mem_nil _, ?_⟩
    rw [handle_eq]
    exact accounted_touches _ _ _
  | deviceLost address profile =>
    exact ⟨_, by simp [Concern.SparesDevices], p.handle_deviceLost_does address profile⟩
  | _ => exact ⟨_, by simp [Concern.SparesDevices], p.handle_does _⟩

/-- A message brings just the device that it reports, if that is taken in, and takes away just the one
that it reports lost. -/
theorem holds_placed (p : Phone) (message : Message) : (p.placed message).registry.holds profile address ↔
    p.registry.holds profile address ∧ message ≠ .deviceLost address profile ∨
      ∃ device, message = .deviceAdded device profile ∧ device.address = address ∧
        p.registry.Admits device profile := by
  cases message with
  | deviceAdded device profile' =>
    let noted := p.record (.handled (.deviceAdded device profile'))
    have registry : (p.placed (.deviceAdded device profile')).registry =
        (p.registry.connect p.membership device profile').2 := by
      change (noted.onDeviceAdded device profile').registry = _
      rcases noted.onDeviceAdded_eq device profile' with h | h <;> (rw [h]; rfl)
    rw [registry, Registry.holds_connect]
    refine or_congr (and_iff_left nofun).symm ⟨?_, ?_⟩
    · rintro ⟨⟨rfl, rfl⟩, admits⟩
      exact ⟨device, rfl, rfl, admits⟩
    · rintro ⟨_, ⟨⟩, rfl, admits⟩
      exact ⟨⟨rfl, rfl⟩, admits⟩
  | deviceLost address' profile' =>
    have registry : (p.placed (.deviceLost address' profile')).registry =
        (p.registry.disconnect address' profile').2 := rfl
    rw [registry, Registry.holds_disconnect]
    refine Iff.trans (and_congr_right' (not_congr ⟨?_, ?_⟩)) (or_iff_left fun ⟨_, h, _⟩ => nomatch h).symm
    · rintro ⟨rfl, rfl⟩
      rfl
    · rintro ⟨⟩
      exact ⟨rfl, rfl⟩
  | _ => exact (and_iff_left nofun).symm.trans (or_iff_left fun ⟨_, h, _⟩ => nomatch h).symm

theorem outside_devices {o : Outside} (h : o.SparesDevices) :
    (p.outside o).registry.devices = p.registry.devices := by
  have intrusion := p.outside_intrusion o
  generalize p.outside o = q at intrusion ⊢
  cases intrusion with
  | around platform registry dispatcher now messages spared =>
    rw [postAll_eq]
    exact spared h
  | fired t => rw [post_eq]

theorem outsides_devices {os : List Outside} (h : ∀ o ∈ os, o.SparesDevices) :
    (p.outsides os).registry.devices = p.registry.devices := by
  induction os generalizing p with
  | nil => rfl
  | cons o rest ih =>
    have first : (p.outside o).registry.devices = p.registry.devices :=
      outside_devices (h o List.mem_cons_self)
    exact (ih fun o' ho => h o' (List.mem_cons_of_mem o ho)).trans first

/-- While a message is handled a device stays connected over a profile, unless it is the message that
it is lost from there. -/
theorem course_holds {m : Message} (h : Course Outside.SparesDevices m p q)
    (hm : m ≠ .deviceLost address profile) (held : p.registry.holds profile address) :
    q.registry.holds profile address := by
  refine Course.keeps (P := fun p => p.registry.holds profile address) h (fun p q deed held => ?_)
    (fun p o spares held => ?_) held
  · rcases deed.registry with ⟨communication, h⟩ | ⟨device, profile', -, h⟩ | ⟨address', profile', hm', h⟩ |
      ⟨profile', address', -, h⟩
    · rw [h]
      exact held
    · rw [h]
      exact (Registry.holds_connect _ _).mpr (Or.inl held)
    · rw [h]
      refine Registry.holds_disconnect.mpr ⟨held, fun ⟨hp, ha⟩ => hm ?_⟩
      rw [hm', hp, ha]
    · rw [h]
      exact held
  · rwa [Registry.holds_of_devices (outside_devices spares)]

end Phone
end CallAudio

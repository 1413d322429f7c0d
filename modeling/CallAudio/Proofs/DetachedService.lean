import CallAudio.Proofs.CancelledRetry
import CallAudio.Proofs.Roster

/-! Which devices are still listed over a profile once its service has gone. The devices to be reported lost
are read off the registry, which lags behind the queue by the devices that are still to be taken in. -/
namespace CallAudio

/-- The platform tells that a device is connected over the profile. -/
def PlatformEvent.Connects (profile : Profile) (event : PlatformEvent) : Prop :=
  ∃ device, event = .connectionChanged profile device .connected

theorem PlatformEvent.connects_of_mem {event : PlatformEvent} {inCall : Bool} {device : Device}
    {profile : Profile} (h : .deviceAdded device profile ∈ event.messages inCall) :
    event.Connects profile := by
  unfold messages at h
  split at h
  · obtain ⟨⟩ := List.mem_singleton.mp h
    exact ⟨device, rfl⟩
  all_goals grind

/-- No device is reported connected over the profile. -/
def Outside.ConnectsNone (profile : Profile) : Outside → Prop
  | .post message => ∀ device, message ≠ .deviceAdded device profile
  | .event (.event e) => ¬e.Connects profile
  | .event (.rawConnection raw device state) =>
    ∀ e, PlatformEvent.connectionOfRaw? raw device state = some e → ¬e.Connects profile
  | _ => True

namespace Phone

variable {p : Phone} {device : Device} {profile : Profile}

theorem outside_connectsNone (sound : p.alarms.Sound) {o : Outside} (none : o.ConnectsNone profile)
    (h : .deviceAdded device profile ∈ (p.outside o).inbox) : .deviceAdded device profile ∈ p.inbox := by
  have posted (q : Phone) (messages : List Message) (hq : q.inbox = p.inbox)
      (others : .deviceAdded device profile ∉ messages)
      (h : .deviceAdded device profile ∈ (q.postAll messages).inbox) :
      .deviceAdded device profile ∈ p.inbox := by
    rw [postAll_eq] at h
    dsimp only at h
    rw [hq] at h
    split at h
    · exact h
    · exact (List.mem_append.mp h).resolve_right others
  have event (e : Option PlatformEvent) (others : ∀ e', e = some e' → ¬e'.Connects profile)
      (h : .deviceAdded device profile ∈ (Bench.onEvent e p).2.inbox) :
      .deviceAdded device profile ∈ p.inbox := by
    cases e with
    | none => exact h
    | some e => exact posted p _ rfl (fun mem => others e rfl (PlatformEvent.connects_of_mem mem)) h
  cases o with
  | post message =>
    refine posted p [message] rfl (fun mem => ?_) h
    exact none device (List.mem_singleton.mp mem).symm
  | event act =>
    cases act with
    | serviceAttached | setInCall => exact h
    | serviceLost profile' =>
      let lost := p.detach profile'
      refine posted lost.2 (lost.1.map fun address => .deviceLost address profile') rfl (fun mem => ?_) h
      obtain ⟨_, -, other⟩ := List.mem_map.mp mem
      cases other
    | event e => exact event (some e) (fun _ he => Option.some.inj he ▸ none) h
    | rawConnection => exact event _ none h
    | rawSco address state =>
      refine event _ (fun e he => ?_) h
      obtain ⟨sco, -, he⟩ := Option.bind_eq_some_iff.mp he
      rintro ⟨_, rfl⟩
      cases he
    | communicationDeviceChanged device' =>
      let confirmations := p.dispatcher.confirmations device'
      refine posted _ (confirmations.map Message.confirmation) ?_ (fun mem => ?_) h
      · rfl
      · obtain ⟨_, -, other⟩ := List.mem_map.mp mem
        cases other
  | registry act =>
    cases act with
    | makeCommunicationDevice address =>
      obtain ⟨platform, communication, same⟩ := p.makeCommunicationDevice_eq address
      change _ ∈ (p.makeCommunicationDevice address).2.inbox at h
      rwa [same] at h
    | _ => exact h
  | communication | platform | pass => exact h
  | fire timer =>
    change _ ∈ (p.fireTimer timer).inbox at h
    unfold fireTimer at h
    split at h
    · exact h
    · rename_i t found
      split at h
      · obtain ⟨s, slot, -⟩ := sound.owned t (List.mem_of_find?_eq_some found)
        refine posted { p with timers := p.timers.cancel timer } [t.value] rfl (fun mem => ?_) h
        rw [← List.mem_singleton.mp mem] at slot
        cases slot
      · exact h

/-- The devices that a service has left behind are reported lost. -/
theorem inbox_onServiceLost (p : Phone) (opened : p.closed = false) : (p.onServiceLost profile).inbox =
    p.inbox ++ (p.registry.devices.get profile).map fun d => .deviceLost d.address profile := by
  change ((p.detach profile).2.postAll _).inbox = _
  rw [postAll_eq]
  change (if p.closed then p.inbox else p.inbox ++ _) = _
  rw [opened]
  exact congrArg (p.inbox ++ ·) List.map_map

end Phone

namespace Thread

variable {t : Thread} {moves : List ThreadMove} {device : Device} {profile : Profile}

theorem Doing.queued_move (h : t.Doing) (sound : t.phone.alarms.Sound) {m : ThreadMove}
    (none : m.Only (Outside.ConnectsNone profile))
    (queued : .deviceAdded device profile ∈ (t.move m).inbox) : .deviceAdded device profile ∈ t.inbox := by
  have old {p q : Phone} (way : Reports p q) (mem : .deviceAdded device profile ∈ q.inbox) :
      .deviceAdded device profile ∈ p.inbox := by
    obtain ⟨reports, inbox, only⟩ := way.inbox
    rw [inbox] at mem
    exact (List.mem_append.mp mem).resolve_right fun report => Bool.false_ne_true (only _ report)
  obtain ⟨-, stretch⟩ := h.stretch m
  change _ ∈ (t.move m).phone.inbox at queued
  generalize (t.move m).phone = q at stretch queued
  cases stretch with
  | still => exact queued
  | outside o => exact Phone.outside_connectsNone sound none queued
  | stopped => cases queued
  | taken idle next touches =>
    have later := old touches.reports queued
    change _ ∈ t.phone.inbox
    rw [next]
    exact List.mem_cons_of_mem _ later
  | resumed touches => exact old touches.reports queued

/-- What is queued of devices that connect over a profile was so before, as long as none is reported. -/
theorem Doing.queued_run (h : t.Doing) (underway : t.Underway) (sound : t.phone.alarms.Sound)
    (none : ∀ m ∈ moves, m.Only (Outside.ConnectsNone profile))
    (queued : .deviceAdded device profile ∈ (t.run moves).inbox) :
    .deviceAdded device profile ∈ t.inbox := by
  induction moves generalizing t with
  | nil => exact queued
  | cons m rest ih =>
    obtain ⟨first, others⟩ := List.forall_mem_cons.mp none
    obtain ⟨underway', sound'⟩ := move_keeps Phone.alarms_sound_kept underway sound m
    exact h.queued_move sound first (ih (h.stretch m).1 underway' sound' others queued)

end Thread

/-- A service goes, and all messages that are queued by then are handled, the losses of its devices
included, while no device is reported connected over the profile any more. Then none is listed over the
profile exactly if none was taken in since that has not been lost again, and only a device that was waiting
in the queue as the service went can have been. -/
theorem detached_profile_empty_iff (config : RouteConfig) (attached : List Profile)
    (past moves : List ThreadMove) (profile : Profile)
    (spares : ∀ m ∈ moves, m.Only Outside.SparesDevices)
    (none : ∀ m ∈ moves, m.Only (Outside.ConnectsNone profile)) :
    let t := (Thread.fresh config attached).run past
    let detached := t.move (.outside (.event (.serviceLost profile)))
    let losses : List Message :=
      (t.phone.registry.devices.get profile).map fun d => .deviceLost d.address profile
    let later := detached.run moves
    (t.phone.closed = false → detached.sent = t.sent ++ losses) ∧
      (t.sent ++ losses <+: later.handled →
        (later.phone.registry.devices.get profile = [] ↔
          ∀ address, ¬detached.Gains moves profile address) ∧
        ∀ address, detached.Gains moves profile address →
          ∃ device, device.address = address ∧ .deviceAdded device profile ∈ t.inbox) := by
  intro t detached losses later
  have doing : t.Doing := (Thread.doing_fresh config attached).run past
  obtain ⟨underway, sound⟩ : t.Underway ∧ t.phone.alarms.Sound :=
    Thread.run_keeps_phone Phone.alarms_sound_kept (Thread.underway_fresh config attached)
      (Phone.watched_start config attached).sound past
  let lost : ThreadMove := .outside (.event (.serviceLost profile))
  have doing' : detached.Doing := (doing.stretch lost).1
  obtain ⟨underway', sound'⟩ := Thread.move_keeps Phone.alarms_sound_kept underway sound lost
  have handled : detached.handled = t.handled := (doing.handled_move lost).trans (List.append_nil _)
  have devices : detached.phone.registry.devices = t.phone.registry.devices :=
    Phone.outside_devices (o := .event (.serviceLost profile)) trivial
  refine ⟨fun opened => ?_, fun finished => ⟨?_, ?_⟩⟩
  · have posted : detached.inbox = t.inbox ++ losses := Phone.inbox_onServiceLost _ opened
    change detached.handled ++ detached.inbox = t.handled ++ t.inbox ++ losses
    rw [handled, posted, List.append_assoc]
  · have finished' : detached.handled ++ (t.inbox ++ losses) <+: later.handled := by
      rw [handled, ← List.append_assoc]
      exact finished
    -- Whatever was listed as the service went is lost by now.
    have reported (address : Address) (held : detached.phone.registry.holds profile address) :
        ¬IsEmpty (detached.Taking moves (.deviceLost address profile)) := by
      rw [Registry.holds_of_devices devices] at held
      obtain ⟨d, mem, rfl⟩ := Registry.holds_iff.mp held
      have loss : .deviceLost d.address profile ∈ losses := List.mem_map.mpr ⟨d, mem, rfl⟩
      obtain ⟨x⟩ := doing'.taking_of_handled finished' (List.mem_append_right _ loss)
      exact fun kept => kept.false x
    rw [Registry.devices_eq_nil_iff]
    refine forall_congr' fun address => not_congr ?_
    refine (doing'.holds_run spares).trans (or_iff_right ?_)
    exact fun ⟨held, kept⟩ => reported address held kept
  · rintro address ⟨device, x, rfl, -⟩
    refine ⟨device, rfl, ?_⟩
    have early : ∀ m ∈ x.earlier, m.Only (Outside.ConnectsNone profile) := fun m mem =>
      none m (x.split ▸ List.mem_append_left _ mem)
    have waiting := doing'.queued_run underway' sound' early (Thread.mem_inbox_of_taken x.taken)
    exact doing.queued_move (m := lost) sound trivial waiting

/-- One headset is listed as the service goes. Another one has connected and disconnected by then, which
both still wait in the queue. -/
theorem detached_profile_empty_iff_of_disconnected :
    let first : Device := ⟨⟨10, 0, 0, 0, 0, 1⟩, .audioSink⟩
    let second : Device := ⟨⟨10, 0, 0, 0, 0, 2⟩, .audioSink⟩
    let past : List ThreadMove := [.start,
      .outside (.event (.event (.connectionChanged .classicHeadset first .connected))), .handle,
      .outside (.event (.event (.connectionChanged .classicHeadset second .connected))),
      .outside (.event (.event (.connectionChanged .classicHeadset second .disconnected)))]
    let moves : List ThreadMove := [.handle, .handle, .handle]
    let t := (Thread.fresh {} [.classicHeadset]).run past
    let detached := t.move (.outside (.event (.serviceLost .classicHeadset)))
    let later := detached.run moves
    t.phone.registry.devices.get .classicHeadset = [first] ∧
      detached.inbox = [.deviceAdded second .classicHeadset, .deviceLost second.address .classicHeadset,
        .deviceLost first.address .classicHeadset] ∧
      later.handled = detached.sent ∧ later.phone.registry.devices.get .classicHeadset = [] ∧
      ∀ address, ¬detached.Gains moves .classicHeadset address := by
  intro first second past moves t detached later
  let losses : List Message :=
    (t.phone.registry.devices.get .classicHeadset).map fun d => .deviceLost d.address .classicHeadset
  have finished : t.sent ++ losses <+: later.handled := by decide
  have empty : later.phone.registry.devices.get .classicHeadset = [] := by decide
  have main := detached_profile_empty_iff {} [.classicHeadset] past moves .classicHeadset
    (by simp [moves, ThreadMove.Only]) (by simp [moves, ThreadMove.Only])
  have run : (Thread.fresh {} [.classicHeadset]).run past = t := rfl
  have lost : t.move (.outside (.event (.serviceLost .classicHeadset))) = detached := rfl
  have ran : detached.run moves = later := rfl
  dsimp only at main
  rw [run, lost, ran] at main
  exact ⟨by decide, by decide, by decide, empty, (main.2 finished).1.mp empty⟩

/-- A headset connects, and its service goes before the thread has taken it in. The headset is not reported
lost, and stays listed. -/
theorem queued_headset_outlasts_service :
    let headset : Device := ⟨⟨10, 0, 0, 0, 0, 1⟩, .audioSink⟩
    let past : List ThreadMove := [.start,
      .outside (.event (.event (.connectionChanged .classicHeadset headset .connected)))]
    let t := (Thread.fresh {} [.classicHeadset]).run past
    let detached := t.move (.outside (.event (.serviceLost .classicHeadset)))
    let later := detached.run [.handle]
    t.phone.registry.devices.get .classicHeadset = [] ∧
      detached.inbox = [.deviceAdded headset .classicHeadset] ∧
      detached.phone.registry.bound.classicHeadset = false ∧ later.isIdle = true ∧ later.inbox = [] ∧
      later.handled = detached.sent ∧
      later.phone.registry.devices.get .classicHeadset = [headset] ∧
      later.phone.registry.isConnected headset.address = true := by
  decide

end CallAudio

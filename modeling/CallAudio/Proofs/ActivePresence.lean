import CallAudio.Proofs.LiveDevice
import CallAudio.Proofs.Throughout
import Mathlib.Data.List.Chain

/-! Whether any device is active, and what the listener is told of it. It hears of the first device that
becomes active and of the last one that ceases to be, but not of an active device that is lost. -/
namespace CallAudio

def Happening.presence? : Happening → Option RouteEvent
  | .told .activeDevicePresent => some .activeDevicePresent
  | .told .activeDeviceGone => some .activeDeviceGone
  | _ => none

/-- The calls that tell whether any device is active, oldest first, and whether one is. -/
structure PresenceLog where
  calls : List RouteEvent
  active : Bool

/-- The calls alternate and begin with a device that is present; the last one tells what is so. -/
structure PresenceLog.Told (x : PresenceLog) : Prop where
  alternate : x.calls.IsChain (· ≠ ·)
  first : ∀ call, x.calls.head? = some call → call = .activeDevicePresent
  last : x.calls.getLast? = some .activeDevicePresent ↔ x.active = true

namespace PresenceLog

variable {calls : List RouteEvent}

theorem told_nil : Told ⟨[], false⟩ := by
  refine ⟨List.isChain_nil, ?_, ?_⟩
  · intro call h
    cases h
  · simp

theorem Told.present (h : Told ⟨calls, false⟩) : Told ⟨calls ++ [.activeDevicePresent], true⟩ := by
  refine ⟨?_, ?_, ?_⟩
  · rw [List.isChain_append]
    refine ⟨h.alternate, List.isChain_singleton _, ?_⟩
    rintro last hl _ ⟨⟩ rfl
    -- A device that was present already would be active.
    exact Bool.false_ne_true (h.last.mp hl)
  · intro call hc
    rw [List.head?_append] at hc
    rcases Option.or_eq_some_iff.mp hc with hc | ⟨-, hc⟩
    · exact h.first call hc
    · exact (Option.some.inj hc).symm
  · simp

theorem Told.gone (h : Told ⟨calls, true⟩) : Told ⟨calls ++ [.activeDeviceGone], false⟩ := by
  have present : calls.getLast? = some .activeDevicePresent := h.last.mpr rfl
  refine ⟨?_, ?_, ?_⟩
  · rw [List.isChain_append]
    refine ⟨h.alternate, List.isChain_singleton _, ?_⟩
    rintro last hl _ ⟨⟩ rfl
    rw [present] at hl
    cases hl
  · intro call hc
    cases calls with
    | nil => cases present
    | cons c rest => exact h.first call hc
  · simp

/-- The last call does not fit when the active device went without one. -/
theorem Told.not_lost (h : Told ⟨calls, true⟩) : ¬Told ⟨calls, false⟩ :=
  fun lost => Bool.false_ne_true (lost.last.mp (h.last.mpr rfl))

end PresenceLog

namespace Registry

variable {r : Registry}

theorem hasActive_iff : r.hasActive = true ↔ ∃ profile address, r.active.get profile = some address := by
  have listed (profile : Profile) : profile ∈ listingOrder := by cases profile <;> decide
  unfold hasActive
  simp only [List.any_eq_true, Option.isSome_iff_exists]
  constructor
  · rintro ⟨profile, -, address, h⟩
    exact ⟨profile, address, h⟩
  · rintro ⟨profile, address, h⟩
    exact ⟨profile, listed profile, address, h⟩

theorem hasActive_connect (membership : SetMembership) (device : Device) (profile : Profile) :
    (r.connect membership device profile).2.hasActive = r.hasActive := by
  obtain ⟨devices, groups, pairs, h⟩ := r.connect_eq membership device profile
  rw [h]
  rfl

/-- Losing a device makes none active. -/
theorem hasActive_of_disconnect {address : Address} {profile : Profile}
    (h : (r.disconnect address profile).2.hasActive = true) : r.hasActive = true := by
  obtain ⟨profile', active, hp⟩ := hasActive_iff.mp h
  exact hasActive_iff.mpr ⟨profile', active, active_disconnect profile' hp⟩

end Registry

namespace Phone

def presence (p : Phone) : PresenceLog :=
  ⟨p.journal.filterMap fun e => e.happening.presence?, p.registry.hasActive⟩

variable (p : Phone)

theorem presence_record (happening : Happening) : (p.record happening).presence =
    ⟨p.presence.calls ++ happening.presence?.toList, p.presence.active⟩ := by
  have one (state : RouteState) : [(⟨happening, state⟩ : JournalEntry)].filterMap
      (fun e => e.happening.presence?) = happening.presence?.toList := by
    cases h : happening.presence? <;> simp [h]
  unfold presence
  congr 1
  change List.filterMap _ (p.journal ++ [_]) = _
  rw [List.filterMap_append, one]

theorem presence_record_of_none {happening : Happening} (h : happening.presence? = none) :
    (p.record happening).presence = p.presence := by
  rw [presence_record, h, Option.toList_none, List.append_nil]

theorem presence_post (message : Message) : (p.post message).presence = p.presence := by
  rw [post_eq]
  rfl

theorem presence_track (f : TransitionTracker → Option TransitionOutcome × TransitionTracker) :
    (p.track f).presence = p.presence := by
  rcases p.track_eq f with h | ⟨event, h⟩
  · rw [h]
    rfl
  · rw [h]
    exact presence_record_of_none _ rfl

theorem presence_makeCommunicationDevice (address : Address) :
    (p.makeCommunicationDevice address).2.presence = p.presence := by
  obtain ⟨platform, communication, h⟩ := p.makeCommunicationDevice_eq address
  rw [h]
  rfl

theorem presence_releaseCommunicationDevice : p.releaseCommunicationDevice.presence = p.presence := by
  obtain ⟨platform, h | ⟨address, h⟩⟩ := p.releaseCommunicationDevice_eq
  · rw [h]
    rfl
  · rw [h, presence_post]
    rfl

theorem presence_dropRetry : p.dropRetry.presence = p.presence := by
  rw [dropRetry_eq]
  rfl

theorem presence_onRejected (target : Address) (attempt : Nat) (failure : ConnectFailure) :
    (p.onRejected target attempt failure).presence = p.presence := by
  unfold onRejected
  dsimp only
  split
  · rw [scheduleRetry_eq]
    rfl
  · rw [presence_post, presence_dropRetry]
    rfl

theorem presence_moveTo (target : RouteState) : (p.moveTo target).presence = p.presence := by
  have departed : (p.departed target).presence = p.presence := by
    rw [departed_eq]
    rfl
  by_cases h : target = p.machine.state
  · rw [moveTo_same p h]
  · rw [moveTo_eq p h]
    cases target with
    | audioOff => exact (presence_record_of_none _ rfl).trans departed
    | connecting address => exact departed
    | connected address =>
      have arrived : (p.arrived address).presence = p.presence :=
        (presence_record_of_none _ rfl).trans departed
      change ((p.arrived address).claim address).presence = _
      rcases (p.arrived address).claim_eq address with h | h
      · rw [h, presence_makeCommunicationDevice, arrived]
      · rw [h, presence_post, presence_makeCommunicationDevice, arrived]

theorem presence_setCommunicationKind (kind : EndpointKind) :
    (p.setCommunicationKind kind).presence = p.presence := by
  obtain ⟨platform, h | h⟩ := p.setCommunicationKind_eq kind
  · rw [h]
    rfl
  · rw [h, presence_track]
    rfl

theorem presence_onDeviceAdded (device : Device) (profile : Profile) :
    (p.onDeviceAdded device profile).presence = p.presence := by
  have added : (p.addDevice device profile).2.presence = p.presence :=
    congrArg (PresenceLog.mk _) (Registry.hasActive_connect ..)
  rcases p.onDeviceAdded_eq device profile with h | h
  · rwa [h]
  · rw [h, tell, presence_record_of_none _ rfl, added]

/-- The calls follow the active devices as long as these change by reports of them. -/
theorem told_onActiveDeviceChanged (h : p.presence.Told) (profile : Profile)
    (address : Option Address) : (p.onActiveDeviceChanged profile address).presence.Told := by
  let changed := (p.setActiveDevice profile address).2
  have told (event : RouteEvent) (active : Bool) (ha : changed.registry.hasActive = active) :
      (changed.tell event).presence =
        ⟨p.presence.calls ++ (Happening.told event).presence?.toList, active⟩ := by
    rw [tell, presence_record]
    exact congrArg (PresenceLog.mk _) ha
  have same (ha : p.registry.hasActive = changed.registry.hasActive) :
      changed.presence = p.presence := congrArg (PresenceLog.mk _) ha.symm
  have before {active : Bool} (hb : p.registry.hasActive = active) :
      PresenceLog.Told ⟨p.presence.calls, active⟩ := hb ▸ h
  have reported : (p.setActiveDevice profile address).1 =
      (p.registry.hasActive, changed.registry.hasActive) := rfl
  unfold onActiveDeviceChanged
  dsimp only
  rw [reported]
  -- Only from none to some, and from some to none, is there a call.
  cases hb : p.registry.hasActive <;> cases ha : changed.registry.hasActive
  · change changed.presence.Told
    rwa [same (hb.trans ha.symm)]
  · change (changed.tell .activeDevicePresent).presence.Told
    rw [told _ true ha]
    exact (before hb).present
  · change (changed.tell .activeDeviceGone).presence.Told
    rw [told _ false ha]
    exact (before hb).gone
  · change changed.presence.Told
    rwa [same (hb.trans ha.symm)]

end Phone

section
variable {cs : List Concern} {p q : Phone}

/-- Short of losing a device, only a report of an active device touches what is told of them. -/
theorem Touch.presence (h : Touch cs p q)
    (kept : ∀ address profile, .loss address profile ∉ cs) :
    q.presence = p.presence ∨ ∃ profile address, .activity profile address ∈ cs ∧
      q = p.onActiveDeviceChanged profile address := by
  cases h with
  | activated profile address mem => exact Or.inr ⟨profile, address, mem, rfl⟩
  | removed address profile mem => exact absurd mem (kept address profile)
  | recorded happening plain =>
    refine Or.inl (p.presence_record_of_none ?_)
    cases happening with
    | told event => cases event <;> first | rfl | cases plain
    | _ => rfl
  | requested address => exact Or.inl (p.presence_record_of_none rfl)
  | posted message => exact Or.inl (p.presence_post message)
  | made address => exact Or.inl (p.presence_makeCommunicationDevice address)
  | released => exact Or.inl p.presence_releaseCommunicationDevice
  | retryDropped => exact Or.inl p.presence_dropRetry
  | rejected target attempt failure => exact Or.inl (p.presence_onRejected target attempt failure)
  | moved target => exact Or.inl (p.presence_moveTo target)
  | chosen kind => exact Or.inl (p.presence_setCommunicationKind kind)
  | added device profile => exact Or.inl (p.presence_onDeviceAdded device profile)
  | begun origin destination destinationActive =>
    left
    rw [Phone.startDeadline_eq]
    exact p.presence_record_of_none rfl
  | tracked f => exact Or.inl (p.presence_track f)
  | abandoned exclude => exact Or.inl (Phone.presence_record_of_none _ rfl)
  | deadlineDropped =>
    left
    rw [Phone.dropDeadline_eq]
    rfl
  | _ => exact Or.inl rfl

theorem Touch.told (h : Touch cs p q) (kept : ∀ address profile, .loss address profile ∉ cs)
    (hp : p.presence.Told) : q.presence.Told := by
  rcases h.presence kept with same | ⟨profile, address, -, rfl⟩
  · rwa [same]
  · exact p.told_onActiveDeviceChanged hp profile address

end

namespace Phone

variable (p : Phone)

/-- Once a lost device is removed, nothing that follows has to do with active devices. -/
theorem handle_deviceLost_upholds {P : PresenceLog → Prop} (address : Address) (profile : Profile)
    (h : P ⟨p.presence.calls, (p.registry.disconnect address profile).2.hasActive⟩) :
    (handle (.deviceLost address profile) p).Upholds (fun q => P q.presence)
      fun _ q => P q.presence := by
  let noted := p.record (.handled (.deviceLost address profile))
  let removed := (noted.removeDevice address profile).2
  have lost : P removed.presence := by
    have calls : noted.presence = p.presence := p.presence_record_of_none rfl
    have presence : removed.presence =
        ⟨noted.presence.calls, (p.registry.disconnect address profile).2.hasActive⟩ := rfl
    rwa [presence, calls]
  refine (p.handle_deviceLost_does address profile).upholds (fun q r touch hq => ?_) lost
  rcases touch.presence (by simp) with same | ⟨_, _, mem, -⟩
  · rwa [same]
  · simp at mem

theorem handle_upholds_told (message : Message) (h : p.presence.Told)
    (kept : ∀ address profile, message = .deviceLost address profile →
      (p.registry.disconnect address profile).2.hasActive = p.registry.hasActive) :
    (handle message p).Upholds (fun q => q.presence.Told) fun _ q => q.presence.Told := by
  by_cases hm : ∃ address profile, message = .deviceLost address profile
  · obtain ⟨address, profile, rfl⟩ := hm
    apply handle_deviceLost_upholds
    rw [kept address profile rfl]
    exact h
  · have lossless (address : Address) (profile : Profile) : .loss address profile ∉ message.concerns := by
      intro mem
      apply hm
      cases message <;> simp at mem
      exact ⟨_, _, rfl⟩
    have noted : (p.record (.handled message)).presence = p.presence := p.presence_record_of_none rfl
    refine (p.handle_does message).upholds (fun q r touch hq => touch.told lossless hq) ?_
    rwa [noted]

end Phone

/-- Devices become active, and cease to be, by messages only. -/
def Outside.SparesActive : Outside → Prop
  | .registry (.setActive _ _) | .registry (.disconnect _ _) => False
  | _ => True

theorem Phone.presence_outside (p : Phone) {o : Outside} (h : o.SparesActive) :
    (p.outside o).presence = p.presence := by
  have active : (p.outside o).registry.hasActive = p.registry.hasActive := by
    have meddling := p.outside_meddling o
    generalize hs : (p.outside o).services = services at meddling
    have registry : (p.outside o).registry = services.2 := congrArg Prod.snd hs
    rw [registry]
    cases meddling with
    | connected profile device => exact Registry.hasActive_connect ..
    | disconnected | activated => exact h.elim
    | made address =>
      obtain ⟨platform, communication, h⟩ := p.makeCommunicationDevice_eq address
      rw [h]
      rfl
    | _ => rfl
  have journal : (p.outside o).journal = p.journal := (p.outside_undisturbed o).journal
  unfold presence
  rw [journal, active]

namespace Thread

/-- The thread takes the message that a device is lost which is the last active one. -/
def LosesActive (t : Thread) (m : ThreadMove) : Prop :=
  m = .handle ∧ t.isIdle = true ∧ t.phone.registry.hasActive = true ∧ ∃ address profile rest,
    t.inbox = .deviceLost address profile :: rest ∧
      (t.phone.registry.disconnect address profile).2.hasActive = false

variable {t : Thread} {m : ThreadMove}

theorem Upholds.told_move (h : t.Upholds fun p => p.presence.Told)
    (only : m.Only Outside.SparesActive) (hm : ¬t.LosesActive m) :
    (t.move m).Upholds fun p => p.presence.Told := by
  apply h.move
  · exact h.1
  · rintro rfl idle message rest queued
    refine Phone.handle_upholds_told _ message h.1 ?_
    rintro address profile rfl
    have kept : (t.phone.registry.disconnect address profile).2.hasActive = true ↔
        t.phone.registry.hasActive = true := by
      refine ⟨Registry.hasActive_of_disconnect, fun active => ?_⟩
      by_contra lost
      exact hm ⟨rfl, idle, active, address, profile, rest, queued, Bool.eq_false_iff.mpr lost⟩
    exact Bool.eq_iff_iff.mpr kept
  · rintro o rfl
    rw [t.phone.presence_outside only]
    exact h.1

theorem LosesActive.not_told (hm : t.LosesActive m) (h : t.phone.presence.Told) :
    ¬(t.move m).phone.presence.Told := by
  obtain ⟨rfl, idle, active, address, profile, rest, queued, lost⟩ := hm
  have before : PresenceLog.Told ⟨t.phone.presence.calls, true⟩ := by
    rw [← active]
    exact h
  have after : PresenceLog.Told ⟨t.phone.presence.calls,
      (t.phone.registry.disconnect address profile).2.hasActive⟩ → False := by
    rw [lost]
    exact before.not_lost
  rw [move_handle idle queued]
  let p : Phone := { t.phone with inbox := rest }
  exact (upholds_ofStep (p.handle_deviceLost_upholds (P := fun x => ¬x.Told) address profile after)).1

end Thread

/-- As long as active devices change by messages only, the calls that tell of them alternate, begin with
a device that is present and fit what is active, all along a run exactly if no device is lost in it that
is the last active one. -/
theorem active_presence_told_iff (config : RouteConfig) (attached : List Profile)
    (moves : List ThreadMove) (only : ∀ m ∈ moves, m.Only Outside.SparesActive) :
    let after (past : List ThreadMove) : Thread := (Thread.fresh config attached).run past
    (∀ past, past <+: moves → (after past).phone.presence.Told) ↔
      ∀ past m, past ++ [m] <+: moves → ¬(after past).LosesActive m := by
  intro after
  have fresh : (Phone.start config attached).presence = ⟨[], false⟩ := by
    -- Services that are attached bring no active devices along.
    have active (r : Registry) (profiles : List Profile) (h : r.hasActive = false) :
        (profiles.foldl Registry.attach r).hasActive = false := by
      induction profiles generalizing r with
      | nil => exact h
      | cons profile rest ih => exact ih (r.attach profile) h
    exact congrArg (PresenceLog.mk []) (active {} attached rfl)
  have start : (Thread.fresh config attached).Upholds fun p => p.presence.Told := by
    apply Thread.upholds_fresh
    rw [fresh]
    exact PresenceLog.told_nil
  apply Thread.run_upholds_iff start
  · intro past m way told notLost
    have allowed : m ∈ moves := way.subset (List.mem_append_right past List.mem_cons_self)
    exact told.told_move (only m allowed) notLost
  · intro past m _ told lost
    exact lost.not_told told

/-- A headset that becomes active and ceases to be before it is lost. -/
theorem active_presence_told_iff_on_headset :
    let headset : Address := ⟨10, 0, 0, 0, 0, 1⟩
    let moves : List ThreadMove := [.start,
      .outside (.post (.deviceAdded ⟨headset, .audioSink⟩ .classicHeadset)), .handle,
      .outside (.post (.activeDeviceChanged .classicHeadset (some headset))), .handle,
      .outside (.post (.activeDeviceChanged .classicHeadset none)), .handle,
      .outside (.post (.deviceLost headset .classicHeadset)), .handle]
    let after (past : List ThreadMove) : Thread := (Thread.fresh {} [.classicHeadset]).run past
    (∀ m ∈ moves, m.Only Outside.SparesActive) ∧
      (after moves).phone.presence.calls = [.activeDevicePresent, .activeDeviceGone] ∧
      ((∀ past, past <+: moves → (after past).phone.presence.Told) ↔
        ∀ past m, past ++ [m] <+: moves → ¬(after past).LosesActive m) := by
  intro headset moves after
  have only : ∀ m ∈ moves, m.Only Outside.SparesActive := by
    intro m mem
    simp only [moves, List.mem_cons, List.not_mem_nil, or_false] at mem
    rcases mem with rfl | rfl | rfl | rfl | rfl | rfl | rfl | rfl | rfl <;> trivial
  have calls : (after moves).phone.presence.calls = [.activeDevicePresent, .activeDeviceGone] := by
    decide
  exact ⟨only, calls, active_presence_told_iff {} [.classicHeadset] moves only⟩

/-- A headset is lost while it is the only active device. The listener is not told that it is gone, and
then twice in a row that a device is present. -/
theorem lost_active_device_untold :
    let headset : Address := ⟨10, 0, 0, 0, 0, 1⟩
    let moves : List ThreadMove := [.start,
      .outside (.post (.deviceAdded ⟨headset, .audioSink⟩ .classicHeadset)), .handle,
      .outside (.post (.activeDeviceChanged .classicHeadset (some headset))), .handle,
      .outside (.post (.deviceLost headset .classicHeadset)), .handle]
    let again : List ThreadMove :=
      [.outside (.post (.activeDeviceChanged .classicHeadset (some headset))), .handle]
    let lost := (Thread.fresh {} [.classicHeadset]).run moves
    lost.isIdle = true ∧ lost.inbox = [] ∧ ¬lost.phone.presence.Told ∧
      lost.phone.presence.calls = [.activeDevicePresent] ∧ lost.phone.presence.active = false ∧
      (lost.run again).phone.presence.calls = [.activeDevicePresent, .activeDevicePresent] := by
  intro headset moves again lost
  have calls : lost.phone.presence.calls = [.activeDevicePresent] := by decide
  have none : lost.phone.presence.active = false := by decide
  have untold (x : PresenceLog) (hc : x.calls = [.activeDevicePresent]) (ha : x.active = false) :
      ¬x.Told := by
    intro told
    have active : x.active = true := told.last.mp (by rw [hc]; rfl)
    rw [ha] at active
    cases active
  exact ⟨by decide, by decide, untold _ calls none, calls, none, by decide⟩

end CallAudio

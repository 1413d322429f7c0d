import CallAudio.Proofs.Automaton
import CallAudio.Proofs.Throughout

/-! Whether the registry and the audio service agree on the communication device. They do as long as the
device is chosen through the registry; the coordinator's own choices go past it. -/
namespace CallAudio
namespace Phone

/-- The communication device that the registry has stored is the one that the audio service is on. -/
def Coherent (p : Phone) : Prop :=
  ∀ address kind, p.registry.communication = some (address, kind) →
    ∃ d, p.platform.audio.current = some d ∧ d.kind = kind ∧ d.address = some address

/-- A device that is said to have been made the communication device is the one that the audio service
is on. -/
def Answerable (p : Phone) : Prop :=
  ∀ address, (p.makeCommunicationDevice address).1 = true →
    ∃ profile d, p.registry.profileOf address = some profile ∧
      (p.makeCommunicationDevice address).2.platform.audio.current = some d ∧
      d.kind = .ofProfile profile ∧ d.address = some address

variable {p q : Phone}

theorem coherent_of_none (h : p.registry.communication = none) : p.Coherent := by
  intro address kind hc
  rw [h] at hc
  cases hc

theorem Coherent.of_stored (h : p.Coherent)
    (hc : ∀ c, q.registry.communication = some c → p.registry.communication = some c)
    (ha : q.platform.audio.current = p.platform.audio.current) : q.Coherent := by
  intro address kind stored
  rw [ha]
  exact h address kind (hc _ stored)

theorem coherent_of_services (hs : p.services = q.services) : p.Coherent ↔ q.Coherent := by
  unfold Coherent
  rw [platform_of_services hs, registry_of_services hs]

/-- Making a device the communication device changes both sides or none. -/
theorem Coherent.made (h : p.Coherent) (address : Address) :
    (p.makeCommunicationDevice address).2.Coherent ∧ p.Answerable := by
  have made (address : Address) : (p.makeCommunicationDevice address).2.Coherent ∧
      ((p.makeCommunicationDevice address).1 = true → ∃ profile d,
        p.registry.profileOf address = some profile ∧
        (p.makeCommunicationDevice address).2.platform.audio.current = some d ∧
        d.kind = .ofProfile profile ∧ d.address = some address) := by
    unfold makeCommunicationDevice chooseCommunicationDevice AudioService.choose
    cases hp : p.registry.profileOf address with
    | none => exact ⟨h, nofun⟩
    | some profile =>
      dsimp only
      split
      · -- The registry answers from what it has stored and does not ask the audio service.
        rename_i stored
        obtain ⟨d, current, kind, same⟩ := h address _ stored
        exact ⟨h, fun _ => ⟨profile, d, rfl, current, kind, same⟩⟩
      split
      · exact ⟨h, nofun⟩
      · rename_i device found
        have offered := List.find?_some found
        obtain ⟨kind, same⟩ : device.kind = .ofProfile profile ∧ device.address = some address := by
          simpa using offered
        -- A device is stored only if the audio service has accepted it.
        cases p.platform.audio.refuses
        · refine ⟨?_, fun _ => ⟨profile, device, rfl, rfl, kind, same⟩⟩
          rintro _ _ ⟨⟩
          exact ⟨device, rfl, kind, same⟩
        · exact ⟨h, nofun⟩
  exact ⟨(made address).1, fun address => (made address).2⟩

theorem Coherent.moveTo (h : p.Coherent) (target : RouteState) : (p.moveTo target).Coherent := by
  have departed : (p.departed target).Coherent := by
    rw [departed_eq]
    exact h
  by_cases same : target = p.machine.state
  · rwa [moveTo_same p same]
  · rw [moveTo_eq p same]
    cases target with
    | audioOff | connecting => exact departed
    | connected address =>
      have arrived : (p.arrived address).Coherent := departed
      have made := (arrived.made address).1
      change ((p.arrived address).claim address).Coherent
      rcases (p.arrived address).claim_eq address with h | h
      · rwa [h]
      · rw [h]
        exact (coherent_of_services (services_post _ _)).mpr made

theorem releaseCommunicationDevice_communication (p : Phone) :
    p.releaseCommunicationDevice.registry.communication = none := by
  obtain ⟨platform, h | ⟨address, h⟩⟩ := p.releaseCommunicationDevice_eq
  · rw [h]
  · rw [h, registry_of_services (services_post _ _)]

end Phone

namespace Registry

variable {r : Registry} {c : Address × EndpointKind}

theorem communication_connect (membership : SetMembership) (device : Device) (profile : Profile) :
    (r.connect membership device profile).2.communication = r.communication := by
  obtain ⟨devices, groups, pairs, h⟩ := r.connect_eq membership device profile
  rw [h]

/-- A device that is lost takes the communication device with it at most. -/
theorem communication_of_disconnect {address : Address} {profile : Profile}
    (h : (r.disconnect address profile).2.communication = some c) : r.communication = some c := by
  obtain ⟨_, _, _, _, _, same, -, was⟩ := r.disconnect_eq address profile
  rw [same] at h
  exact was c h

end Registry

section
variable {cs : List Concern} {p q : Phone}

/-- Every touch but the choice of another device keeps both sides together. -/
theorem Touch.coherent (h : Touch cs p q) (unchosen : .choice ∉ cs) (hp : p.Coherent) :
    q.Coherent := by
  have same (hs : q.services = p.services) : q.Coherent := (Phone.coherent_of_services hs).mpr hp
  cases h with
  | made address => exact (hp.made address).1
  | released => exact Phone.coherent_of_none p.releaseCommunicationDevice_communication
  | moved target => exact hp.moveTo target
  | chosen kind mem => exact absurd mem unchosen
  | cleared mem => exact absurd mem unchosen
  | added device profile =>
    have added : (p.addDevice device profile).2.Coherent := by
      refine hp.of_stored (fun c stored => ?_) rfl
      rwa [← Registry.communication_connect p.membership device profile]
    rcases p.onDeviceAdded_eq device profile with h | h <;> (rw [h]; exact added)
  | removed address profile => exact hp.of_stored (fun _ => Registry.communication_of_disconnect) rfl
  | activated profile address =>
    rcases p.onActiveDeviceChanged_eq profile address with h | h | h <;> (rw [h]; exact hp)
  | posted message => exact same (p.services_post message)
  | rejected target attempt failure => exact same (p.services_onRejected target attempt failure)
  | tracked f => exact same (p.services_track f)
  | deadlineDropped => exact same p.services_dropDeadline
  | retryDropped =>
    rw [Phone.dropRetry_eq]
    exact hp
  | begun =>
    rw [Phone.startDeadline_eq]
    exact hp
  | _ => exact hp

/-- Touches that are about nothing in particular leave the services alone. -/
theorem Touches.services (h : Touches [] p q) : q.services = p.services := by
  refine h.keeps (P := fun q => q.services = p.services) (fun q r touch hq => ?_) rfl
  rw [← hq]
  cases touch with
  | recorded | noted | answered => rfl
  | posted message => exact q.services_post message
  | tracked f => exact q.services_track f
  | deadlineDropped => exact q.services_dropDeadline
  | _ =>
    rename_i mem
    exact absurd mem List.not_mem_nil

end

/-- The action moves the audio service off the communication device that the registry has stored. -/
def RouteAction.Diverts (p : Phone) : RouteAction → Prop
  | .setCommunicationDevice kind => ∃ device address stored,
      p.platform.audio.available.find? (fun d => d.kind = kind) = some device ∧
        p.platform.audio.refuses = false ∧ p.registry.communication = some (address, stored) ∧
        ¬(device.kind = stored ∧ device.address = some address)
  | .clearCommunicationDevice => p.registry.communication ≠ none
  | _ => False

namespace Phone

variable {p q : Phone}

/-- What the choice of a device beside Bluetooth does. -/
def choose (action : RouteAction) (p : Phone) : Phone :=
  match action with
  | .setCommunicationDevice kind => p.setCommunicationKind kind
  | .clearCommunicationDevice => p.clearCommunicationDevice
  | _ => p

theorem setCommunicationKind_services (p : Phone) (kind : EndpointKind) :
    (p.setCommunicationKind kind).services =
      match p.platform.audio.available.find? fun d => d.kind = kind with
      | some device => (p.chooseCommunicationDevice device).2.services
      | none => p.services := by
  have settled (answer : Bool × Phone) :
      (if answer.1 then answer.2 else answer.2.track fun t => t.fail none).services =
        answer.2.services := by
    split
    · rfl
    · exact services_track _ _
  unfold setCommunicationKind
  cases p.platform.audio.available.find? fun d => d.kind = kind with
  | none => exact settled (false, p)
  | some device => exact settled (p.chooseCommunicationDevice device)

theorem choose_services (h : p.services = q.services) (action : RouteAction) :
    (p.choose action).services = (q.choose action).services := by
  have hp := platform_of_services h
  have hr := registry_of_services h
  cases action with
  | setCommunicationDevice kind =>
    change (p.setCommunicationKind kind).services = (q.setCommunicationKind kind).services
    rw [setCommunicationKind_services, setCommunicationKind_services, h, hp]
    split
    · unfold chooseCommunicationDevice
      rw [hp]
      exact services_ext rfl hr
    · rfl
  | clearCommunicationDevice =>
    unfold choose clearCommunicationDevice
    rw [hp]
    exact services_ext rfl hr
  | _ => exact h

theorem choose_communication (p : Phone) (action : RouteAction) :
    (p.choose action).registry.communication = p.registry.communication := by
  cases action with
  | setCommunicationDevice kind =>
    have services := p.setCommunicationKind_services kind
    split at services <;> exact congrArg Registry.communication (congrArg Prod.snd services)
  | _ => rfl

/-- The choice of another device keeps both sides together unless it diverts the audio service. -/
theorem Coherent.choose_iff (h : p.Coherent) (action : RouteAction) :
    (p.choose action).Coherent ↔ ¬action.Diverts p := by
  cases action with
  | setCommunicationDevice kind =>
    change (p.setCommunicationKind kind).Coherent ↔ ¬∃ _, _
    cases found : p.platform.audio.available.find? fun d => d.kind = kind with
    | none =>
      have same : (p.setCommunicationKind kind).services = p.services := by
        rw [setCommunicationKind_services, found]
      rw [coherent_of_services same]
      refine iff_of_true h ?_
      rintro ⟨device, _, _, he, -⟩
      cases he
    | some device =>
      have chosen : (p.setCommunicationKind kind).services =
          (p.chooseCommunicationDevice device).2.services := by
        rw [setCommunicationKind_services, found]
      rw [coherent_of_services chosen]
      -- The registry is as it was, so it is coherent after the choice just if it has stored that device.
      unfold chooseCommunicationDevice AudioService.choose
      cases refuses : p.platform.audio.refuses
      · constructor
        · rintro after ⟨_, address, stored, ⟨⟩, -, hc, other⟩
          obtain ⟨d, current, hk, ha⟩ := after address stored hc
          obtain rfl : device = d := Option.some.inj current
          exact other ⟨hk, ha⟩
        · intro kept address stored hc
          by_contra other
          refine kept ⟨device, address, stored, rfl, rfl, hc, fun same => other ?_⟩
          exact ⟨device, rfl, same⟩
      · refine iff_of_true h ?_
        rintro ⟨_, _, _, -, he, -⟩
        cases he
  | clearCommunicationDevice =>
    constructor
    · intro after diverts
      obtain ⟨⟨address, kind⟩, hc⟩ := Option.ne_none_iff_exists'.mp diverts
      obtain ⟨d, current, -⟩ := after address kind hc
      cases current
    · intro kept
      exact coherent_of_none (not_not.mp kept)
  | _ => exact iff_of_true h id

end Phone

/-- A plan has no choice of another device in it, or that comes last, maybe after a disconnect. -/
theorem TransitionPlan.between_cases (active : Bool) (origin destination : AudioRoute)
    (destinationActive : Bool) :
    let actions := (between active origin destination destinationActive).actions
    (∀ action ∈ actions, .choice ∉ action.concerns) ∨
      ∃ action, action.concerns = [.choice] ∧
        (actions = [action] ∨ actions = [.disconnectBluetooth, action]) := by
  intro actions
  simp only [actions, between, leaving, entering]
  -- The plan follows from whether audio is on, whether it moves, and which routes are Bluetooth.
  by_cases moves : origin = destination <;> cases active <;> cases destinationActive <;>
    cases origin.isBluetooth <;> cases destination.isBluetooth <;> simp [moves]

namespace Phone

variable {p : Phone}

theorem concluded_services (p : Phone) (ticket : Ticket) (id : TransitionId) :
    (p.concluded ticket id).services = p.services := (p.concluded_touches ticket id).services

theorem prepared_services (p : Phone) (origin destination : AudioRoute) (destinationActive : Bool) :
    (p.prepared origin destination destinationActive).services = p.services :=
  (p.begun_same origin destination destinationActive).1

/-- The choice of another device takes no time. -/
theorem performAll_choice (p : Phone) {action : RouteAction} (h : action.concerns = [.choice]) :
    ∃ q, performAll [action] p = .done () q ∧ q.services = (p.choose action).services := by
  have accounted (q : Phone) : (q.onStateChanged p.machine.state).services = q.services :=
    (q.onStateChanged_touches _).services
  cases action with
  | setCommunicationDevice kind =>
    let performed := p.record (.performed (.setCommunicationDevice kind))
    have same : performed.services = p.services := rfl
    refine ⟨_, rfl, (accounted _).trans ?_⟩
    exact choose_services same (.setCommunicationDevice kind)
  | clearCommunicationDevice => exact ⟨_, rfl, accounted _⟩
  | connectBluetooth | disconnectBluetooth => simp at h

theorem handle_begin_choice (p : Phone) {origin destination : AudioRoute} {destinationActive : Bool}
    (ticket : Ticket) {action : RouteAction} (h : action.concerns = [.choice])
    (plan : (p.tracker.begin origin destination destinationActive).2.1 = [action]) :
    ∃ q, handle (.beginTransition origin destination destinationActive ticket) p = .done () q ∧
      q.services = (p.choose action).services := by
  let message : Message := .beginTransition origin destination destinationActive ticket
  let noted := p.record (.handled message)
  obtain ⟨q, performed, services⟩ :=
    (noted.prepared origin destination destinationActive).performAll_choice h
  refine ⟨q.concluded ticket p.tracker.nextId, ?_, ?_⟩
  · rw [handle_begin_eq, plan, performed]
    rfl
  · have same : (noted.prepared origin destination destinationActive).services = p.services :=
      noted.prepared_services origin destination destinationActive
    calc (q.concluded ticket p.tracker.nextId).services = q.services := concluded_services _ _ _
      _ = ((noted.prepared origin destination destinationActive).choose action).services := services
      _ = (p.choose action).services := choose_services same action

/-- Nothing is stored any more once audio is disconnected. -/
theorem Coherent.disconnect (h : p.Coherent) :
    (disconnect p).Upholds Coherent fun _ q => q.registry.communication = none := by
  have dropped : p.dropRetry.Coherent := by
    rw [dropRetry_eq]
    exact h
  have released (attached : Bool) (q : Phone) :
      (if attached then q.disconnectSco else q).releaseCommunicationDevice.registry.communication =
        none := releaseCommunicationDevice_communication _
  let noted := (p.dropRetry.note (.disconnectRequested p.dropRetry.machine.state)).record .audioReleased
  change Step.Upholds _ _ ((Job.awaitHeadset noted).bind fun attached => Job.update fun q =>
    (if attached then q.disconnectSco else q).releaseCommunicationDevice)
  unfold Job.awaitHeadset
  split
  · exact released true _
  · exact ⟨dropped, fun attached r _ => released attached r⟩

/-- A disconnect before the choice of another device leaves nothing to divert from. -/
theorem Coherent.performAll_disconnect (h : p.Coherent) {action : RouteAction}
    (hc : action.concerns = [.choice]) :
    (performAll [.disconnectBluetooth, action] p).Upholds Coherent fun _ q => q.Coherent := by
  let performed : Unit → Job Unit := fun _ => Job.update (record (.performed .disconnectBluetooth))
  have released : ((Phone.disconnect p).bind performed).Upholds Coherent
      fun _ q => q.registry.communication = none := h.disconnect.bind fun _ _ left => left
  change (((Phone.disconnect p).bind performed).bind fun _ q =>
    performAll [action] (q.onStateChanged p.machine.state)).Upholds _ _
  refine released.bind fun _ q left => ?_
  obtain ⟨r, done, services⟩ := (q.onStateChanged p.machine.state).performAll_choice hc
  have accounted : (q.onStateChanged p.machine.state).services = q.services :=
    (q.onStateChanged_touches _).services
  have left' : r.registry.communication = none := by
    rw [registry_of_services services, choose_communication, registry_of_services accounted, left]
  rw [done]
  exact coherent_of_none left'

/-- A message keeps both sides together unless all that it does is to divert the audio service. -/
theorem Coherent.handle (h : p.Coherent) (message : Message)
    (kept : ∀ origin destination destinationActive ticket action,
      message = .beginTransition origin destination destinationActive ticket →
      (p.tracker.begin origin destination destinationActive).2.1 = [action] → ¬action.Diverts p) :
    (handle message p).Upholds Coherent fun _ q => q.Coherent := by
  by_cases hm : ∃ origin destination destinationActive ticket,
    message = .beginTransition origin destination destinationActive ticket
  · obtain ⟨origin, destination, destinationActive, ticket, rfl⟩ := hm
    let noted := p.record (.handled (.beginTransition origin destination destinationActive ticket))
    let q := noted.prepared origin destination destinationActive
    have ready : q.Coherent :=
      (coherent_of_services (noted.prepared_services origin destination destinationActive)).mpr h
    have ends {s : Step Unit} (hs : s.Upholds Coherent fun _ q => q.Coherent) :
        (s.bind fun _ => Job.update (concluded ticket p.tracker.nextId)).Upholds Coherent
          fun _ q => q.Coherent :=
      hs.bind fun _ r hr => (coherent_of_services (r.concluded_services _ _)).mpr hr
    -- With a disconnect before it, the choice comes when nothing is stored any more.
    rcases TransitionPlan.between_cases p.tracker.active origin destination destinationActive with
      plain | ⟨action, hc, one | two⟩
    · rw [handle_begin_eq]
      have performed : (performAll (p.tracker.begin origin destination destinationActive).2.1).Does
          [.services, .retry, .state] := by
        apply performAll_does
        intro action mem
        have unchosen := plain action mem
        cases action <;> simp at unchosen ⊢
      exact ends ((performed q).upholds (fun _ _ touch => touch.coherent (by simp)) ready)
    · obtain ⟨r, done, services⟩ := p.handle_begin_choice ticket hc one
      rw [done]
      refine (coherent_of_services services).mpr ?_
      exact (h.choose_iff action).mpr (kept _ _ _ _ action rfl one)
    · have plan : (p.tracker.begin origin destination destinationActive).2.1 =
          [.disconnectBluetooth, action] := two
      rw [handle_begin_eq, plan]
      exact ends (ready.performAll_disconnect hc)
  · have unchosen : .choice ∉ message.concerns := by
      intro mem
      apply hm
      cases message <;> simp at mem
      exact ⟨_, _, _, _, rfl⟩
    have noted : (p.record (.handled message)).Coherent := h
    exact (p.handle_does message).upholds (fun _ _ touch => touch.coherent unchosen) noted

end Phone

/-- Nobody else chooses a device while one is stored, or stores one that is not chosen. -/
def Outside.SparesCommunication (p : Phone) : Outside → Prop
  | .platform services =>
    services.audio.current = p.platform.audio.current ∨ p.registry.communication = none
  | .communication device => device = none
  | _ => True

theorem Phone.Coherent.outside {p : Phone} (h : p.Coherent) {o : Outside}
    (ho : o.SparesCommunication p) : (p.outside o).Coherent := by
  have meddling := p.outside_meddling o
  generalize hs : (p.outside o).services = services at meddling
  have of (q : Phone) (hq : q.services = services) (coherent : q.Coherent) :
      (p.outside o).Coherent := (Phone.coherent_of_services (hs.trans hq.symm)).mpr coherent
  cases meddling with
  | none => exact of p rfl h
  | bound _ bound => exact of { p with registry := { p.registry with bound } } rfl h
  | connected profile device =>
    refine of (p.addDevice device profile).2 rfl (h.of_stored (fun c stored => ?_) rfl)
    rwa [← Registry.communication_connect p.membership device profile]
  | disconnected address profile =>
    refine of (p.removeDevice address profile).2 rfl (h.of_stored (fun c stored => ?_) rfl)
    exact Registry.communication_of_disconnect stored
  | activated profile address => exact of (p.setActiveDevice profile address).2 rfl h
  | made address => exact of _ rfl (h.made address).1
  | communication device =>
    refine of { p with registry := { p.registry with communication := device } } rfl ?_
    exact Phone.coherent_of_none ho
  | platform platform =>
    refine of { p with platform } rfl ?_
    rcases ho with same | none
    · exact h.of_stored (fun _ => id) same
    · exact Phone.coherent_of_none none

namespace Thread

/-- The thread takes the begin of a transition that needs just one action, which moves the audio service
off the communication device that is stored. -/
def Diverts (t : Thread) (m : ThreadMove) : Prop :=
  m = .handle ∧ t.isIdle = true ∧ ∃ origin destination destinationActive ticket rest action,
    t.inbox = .beginTransition origin destination destinationActive ticket :: rest ∧
      (t.phone.tracker.begin origin destination destinationActive).2.1 = [action] ∧
      action.Diverts t.phone

variable {t : Thread} {m : ThreadMove}

theorem Upholds.coherent_move (h : t.Upholds Phone.Coherent)
    (only : ∀ o, m = .outside o → o.SparesCommunication t.phone) (hm : ¬t.Diverts m) :
    (t.move m).Upholds Phone.Coherent := by
  apply h.move
  · exact h.1
  · rintro rfl idle message rest queued
    apply Phone.Coherent.handle (p := { t.phone with inbox := rest }) h.1
    rintro origin destination destinationActive ticket action rfl plan diverts
    exact hm ⟨rfl, idle, _, _, _, ticket, rest, action, queued, plan, diverts⟩
  · rintro o rfl
    exact h.1.outside (only o rfl)

theorem Diverts.not_coherent (hm : t.Diverts m) (h : t.phone.Coherent) :
    ¬(t.move m).phone.Coherent := by
  obtain ⟨rfl, idle, origin, destination, destinationActive, ticket, rest, action, queued, plan,
    diverts⟩ := hm
  let p : Phone := { t.phone with inbox := rest }
  have choice : action.concerns = [.choice] := by cases action <;> first | rfl | cases diverts
  obtain ⟨q, done, services⟩ := p.handle_begin_choice ticket choice plan
  have coherent : p.Coherent := h
  rw [move_handle idle queued, done]
  intro after
  exact (coherent.choose_iff action).mp ((Phone.coherent_of_services services).mp after) diverts

end Thread

/-- As long as nobody else chooses the communication device, the registry and the audio service agree on
it all along a run, and whoever makes a device the communication device is told the truth, exactly if
no transition diverts the audio service. -/
theorem communication_device_coherent_iff (config : RouteConfig) (attached : List Profile)
    (moves : List ThreadMove) :
    let after (past : List ThreadMove) : Thread := (Thread.fresh config attached).run past
    (∀ past o, past ++ [.outside o] <+: moves → o.SparesCommunication (after past).phone) →
      ((∀ past, past <+: moves → (after past).phone.Coherent ∧ (after past).phone.Answerable) ↔
        ∀ past m, past ++ [m] <+: moves → ¬(after past).Diverts m) := by
  intro after only
  have stored (r : Registry) (profiles : List Profile) (h : r.communication = none) :
      (profiles.foldl Registry.attach r).communication = none := by
    induction profiles generalizing r with
    | nil => exact h
    | cons profile rest ih => exact ih (r.attach profile) h
  have start : (Thread.fresh config attached).Upholds Phone.Coherent :=
    Thread.upholds_fresh (Phone.coherent_of_none (stored {} attached rfl))
  have coherent : (∀ past, past <+: moves → (after past).phone.Coherent) ↔
      ∀ past m, past ++ [m] <+: moves → ¬(after past).Diverts m := by
    apply Thread.run_upholds_iff start
    · intro past m way h notDiverted
      refine h.coherent_move (fun o ho => only past o ?_) notDiverted
      rwa [← ho]
    · intro past m _ h diverted
      exact diverted.not_coherent h
  rw [← coherent]
  constructor
  · intro h past way
    exact (h past way).1
  · intro h past way
    have here : (after past).phone.Coherent := h past way
    exact ⟨here, fun address => (here.made address).2 address⟩

/-- A headset becomes the communication device, and a transition goes to it. -/
theorem communication_device_coherent_iff_on_headset :
    let headset : Address := ⟨10, 0, 0, 0, 0, 1⟩
    let device : CommunicationDevice := ⟨2, .bluetoothSco, some headset⟩
    let moves : List ThreadMove := [.start, .outside (.platform { audio := { available := [device] } }),
      .outside (.post (.deviceAdded ⟨headset, .audioSink⟩ .classicHeadset)), .handle,
      .outside (.post (.audioOn headset)), .handle,
      .outside (.post (.beginTransition ⟨.earpiece, none⟩ ⟨.bluetoothSco, some headset⟩ true 0)), .handle]
    let after (past : List ThreadMove) : Thread := (Thread.fresh {} [.classicHeadset]).run past
    (∀ past o, past ++ [.outside o] <+: moves → o.SparesCommunication (after past).phone) ∧
      (after moves).phone.registry.communication = some (headset, .bluetoothSco) ∧
      (after moves).phone.platform.audio.current = some device ∧
      ((∀ past, past <+: moves → (after past).phone.Coherent ∧ (after past).phone.Answerable) ↔
        ∀ past m, past ++ [m] <+: moves → ¬(after past).Diverts m) := by
  intro headset device moves after
  have only : ∀ past o, past ++ [.outside o] <+: moves → o.SparesCommunication (after past).phone := by
    intro past o way
    obtain ⟨taken, found⟩ : moves.take past.length = past ∧ moves[past.length]? = some (.outside o) := by
      obtain ⟨rest, whole⟩ := way
      rw [← whole]
      simp
    rw [← taken]
    generalize past.length = n at found ⊢
    match n with
    | 1 =>
      obtain rfl := ThreadMove.outside.inj (Option.some.inj found)
      exact Or.inl rfl
    | 2 | 4 | 6 =>
      obtain rfl := ThreadMove.outside.inj (Option.some.inj found)
      trivial
    | 0 | 3 | 5 | 7 | n + 8 => cases found
  have stored : (after moves).phone.registry.communication = some (headset, .bluetoothSco) := by decide
  have current : (after moves).phone.platform.audio.current = some device := by decide
  exact ⟨only, stored, current, communication_device_coherent_iff {} [.classicHeadset] moves only⟩

/-- A transition from the headset to the speaker does not know that audio is on, so the speaker becomes
the communication device of the audio service while the registry keeps the headset. -/
theorem communication_device_diverted :
    let headset : Address := ⟨10, 0, 0, 0, 0, 1⟩
    let device : CommunicationDevice := ⟨2, .bluetoothSco, some headset⟩
    let speaker : CommunicationDevice := ⟨1, .speaker, none⟩
    let moves : List ThreadMove := [.start,
      .outside (.platform { audio := { available := [speaker, device] } }),
      .outside (.post (.deviceAdded ⟨headset, .audioSink⟩ .classicHeadset)), .handle,
      .outside (.post (.audioOn headset)), .handle,
      .outside (.post (.beginTransition ⟨.bluetoothSco, some headset⟩ ⟨.speaker, none⟩ true 0)), .handle]
    let t := (Thread.fresh {} [.classicHeadset]).run moves
    t.isIdle = true ∧ t.phone.registry.communication = some (headset, .bluetoothSco) ∧
      t.phone.platform.audio.current = some speaker ∧
      (t.phone.makeCommunicationDevice headset).1 = true ∧
      (t.phone.makeCommunicationDevice headset).2.platform.audio.current = some speaker := by
  decide

end CallAudio

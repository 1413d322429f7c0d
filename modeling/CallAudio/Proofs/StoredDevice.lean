import CallAudio.Proofs.CommunicationDevice
import CallAudio.Proofs.TornDown

/-! The device that audio is on, as the registry stores it. Audio that arrives makes the device the
communication device, unless that is refused. It stays stored as it is until audio is released, the device is
lost or somebody else changes what is stored. -/
namespace CallAudio

namespace Registry

variable {r : Registry} {address : Address}

/-- The kind under which the device is stored as the communication device. -/
def storedKind (r : Registry) (address : Address) : Option EndpointKind :=
  (r.communication.filter fun c => c.1 = address).map Prod.snd

theorem storedKind_eq_some {kind : EndpointKind} :
    r.storedKind address = some kind ↔ r.communication = some (address, kind) := by
  unfold storedKind
  constructor
  · intro h
    obtain ⟨⟨stored, kind⟩, filtered, rfl⟩ := Option.map_eq_some_iff.mp h
    obtain ⟨communication, same⟩ := Option.filter_eq_some_iff.mp filtered
    obtain rfl : stored = address := of_decide_eq_true same
    exact communication
  · intro h
    rw [h, Option.filter_some, if_pos (decide_eq_true rfl)]
    rfl

theorem storedKind_of_communication {r' : Registry} (h : r'.communication = r.communication) :
    r'.storedKind address = r.storedKind address := by
  unfold storedKind
  rw [h]

theorem storedKind_forget {lost : Address} (other : lost ≠ address) :
    (r.forget lost).storedKind address = r.storedKind address := by
  unfold storedKind forget
  cases hc : r.communication with
  | none => rfl
  | some c =>
    by_cases gone : c.1 = lost
    · simp [Option.filter_some, gone, other]
    · simp [Option.filter_some, gone]

/-- The loss of another device leaves the device stored as it is. -/
theorem storedKind_disconnect {lost : Address} (other : lost ≠ address) (profile : Profile) :
    (r.disconnect lost profile).2.storedKind address = r.storedKind address := by
  unfold disconnect
  by_cases held : r.holds profile lost
  · rw [if_pos held]
    dsimp only
    generalize (if r.active.get profile = some lost then _ else _ : PerProfile (Option Address)) = active
    split
    · rfl
    · exact storedKind_forget other
  · rw [if_neg held]

end Registry

/-- A plan that neither connects nor releases is empty, or the choice of another device. -/
theorem TransitionPlan.between_choice {active destinationActive : Bool} {origin destination : AudioRoute}
    (unconnected : ∀ address, .connectBluetooth address ∉
      (between active origin destination destinationActive).actions)
    (unreleased : .disconnectBluetooth ∉ (between active origin destination destinationActive).actions) :
    let actions := (between active origin destination destinationActive).actions
    actions = [] ∨ ∃ action, action.concerns = [.choice] ∧ actions = [action] := by
  intro actions
  rcases between_cases active origin destination destinationActive with
    plain | ⟨action, choice, one | two⟩
  · refine Or.inl (List.eq_nil_iff_forall_not_mem.mpr fun action mem => ?_)
    cases action with
    | connectBluetooth address => exact unconnected address mem
    | disconnectBluetooth => exact unreleased mem
    | setCommunicationDevice | clearCommunicationDevice =>
      exact plain _ mem (List.mem_singleton.mpr rfl)
  · exact Or.inr ⟨action, choice, one⟩
  · refine absurd ?_ unreleased
    rw [two]
    exact List.mem_cons_self

/-- Nobody else changes which device is stored as the communication device. -/
def Outside.SparesStored : Outside → Prop
  | .communication _ => False
  | .registry (.makeCommunicationDevice _) | .registry (.disconnect _ _) => False
  | _ => True

/-- The message reports that the device is lost over some profile. -/
def Message.isLossOf (address : Address) : Message → Bool
  | .deviceLost lost _ => lost = address
  | _ => false

namespace Phone

variable {p q : Phone} {address : Address}

theorem outside_communication {o : Outside} (ho : o.SparesStored) :
    (p.outside o).registry.communication = p.registry.communication := by
  have meddling := p.outside_meddling o
  change (p.outside o).services.2.communication = _
  generalize (p.outside o).services = services at meddling ⊢
  cases meddling with
  | none | bound | activated | platform => rfl
  | connected profile device => exact Registry.communication_connect p.membership device profile
  | disconnected | made | communication => exact ho.elim

theorem outsides_communication {os : List Outside} (h : ∀ o ∈ os, o.SparesStored) :
    (p.outsides os).registry.communication = p.registry.communication := by
  induction os generalizing p with
  | nil => rfl
  | cons o rest ih =>
    obtain ⟨first, later⟩ := List.forall_mem_cons.mp h
    exact (ih later).trans (outside_communication first)

theorem inbox_accounted (p : Phone) (message : Message) (before : RouteState) :
    (p.accounted message before).inbox = p.inbox := by
  have cleared (q : Phone) : q.clearStaleDeadline.inbox = q.inbox :=
    congrArg RouteView.inbox q.clearStaleDeadline_view
  unfold accounted
  split
  · exact cleared p
  · exact (cleared _).trans (p.onStateChanged_untracked RouteView.tracked_inbox before)

section Arrival

/-- The device is stored under the profile that it is operated through, or the last message that is queued
says that it could not be. -/
def Claimed (address : Address) (p : Phone) : Prop :=
  (∃ profile, p.registry.profileOf address = some profile ∧
    p.registry.storedKind address = some (.ofProfile profile)) ∨
      p.inbox.getLast? = some (.transitionFailed (some address))

theorem Claimed.of_same (h : p.Claimed address) (services : q.services = p.services)
    (inbox : q.inbox = p.inbox) : q.Claimed address := by
  unfold Claimed
  rwa [registry_of_services services, inbox]

theorem claim_claimed (opened : p.closed = false) (address : Address) :
    (p.claim address).Claimed address := by
  have made : (p.makeCommunicationDevice address).1 = true →
      (p.makeCommunicationDevice address).2.Claimed address := by
    unfold makeCommunicationDevice
    cases hp : p.registry.profileOf address with
    | none => nofun
    | some profile =>
      dsimp only
      split
      · rename_i stored
        exact fun _ => Or.inl ⟨profile, hp, Registry.storedKind_eq_some.mpr stored⟩
      split
      · nofun
      split
      · exact fun _ => Or.inl ⟨profile, hp, Registry.storedKind_eq_some.mpr rfl⟩
      · nofun
  unfold claim
  dsimp only
  split
  · exact made ‹_›
  · have opened' : (p.makeCommunicationDevice address).2.closed = false :=
      (p.aside_makeCommunicationDevice address).closed.trans opened
    right
    rw [post_eq, opened']
    exact List.getLast?_concat

/-- Audio arrives at the device by a move, whatever the machine has found out. -/
theorem moveTo_claimed (opened : p.closed = false) (hs : p.machine.state ≠ .connected address)
    {target : RouteState} (h : (p.moveTo target).machine.state = .connected address) :
    (p.moveTo target).Claimed address := by
  obtain rfl : target = .connected address := by
    have state : (p.moveTo target).machine.state = target := congrArg Route.state (p.route_moveTo target)
    exact state.symm.trans h
  have arrived : (p.arrived address).closed = false := by
    unfold arrived
    rw [departed_eq]
    exact opened
  rw [p.moveTo_eq hs.symm]
  exact claim_claimed arrived address

theorem moveToActualState_claimed (opened : p.closed = false)
    (hs : p.machine.state ≠ .connected address) {pauses : Pauses}
    (h : ((moveToActualState p).finish pauses).phone.machine.state = .connected address) :
    ((moveToActualState p).finish pauses).phone.Claimed address := by
  have undisturbed := ((carryingAudio_undisturbing p).finish pauses).1
  unfold moveToActualState at h ⊢
  rw [Job.finish_bind] at h ⊢
  generalize (carryingAudio p).finish pauses = found at undisturbed h ⊢
  obtain ⟨carrier, r, rest⟩ := found
  have opened' : r.closed = false := undisturbed.closed.trans opened
  have hs' : r.machine.state ≠ .connected address := by
    rw [undisturbed.machine]
    exact hs
  cases carrier with
  | none => exact moveTo_claimed opened' hs' h
  | some found => exact moveTo_claimed opened' hs' h

/-- A message by which audio falls back ends with the move to where audio is. -/
theorem act_fallBack {message : Message} {carrier : Option Address} {pauses : Pauses}
    (h : p.cue pauses message = .fallBack carrier) : ∃ r : Phone,
      r.machine.state = p.machine.state ∧ r.closed = p.closed ∧
        ((act message p).finish pauses).phone = ((moveToActualState r).finish pauses).phone := by
  have unconnected {requested : Option Address} : p.connectCue requested pauses ≠ .fallBack carrier := by
    obtain ⟨target, accepted, he⟩ := p.connectCue_eq pauses requested
    rw [he]
    nofun
  cases message with
  | audioLost lost =>
    cases lost with
    | none => exact ⟨p, rfl, rfl, rfl⟩
    | some lost =>
      have live : p.machine.state.liveAddress = some lost := by
        by_contra dead
        have cue : p.cue pauses (.audioLost (some lost)) = .nothing := if_neg dead
        rw [cue] at h
        cases h
      refine ⟨p, rfl, rfl, ?_⟩
      change ((onAudioLost (some lost) p).finish pauses).phone = _
      rw [onAudioLost_some, if_pos live]
  | connectionTimeout late =>
    have connecting : p.machine.state = .connecting late := by
      by_contra other
      have cue : p.cue pauses (.connectionTimeout late) = .nothing := if_neg other
      rw [cue] at h
      cases h
    refine ⟨p.note (.timedOut late), rfl, rfl, ?_⟩
    change ((onConnectionTimeout late p).finish pauses).phone = _
    unfold onConnectionTimeout
    rw [Job.finish_read_bind, if_pos connecting]
    rfl
  | deviceLost lost profile =>
    let q := (p.removeDevice lost profile).2
    let told := q.tell .deviceListChanged
    let unused : Phone := { told with machine := told.machine.unuse lost }
    have cue : p.cue pauses (.deviceLost lost profile) =
      if (p.removeDevice lost profile).1 ∧ p.machine.state.liveAddress = some lost ∧
        ¬q.registry.isConnected lost then q.fallBackCue pauses else .nothing := rfl
    rw [cue] at h
    split at h
    · rename_i falls
      obtain ⟨removed, live, gone⟩ := falls
      refine ⟨unused, rfl, rfl, ?_⟩
      change ((onDeviceLost lost profile p).finish pauses).phone = _
      rw [onDeviceLost_finish, if_pos removed, if_neg gone, if_pos live]
    · cases h
  | audioOn on =>
    unfold cue at h
    dsimp only at h
    split at h <;> cases h
  | connect requested => exact absurd h unconnected
  | retryConnect | beginTransition =>
    unfold cue at h
    dsimp only at h
    split at h
    · exact absurd h unconnected
    · cases h
  | _ => cases h

/-- When audio has arrived at a device, that is claimed. -/
theorem turn_claimed (opened : p.closed = false) (hs : p.machine.state ≠ .connected address) {turn : Turn}
    (h : (p.turn turn).machine.state = .connected address) : (p.turn turn).Claimed address := by
  rcases p.turn_obeys turn with same | ⟨pauses, message, rest, rfl, queued, obeys⟩
  · exact absurd (same.symm.trans h) hs
  let taken : Phone := { p with inbox := rest }
  let noted := taken.record (.handled message)
  let acted := ((act message noted).finish pauses).phone
  have ends : p.turn (.handle pauses) = acted.accounted message taken.machine.state := by
    rw [turn_handle queued]
    exact taken.handled_eq message pauses
  have state : acted.machine.state = .connected address := by
    have same : (p.turn (.handle pauses)).route = acted.route := by
      rw [turn_handle queued]
      exact taken.handled_route pauses message
    exact (congrArg Route.state same).symm.trans h
  have cue : noted.cue pauses message = taken.cue pauses message := taken.cue_record pauses _ message
  have claimed : acted.Claimed address := by
    rcases RouteState.after_eq_connected (obeys.state.symm.trans h) with same | on | back
    · exact absurd same hs
    · obtain rfl : message = .audioOn address := audioOn_of_cue on
      change (noted.onAudioOn address).machine.state = _ at state
      change (noted.onAudioOn address).Claimed address
      unfold onAudioOn at state ⊢
      split
      · rename_i known
        rw [if_pos known] at state
        have opened' : noted.closed = false := opened
        exact moveTo_claimed opened' hs state
      · rename_i unknown
        rw [if_neg unknown] at state
        exact absurd state hs
    · obtain ⟨r, before, opened', moved⟩ := act_fallBack (cue.trans back)
      change ((act message noted).finish pauses).phone.machine.state = _ at state
      change ((act message noted).finish pauses).phone.Claimed address
      rw [moved] at state ⊢
      have hs' : r.machine.state ≠ .connected address := by
        rw [before]
        exact hs
      exact moveToActualState_claimed (opened'.trans opened) hs' state
  rw [ends]
  exact claimed.of_same (acted.accounted_touches message _).services (acted.inbox_accounted message _)

end Arrival

/-- How often audio was released. -/
def releases (p : Phone) : Nat := p.route.operations.count .audioReleased

section Stay

/-- A connect that releases nothing, while audio is on a device, does nothing to the services. -/
theorem connect_services (hs : p.machine.state = .connected address) {requested : Option Address}
    {attempt : Nat} {pauses : Pauses}
    (unreleased : ((connect requested attempt p).finish pauses).phone.releases = p.releases) :
    ((connect requested attempt p).finish pauses).phone.services = p.services := by
  let q := p.requested attempt
  obtain ⟨services, state, recent, -⟩ := p.requested_same attempt
  have route := p.connect_route pauses requested attempt
  rw [← registry_of_services services, ← recent] at route
  unfold releases at unreleased
  rw [route] at unreleased
  rw [connect_finish, ← services]
  cases found : q.registry.connectTarget requested q.machine.recent with
  | none =>
    change ((q.note (.noDevices requested)).post (.transitionFailed requested)).services = q.services
    exact services_post _ _
  | some target =>
    rcases q.machine.state.live_cases target with connected | connecting | other
    · rw [connectEnds_connected connected]
      rfl
    · rw [connectEnds_connecting connecting]
    · -- Audio on the other device would be released.
      rw [found] at unreleased
      have switches : p.machine.state.operationsFor target = [.audioReleased, .audioRequested target] := by
        rw [state] at other
        unfold RouteState.operationsFor
        rw [if_neg other, hs]
        rfl
      change (_ ++ p.machine.state.operationsFor target).count _ = _ at unreleased
      rw [switches, List.count_append] at unreleased
      exact absurd unreleased (by simp)

theorem carryingAudio_communication {pauses : Pauses} (only : pauses.Only Outside.SparesStored) :
    ((carryingAudio p).finish pauses).phone.registry.communication = p.registry.communication := by
  unfold carryingAudio
  rw [Job.finish_read_bind]
  cases p.registry.active.classicHeadset with
  | none => rfl
  | some headset =>
    dsimp only
    rw [Job.finish_bind]
    rcases Job.finish_awaitHeadset p pauses with waited | waited
    · rw [waited]
      rfl
    · rw [waited]
      exact outsides_communication (only 0)

theorem moveToActualState_storedKind (hs : p.machine.state = .connected address) {pauses : Pauses}
    (stays : ((moveToActualState p).finish pauses).phone.machine.state = .connected address)
    (only : pauses.Only Outside.SparesStored) :
    ((moveToActualState p).finish pauses).phone.registry.storedKind address =
      p.registry.storedKind address := by
  have undisturbed := ((carryingAudio_undisturbing p).finish pauses).1
  have communication := p.carryingAudio_communication only
  unfold moveToActualState at stays ⊢
  rw [Job.finish_bind] at stays ⊢
  generalize (carryingAudio p).finish pauses = found at undisturbed communication stays ⊢
  obtain ⟨carrier, r, rest⟩ := found
  -- The machine stays where it is, so the move changes nothing.
  have moved (target : RouteState) (h : (r.moveTo target).machine.state = .connected address) :
      (r.moveTo target).registry.storedKind address = p.registry.storedKind address := by
    have state : (r.moveTo target).machine.state = target := congrArg Route.state (r.route_moveTo target)
    have still : target = r.machine.state := by
      rw [undisturbed.machine, hs]
      exact state.symm.trans h
    rw [r.moveTo_same still]
    exact Registry.storedKind_of_communication communication
  cases carrier with
  | none => exact moved _ stays
  | some found => exact moved _ stays

theorem act_storedKind (hs : p.machine.state = .connected address) {message : Message} {pauses : Pauses}
    (simple : ∀ origin destination destinationActive ticket,
      message ≠ .beginTransition origin destination destinationActive ticket)
    (kept : message.isLossOf address = false)
    (stays : ((act message p).finish pauses).phone.machine.state = .connected address)
    (unreleased : ((act message p).finish pauses).phone.releases = p.releases)
    (only : pauses.Only Outside.SparesStored) :
    ((act message p).finish pauses).phone.registry.storedKind address =
      p.registry.storedKind address := by
  have same {q : Phone} (h : q.services = p.services) :
      q.registry.storedKind address = p.registry.storedKind address := by
    rw [registry_of_services h]
  have answered {requested : Option Address} {attempt : Nat} {outcome : ConnectOutcome}
      (h : (((connect requested attempt p).finish pauses).phone.onConnectOutcome outcome).releases =
        p.releases) :
      (((connect requested attempt p).finish pauses).phone.onConnectOutcome outcome).services =
        p.services := by
    refine (onConnectOutcome_touches _ outcome).services.trans (connect_services hs ?_)
    unfold releases at h ⊢
    rwa [route_onConnectOutcome] at h
  cases message with
  | deviceAdded device profile =>
    have added : (p.addDevice device profile).2.registry.communication = p.registry.communication :=
      Registry.communication_connect p.membership device profile
    change (p.onDeviceAdded device profile).registry.storedKind address = _
    rcases p.onDeviceAdded_eq device profile with h | h <;>
      (rw [h]; exact Registry.storedKind_of_communication added)
  | deviceLost lost profile =>
    have other : lost ≠ address := of_decide_eq_false kept
    have removed : (p.removeDevice lost profile).2.registry.storedKind address =
        p.registry.storedKind address := Registry.storedKind_disconnect other profile
    have dead : p.machine.state.liveAddress ≠ some lost := by
      rw [hs]
      exact fun he => other (Option.some.inj he).symm
    change ((onDeviceLost lost profile p).finish pauses).phone.registry.storedKind address = _
    rw [onDeviceLost_finish, if_neg dead]
    split
    · split
      · exact removed
      · exact removed
    · exact removed
  | activeDeviceChanged profile active =>
    change (p.onActiveDeviceChanged profile active).registry.storedKind address = _
    rcases p.onActiveDeviceChanged_eq profile active with h | h | h <;> (rw [h]; rfl)
  | connect requested =>
    rw [act_connect_finish] at unreleased ⊢
    exact same (answered unreleased)
  | retryConnect again attempt =>
    rw [act_retryConnect_finish] at unreleased ⊢
    split
    · rename_i due
      rw [if_pos due] at unreleased
      exact same (answered unreleased)
    · rfl
  | disconnect =>
    change ((disconnect p).finish pauses).phone.route.operations.count _ = _ at unreleased
    rw [disconnect_route, List.count_append] at unreleased
    exact absurd unreleased (by simp [releases])
  | connectionTimeout late =>
    have other : p.machine.state ≠ .connecting late := by
      rw [hs]
      nofun
    change ((onConnectionTimeout late p).finish pauses).phone.registry.storedKind address = _
    unfold onConnectionTimeout
    rw [Job.finish_read_bind, if_neg other]
    rfl
  | audioOn on =>
    change (p.onAudioOn on).machine.state = _ at stays
    change (p.onAudioOn on).registry.storedKind address = _
    unfold onAudioOn at stays ⊢
    split
    · rename_i known
      rw [if_pos known] at stays
      have state : (p.moveTo (.connected on)).machine.state = .connected on :=
        congrArg Route.state (p.route_moveTo _)
      rw [p.moveTo_same ((state.symm.trans stays).trans hs.symm)]
    · rfl
  | audioLost lost =>
    cases lost with
    | none => exact moveToActualState_storedKind hs stays only
    | some lost =>
      change ((onAudioLost (some lost) p).finish pauses).phone.machine.state = _ at stays
      change ((onAudioLost (some lost) p).finish pauses).phone.registry.storedKind address = _
      rw [onAudioLost_some] at stays ⊢
      split
      · rename_i live
        rw [if_pos live] at stays
        exact moveToActualState_storedKind hs stays only
      · rfl
  | beginTransition => exact absurd rfl (simple _ _ _ _)
  | confirmation | transitionFailed | transitionTimeout => exact same (p.services_track _)
  | switchToBaseline | query => rfl

theorem handled_begin_storedKind (hs : p.machine.state = .connected address)
    {origin destination : AudioRoute} {destinationActive : Bool} {ticket : Ticket} {pauses : Pauses}
    (unreleased : (p.handled (.beginTransition origin destination destinationActive ticket) pauses).releases =
      p.releases) :
    (p.handled (.beginTransition origin destination destinationActive ticket)
      pauses).registry.storedKind address = p.registry.storedKind address := by
  let message : Message := .beginTransition origin destination destinationActive ticket
  let noted := p.record (.handled message)
  let begun := noted.prepared origin destination destinationActive
  let actions := (p.tracker.begin origin destination destinationActive).2.1
  by_cases connects : .connectBluetooth destination.address ∈ actions
  · obtain ⟨services, machine, route⟩ : begun.services = noted.services ∧ begun.machine = noted.machine ∧
        begun.route = noted.route := noted.begun_same origin destination destinationActive
    have state : begun.machine.state = .connected address := (congrArg Machine.state machine).trans hs
    let connected := (connect destination.address 0 begun).finish pauses
    let performed := connected.phone.record (.performed (.connectBluetooth destination.address))
    let changed := (performed.onConnectOutcome connected.value).onStateChanged p.machine.state
    have ends : p.handled message pauses = changed.concluded ticket p.tracker.nextId :=
      p.handled_begin_connect pauses ticket connects
    have same : changed.services = connected.phone.services :=
      ((onConnectOutcome_touches performed _).trans (onStateChanged_touches _ _)).services
    have operations : changed.route = connected.phone.route := by
      rw [route_onStateChanged, route_onConnectOutcome]
      exact route_record _ rfl
    have earlier : begun.releases = p.releases := by
      unfold Phone.releases
      rw [route, p.route_record rfl]
    have unreleased' : connected.phone.releases = begun.releases := by
      rw [earlier, ← unreleased]
      unfold Phone.releases
      rw [ends, route_concluded, operations]
    have kept : (p.handled message pauses).services = p.services := by
      rw [ends, concluded_services, same, connect_services state unreleased', services]
      rfl
    rw [registry_of_services kept]
  by_cases releases : .disconnectBluetooth ∈ actions
  · have tears : p.TearsDown message := releases
    have route := tears.route pauses
    unfold Phone.releases at unreleased
    rw [route, List.count_append] at unreleased
    exact absurd unreleased (by simp)
  · rcases TransitionPlan.between_choice (TransitionPlan.between_unconnected connects) releases with
      nothing | ⟨action, choice, one⟩
    · have ends : p.handled message pauses = begun.concluded ticket p.tracker.nextId := by
        have plan : (p.tracker.begin origin destination destinationActive).2.1 = [] := nothing
        unfold handled
        rw [handle_begin_eq, plan]
        rfl
      have kept : (p.handled message pauses).services = p.services := by
        rw [ends, concluded_services]
        exact noted.prepared_services origin destination destinationActive
      rw [registry_of_services kept]
    · obtain ⟨q, done, services⟩ := p.handle_begin_choice ticket choice one
      have ends : p.handled message pauses = q := by
        unfold handled
        rw [done]
        rfl
      rw [ends, registry_of_services services]
      exact Registry.storedKind_of_communication (p.choose_communication action)

theorem handled_storedKind (hs : p.machine.state = .connected address) {message : Message}
    {pauses : Pauses} (kept : message.isLossOf address = false)
    (stays : (p.handled message pauses).machine.state = .connected address)
    (unreleased : (p.handled message pauses).releases = p.releases)
    (only : pauses.Only Outside.SparesStored) :
    (p.handled message pauses).registry.storedKind address = p.registry.storedKind address := by
  by_cases begins : ∃ origin destination destinationActive ticket,
    message = .beginTransition origin destination destinationActive ticket
  · obtain ⟨origin, destination, destinationActive, ticket, rfl⟩ := begins
    exact handled_begin_storedKind hs unreleased
  · let noted := p.record (.handled message)
    let acted := ((act message noted).finish pauses).phone
    have route : (p.handled message pauses).route = acted.route := p.handled_route pauses message
    have services : (p.handled message pauses).services = acted.services := by
      rw [handled_eq]
      exact (acted.accounted_touches message _).services
    have stays' : acted.machine.state = .connected address := (congrArg Route.state route).symm.trans stays
    have unreleased' : acted.releases = noted.releases := by
      unfold releases at unreleased ⊢
      rw [← route, unreleased, p.route_record rfl]
    have simple (origin destination : AudioRoute) (destinationActive : Bool) (ticket : Ticket) :
        message ≠ .beginTransition origin destination destinationActive ticket :=
      fun he => begins ⟨_, _, _, _, he⟩
    rw [registry_of_services services]
    exact act_storedKind (p := noted) hs simple kept stays' unreleased' only

theorem turn_storedKind (hs : p.machine.state = .connected address) {turn : Turn}
    (kept : p.handles (Message.isLossOf address) turn = false)
    (stays : (p.turn turn).machine.state = .connected address)
    (unreleased : (p.turn turn).releases = p.releases) (only : turn.Only Outside.SparesStored) :
    (p.turn turn).registry.storedKind address = p.registry.storedKind address := by
  cases turn with
  | outside o => exact Registry.storedKind_of_communication (outside_communication only)
  | handle pauses =>
    cases hi : p.inbox with
    | nil => rw [turn_handle_nil hi]
    | cons message rest =>
      rw [turn_handle hi] at stays unreleased ⊢
      exact handled_storedKind (p := { p with inbox := rest }) hs (handles_of_queued hi kept) stays
        unreleased only

theorem releases_turn (p : Phone) (turn : Turn) : p.releases ≤ (p.turn turn).releases :=
  (p.operations_turn turn).sublist.count_le _

theorem releases_turns (p : Phone) (turns : List Turn) : p.releases ≤ (p.turns turns).releases := by
  induction turns using List.reverseRecOn with
  | nil => exact Nat.le_refl _
  | append_singleton turns turn ih =>
    rw [turns_concat]
    exact Nat.le_trans ih (releases_turn _ turn)

/-- As long as audio stays on the device, and is not released in between, the device is stored as it was
when audio arrived there. -/
theorem turns_storedKind (hs : p.machine.state = .connected address) {turns : List Turn}
    (stays : p.Stays turns) (kept : p.handlesNone (Message.isLossOf address) turns = true)
    (unreleased : (p.turns turns).releases = p.releases)
    (only : ∀ turn ∈ turns, turn.Only Outside.SparesStored) :
    (p.turns turns).registry.storedKind address = p.registry.storedKind address := by
  -- From the last turn: nothing was released before it, as nothing is taken back.
  induction turns using List.reverseRecOn with
  | nil => rfl
  | append_singleton turns turn ih =>
    obtain ⟨earlier, last⟩ := (p.stays_concat turns turn).mp stays
    obtain ⟨keptEarlier, keptLast⟩ := handlesNone_concat.mp kept
    rw [turns_concat] at unreleased ⊢
    have unreleasedEarlier : (p.turns turns).releases = p.releases := by
      refine Nat.le_antisymm ?_ (p.releases_turns turns)
      rw [← unreleased]
      exact releases_turn _ turn
    have unreleasedLast : ((p.turns turns).turn turn).releases = (p.turns turns).releases :=
      unreleased.trans unreleasedEarlier.symm
    have state : (p.turns turns).machine.state = .connected address :=
      (earlier turns List.prefix_rfl).trans hs
    have onlyLast : turn.Only Outside.SparesStored :=
      only turn (List.mem_append_right _ List.mem_cons_self)
    rw [turn_storedKind state keptLast (last.trans hs) unreleasedLast onlyLast]
    exact ih earlier keptEarlier unreleasedEarlier fun t ht => only t (List.mem_append_left _ ht)

end Stay

end Phone
end CallAudio

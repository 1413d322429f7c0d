import CallAudio.Proofs.Deadline
import CallAudio.Proofs.Operations

/-! The automaton of the route state. What a message comes to for the state is a cue, which follows from
the phone and the answers of the platform; the state after the message follows from the cue. -/
namespace CallAudio

/-- What a message comes to: audio on a device that is known; audio falling back to the device that
carries it, if any does; a connect to the device it is resolved to, if it is to any, with whether the
platform accepted it; or nothing of these. -/
inductive Cue
  | nothing
  | audioOn (address : Address)
  | fallBack (carrier : Option Address)
  | connect (target : Option Address) (accepted : Bool)
deriving DecidableEq

namespace RouteState

def after (s : RouteState) : Cue → RouteState
  | .nothing => s
  | .audioOn address => .connected address
  | .fallBack (some address) => .connected address
  | .fallBack none => .audioOff
  | .connect (some target) true => if s.liveAddress = some target then s else .connecting target
  | .connect _ _ => s

/-- The operations for a connect: nothing is asked for a device that is live, and another one that is
live is released first. -/
def operationsFor (s : RouteState) (target : Address) : List Happening :=
  if s.liveAddress = some target then []
  else (if s.liveAddress.isSome then [.audioReleased] else []) ++ [.audioRequested target]

variable {s : RouteState} {target : Address}

theorem after_connect_live (h : s.liveAddress = some target) (accepted : Bool) :
    s.after (.connect (some target) accepted) = s := by
  cases accepted
  · rfl
  · exact if_pos h

/-- A connect leaves the state as it is, or it was accepted for a device that was not live. -/
theorem after_connect_cases (s : RouteState) (target : Option Address) (accepted : Bool) :
    s.after (.connect target accepted) = s ∨ ∃ address, target = some address ∧
      s.liveAddress ≠ some address ∧ s.after (.connect target accepted) = .connecting address := by
  cases target with
  | none => exact Or.inl rfl
  | some address =>
    cases accepted with
    | false => exact Or.inl rfl
    | true =>
      by_cases live : s.liveAddress = some address
      · exact Or.inl (if_pos live)
      · exact Or.inr ⟨address, rfl, live, if_neg live⟩

/-- Audio that falls back is nowhere or on a device by then. -/
theorem after_fallBack_ne (s : RouteState) (carrier : Option Address) (address : Address) :
    s.after (.fallBack carrier) ≠ .connecting address := by
  cases carrier <;> exact nofun

theorem operationsFor_live (h : s.liveAddress = some target) : s.operationsFor target = [] := if_pos h

theorem requested_mem_operationsFor (h : s.liveAddress ≠ some target) :
    .audioRequested target ∈ s.operationsFor target := by
  rw [operationsFor, if_neg h]
  exact List.mem_append_right _ List.mem_cons_self

end RouteState

/-- What an action releases. -/
def RouteAction.released : RouteAction → List Happening
  | .disconnectBluetooth => [.audioReleased]
  | _ => []

namespace Phone

def fallBackCue (p : Phone) (pauses : Pauses) : Cue :=
  .fallBack ((carryingAudio p).finish pauses).value

def connectCue (p : Phone) (requested : Option Address) (pauses : Pauses) : Cue :=
  match p.registry.connectTarget requested p.machine.recent with
  | none => .connect none false
  | some target =>
    .connect (some target) ((requestAudio target (p.isSwitching target) p).finish pauses).value.isOk

/-- What a message comes to on a phone, given how the waits for the headset service end. -/
def cue (p : Phone) (pauses : Pauses) : Message → Cue
  | .audioOn address =>
    if p.machine.state.liveAddress = some address ∨ p.registry.isConnected address then
      .audioOn address
    else .nothing
  | .audioLost none => p.fallBackCue pauses
  | .audioLost (some address) =>
    if p.machine.state.liveAddress = some address then p.fallBackCue pauses else .nothing
  | .connectionTimeout address =>
    if p.machine.state = .connecting address then p.fallBackCue pauses else .nothing
  | .deviceLost address profile =>
    let (removed, q) := p.removeDevice address profile
    if removed ∧ p.machine.state.liveAddress = some address ∧ ¬q.registry.isConnected address then
      q.fallBackCue pauses
    else .nothing
  | .connect requested => p.connectCue requested pauses
  | .retryConnect address attempt =>
    if attempt ≤ maxRetries ∧ p.machine.state.liveAddress ≠ some address then
      p.connectCue (some address) pauses
    else .nothing
  | .beginTransition origin destination destinationActive _ =>
    if .connectBluetooth destination.address ∈
        (p.tracker.begin origin destination destinationActive).2.1 then
      p.connectCue destination.address pauses
    else .nothing
  | _ => .nothing

/-- Which messages come to what. Any message may come to nothing. -/
inductive ComesTo (p : Phone) (pauses : Pauses) : Message → Cue → Prop
  | nothing (message : Message) : ComesTo p pauses message .nothing
  | audioOn (address : Address) : ComesTo p pauses (.audioOn address) (.audioOn address)
  | fallBack (message : Message) (carrier : Option Address) :
      ComesTo p pauses message (.fallBack carrier)
  | connect (requested : Option Address) :
      ComesTo p pauses (.connect requested) (p.connectCue requested pauses)
  | retry {address : Address} {attempt : Nat}
      (due : attempt ≤ maxRetries ∧ p.machine.state.liveAddress ≠ some address) :
      ComesTo p pauses (.retryConnect address attempt) (p.connectCue (some address) pauses)
  | transition {origin destination : AudioRoute} {destinationActive : Bool} {ticket : Ticket}
      (connects : .connectBluetooth destination.address ∈
        (p.tracker.begin origin destination destinationActive).2.1) :
      ComesTo p pauses (.beginTransition origin destination destinationActive ticket)
        (p.connectCue destination.address pauses)

section
variable {p q : Phone}

theorem fallBackCue_of_services (h : p.services = q.services) (pauses : Pauses) :
    p.fallBackCue pauses = q.fallBackCue pauses := by
  unfold fallBackCue
  rw [(carryingAudio_byServices p q pauses h).value]

theorem connectCue_of_services (h : p.services = q.services)
    (hs : p.machine.state = q.machine.state) (hr : p.machine.recent = q.machine.recent)
    (requested : Option Address) (pauses : Pauses) :
    p.connectCue requested pauses = q.connectCue requested pauses := by
  unfold connectCue isSwitching
  rw [registry_of_services h, hr, hs]
  cases q.registry.connectTarget requested q.machine.recent with
  | none => rfl
  | some target =>
    dsimp only
    rw [(requestAudio_byServices target _ p q pauses h).value]

end

variable (p : Phone) (pauses : Pauses)

/-- That a message is noted makes no difference to what it comes to. -/
theorem cue_record (happening : Happening) (message : Message) :
    (p.record happening).cue pauses message = p.cue pauses message := by
  have services : (p.record happening).services = p.services := rfl
  have fallBack : (p.record happening).fallBackCue pauses = p.fallBackCue pauses :=
    fallBackCue_of_services services pauses
  have connect (requested : Option Address) :
      (p.record happening).connectCue requested pauses = p.connectCue requested pauses :=
    connectCue_of_services services rfl rfl requested pauses
  cases message with
  | audioLost address =>
    cases address with
    | none => exact fallBack
    | some address =>
      unfold cue
      dsimp only
      rw [fallBack]
      rfl
  | connectionTimeout address =>
    unfold cue
    dsimp only
    rw [fallBack]
    rfl
  | deviceLost address profile =>
    have services : ((p.record happening).removeDevice address profile).2.services =
        (p.removeDevice address profile).2.services := rfl
    have left := fallBackCue_of_services services pauses
    unfold cue
    dsimp only
    rw [left]
    rfl
  | connect requested => exact connect requested
  | retryConnect address attempt =>
    unfold cue
    dsimp only
    rw [connect]
    rfl
  | beginTransition origin destination destinationActive =>
    unfold cue
    dsimp only
    rw [connect]
    rfl
  | _ => rfl

section
variable {p pauses} {requested : Option Address} {target : Address} {accepted : Bool}

theorem connectCue_none (h : p.registry.connectTarget requested p.machine.recent = none) :
    p.connectCue requested pauses = .connect none false := by
  unfold connectCue
  rw [h]

theorem connectCue_some (h : p.registry.connectTarget requested p.machine.recent = some target) :
    p.connectCue requested pauses = .connect (some target)
      ((requestAudio target (p.isSwitching target) p).finish pauses).value.isOk := by
  unfold connectCue
  rw [h]

theorem connectTarget_of_connectCue (h : p.connectCue requested pauses = .connect (some target) accepted) :
    p.registry.connectTarget requested p.machine.recent = some target := by
  unfold connectCue at h
  split at h
  · cases h
  · rename_i found
    obtain rfl := Option.some.inj (Cue.connect.inj h).1
    exact found

end

theorem connectCue_eq (requested : Option Address) :
    ∃ target accepted, p.connectCue requested pauses = .connect target accepted := by
  unfold connectCue
  split <;> exact ⟨_, _, rfl⟩

theorem comesTo (message : Message) : ComesTo p pauses message (p.cue pauses message) := by
  cases message with
  | audioOn address =>
    unfold cue
    dsimp only
    split
    · exact .audioOn address
    · exact .nothing _
  | audioLost address =>
    cases address with
    | none => exact .fallBack _ _
    | some address =>
      unfold cue
      dsimp only
      split
      · exact .fallBack _ _
      · exact .nothing _
  | connectionTimeout | deviceLost =>
    unfold cue
    dsimp only
    split
    · exact .fallBack _ _
    · exact .nothing _
  | connect requested => exact .connect requested
  | retryConnect address attempt =>
    unfold cue
    dsimp only
    split
    · exact .retry ‹_›
    · exact .nothing _
  | beginTransition origin destination destinationActive ticket =>
    unfold cue
    dsimp only
    split
    · exact .transition ‹_›
    · exact .nothing _
  | _ => exact .nothing _

theorem moveToActualState_route : ((moveToActualState p).finish pauses).phone.route =
    ⟨p.machine.state.after (p.fallBackCue pauses), p.route.operations⟩ := by
  have undisturbed := ((carryingAudio_undisturbing p).finish pauses).1
  unfold moveToActualState fallBackCue
  rw [Job.finish_bind]
  generalize (carryingAudio p).finish pauses = found at undisturbed ⊢
  have operations : found.phone.route.operations = p.route.operations :=
    congrArg Route.operations (route_of_undisturbed undisturbed)
  obtain ⟨carrier, q, rest⟩ := found
  cases carrier with
  | none => exact (q.route_moveTo _).trans (Route.ext rfl operations)
  | some address => exact (q.route_moveTo _).trans (Route.ext rfl operations)

/-- The route after a connect. -/
theorem connect_route (requested : Option Address) (attempt : Nat) :
    ((connect requested attempt p).finish pauses).phone.route =
      ⟨p.machine.state.after (p.connectCue requested pauses), p.route.operations ++
        ((p.registry.connectTarget requested p.machine.recent).map
          p.machine.state.operationsFor).getD []⟩ := by
  let q := p.requested attempt
  obtain ⟨services, state, recent, route⟩ := p.requested_same attempt
  rw [← connectCue_of_services services state recent, ← registry_of_services services, ← recent,
    ← state, ← route, connect_finish]
  cases found : q.registry.connectTarget requested q.machine.recent with
  | none =>
    have left : ((q.note (.noDevices requested)).post (.transitionFailed requested)).route = q.route :=
      route_post _ _
    rw [connectCue_none found]
    exact left.trans (Route.ext rfl (List.append_nil _).symm)
  | some target =>
    let asked := (requestAudio target (q.isSwitching target) q).finish pauses
    rw [connectCue_some found]
    change _ = (⟨_, q.route.operations ++ q.machine.state.operationsFor target⟩ : Route)
    -- A live device is confirmed, or let come up, and asked for nothing.
    have live (h : q.machine.state.liveAddress = some target) :
        q.route = ⟨q.machine.state.after (.connect (some target) asked.value.isOk),
          q.route.operations ++ q.machine.state.operationsFor target⟩ := by
      rw [RouteState.after_connect_live h, RouteState.operationsFor_live h, List.append_nil]
      rfl
    rcases q.machine.state.live_cases target with connected | connecting | other
    · rw [connectEnds_connected connected]
      exact (route_record q rfl).trans (live (by rw [connected]; rfl))
    · rw [connectEnds_connecting connecting]
      exact live (by rw [connecting]; rfl)
    · have switching : q.isSwitching target = q.machine.state.liveAddress.isSome := by
        unfold isSwitching
        cases hl : q.machine.state.liveAddress with
        | none => rfl
        | some address => exact decide_eq_true fun he => other (by rw [hl, he])
      have operations : asked.phone.route.operations =
          q.route.operations ++ q.machine.state.operationsFor target := by
        have finished := (q.requestAudio_finish target (q.isSwitching target) pauses).2
        unfold RouteState.operationsFor
        rw [if_neg other, ← List.append_assoc, ← switching]
        exact congrArg Route.operations finished
      rw [connectEnds_other other, startConnect_route]
      refine Route.ext ?_ operations
      change (if asked.value.isOk then .connecting target else q.machine.state) =
        q.machine.state.after (.connect (some target) asked.value.isOk)
      cases asked.value.isOk
      · rfl
      · exact (if_neg other).symm

/-- A teardown leaves the state to the loss that follows. -/
theorem disconnect_route : ((disconnect p).finish pauses).phone.route =
    ⟨p.machine.state, p.route.operations ++ [.audioReleased]⟩ := by
  let noted := p.dropRetry.note (.disconnectRequested p.dropRetry.machine.state)
  have dropped : p.dropRetry.route = p.route := route_of_view p.view_dropRetry
  have same : noted.route = p.route := (route_of_view (view_note _ _)).trans dropped
  have state : noted.machine.state = p.machine.state := congrArg Route.state same
  have released : Undisturbed (noted.record .audioReleased)
      ((disconnectAudio noted).finish pauses).phone := (noted.disconnectAudio_undisturbed.finish pauses).1
  calc ((disconnect p).finish pauses).phone.route
      = ((disconnectAudio noted).finish pauses).phone.route := by
        unfold disconnect
        rw [Job.finish_update_bind, Job.finish_update_bind]
    _ = (noted.record .audioReleased).route := route_of_undisturbed released
    _ = ⟨noted.machine.state, noted.route.operations ++ [.audioReleased]⟩ :=
        noted.route_recordOperation rfl
    _ = ⟨p.machine.state, p.route.operations ++ [.audioReleased]⟩ := by rw [same, state]

theorem route_setCommunicationKind (kind : EndpointKind) : (p.setCommunicationKind kind).route = p.route := by
  obtain ⟨platform, asked⟩ := p.setCommunicationKind_eq kind
  rcases asked with he | he
  · rw [he]
    rfl
  · rw [he]
    exact route_track _ _

/-- Actions other than a connect leave the state to the events that follow. -/
theorem perform_route (action : RouteAction) (h : ∀ address, action ≠ .connectBluetooth address) :
    ((perform action p).finish pauses).phone.route =
      ⟨p.machine.state, p.route.operations ++ action.released⟩ := by
  have unreleased : p.route = ⟨p.machine.state, p.route.operations ++ []⟩ :=
    Route.ext rfl (List.append_nil _).symm
  cases action with
  | connectBluetooth address => exact absurd rfl (h address)
  | disconnectBluetooth =>
    unfold perform
    rw [Job.finish_bind]
    exact (route_record _ rfl).trans (p.disconnect_route pauses)
  | setCommunicationDevice kind =>
    exact (route_setCommunicationKind _ kind).trans ((p.route_record rfl).trans unreleased)
  | clearCommunicationDevice => exact (route_record _ rfl).trans unreleased

/-- After an action its change of state is accounted for, and then comes the rest. -/
theorem performAll_cons_finish (action : RouteAction) (rest : List RouteAction) :
    let performed := (perform action p).finish pauses
    (performAll (action :: rest) p).finish pauses =
      (performAll rest (performed.phone.onStateChanged p.machine.state)).finish performed.pauses := by
  intro performed
  rw [performAll, Job.finish_read_bind, Job.finish_bind, Job.finish_update_bind]

theorem performAll_route (actions : List RouteAction)
    (h : ∀ address, RouteAction.connectBluetooth address ∉ actions) :
    ((performAll actions p).finish pauses).phone.route =
      ⟨p.machine.state, p.route.operations ++ actions.flatMap RouteAction.released⟩ := by
  induction actions generalizing p pauses with
  | nil => exact Route.ext rfl (List.append_nil _).symm
  | cons action rest ih =>
    let performed := (perform action p).finish pauses
    let accounted := performed.phone.onStateChanged p.machine.state
    have route : accounted.route = ⟨p.machine.state, p.route.operations ++ action.released⟩ := by
      refine (performed.phone.route_onStateChanged _).trans ?_
      exact p.perform_route pauses action fun address he => h address (he ▸ List.mem_cons_self)
    have state : accounted.machine.state = p.machine.state := congrArg Route.state route
    have others : ∀ address, RouteAction.connectBluetooth address ∉ rest :=
      fun address mem => h address (List.mem_cons_of_mem action mem)
    calc ((performAll (action :: rest) p).finish pauses).phone.route
        = ((performAll rest accounted).finish performed.pauses).phone.route := by
          rw [performAll_cons_finish]
      _ = ⟨accounted.machine.state,
            accounted.route.operations ++ rest.flatMap RouteAction.released⟩ :=
          ih accounted performed.pauses others
      _ = ⟨p.machine.state,
            p.route.operations ++ (action :: rest).flatMap RouteAction.released⟩ := by
          rw [route, state, List.flatMap_cons, List.append_assoc]

/-- The end of the one action that a transition to Bluetooth needs. -/
theorem performAll_connect_finish (requested : Option Address) :
    let connected := (connect requested 0 p).finish pauses
    ((performAll [.connectBluetooth requested] p).finish pauses).phone =
      ((connected.phone.record (.performed (.connectBluetooth requested))).onConnectOutcome
        connected.value).onStateChanged p.machine.state := by
  intro connected
  have perform : (perform (.connectBluetooth requested) p).finish pauses =
      ⟨(), (connected.phone.record (.performed (.connectBluetooth requested))).onConnectOutcome
        connected.value, connected.pauses⟩ := by
    unfold Phone.perform
    exact Job.finish_bind _ _ _ _
  rw [performAll_cons_finish, perform]
  rfl

theorem performAll_connect_route (requested : Option Address) :
    ((performAll [.connectBluetooth requested] p).finish pauses).phone.route =
      ((connect requested 0 p).finish pauses).phone.route := by
  rw [performAll_connect_finish]
  refine (route_onStateChanged _ _).trans ?_
  exact (route_onConnectOutcome _ _).trans (route_record _ rfl)

end Phone

namespace TransitionPlan

variable {active destinationActive : Bool} {origin destination : AudioRoute}
  {address : Option Address}

theorem leaving_actions :
    .connectBluetooth address ∉ (leaving origin destination destinationActive).actions := by
  unfold leaving
  dsimp only
  split <;> split <;> simp

theorem leaving_of_bluetooth (origin : AudioRoute) (h : destination.isBluetooth = true) :
    (leaving origin destination true).actions = [] := by
  unfold leaving
  simp [h]

theorem entering_actions (h : .connectBluetooth address ∈ (entering destination).actions) :
    destination.isBluetooth = true ∧
      (entering destination).actions = [.connectBluetooth destination.address] := by
  unfold entering at h ⊢
  split at h
  · rename_i hb
    rw [if_pos hb]
    exact ⟨hb, rfl⟩
  · rw [List.mem_singleton] at h
    cases h

/-- A plan that connects to Bluetooth does nothing else, as the new device takes audio over from any
other. -/
theorem between_actions
    (h : .connectBluetooth address ∈ (between active origin destination destinationActive).actions) :
    (between active origin destination destinationActive).actions =
      [.connectBluetooth destination.address] := by
  unfold between at h ⊢
  dsimp only at h ⊢
  rcases List.mem_append.mp h with left | entered
  · split at left
    · exact absurd left leaving_actions
    · cases left
  · split at entered
    · rename_i enters
      obtain ⟨bluetooth, actions⟩ := entering_actions entered
      have active : destinationActive = true := (Bool.and_eq_true_iff.mp enters).1
      rw [if_pos enters, actions, active]
      split
      · rw [leaving_of_bluetooth origin bluetooth]
        rfl
      · rfl
    · cases entered

theorem between_unconnected (h : .connectBluetooth destination.address ∉
    (between active origin destination destinationActive).actions) (address : Option Address) :
    .connectBluetooth address ∉ (between active origin destination destinationActive).actions := by
  intro mem
  have only := between_actions mem
  rw [only] at h
  exact h List.mem_cons_self

end TransitionPlan

/-- The route after a message follows from its cue. -/
structure Obeys (cue : Cue) (r r' : Route) : Prop where
  state : r'.state = r.state.after cue
  operations : ∀ target accepted, cue = .connect (some target) accepted →
    r'.operations = r.operations ++ r.state.operationsFor target

namespace Obeys

variable {cue : Cue} {r r' : Route}

theorem of_state (h : r'.state = r.state.after cue)
    (hc : ∀ target accepted, cue ≠ .connect target accepted) : Obeys cue r r' :=
  ⟨h, fun _ _ he => absurd he (hc _ _)⟩

theorem nothing (h : r'.state = r.state) : Obeys .nothing r r' := of_state h fun _ _ he => nomatch he

end Obeys

namespace Phone

variable (p : Phone) (pauses : Pauses)

theorem connect_obeys (requested : Option Address) (attempt : Nat) :
    Obeys (p.connectCue requested pauses) p.route
      ((connect requested attempt p).finish pauses).phone.route := by
  rw [connect_route]
  refine ⟨rfl, fun target accepted hc => ?_⟩
  unfold connectCue at hc
  split at hc
  · cases hc
  · rename_i target' ht
    obtain rfl := Option.some.inj (Cue.connect.inj hc).1
    rw [ht]
    rfl

theorem moveToActualState_obeys : Obeys (p.fallBackCue pauses) p.route
    ((moveToActualState p).finish pauses).phone.route := by
  rw [moveToActualState_route]
  exact .of_state rfl fun _ _ he => nomatch he

/-- How the loss of a device over a profile ends. -/
theorem onDeviceLost_finish (lost : Address) (profile : Profile) :
    let q := (p.removeDevice lost profile).2
    let told := q.tell .deviceListChanged
    let unused : Phone := { told with machine := told.machine.unuse lost }
    (onDeviceLost lost profile p).finish pauses =
      if (p.removeDevice lost profile).1 then
        if q.registry.isConnected lost then ⟨(), told, pauses⟩
        else if p.machine.state.liveAddress = some lost then (moveToActualState unused).finish pauses
        else ⟨(), unused, pauses⟩
      else ⟨(), q, pauses⟩ := by
  intro q told unused
  have connected : told.registry.isConnected lost = q.registry.isConnected lost := rfl
  have state : unused.machine.state = p.machine.state := rfl
  unfold onDeviceLost
  rw [Job.finish_change_bind]
  split
  · rw [Job.finish_update_bind, Job.finish_read_bind, connected]
    split
    · rfl
    · rw [Job.finish_update_bind, Job.finish_read_bind, state]
      split
      · rfl
      · rfl
  · rfl

theorem onDeviceLost_obeys (address : Address) (profile : Profile) :
    Obeys (p.cue pauses (.deviceLost address profile)) p.route
      ((onDeviceLost address profile p).finish pauses).phone.route := by
  let q := (p.removeDevice address profile).2
  let told := q.tell .deviceListChanged
  let unused : Phone := { told with machine := told.machine.unuse address }
  have cue : p.cue pauses (.deviceLost address profile) =
      if (p.removeDevice address profile).1 ∧ p.machine.state.liveAddress = some address ∧
        ¬q.registry.isConnected address then q.fallBackCue pauses else .nothing := rfl
  have toldRoute : told.route = p.route := q.route_record rfl
  have unusedRoute : unused.route = p.route := toldRoute
  rw [cue, onDeviceLost_finish]
  by_cases removed : (p.removeDevice address profile).1 = true
  · rw [if_pos removed]
    by_cases connected : q.registry.isConnected address = true
    · rw [if_neg fun h => h.2.2 connected, if_pos connected]
      exact .nothing (congrArg Route.state toldRoute)
    · rw [if_neg connected]
      by_cases live : p.machine.state.liveAddress = some address
      · have services : unused.services = q.services := rfl
        have moved := moveToActualState_obeys unused pauses
        rw [unusedRoute, fallBackCue_of_services services] at moved
        rw [if_pos ⟨removed, live, connected⟩, if_pos live]
        exact moved
      · rw [if_neg fun h => live h.2.1, if_neg live]
        exact .nothing (congrArg Route.state unusedRoute)
  · rw [if_neg fun h => removed h.1, if_neg removed]
    exact .nothing rfl

/-- The begin of a transition, up to its actions, leaves the route and the services as they are. -/
theorem begun_same (origin destination : AudioRoute) (destinationActive : Bool) :
    let q := (p.begun origin destination destinationActive).startDeadline p.tracker.nextId
    q.services = p.services ∧ q.machine = p.machine ∧ q.route = p.route := by
  let b := p.begun origin destination destinationActive
  have route : (b.startDeadline p.tracker.nextId).route = p.route :=
    (route_of_view (b.view_startDeadline _)).trans (p.view.route_recorded rfl)
  refine ⟨?_, ?_, route⟩
  · change (b.startDeadline p.tracker.nextId).services = _
    rw [startDeadline_eq]
    rfl
  · change (b.startDeadline p.tracker.nextId).machine = _
    rw [startDeadline_eq]
    rfl

theorem beginTransition_obeys (origin destination : AudioRoute) (destinationActive : Bool)
    (ticket : Ticket) :
    Obeys (p.cue pauses (.beginTransition origin destination destinationActive ticket)) p.route
      ((beginTransition origin destination destinationActive p).finish pauses).phone.route := by
  let q := (p.begun origin destination destinationActive).startDeadline p.tracker.nextId
  let actions := (p.tracker.begin origin destination destinationActive).2.1
  let done := (performAll actions q).finish pauses
  obtain ⟨services, machine, route⟩ := p.begun_same origin destination destinationActive
  have ends : ((beginTransition origin destination destinationActive p).finish pauses).phone.route =
      done.phone.route := by
    have settled : (beginTransition origin destination destinationActive p).finish pauses =
        ((performAll actions >>= fun _ => do
          Job.update (track TransitionTracker.settle)
          return p.tracker.nextId) q).finish pauses := rfl
    rw [settled, Job.finish_bind]
    exact done.phone.route_track _
  rw [ends]
  change Obeys (if .connectBluetooth destination.address ∈ actions then
    p.connectCue destination.address pauses else .nothing) _ _
  by_cases connects : .connectBluetooth destination.address ∈ actions
  · have only : actions = [.connectBluetooth destination.address] :=
      TransitionPlan.between_actions connects
    have connected := q.connect_obeys pauses destination.address 0
    have cue : q.connectCue destination.address pauses = p.connectCue destination.address pauses :=
      connectCue_of_services services (congrArg Machine.state machine)
        (congrArg Machine.recent machine) _ _
    have performed : done.phone.route = ((connect destination.address 0 q).finish pauses).phone.route := by
      change ((performAll actions q).finish pauses).phone.route = _
      rw [only]
      exact q.performAll_connect_route pauses destination.address
    rw [if_pos connects, performed, ← cue]
    rwa [route] at connected
  · rw [if_neg connects]
    have state : done.phone.machine.state = q.machine.state :=
      congrArg Route.state (q.performAll_route pauses actions (TransitionPlan.between_unconnected connects))
    exact .nothing (state.trans (congrArg Machine.state machine))

/-- The begin of a transition to Bluetooth connects, hears how that went and what became of the state, and
is over with that. -/
theorem handled_begin_connect {origin destination : AudioRoute} {destinationActive : Bool} (ticket : Ticket)
    (connects : .connectBluetooth destination.address ∈
      (p.tracker.begin origin destination destinationActive).2.1) :
    let message : Message := .beginTransition origin destination destinationActive ticket
    let begun := (p.record (.handled message)).prepared origin destination destinationActive
    let connected := (connect destination.address 0 begun).finish pauses
    let performed := connected.phone.record (.performed (.connectBluetooth destination.address))
    p.handled message pauses =
      ((performed.onConnectOutcome connected.value).onStateChanged p.machine.state).concluded ticket
        p.tracker.nextId := by
  intro message begun connected performed
  have plan : (p.tracker.begin origin destination destinationActive).2.1 =
      [.connectBluetooth destination.address] := TransitionPlan.between_actions connects
  have machine : begun.machine = p.machine :=
    ((p.record (.handled message)).begun_same origin destination destinationActive).2.1
  change ((handle message p).finish pauses).phone = _
  rw [handle_begin_eq, plan, Step.finish_bind]
  change concluded _ _ ((performAll _ begun).finish pauses).phone = _
  rw [performAll_connect_finish, machine]

theorem act_connect_finish (requested : Option Address) :
    let connected := (connect requested 0 p).finish pauses
    ((act (.connect requested) p).finish pauses).phone =
      connected.phone.onConnectOutcome connected.value := by
  intro connected
  unfold act
  rw [Job.finish_bind]
  rfl

/-- A retry is a connect, unless the device is live or the retries are used up. -/
theorem retryConnect_finish (address : Address) (attempt : Nat) :
    (retryConnect address attempt p).finish pauses =
      if attempt ≤ maxRetries ∧ p.machine.state.liveAddress ≠ some address then
        let connected := (connect (some address) attempt p).finish pauses
        ⟨some connected.value, connected.phone, connected.pauses⟩
      else ⟨none, p, pauses⟩ := by
  rw [retryConnect_eq]
  split
  · exact Step.finish_bind _ _ _
  · rfl

theorem act_retryConnect_finish (address : Address) (attempt : Nat) :
    ((act (.retryConnect address attempt) p).finish pauses).phone =
      if attempt ≤ maxRetries ∧ p.machine.state.liveAddress ≠ some address then
        let connected := (connect (some address) attempt p).finish pauses
        connected.phone.onConnectOutcome connected.value
      else p := by
  unfold act
  rw [Job.finish_bind, retryConnect_finish]
  split <;> rfl

theorem retryConnect_obeys (address : Address) (attempt : Nat) :
    Obeys (p.cue pauses (.retryConnect address attempt)) p.route
      ((act (.retryConnect address attempt) p).finish pauses).phone.route := by
  rw [act_retryConnect_finish]
  change Obeys (if attempt ≤ maxRetries ∧ p.machine.state.liveAddress ≠ some address then
    p.connectCue (some address) pauses else .nothing) _ _
  split
  · dsimp only
    rw [route_onConnectOutcome]
    exact p.connect_obeys pauses (some address) attempt
  · exact .nothing rfl

theorem onConnectionTimeout_obeys (address : Address) :
    Obeys (p.cue pauses (.connectionTimeout address)) p.route
      ((onConnectionTimeout address p).finish pauses).phone.route := by
  change Obeys (if p.machine.state = .connecting address then p.fallBackCue pauses
    else .nothing) _ _
  unfold onConnectionTimeout
  rw [Job.finish_read_bind]
  split
  · have services : (p.note (.timedOut address)).services = p.services := rfl
    have moved := moveToActualState_obeys (p.note (.timedOut address)) pauses
    rw [fallBackCue_of_services services] at moved
    exact moved
  · exact .nothing rfl

theorem onAudioOn_obeys (address : Address) :
    Obeys (p.cue pauses (.audioOn address)) p.route (p.onAudioOn address).route := by
  change Obeys (if p.machine.state.liveAddress = some address ∨ p.registry.isConnected address then
    .audioOn address else .nothing) _ _
  unfold onAudioOn
  split
  · refine .of_state ?_ fun _ _ he => nomatch he
    exact congrArg Route.state (p.route_moveTo _)
  · exact .nothing rfl

theorem onAudioLost_some (lost : Address) : onAudioLost (some lost) p =
    if p.machine.state.liveAddress = some lost then moveToActualState p
    else .done () ((p.note (.unexpectedLoss lost p.machine.state)).tell .unexpectedStateChange) := by
  change (if p.machine.state.liveAddress = some lost then moveToActualState else _ : Job Unit) p = _
  split
  · rfl
  · rfl

theorem onAudioLost_obeys (address : Option Address) :
    Obeys (p.cue pauses (.audioLost address)) p.route
      ((onAudioLost address p).finish pauses).phone.route := by
  cases address with
  | none => exact p.moveToActualState_obeys pauses
  | some lost =>
    have cue : p.cue pauses (.audioLost (some lost)) =
        if p.machine.state.liveAddress = some lost then p.fallBackCue pauses else .nothing := rfl
    rw [cue, onAudioLost_some]
    split
    · exact p.moveToActualState_obeys pauses
    · exact .nothing rfl

theorem act_obeys (message : Message) :
    Obeys (p.cue pauses message) p.route ((act message p).finish pauses).phone.route := by
  cases message with
  | deviceAdded device profile =>
    refine .nothing ?_
    change (p.onDeviceAdded device profile).machine.state = _
    rcases p.onDeviceAdded_eq device profile with h | h <;> (rw [h]; rfl)
  | deviceLost address profile => exact p.onDeviceLost_obeys pauses address profile
  | activeDeviceChanged profile address =>
    refine .nothing ?_
    change (p.onActiveDeviceChanged profile address).machine.state = _
    rcases p.onActiveDeviceChanged_eq profile address with h | h | h <;> (rw [h]; rfl)
  | connect requested =>
    rw [act_connect_finish, route_onConnectOutcome]
    exact p.connect_obeys pauses requested 0
  | retryConnect address attempt => exact p.retryConnect_obeys pauses address attempt
  | disconnect =>
    have state : ((disconnect p).finish pauses).phone.machine.state = p.machine.state :=
      congrArg Route.state (p.disconnect_route pauses)
    exact .nothing state
  | connectionTimeout address => exact p.onConnectionTimeout_obeys pauses address
  | audioOn address => exact p.onAudioOn_obeys pauses address
  | audioLost address => exact p.onAudioLost_obeys pauses address
  | beginTransition origin destination destinationActive ticket =>
    unfold act
    rw [Job.finish_bind]
    exact p.beginTransition_obeys pauses origin destination destinationActive ticket
  | confirmation c => exact .nothing (congrArg Route.state (p.route_track _))
  | transitionFailed address => exact .nothing (congrArg Route.state (p.route_track _))
  | transitionTimeout id => exact .nothing (congrArg Route.state (p.route_track _))
  | switchToBaseline exclude => exact .nothing rfl
  | query question ticket => exact .nothing rfl

/-- Accounting for the change of state leaves the route as the message itself does. -/
theorem handled_route (message : Message) : (p.handled message pauses).route =
    ((act message (p.record (.handled message))).finish pauses).phone.route := by
  rw [handled_eq]
  unfold accounted
  split
  · exact route_clearStaleDeadline _
  · exact (route_clearStaleDeadline _).trans (route_onStateChanged _ _)

theorem handled_obeys (message : Message) :
    Obeys (p.cue pauses message) p.route (p.handled message pauses).route := by
  have acted := (p.record (.handled message)).act_obeys pauses message
  rw [cue_record, route_record p rfl] at acted
  rwa [handled_route]

/-- A turn leaves the state as it is, or it handles a message, whose cue the route obeys. -/
theorem turn_obeys (turn : Turn) : (p.turn turn).machine.state = p.machine.state ∨
    ∃ pauses message rest, turn = .handle pauses ∧ p.inbox = message :: rest ∧
      Obeys (({ p with inbox := rest } : Phone).cue pauses message) p.route (p.turn turn).route := by
  cases turn with
  | outside o => exact Or.inl (congrArg Machine.state (p.outside_undisturbed o).machine)
  | handle pauses =>
    cases hi : p.inbox with
    | nil =>
      rw [turn_handle_nil hi]
      exact Or.inl rfl
    | cons message rest =>
      rw [turn_handle hi]
      exact Or.inr ⟨pauses, message, rest, rfl, rfl, handled_obeys _ pauses message⟩

/-- Where the state stays as it is and no stale deadline is held, nothing comes after the message
itself. -/
theorem accounted_of_same {p q : Phone} (hs : q.machine.state = p.machine.state) (ht : q.Tidy) :
    (q.onStateChanged p.machine.state).clearStaleDeadline = q := by
  have same : q.onStateChanged p.machine.state = q := by
    unfold onStateChanged
    dsimp only
    rw [hs, if_pos rfl]
  rw [same, ht.clearStaleDeadline_eq]

/-- Audio that comes up on an unknown device changes nothing. -/
theorem handled_unknown_audioOn (tidy : p.Tidy) (address : Address)
    (h : ¬(p.machine.state.liveAddress = some address ∨ p.registry.isConnected address)) :
    p.handled (.audioOn address) pauses = p.record (.handled (.audioOn address)) := by
  let q := p.record (.handled (.audioOn address))
  have unknown : q.onAudioOn address = q := if_neg h
  have ends : p.handled (.audioOn address) pauses =
      ((q.onAudioOn address).onStateChanged p.machine.state).clearStaleDeadline := rfl
  rw [ends, unknown]
  exact accounted_of_same rfl tidy

/-- Audio that goes down on a device that is not live changes the history, and is reported once. -/
theorem handled_stray_audioLost (tidy : p.Tidy) (address : Address)
    (h : p.machine.state.liveAddress ≠ some address) :
    p.handled (.audioLost (some address)) pauses =
      ((p.record (.handled (.audioLost (some address)))).note
        (.unexpectedLoss address p.machine.state)).tell .unexpectedStateChange := by
  let q := p.record (.handled (.audioLost (some address)))
  have reported : onAudioLost (some address) q = .done ()
      ((q.note (.unexpectedLoss address p.machine.state)).tell .unexpectedStateChange) :=
    (q.onAudioLost_some address).trans (if_neg h)
  rw [handled_eq]
  unfold act
  change accounted _ _ ((onAudioLost (some address) q).finish pauses).phone = _
  rw [reported]
  exact accounted_of_same (q := (q.note _).tell _) rfl tidy

end Phone

/-- The phone after a message refines the automaton. -/
structure Refines (pauses : Pauses) (message : Message) (p q : Phone) : Prop where
  route : Obeys (p.cue pauses message) p.route q.route
  unknown : ∀ address, message = .audioOn address → p.cue pauses message = .nothing →
    q = p.record (.handled message)
  stray : ∀ address, message = .audioLost (some address) →
    p.machine.state.liveAddress ≠ some address →
    q = ((p.record (.handled message)).note (.unexpectedLoss address p.machine.state)).tell
      .unexpectedStateChange

/-- Wherever a run has come to between messages, the next message does to the route state what the
automaton says, whatever the platform answers and whatever goes on while it waits. -/
theorem route_state_refines_automaton (config : RouteConfig) (attached : List Profile)
    (moves : List ThreadMove) (message : Message) (rest : List Message) (pauses : Pauses) :
    let t := (Thread.fresh config attached).run moves
    let p := { t.phone with inbox := rest }
    t.isIdle = true → t.inbox = message :: rest →
      Refines pauses message p (p.handled message pauses) := by
  intro t p idle _
  have tidy : p.Tidy := (Thread.reaches_fresh_run config attached moves idle).watched.2
  refine ⟨p.handled_obeys pauses message, fun address hm unknown => ?_, fun address hm stray => ?_⟩
  · subst hm
    refine p.handled_unknown_audioOn pauses tidy address fun known => ?_
    have cue : p.cue pauses (.audioOn address) = .audioOn address := if_pos known
    rw [cue] at unknown
    cases unknown
  · subst hm
    exact p.handled_stray_audioLost pauses tidy address stray

/-- A connect to whatever there is, when a headset has just been added. -/
theorem route_state_refines_automaton_on_connect :
    let headset : Address := ⟨10, 0, 0, 0, 0, 1⟩
    let moves : List ThreadMove := [.start,
      .outside (.post (.deviceAdded ⟨headset, .audioSink⟩ .classicHeadset)),
      .outside (.post (.connect none)), .handle]
    let pauses : Pauses := fun _ => ⟨true, []⟩
    let t := (Thread.fresh {} [.classicHeadset]).run moves
    let p := { t.phone with inbox := [] }
    t.isIdle = true ∧ t.inbox = [.connect none] ∧
      p.cue pauses (.connect none) = .connect (some headset) true ∧
      Refines pauses (.connect none) p (p.handled (.connect none) pauses) ∧
      (p.handled (.connect none) pauses).machine.state = .connecting headset := by
  intro headset moves pauses t p
  have idle : t.isIdle = true := by decide
  have queued : t.inbox = [.connect none] := by decide
  have cue : p.cue pauses (.connect none) = .connect (some headset) true := by decide
  have main := route_state_refines_automaton {} [.classicHeadset] moves (.connect none) [] pauses
  have run : (Thread.fresh {} [.classicHeadset]).run moves = t := rfl
  rw [run] at main
  have refines : Refines pauses (.connect none) p (p.handled (.connect none) pauses) :=
    main idle queued
  have state : (p.handled (.connect none) pauses).machine.state = .connecting headset := by
    decide
  exact ⟨idle, queued, cue, refines, state⟩

end CallAudio

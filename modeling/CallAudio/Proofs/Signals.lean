import CallAudio.Proofs.BegunTransition
import CallAudio.Proofs.Transition.Tokens

/-! What a message does to the pending transition. It gives confirmations: the one that it carries, those
taken from what a connect finds to hold already, and those of the change of state that it makes. Each is
heard once, and so a token is waited for until some message gives it. -/
namespace CallAudio

namespace RouteState

/-- The device that audio is on. -/
def carrier : RouteState → Option Address
  | connected address => some address
  | _ => none

/-- The signals that a change of state gives: audio left a device, and audio came to one. -/
def signalsTo (before after : RouteState) : List ConfirmationToken :=
  if before = after then []
  else before.carrier.toList.map (fun a => ⟨.bluetoothAudioDisconnected, some a⟩) ++
    after.carrier.toList.map fun a => ⟨.bluetoothAudioConnected, some a⟩

/-- The device whose attempt to connect a change of state gives up. -/
def givenUp (before after : RouteState) : Option Address :=
  match before with
  | connecting attempted =>
    if before = after ∨ after = .connected attempted then none else some attempted
  | _ => none

@[simp] theorem signalsTo_self (s : RouteState) : s.signalsTo s = [] := if_pos rfl

@[simp] theorem givenUp_self (s : RouteState) : s.givenUp s = none := by
  cases s with
  | connecting address => exact if_pos (Or.inl rfl)
  | _ => rfl

end RouteState

/-- A token is confirmed for whichever transition is pending. -/
def ConfirmationToken.untagged (token : ConfirmationToken) : Confirmation := ⟨none, token⟩

/-- What is pending takes a confirmation of its own like one that is meant for any. -/
theorem TransitionTracker.confirm_own {t : TransitionTracker} {T : PendingTransition}
    (h : t.pending = some T) (token : ConfirmationToken) :
    t.confirm ⟨some T.id, token⟩ = t.confirm token.untagged := by
  unfold confirm
  rw [h]
  simp [ConfirmationToken.untagged]

namespace Progress

/-- An attempt that is given up fails the transition that waits for audio there. -/
def gaveUp (v : Progress) : Option Address → Progress
  | some attempted =>
    if v.tracker.isAwaiting ⟨.bluetoothAudioConnected, some attempted⟩ then
      v.tracked (·.fail (some attempted))
    else v
  | none => v

/-- What a message has the tracker do by itself. -/
def ordered (v : Progress) : Message → Progress
  | .beginTransition origin destination destinationActive _ =>
    ⟨(v.tracker.begin origin destination destinationActive).2.2, v.events⟩
  | .transitionFailed failed => v.tracked (·.fail failed)
  | .transitionTimeout id => v.tracked (·.timeOut id)
  | .switchToBaseline exclude => ⟨v.tracker.abandon.2, v.events ++ [.switchToBaseline exclude]⟩
  | _ => v

end Progress

theorem RouteView.progress_tracked (v : RouteView)
    (f : TransitionTracker → Option TransitionOutcome × TransitionTracker) :
    (⟨(v.tracked f).tracker, Bench.transitionEvents (v.tracked f).journal⟩ : Progress) =
      Progress.tracked ⟨v.tracker, Bench.transitionEvents v.journal⟩ f := by
  refine Progress.ext (v.tracked_tracker f) ?_
  unfold tracked reported Progress.tracked
  dsimp only
  cases (f v.tracker).1 with
  | none => exact (List.append_nil _).symm
  | some outcome => cases outcome <;> exact List.filterMap_append

/-- The confirmation that a message carries. -/
def Message.received : Message → List Confirmation
  | .confirmation c => [c]
  | _ => []

namespace Phone

def progress (p : Phone) : Progress := ⟨p.tracker, Bench.transitionEvents p.journal⟩

/-- The signals that are taken from what holds already, as a connect finds audio on its device. -/
def reaffirmed (p : Phone) : Cue → List ConfirmationToken
  | .connect (some target) _ =>
    if p.machine.state = .connected target then
      ⟨.bluetoothAudioConnected, some target⟩ ::
        if p.registry.communication.any (·.1 = target) then
          [⟨.communicationDeviceChanged, some target⟩]
        else []
    else []
  | _ => []

/-- The confirmations that the handling of a message gives to the pending transition, in order. -/
def given (p : Phone) (pauses : Pauses) (message : Message) : List Confirmation :=
  message.received ++ (p.reaffirmed (p.cue pauses message) ++
    p.machine.state.signalsTo (p.machine.state.after (p.cue pauses message))).map
      ConfirmationToken.untagged

variable {p q : Phone}

theorem progress_of_view (h : q.view = p.view) : q.progress = p.progress :=
  congrArg (fun v => (⟨v.tracker, Bench.transitionEvents v.journal⟩ : Progress)) h

theorem progress_record (p : Phone) {happening : Happening}
    (h : ∀ event, happening ≠ .announced event) : (p.record happening).progress = p.progress :=
  Progress.ext rfl (transitionEvents_snoc _ _ h)

theorem progress_of_machine (h : Via MachineStride p q) : q.progress = p.progress :=
  Progress.ext h.transitions.1 h.transitions.2

theorem progress_track (p : Phone)
    (f : TransitionTracker → Option TransitionOutcome × TransitionTracker) :
    (p.track f).progress = p.progress.tracked f := by
  have view : (p.track f).progress = ⟨(p.view.tracked f).tracker,
      Bench.transitionEvents (p.view.tracked f).journal⟩ := by
    rw [← p.view_track f]
    rfl
  exact view.trans (p.view.progress_tracked f)

theorem progress_confirm (p : Phone) (signal : Signal) (address : Address) :
    (p.confirm signal address).progress =
      p.progress.heard [ConfirmationToken.untagged ⟨signal, some address⟩] := by
  unfold confirm
  cases hp : p.tracker.pending with
  | none => exact (Progress.heard_of_none (v := p.progress) hp _).symm
  | some T =>
    rw [Progress.heard_singleton]
    refine (p.progress_track _).trans (Progress.tracked_congr ?_)
    exact TransitionTracker.confirm_own hp ⟨signal, some address⟩

theorem registry_confirm (p : Phone) (signal : Signal) (address : Address) :
    (p.confirm signal address).registry = p.registry := by
  unfold confirm
  split
  · rfl
  · rename_i T _
    rcases p.track_eq (·.confirm ⟨some T.id, signal, some address⟩) with h | ⟨event, h⟩
    · rw [h]
    · rw [h]
      rfl

theorem progress_onConnectOutcome_reaffirmed (p : Phone) (address : Address) :
    (p.onConnectOutcome (.reaffirmed address)).progress =
      p.progress.heard ((⟨.bluetoothAudioConnected, some address⟩ ::
        if p.registry.communication.any (·.1 = address) then
          [⟨.communicationDeviceChanged, some address⟩]
        else []).map ConfirmationToken.untagged) := by
  let confirmed := p.confirm .bluetoothAudioConnected address
  have first : confirmed.progress =
      p.progress.heard [ConfirmationToken.untagged ⟨.bluetoothAudioConnected, some address⟩] :=
    p.progress_confirm _ _
  change (if confirmed.registry.communication.any (fun c => c.1 = address) then
    confirmed.confirm .communicationDeviceChanged address else confirmed).progress = _
  rw [p.registry_confirm]
  split
  · rw [progress_confirm, first]
    rfl
  · rw [first]
    rfl

theorem onConnectOutcome_of_not (p : Phone) {outcome : ConnectOutcome}
    (h : ∀ address, outcome ≠ .reaffirmed address) : p.onConnectOutcome outcome = p := by
  cases outcome with
  | reaffirmed address => exact absurd rfl (h address)
  | _ => rfl

/-- What a change of state means for the transition. -/
theorem progress_onStateChanged (p : Phone) (before : RouteState) :
    (p.onStateChanged before).progress =
      (p.progress.heard ((before.signalsTo p.machine.state).map ConfirmationToken.untagged)).gaveUp
        (before.givenUp p.machine.state) := by
  by_cases same : before = p.machine.state
  · have unchanged : p.onStateChanged before = p := if_pos same
    rw [unchanged, ← same, RouteState.signalsTo_self, RouteState.givenUp_self]
    rfl
  let left := p.confirmLeft before
  let entered := left.confirmEntered p.machine.state
  have changed : p.onStateChanged before = entered.failAttempted before p.machine.state := if_neg same
  have heardLeft : left.progress = p.progress.heard ((before.carrier.toList.map
      fun a => ⟨.bluetoothAudioDisconnected, some a⟩).map ConfirmationToken.untagged) := by
    cases before with
    | connected address => exact p.progress_confirm _ _
    | audioOff | connecting => rfl
  have heardEntered : entered.progress = left.progress.heard ((p.machine.state.carrier.toList.map
      fun a => ⟨.bluetoothAudioConnected, some a⟩).map ConfirmationToken.untagged) := by
    change (left.confirmEntered p.machine.state).progress = _
    cases p.machine.state with
    | connected address => exact left.progress_confirm _ _
    | audioOff | connecting => rfl
  have signals : before.signalsTo p.machine.state = _ := if_neg same
  rw [changed, signals, List.map_append, Progress.heard_append, ← heardLeft, ← heardEntered]
  cases before with
  | audioOff | connected => rfl
  | connecting attempted =>
    change (if p.machine.state ≠ .connected attempted ∧
        entered.tracker.isAwaiting ⟨.bluetoothAudioConnected, some attempted⟩ = true then
      entered.track fun t => t.fail (some attempted) else entered).progress =
        entered.progress.gaveUp (if _ ∨ p.machine.state = .connected attempted then none else _)
    by_cases arrived : p.machine.state = .connected attempted
    · rw [if_neg fun h => h.1 arrived, if_pos (Or.inr arrived)]
      rfl
    · rw [if_neg (not_or.mpr ⟨same, arrived⟩)]
      change _ = if entered.tracker.isAwaiting _ = true then _ else _
      by_cases awaited :
          entered.tracker.isAwaiting ⟨.bluetoothAudioConnected, some attempted⟩ = true
      · rw [if_pos ⟨arrived, awaited⟩, if_pos awaited]
        exact entered.progress_track _
      · rw [if_neg fun h => awaited h.2, if_neg awaited]

section
variable (p : Phone) (pauses : Pauses)

/-- A connect confirms what it finds to hold already, and nothing else. -/
theorem progress_connect (requested : Option Address) (attempt : Nat) :
    let connected := (connect requested attempt p).finish pauses
    (connected.phone.onConnectOutcome connected.value).progress = p.progress.heard
      ((p.reaffirmed (p.connectCue requested pauses)).map ConfirmationToken.untagged) := by
  intro connected
  let q := p.requested attempt
  obtain ⟨services, state, recent, -⟩ := p.requested_same attempt
  have way : connected.phone.progress = p.progress :=
    progress_of_machine (Step.Along.finish (p.connect_along requested attempt) pauses).1
  have nothing (h : ∀ address, connected.value ≠ .reaffirmed address) :
      (connected.phone.onConnectOutcome connected.value).progress = p.progress := by
    rw [onConnectOutcome_of_not _ h, way]
  have ends : connected =
      q.connectEnds requested attempt pauses (q.registry.connectTarget requested q.machine.recent) :=
    p.connect_finish requested attempt pauses
  rw [← connectCue_of_services services state recent]
  cases found : q.registry.connectTarget requested q.machine.recent with
  | none =>
    rw [found] at ends
    rw [connectCue_none found]
    refine nothing fun address he => ?_
    rw [ends] at he
    cases he
  | some target =>
    rw [found] at ends
    rw [connectCue_some found]
    change _ = p.progress.heard ((if p.machine.state = .connected target then _ else []).map _)
    rw [← state]
    rcases q.machine.state.live_cases target with reaffirms | connecting | other
    · rw [connectEnds_connected reaffirms] at ends
      have value : connected.value = .reaffirmed target := by rw [ends]
      have registry : connected.phone.registry = p.registry := by
        rw [ends]
        exact registry_of_services services
      rw [if_pos reaffirms, value, progress_onConnectOutcome_reaffirmed, way, registry]
    · rw [connectEnds_connecting connecting] at ends
      rw [if_neg (by rw [connecting]; nofun)]
      refine nothing fun address he => ?_
      rw [ends] at he
      cases he
    · rw [connectEnds_other other] at ends
      rw [if_neg fun reaffirms => other (by rw [reaffirms]; rfl)]
      refine nothing fun address he => ?_
      rw [ends] at he
      have fresh : q.machine.state ≠ .connecting target := fun connecting => other (by rw [connecting]; rfl)
      exact (Step.Along.finish (q.startConnect_along target attempt fresh) pauses).2 address he

/-- What a message other than a begin has done to the transition before its change of state is accounted
for. -/
theorem progress_act {message : Message}
    (simple : ∀ origin destination destinationActive ticket,
      message ≠ .beginTransition origin destination destinationActive ticket) :
    ((act message p).finish pauses).phone.progress = (p.progress.ordered message).heard
      (message.received ++
        (p.reaffirmed (p.cue pauses message)).map ConfirmationToken.untagged) := by
  have machine {job : Job Unit} (h : job.Along (Via MachineStride) p fun _ _ => True) :
      ((job p).finish pauses).phone.progress = p.progress :=
    progress_of_machine (Step.Along.finish h pauses).1
  have silent {condition : Prop} [Decidable condition] (q : Phone) :
      p.reaffirmed (if condition then q.fallBackCue pauses else .nothing) = [] := by
    split <;> rfl
  cases message with
  | deviceAdded device profile =>
    exact progress_of_machine ((p.onDeviceAdded_quiet device profile).mono fun _ _ => .quiet)
  | deviceLost address profile =>
    change _ = p.progress.heard ((p.reaffirmed (if _ then fallBackCue _ pauses else .nothing)).map _)
    rw [silent]
    exact machine (p.onDeviceLost_along address profile)
  | activeDeviceChanged profile address =>
    exact progress_of_machine ((p.onActiveDeviceChanged_quiet profile address).mono fun _ _ => .quiet)
  | connect requested =>
    rw [act_connect_finish]
    exact p.progress_connect pauses requested 0
  | retryConnect address attempt =>
    rw [act_retryConnect_finish]
    change _ = p.progress.heard ((p.reaffirmed (if _ then p.connectCue (some address) pauses
      else .nothing)).map _)
    split
    · exact p.progress_connect pauses (some address) attempt
    · rfl
  | disconnect =>
    have quiet : Via QuietStride p ((disconnect p).finish pauses).phone :=
      (Step.Along.finish (disconnect_quiet p) pauses).1
    exact progress_of_machine (quiet.mono fun _ _ => .quiet)
  | connectionTimeout address =>
    change _ = p.progress.heard ((p.reaffirmed (if _ then fallBackCue _ pauses else .nothing)).map _)
    rw [silent]
    exact machine (p.onConnectionTimeout_along address)
  | audioOn address =>
    have none : p.reaffirmed (p.cue pauses (.audioOn address)) = [] := by
      unfold cue
      dsimp only
      split <;> rfl
    rw [none]
    exact progress_of_machine (p.onAudioOn_along address)
  | audioLost address =>
    have none : p.reaffirmed (p.cue pauses (.audioLost address)) = [] := by
      cases address with
      | none => rfl
      | some lost => exact silent p
    rw [none]
    exact machine (p.onAudioLost_along address)
  | beginTransition => exact absurd rfl (simple _ _ _ _)
  | confirmation c => exact p.progress_track _
  | transitionFailed failed => exact p.progress_track _
  | transitionTimeout id => exact p.progress_track _
  | switchToBaseline exclude => exact Progress.ext rfl List.filterMap_append
  | query question ticket => exact progress_of_view (p.view_answer _ _)

/-- A message other than a begin has the tracker do what it orders, gives its confirmations, and gives up
the attempt to connect that its change of state ends. -/
theorem progress_handled {message : Message}
    (simple : ∀ origin destination destinationActive ticket,
      message ≠ .beginTransition origin destination destinationActive ticket) :
    let after := p.machine.state.after (p.cue pauses message)
    (p.handled message pauses).progress =
      ((p.progress.ordered message).heard (p.given pauses message)).gaveUp
        (p.machine.state.givenUp after) := by
  intro after
  let noted := p.record (.handled message)
  let acted := ((act message noted).finish pauses).phone
  have ends : p.handled message pauses = (acted.onStateChanged p.machine.state).clearStaleDeadline := by
    rw [handled_eq]
    cases message with
    | beginTransition => exact absurd rfl (simple _ _ _ _)
    | _ => rfl
  have same : noted.progress = p.progress := p.progress_record nofun
  have cue : noted.cue pauses message = p.cue pauses message := p.cue_record pauses _ message
  have state : acted.machine.state = after := by
    have obeys := (noted.act_obeys pauses message).state
    rw [cue] at obeys
    exact obeys
  have done := noted.progress_act pauses simple
  rw [same, cue] at done
  have changed := acted.progress_onStateChanged p.machine.state
  rw [ends, progress_of_view (clearStaleDeadline_view _), changed, state]
  change ((acted.progress).heard _).gaveUp _ = _
  rw [done, ← Progress.heard_append, List.append_assoc, ← List.map_append]
  rfl

theorem progress_prepared (origin destination : AudioRoute) (destinationActive : Bool)
    (ticket : Ticket) :
    let message : Message := .beginTransition origin destination destinationActive ticket
    ((p.record (.handled message)).prepared origin destination destinationActive).progress =
      p.progress.ordered message := by
  intro message
  refine (progress_of_view (view_startDeadline _ _)).trans (Progress.ext rfl ?_)
  change Bench.transitionEvents ((p.journal ++ [_]) ++ [_]) = Bench.transitionEvents p.journal
  rw [transitionEvents_snoc, transitionEvents_snoc] <;> nofun

theorem progress_concluded (ticket : Ticket) (id : TransitionId) :
    (p.concluded ticket id).progress = p.progress.tracked TransitionTracker.settle := by
  unfold concluded
  rw [progress_of_view (clearStaleDeadline_view _), progress_of_view (view_answer _ _ _)]
  exact p.progress_track _

end

/-- What is made of the outcome of a connect depends on the transition and the registry only. -/
theorem progress_onConnectOutcome_congr (hp : q.progress = p.progress) (hr : q.registry = p.registry)
    (outcome : ConnectOutcome) :
    (q.onConnectOutcome outcome).progress = (p.onConnectOutcome outcome).progress := by
  cases outcome with
  | reaffirmed address =>
    rw [progress_onConnectOutcome_reaffirmed, progress_onConnectOutcome_reaffirmed, hp, hr]
  | _ => exact hp

section
variable (p : Phone) (pauses : Pauses)

/-- A begin that connects gives its confirmations to the transition that it begins, like any message, and
then the transition is over if it waits for nothing. -/
theorem progress_begin_connect {origin destination : AudioRoute} {destinationActive : Bool}
    (ticket : Ticket) (connects : .connectBluetooth destination.address ∈
      (p.tracker.begin origin destination destinationActive).2.1) :
    let message : Message := .beginTransition origin destination destinationActive ticket
    let after := p.machine.state.after (p.cue pauses message)
    (p.handled message pauses).progress =
      (((p.progress.ordered message).heard (p.given pauses message)).gaveUp
        (p.machine.state.givenUp after)).tracked TransitionTracker.settle := by
  intro message after
  let begun := (p.record (.handled message)).prepared origin destination destinationActive
  let connected := (connect destination.address 0 begun).finish pauses
  let performed := connected.phone.record (.performed (.connectBluetooth destination.address))
  let answered := performed.onConnectOutcome connected.value
  obtain ⟨services, machine, -⟩ : begun.services = p.services ∧ begun.machine = p.machine ∧
      begun.route = (p.record (.handled message)).route :=
    (p.record (.handled message)).begun_same origin destination destinationActive
  -- The connect is made once the transition has begun, which changes nothing that a connect looks at.
  have cue : begun.connectCue destination.address pauses = p.cue pauses message := by
    have same : begun.connectCue destination.address pauses = p.connectCue destination.address pauses :=
      connectCue_of_services services (congrArg Machine.state machine) (congrArg Machine.recent machine)
        _ _
    exact same.trans (if_pos connects).symm
  have state : answered.machine.state = after := by
    have route := begun.connect_route pauses destination.address 0
    rw [cue, machine] at route
    have kept : answered.route = connected.phone.route :=
      (route_onConnectOutcome _ _).trans (route_record _ rfl)
    exact congrArg Route.state (kept.trans route)
  have reaffirmed : begun.reaffirmed (p.cue pauses message) = p.reaffirmed (p.cue pauses message) := by
    unfold Phone.reaffirmed
    rw [machine, registry_of_services services]
  have heard : answered.progress = (p.progress.ordered message).heard
      ((p.reaffirmed (p.cue pauses message)).map ConfirmationToken.untagged) := by
    have outcome := begun.progress_connect pauses destination.address 0
    rw [cue, reaffirmed] at outcome
    have noted : performed.progress = connected.phone.progress := connected.phone.progress_record nofun
    have same : answered.progress = (connected.phone.onConnectOutcome connected.value).progress :=
      progress_onConnectOutcome_congr noted rfl _
    rw [same, ← p.progress_prepared origin destination destinationActive ticket]
    exact outcome
  have ends : p.handled message pauses = (answered.onStateChanged p.machine.state).concluded ticket
      p.tracker.nextId := p.handled_begin_connect pauses ticket connects
  rw [ends, progress_concluded, progress_onStateChanged, heard, state, ← Progress.heard_append,
    ← List.map_append]
  rfl

/-- To tear audio down does nothing to the transition by itself. -/
theorem progress_tornDown :
    ((perform .disconnectBluetooth p).finish pauses).phone.progress = p.progress := by
  have quiet : Via QuietStride p ((disconnect p).finish pauses).phone :=
    (Step.Along.finish (disconnect_quiet p) pauses).1
  have ends : ((perform .disconnectBluetooth p).finish pauses).phone =
      ((disconnect p).finish pauses).phone.record (.performed .disconnectBluetooth) := by
    unfold perform
    rw [Job.finish_bind]
    rfl
  have noted : (((disconnect p).finish pauses).phone.record (.performed .disconnectBluetooth)).progress =
      ((disconnect p).finish pauses).phone.progress := progress_record _ nofun
  rw [ends]
  exact noted.trans (progress_of_machine (quiet.mono fun _ _ => .quiet))

/-- An action other than a connect does nothing to the transition, or fails it as the audio service
refuses. -/
theorem progress_perform {action : RouteAction} (h : ∀ address, action ≠ .connectBluetooth address) :
    let performed := ((perform action p).finish pauses).phone
    performed.progress = p.progress ∨ performed.progress = p.progress.tracked (·.fail none) := by
  intro performed
  cases action with
  | connectBluetooth address => exact absurd rfl (h address)
  | disconnectBluetooth => exact Or.inl (p.progress_tornDown pauses)
  | setCommunicationDevice kind =>
    let noted := p.record (.performed (.setCommunicationDevice kind))
    have same : noted.progress = p.progress := p.progress_record nofun
    have ends : performed = noted.setCommunicationKind kind := rfl
    obtain ⟨platform, set | refused⟩ := noted.setCommunicationKind_eq kind
    · left
      rw [ends, set]
      exact same
    · right
      rw [ends, refused, progress_track]
      exact congrArg (fun v : Progress => v.tracked (·.fail none)) same
  | clearCommunicationDevice => exact Or.inl (p.clearCommunicationDevice.progress_record nofun)

theorem progress_performAll (actions : List RouteAction)
    (h : ∀ address, RouteAction.connectBluetooth address ∉ actions) :
    let performed := ((performAll actions p).finish pauses).phone
    performed.progress = p.progress ∨ performed.progress = p.progress.tracked (·.fail none) := by
  induction actions generalizing p pauses with
  | nil => exact Or.inl rfl
  | cons action rest ih =>
    intro performed
    let first := (perform action p).finish pauses
    have other : ∀ address, action ≠ .connectBluetooth address :=
      fun address he => h address (he ▸ List.mem_cons_self)
    have state : p.machine.state = first.phone.machine.state :=
      (congrArg Route.state (p.perform_route pauses action other)).symm
    have unchanged : first.phone.onStateChanged p.machine.state = first.phone := if_pos state
    have ends : performed = ((performAll rest first.phone).finish first.pauses).phone := by
      change ((performAll (action :: rest) p).finish pauses).phone = _
      rw [performAll_cons_finish]
      change ((performAll rest (first.phone.onStateChanged p.machine.state)).finish _).phone = _
      rw [unchanged]
    have later := ih first.phone first.pauses fun address mem => h address (List.mem_cons_of_mem action mem)
    rw [ends]
    rcases p.progress_perform pauses other with same | failed
    · rw [← same]
      exact later
    · -- What has failed already does not fail again.
      have ended : first.phone.progress.tracked (·.fail none) = first.phone.progress := by
        have none : first.phone.progress.tracker.pending = none := by
          rw [failed]
          exact TransitionTracker.fail_pending _ _
        exact Progress.tracked_of_unchanged (TransitionTracker.fail_of_none none _)
      rw [ended, or_self] at later
      exact Or.inr (later.trans failed)

/-- A begin without a connect does nothing more to the transition than to fail it or to settle it. -/
theorem progress_begin_quiet {origin destination : AudioRoute} {destinationActive : Bool}
    (ticket : Ticket) (quiet : .connectBluetooth destination.address ∉
      (p.tracker.begin origin destination destinationActive).2.1) :
    let message : Message := .beginTransition origin destination destinationActive ticket
    let begun := p.progress.ordered message
    let after := (p.handled message pauses).progress
    after = begun.tracked TransitionTracker.settle ∨ after = begun.tracked (·.fail none) := by
  intro message begun after
  let prepared := (p.record (.handled message)).prepared origin destination destinationActive
  let actions := (p.tracker.begin origin destination destinationActive).2.1
  let performed := ((performAll actions prepared).finish pauses).phone
  have others : ∀ address, .connectBluetooth address ∉ actions := TransitionPlan.between_unconnected quiet
  have ends : after = performed.progress.tracked TransitionTracker.settle := by
    change (p.handled message pauses).progress = _
    unfold handled
    rw [handle_begin_eq, Step.finish_bind]
    exact performed.progress_concluded ticket p.tracker.nextId
  have same : prepared.progress = begun := p.progress_prepared origin destination destinationActive ticket
  rw [ends, ← same]
  rcases prepared.progress_performAll pauses actions others with kept | failed
  · exact Or.inl (congrArg (fun v : Progress => v.tracked TransitionTracker.settle) kept)
  · right
    -- With nothing pending any more there is nothing to settle.
    have ended : performed.progress.tracked TransitionTracker.settle = performed.progress := by
      have none : performed.progress.tracker.pending = none := by
        rw [failed]
        exact TransitionTracker.fail_pending _ _
      exact Progress.tracked_of_unchanged (TransitionTracker.settle_of_none none)
    exact ended.trans failed

end

/-- The cue of a begin without a connect is nothing, so it gives no confirmations. -/
theorem given_begin_quiet {origin destination : AudioRoute} {destinationActive : Bool}
    {ticket : Ticket} (quiet : .connectBluetooth destination.address ∉
      (p.tracker.begin origin destination destinationActive).2.1) (pauses : Pauses) :
    p.given pauses (.beginTransition origin destination destinationActive ticket) = [] := by
  have cue : p.cue pauses (.beginTransition origin destination destinationActive ticket) = .nothing :=
    if_neg quiet
  unfold given
  rw [cue]
  change List.map _ (_ ++ p.machine.state.signalsTo p.machine.state) = []
  rw [RouteState.signalsTo_self]
  rfl

end Phone
end CallAudio

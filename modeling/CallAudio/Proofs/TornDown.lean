import CallAudio.Proofs.AudioEvents
import CallAudio.Proofs.AwaitedRetry

/-! Connects to a device whose audio was torn down. A teardown leaves the state to the loss that follows, so a
connect that comes before the loss finds the device live and is only reaffirmed. Once the state has moved, a
connect requests audio again, unless audio was requested since or has come back by itself. -/
namespace CallAudio

namespace RouteState

variable {s : RouteState} {cue : Cue} {address : Address}

theorem after_eq_connecting (h : s.after cue = .connecting address) : s = .connecting address ∨
    s.liveAddress ≠ some address ∧ ∃ accepted, cue = .connect (some address) accepted := by
  cases cue with
  | nothing => exact Or.inl h
  | audioOn => cases h
  | fallBack carrier => cases carrier <;> cases h
  | connect target accepted =>
    rcases s.after_connect_cases target accepted with same | ⟨asked, rfl, dead, after⟩
    · exact Or.inl (same.symm.trans h)
    · obtain rfl := connecting.inj (after.symm.trans h)
      exact Or.inr ⟨dead, accepted, rfl⟩

theorem after_eq_connected (h : s.after cue = .connected address) :
    s = .connected address ∨ cue = .audioOn address ∨ cue = .fallBack (some address) := by
  cases cue with
  | nothing => exact Or.inl h
  | audioOn =>
    obtain rfl := connected.inj h
    exact Or.inr (Or.inl rfl)
  | fallBack carrier =>
    cases carrier with
    | none => cases h
    | some =>
      obtain rfl := connected.inj h
      exact Or.inr (Or.inr rfl)
  | connect target accepted =>
    rcases s.after_connect_cases target accepted with same | ⟨asked, -, -, after⟩
    · exact Or.inl (same.symm.trans h)
    · cases after.symm.trans h

end RouteState

namespace TransitionPlan

variable {active destinationActive : Bool} {origin destination : AudioRoute}

theorem leaving_released
    (h : .disconnectBluetooth ∈ (leaving origin destination destinationActive).actions) :
    (leaving origin destination destinationActive).actions.flatMap RouteAction.released =
      [.audioReleased] := by
  unfold leaving at h ⊢
  dsimp only at h ⊢
  split
  · cases destinationActive <;> rfl
  · rename_i keeps
    rw [if_neg keeps] at h
    cases destinationActive <;> simp at h

theorem entering_released (destination : AudioRoute) :
    .disconnectBluetooth ∉ (entering destination).actions ∧
      (entering destination).actions.flatMap RouteAction.released = [] := by
  unfold entering
  split <;> exact ⟨by simp, rfl⟩

/-- A plan that tears audio down does so once, and connects to nothing. -/
theorem between_released
    (h : .disconnectBluetooth ∈ (between active origin destination destinationActive).actions) :
    (∀ address, .connectBluetooth address ∉
        (between active origin destination destinationActive).actions) ∧
      (between active origin destination destinationActive).actions.flatMap RouteAction.released =
        [.audioReleased] := by
  constructor
  · intro address connects
    rw [between_actions connects] at h
    cases List.mem_singleton.mp h
  · obtain ⟨unasked, nothing⟩ := entering_released destination
    unfold between at h ⊢
    dsimp only at h ⊢
    rw [List.flatMap_append]
    rcases List.mem_append.mp h with leaves | enters
    · split at leaves
      · rename_i moves
        rw [if_pos moves, leaving_released leaves]
        split
        · rw [nothing]
          rfl
        · rfl
      · cases leaves
    · split at enters
      · exact absurd enters unasked
      · cases enters

end TransitionPlan

namespace Phone

variable {p q : Phone}

/-- What the listeners for audio were told. -/
def told (p : Phone) : List RouteEvent := p.view.events

theorem told_of_view (h : q.view = p.view) : q.told = p.told := congrArg RouteView.events h

theorem told_record (p : Phone) {happening : Happening} (h : ∀ event, happening ≠ .told event) :
    (p.record happening).told = p.told := routeEvents_snoc p.journal _ h

theorem told_tell (p : Phone) (event : RouteEvent) : (p.tell event).told = p.told ++ [event] :=
  List.filterMap_append

theorem told_onConnectOutcome (p : Phone) (outcome : ConnectOutcome) :
    (p.onConnectOutcome outcome).told = p.told :=
  p.onConnectOutcome_untracked RouteView.events_tracked outcome

theorem told_onStateChanged (p : Phone) (before : RouteState) :
    (p.onStateChanged before).told = p.told :=
  p.onStateChanged_untracked RouteView.events_tracked before

theorem told_requested (p : Phone) (attempt : Nat) : (p.requested attempt).told = p.told := by
  unfold requested
  split
  · exact told_of_view p.view_dropRetry
  · rfl

theorem told_accounted (p : Phone) {message : Message} (before : RouteState) :
    (p.accounted message before).told = p.told := by
  have cleared (q : Phone) : q.clearStaleDeadline.told = q.told := told_of_view q.clearStaleDeadline_view
  unfold accounted
  split
  · exact cleared p
  · rw [cleared, told_onStateChanged]

theorem told_concluded (p : Phone) (ticket : Ticket) (id : TransitionId) :
    (p.concluded ticket id).told = p.told := by
  have settled : (p.track TransitionTracker.settle).told = p.told := by
    refine (congrArg RouteView.events (p.view_track _)).trans ?_
    exact RouteView.events_tracked _ _
  unfold concluded
  rw [told_of_view (clearStaleDeadline_view _), told_of_view (view_answer _ _ _), settled]

theorem told_prepared (p : Phone) (origin destination : AudioRoute) (destinationActive : Bool) :
    (p.prepared origin destination destinationActive).told = p.told := by
  refine (told_of_view (view_startDeadline _ _)).trans ?_
  exact routeEvents_snoc p.journal _ nofun

section
variable {live : Address} {accepted : Bool} (pauses : Pauses)

/-- A connect to the device that audio is on is answered by telling so. -/
theorem told_connect_live {requested : Option Address} (attempt : Nat)
    (cue : p.connectCue requested pauses = .connect (some live) accepted)
    (hs : p.machine.state = .connected live) :
    ((connect requested attempt p).finish pauses).phone.told = p.told ++ [.audioConnected live] := by
  let q := p.requested attempt
  obtain ⟨services, state, recent, -⟩ := p.requested_same attempt
  rw [← connectCue_of_services services state recent] at cue
  have ends : (connect requested attempt p).finish pauses =
      ⟨.reaffirmed live, q.tell (.audioConnected live), pauses⟩ := by
    rw [connect_finish, connectTarget_of_connectCue cue]
    exact connectEnds_connected (state.trans hs)
  rw [ends, told_tell, told_requested]

/-- A message that comes to a connect to the live device asks for nothing and leaves the state. -/
theorem handled_connect_live {message : Message}
    (cue : p.cue pauses message = .connect (some live) accepted)
    (hl : p.machine.state.liveAddress = some live) : (p.handled message pauses).route = p.route := by
  have obeys := p.handled_obeys pauses message
  rw [cue] at obeys
  refine Route.ext (obeys.state.trans (RouteState.after_connect_live hl accepted)) ?_
  have none : p.route.state.operationsFor live = [] := RouteState.operationsFor_live hl
  rw [obeys.operations live accepted rfl, none, List.append_nil]

/-- A message that comes to a connect to the device that audio is on tells of audio on that device once
more. -/
theorem told_handled_connect {message : Message}
    (cue : p.cue pauses message = .connect (some live) accepted)
    (hs : p.machine.state = .connected live) :
    (p.handled message pauses).told = p.told ++ [.audioConnected live] := by
  let noted := p.record (.handled message)
  have none : noted.told = p.told := p.told_record nofun
  have cue' : noted.cue pauses message = .connect (some live) accepted :=
    (p.cue_record pauses _ message).trans cue
  have comes := noted.comesTo pauses message
  generalize noted.cue pauses message = asked at comes cue'
  -- Only a connect, a retry and the begin of a transition come to a connect.
  cases comes with
  | nothing | audioOn | fallBack => cases cue'
  | connect requested =>
    have told := told_connect_live pauses 0 cue' hs
    rw [handled_eq, told_accounted, act_connect_finish, told_onConnectOutcome, told, none]
  | @retry address attempt due =>
    have told := told_connect_live pauses attempt cue' hs
    rw [handled_eq, told_accounted, act_retryConnect_finish, if_pos due]
    change (onConnectOutcome _ _).told = _
    rw [told_onConnectOutcome, told, none]
  | @transition origin destination destinationActive ticket connects =>
    let begun := noted.prepared origin destination destinationActive
    let connected := (connect destination.address 0 begun).finish pauses
    obtain ⟨services, machine, -⟩ : begun.services = noted.services ∧ begun.machine = noted.machine ∧
        begun.route = noted.route := noted.begun_same origin destination destinationActive
    -- The connect comes from where the transition has begun, which makes no difference to it.
    rw [← connectCue_of_services services (congrArg Machine.state machine)
      (congrArg Machine.recent machine)] at cue'
    have hs' : begun.machine.state = .connected live := (congrArg Machine.state machine).trans hs
    have told := told_connect_live pauses 0 cue' hs'
    have performed : (connected.phone.record (.performed (.connectBluetooth destination.address))).told =
        connected.phone.told := told_record _ nofun
    rw [p.handled_begin_connect pauses ticket connects, told_concluded, told_onStateChanged,
      told_onConnectOutcome, performed, told, told_prepared, none]

end

/-- From one phone to the other audio was requested on the device. -/
def AudioAsked (p q : Phone) (address : Address) : Prop :=
  ∃ since, q.route.operations = p.route.operations ++ since ∧ .audioRequested address ∈ since

section
variable {r : Phone} {live : Address}

theorem AudioAsked.earlier (h : AudioAsked q r live) (way : p.route.operations <+: q.route.operations) :
    AudioAsked p r live := by
  obtain ⟨since, operations, mem⟩ := h
  obtain ⟨before, hb⟩ := way
  refine ⟨before ++ since, ?_, List.mem_append_right _ mem⟩
  rw [operations, ← hb, List.append_assoc]

theorem AudioAsked.later (h : AudioAsked p q live) (way : q.route.operations <+: r.route.operations) :
    AudioAsked p r live := by
  obtain ⟨since, operations, mem⟩ := h
  obtain ⟨more, hm⟩ := way
  refine ⟨since ++ more, ?_, List.mem_append_left _ mem⟩
  rw [← hm, operations, List.append_assoc]

theorem AudioAsked.ne (h : AudioAsked p q live) : q.route.operations ≠ p.route.operations := by
  obtain ⟨since, operations, mem⟩ := h
  intro same
  obtain rfl : since = [] := List.append_right_eq_self.mp (operations.symm.trans same)
  cases mem

end

/-- Operations that were asked for are not taken back. -/
theorem operations_of_via (way : Via Stride p q) : p.route.operations <+: q.route.operations := by
  have journal : p.journal <+: q.journal :=
    way.keeps (P := fun v => p.journal <+: v.journal)
      (fun _ _ stride way => way.trans stride.journal_prefix) List.prefix_rfl
  exact (journal.map _).filter _

theorem operations_turn (p : Phone) (turn : Turn) :
    p.route.operations <+: (p.turn turn).route.operations := by
  cases turn with
  | outside o => exact operations_of_via (Via.outside (fun _ _ => .quiet) p o)
  | handle pauses =>
    cases hi : p.inbox with
    | nil =>
      have same : (p.turn (.handle pauses)).route = p.route := congrArg route (turn_handle_nil hi pauses)
      exact ⟨[], by rw [List.append_nil, same]⟩
    | cons message rest =>
      rw [turn_handle hi]
      exact operations_of_via (Step.Along.finish (p.handle_along message rest hi) pauses).1

/-- A message comes to audio that is on a device only by reporting it. -/
theorem audioOn_of_cue {message : Message} {pauses : Pauses} {address : Address}
    (h : p.cue pauses message = .audioOn address) : message = .audioOn address := by
  have connect {requested : Option Address} : p.connectCue requested pauses ≠ .audioOn address := by
    obtain ⟨target, accepted, he⟩ := p.connectCue_eq pauses requested
    rw [he]
    nofun
  have comes := p.comesTo pauses message
  generalize p.cue pauses message = cue at comes h
  cases comes with
  | nothing | fallBack => cases h
  | audioOn reported => rw [Cue.audioOn.inj h]
  | connect | retry | transition => exact absurd h connect

/-- Audio is requested on a device whenever the machine starts connecting to it. -/
theorem turn_connecting {turn : Turn} {address : Address}
    (h : (p.turn turn).machine.state = .connecting address) :
    p.machine.state = .connecting address ∨ AudioAsked p (p.turn turn) address := by
  rcases p.turn_obeys turn with same | ⟨pauses, message, rest, -, -, obeys⟩
  · exact Or.inl (same.symm.trans h)
  · rcases RouteState.after_eq_connecting (obeys.state.symm.trans h) with same | ⟨dead, accepted, cue⟩
    · exact Or.inl same
    · exact Or.inr ⟨p.machine.state.operationsFor address, obeys.operations address accepted cue,
        RouteState.requested_mem_operationsFor dead⟩

theorem turns_connecting {turns : List Turn} {address : Address}
    (start : p.machine.state ≠ .connecting address)
    (h : (p.turns turns).machine.state = .connecting address) : AudioAsked p (p.turns turns) address := by
  have onward (turns : List Turn) : p.route.operations <+: (p.turns turns).route.operations := by
    induction turns using List.reverseRecOn with
    | nil => exact List.prefix_rfl
    | append_singleton turns turn ih =>
      rw [turns_concat]
      exact ih.trans (operations_turn _ turn)
  -- From the last turn: either the machine was connecting before it, or it requested audio itself.
  induction turns using List.reverseRecOn with
  | nil => exact absurd h start
  | append_singleton turns turn ih =>
    rw [turns_concat] at h ⊢
    rcases turn_connecting h with before | now
    · exact (ih before).later (operations_turn _ turn)
    · exact now.earlier (onward turns)

/-- Handling the next message makes audio fall back to the device, which it was not on. -/
def FallsBackTo (p : Phone) (turn : Turn) (address : Address) : Prop :=
  ∃ pauses message rest, turn = .handle pauses ∧ p.inbox = message :: rest ∧
    ({ p with inbox := rest } : Phone).cue pauses message = .fallBack (some address) ∧
    p.machine.state ≠ .connected address

/-- Audio comes to a device by falling back to it, unless its coming is reported. -/
theorem turn_connected {turn : Turn} {address : Address}
    (unreported : p.handles (· = .audioOn address) turn = false)
    (h : (p.turn turn).machine.state = .connected address) :
    p.machine.state = .connected address ∨ p.FallsBackTo turn address := by
  rcases p.turn_obeys turn with same | ⟨pauses, message, rest, rfl, queued, obeys⟩
  · exact Or.inl (same.symm.trans h)
  by_cases before : p.machine.state = .connected address
  · exact Or.inl before
  right
  rcases RouteState.after_eq_connected (obeys.state.symm.trans h) with same | on | back
  · exact absurd same before
  · have reported : message = .audioOn address := audioOn_of_cue on
    exact absurd reported (of_decide_eq_false (handles_of_queued queued unreported))
  · exact ⟨pauses, message, rest, rfl, queued, back, before⟩

/-- Audio that is on a device still, or again, without a report of its coming: the state was the same all
along, or audio has fallen back to the device on the way. -/
theorem turns_connected {turns : List Turn} {address : Address}
    (start : p.machine.state = .connected address)
    (unreported : p.handlesNone (· = .audioOn address) turns = true)
    (h : (p.turns turns).machine.state = .connected address) :
    p.Stays turns ∨
      ∃ past turn, past ++ [turn] <+: turns ∧ (p.turns past).FallsBackTo turn address := by
  -- From the last turn too: audio was on the device before it, or has fallen back to it just then.
  induction turns using List.reverseRecOn with
  | nil => exact Or.inl p.stays_nil
  | append_singleton turns turn ih =>
    obtain ⟨earlier, last⟩ := handlesNone_concat.mp unreported
    rw [turns_concat] at h
    rcases turn_connected last h with before | back
    · rcases ih earlier before with stays | ⟨past, turn', way, back⟩
      · refine Or.inl ((p.stays_concat turns turn).mpr ⟨stays, ?_⟩)
        exact h.trans start.symm
      · exact Or.inr ⟨past, turn', way.trans (List.prefix_append _ _), back⟩
    · exact Or.inr ⟨turns, turn, List.prefix_rfl, back⟩

/-- The message is a teardown, or the begin of a transition that makes one. -/
def TearsDown (p : Phone) : Message → Prop
  | .disconnect => True
  | .beginTransition origin destination destinationActive _ =>
    .disconnectBluetooth ∈ (p.tracker.begin origin destination destinationActive).2.1
  | _ => False

theorem route_concluded (p : Phone) (ticket : Ticket) (id : TransitionId) :
    (p.concluded ticket id).route = p.route := by
  unfold concluded
  rw [route_clearStaleDeadline, route_of_view (view_answer _ _ _), route_track]

/-- A teardown releases audio and leaves the state to the loss that follows. -/
theorem TearsDown.route {message : Message} (h : p.TearsDown message) (pauses : Pauses) :
    (p.handled message pauses).route =
      ⟨p.machine.state, p.route.operations ++ [.audioReleased]⟩ := by
  let noted := p.record (.handled message)
  have same : noted.route = p.route := p.route_record rfl
  cases message with
  | disconnect =>
    rw [handled_route]
    refine (noted.disconnect_route pauses).trans ?_
    rw [same]
    rfl
  | beginTransition origin destination destinationActive ticket =>
    let actions := (p.tracker.begin origin destination destinationActive).2.1
    let begun := noted.prepared origin destination destinationActive
    let performed := ((performAll actions begun).finish pauses).phone
    obtain ⟨-, machine, route⟩ : begun.services = noted.services ∧ begun.machine = noted.machine ∧
        begun.route = noted.route := noted.begun_same origin destination destinationActive
    obtain ⟨unconnected, released⟩ : (∀ address, .connectBluetooth address ∉ actions) ∧
        actions.flatMap RouteAction.released = [.audioReleased] := TransitionPlan.between_released h
    have state : begun.machine.state = p.machine.state := congrArg Machine.state machine
    have ends : p.handled (.beginTransition origin destination destinationActive ticket) pauses =
        performed.concluded ticket p.tracker.nextId := by
      unfold handled
      rw [handle_begin_eq, Step.finish_bind]
      rfl
    calc (p.handled (.beginTransition origin destination destinationActive ticket) pauses).route
        = performed.route := by rw [ends, route_concluded]
      _ = ⟨begun.machine.state, begun.route.operations ++ actions.flatMap RouteAction.released⟩ :=
          begun.performAll_route pauses actions unconnected
      _ = ⟨p.machine.state, p.route.operations ++ [.audioReleased]⟩ := by
          rw [route, same, released, state]
  | _ => cases h

end Phone

/-- A connect to a device whose audio was torn down, and has not been reported again, requests audio exactly
if the device is not live. While the device is being connected, audio was requested on it since the teardown.
While it is connected, audio is told of as before: either the loss has yet to be handled, or audio has fallen
back to the device. -/
theorem torn_down_connect_asked_iff (p : Phone) (teardown request : Message) (rest left : List Message)
    (pauses last : Pauses) (between : List Turn) (live : Address) (accepted : Bool) :
    let torn := p.turn (.handle pauses)
    let q := torn.turns between
    let after := q.turn (.handle last)
    p.inbox = teardown :: rest → p.machine.state = .connected live → p.TearsDown teardown →
      torn.handlesNone (· = .audioOn live) between = true → q.inbox = request :: left →
      ({ q with inbox := left } : Phone).cue last request = .connect (some live) accepted →
      torn.route = ⟨.connected live, p.route.operations ++ [.audioReleased]⟩ ∧
        (Phone.AudioAsked q after live ↔ q.machine.state.liveAddress ≠ some live) ∧
        (q.machine.state = .connecting live → Phone.AudioAsked torn q live) ∧
        (torn.Stays between → q.machine.state = .connected live) ∧
        (q.machine.state = .connected live →
          after.route = q.route ∧ after.told = q.told ++ [.audioConnected live] ∧
            (torn.Stays between ∨ ∃ past turn, past ++ [turn] <+: between ∧
              (torn.turns past).FallsBackTo turn live)) := by
  intro torn q after queued hs tears unreported next cue
  let before : Phone := { p with inbox := rest }
  let asked : Phone := { q with inbox := left }
  have route : torn.route = ⟨.connected live, p.route.operations ++ [.audioReleased]⟩ := by
    have released : (before.handled teardown pauses).route =
        ⟨before.machine.state, before.route.operations ++ [.audioReleased]⟩ :=
      Phone.TearsDown.route (p := before) tears pauses
    change (p.turn (.handle pauses)).route = _
    rw [Phone.turn_handle queued, released, ← hs]
    rfl
  have state : torn.machine.state = .connected live := congrArg Route.state route
  have ends : after = asked.handled request last := Phone.turn_handle next last
  have unasked (hl : q.machine.state.liveAddress = some live) : after.route = q.route := by
    rw [ends]
    exact asked.handled_connect_live last cue hl
  refine ⟨route, ⟨?_, ?_⟩, ?_, ?_, ?_⟩
  · intro asks hl
    exact asks.ne (congrArg Route.operations (unasked hl))
  · intro dead
    have operations := (asked.handled_obeys last request).operations live accepted cue
    rw [ends]
    exact ⟨_, operations, RouteState.requested_mem_operationsFor dead⟩
  · apply Phone.turns_connecting
    rw [state]
    nofun
  · intro stays
    exact (stays between List.prefix_rfl).trans state
  · intro connected
    have told : after.told = q.told ++ [.audioConnected live] := by
      rw [ends]
      exact asked.told_handled_connect last cue connected
    have hl : q.machine.state.liveAddress = some live := by
      rw [connected]
      rfl
    exact ⟨unasked hl, told, Phone.turns_connected state unreported connected⟩

/-- A headset whose audio was torn down, and then lost, is connected again. -/
theorem torn_down_connect_asked_iff_after_loss :
    let headset : Address := ⟨10, 0, 0, 0, 0, 1⟩
    let pauses : Pauses := fun _ => ⟨true, []⟩
    let past : List Turn := [.outside (.post (.deviceAdded ⟨headset, .audioSink⟩ .classicHeadset)),
      .handle pauses,
      .outside (.platform { audio := { available := [⟨2, .bluetoothSco, some headset⟩] } }),
      .outside (.post (.audioOn headset)), .handle pauses, .outside (.post .disconnect)]
    let between : List Turn := [.outside (.post (.audioLost (some headset))), .handle pauses,
      .outside (.post (.connect (some headset)))]
    let p := (Phone.start {} [.classicHeadset]).turns past
    let torn := p.turn (.handle pauses)
    let q := torn.turns between
    let after := q.turn (.handle pauses)
    p.inbox = [.disconnect] ∧ p.machine.state = .connected headset ∧
      torn.handlesNone (· = .audioOn headset) between = true ∧ q.inbox = [.connect (some headset)] ∧
      ({ q with inbox := [] } : Phone).cue pauses (.connect (some headset)) =
        .connect (some headset) true ∧
      torn.route = ⟨.connected headset, p.route.operations ++ [.audioReleased]⟩ ∧
      (Phone.AudioAsked q after headset ↔ q.machine.state.liveAddress ≠ some headset) := by
  intro headset pauses past between p torn q after
  have queued : p.inbox = [.disconnect] := by decide
  have state : p.machine.state = .connected headset := by decide
  have unreported : torn.handlesNone (· = .audioOn headset) between = true := by decide
  have next : q.inbox = [.connect (some headset)] := by decide
  have cue : ({ q with inbox := [] } : Phone).cue pauses (.connect (some headset)) =
      .connect (some headset) true := by decide
  -- What is known of the phone is enough, so that nothing needs to be computed to apply the theorem.
  clear_value p
  obtain ⟨route, asked, -⟩ := torn_down_connect_asked_iff p .disconnect (.connect (some headset)) [] []
    pauses pauses between headset true queued state trivial unreported next cue
  exact ⟨queued, state, unreported, next, cue, route, asked⟩

/-- A headset is connected again before the loss that follows its teardown. Audio was released and is not
requested, though it is told of as connected. -/
theorem torn_down_headset_reaffirmed :
    let headset : Address := ⟨10, 0, 0, 0, 0, 1⟩
    let moves : List ThreadMove := [.start,
      .outside (.event (.event (.connectionChanged .classicHeadset ⟨headset, .audioSink⟩ .connected))),
      .handle, .outside (.platform { audio := { available := [⟨2, .bluetoothSco, some headset⟩] } }),
      .outside (.event (.event (.scoChanged headset .connected))), .handle,
      .outside (.post .disconnect), .handle]
    let torn := (Thread.fresh {} [.classicHeadset]).run moves
    let after := torn.run [.outside (.post (.connect (some headset))), .handle]
    torn.isIdle = true ∧ torn.inbox = [] ∧ torn.phone.machine.state = .connected headset ∧
      audioOperations torn.phone.journal = [.audioReleased] ∧
      after.isIdle = true ∧ after.inbox = [] ∧ after.phone.machine.state = .connected headset ∧
      audioOperations after.phone.journal = [.audioReleased] ∧
      Bench.routeEvents after.phone.journal =
        Bench.routeEvents torn.phone.journal ++ [.audioConnected headset] := by
  decide

end CallAudio

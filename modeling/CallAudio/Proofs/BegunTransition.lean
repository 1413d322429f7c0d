import CallAudio.Proofs.Automaton

/-! A transition to Bluetooth while its begin is handled. It waits for its own device, but the device that
was being connected until then can be taken for that one, and then the transition fails at once. -/
namespace CallAudio

namespace TransitionPlan

variable {active destinationActive : Bool} {origin destination : AudioRoute}
  {address : Option Address}

/-- A plan that connects to Bluetooth waits for audio and the communication device there, and for nothing
else than the speaker besides. -/
theorem between_tokens
    (h : .connectBluetooth address ∈ (between active origin destination destinationActive).actions) :
    ∃ speaker, (∀ token ∈ speaker, token.signal = .speakerOff) ∧
      (between active origin destination destinationActive).tokens = speaker ++
        [⟨.bluetoothAudioConnected, destination.address⟩,
          ⟨.communicationDeviceChanged, destination.address⟩] := by
  let speaker : List ConfirmationToken :=
    if origin.kind = .speaker ∧ destination.kind ≠ .speaker then [⟨.speakerOff, none⟩] else []
  have off : ∀ token ∈ speaker, token.signal = .speakerOff := by
    intro token mem
    simp only [speaker] at mem
    split at mem <;> simp at mem
    rw [mem]
  have entered (h : .connectBluetooth address ∈ (entering destination).actions) :
      (entering destination).tokens = [⟨.bluetoothAudioConnected, destination.address⟩,
        ⟨.communicationDeviceChanged, destination.address⟩] := by
    unfold entering
    rw [if_pos (entering_actions h).1]
  unfold between at h ⊢
  dsimp only at h ⊢
  rcases List.mem_append.mp h with left | arrives
  · split at left
    · exact absurd left leaving_actions
    · cases left
  · split at arrives
    · rename_i enters
      have active : destinationActive = true := (Bool.and_eq_true_iff.mp enters).1
      have bluetooth : destination.isBluetooth = true := (entering_actions arrives).1
      rw [if_pos enters, entered arrives, active]
      split
      · refine ⟨speaker, off, ?_⟩
        simp [leaving, bluetooth, speaker]
      · exact ⟨[], by simp, rfl⟩
    · cases arrives

end TransitionPlan

/-- The pending transition is the one with this number, and it waits for audio on its destination. -/
def TransitionTracker.AwaitsAudio (t : TransitionTracker) (id : TransitionId)
    (destination : AudioRoute) : Prop :=
  ∃ T speaker, t.pending = some T ∧ T.id = id ∧ (∀ token ∈ speaker, token.signal = .speakerOff) ∧
    T.outstanding = speaker ++ [⟨.bluetoothAudioConnected, destination.address⟩,
      ⟨.communicationDeviceChanged, destination.address⟩]

namespace TransitionTracker

variable {t : TransitionTracker} {id : TransitionId} {destination : AudioRoute}

theorem awaitsAudio_begin {origin : AudioRoute} {destinationActive : Bool}
    (h : .connectBluetooth destination.address ∈ (t.begin origin destination destinationActive).2.1) :
    (t.begin origin destination destinationActive).2.2.AwaitsAudio t.nextId destination := by
  obtain ⟨speaker, off, tokens⟩ := TransitionPlan.between_tokens h
  exact ⟨_, speaker, rfl, rfl, off, tokens⟩

namespace AwaitsAudio

variable (h : t.AwaitsAudio id destination)
include h

theorem pending_id : t.pending.map PendingTransition.id = some id := by
  obtain ⟨T, speaker, hp, hi, -⟩ := h
  rw [hp, Option.map_some, hi]

theorem settle_eq : t.settle = (none, t) := by
  obtain ⟨T, speaker, hp, -, -, tokens⟩ := h
  have some : T.outstanding.isEmpty = false := by simp [tokens]
  unfold settle
  simp [hp, some]

/-- It does not wait for audio to leave any device. -/
theorem confirm_eq (transition : Option TransitionId) (address : Option Address) :
    t.confirm ⟨transition, .bluetoothAudioDisconnected, address⟩ = (none, t) := by
  obtain ⟨T, speaker, hp, -, off, tokens⟩ := h
  have none : T.outstanding.findIdx?
      (·.isSatisfiedBy ⟨.bluetoothAudioDisconnected, address⟩) = none := by
    rw [List.findIdx?_eq_none_iff, tokens]
    intro token mem
    unfold ConfirmationToken.isSatisfiedBy
    rcases List.mem_append.mp mem with mem | mem
    · simp [off token mem]
    · simp at mem
      rcases mem with rfl | rfl <;> simp
  unfold confirm
  simp [hp, none]

theorem isAwaiting_eq (address : Address) :
    t.isAwaiting ⟨.bluetoothAudioConnected, some address⟩ =
      destination.address.all (· = address) := by
  obtain ⟨T, speaker, hp, -, off, tokens⟩ := h
  have none : speaker.any (·.isSatisfiedBy ⟨.bluetoothAudioConnected, some address⟩) = false := by
    rw [List.any_eq_false]
    intro token mem
    simp [ConfirmationToken.isSatisfiedBy, off token mem]
  unfold isAwaiting
  rw [hp, Option.any_some, tokens, List.any_append, none]
  cases destination.address <;> simp [ConfirmationToken.isSatisfiedBy]

end AwaitsAudio
end TransitionTracker

theorem transitionEvents_snoc (journal : List JournalEntry) {happening : Happening}
    (state : RouteState) (h : ∀ event, happening ≠ .announced event) :
    Bench.transitionEvents (journal ++ [⟨happening, state⟩]) = Bench.transitionEvents journal := by
  refine List.filterMap_append.trans ?_
  cases happening with
  | announced event => exact absurd rfl (h event)
  | _ => exact List.append_nil _

/-- The machine has no part in transitions. -/
theorem Via.transitions {p q : Phone} (h : Via MachineStride p q) :
    q.tracker = p.tracker ∧
      Bench.transitionEvents q.journal = Bench.transitionEvents p.journal := by
  refine h.keeps (P := fun v => v.tracker = p.tracker ∧
    Bench.transitionEvents v.journal = Bench.transitionEvents p.journal) ?_ ⟨rfl, rfl⟩
  rintro v w stride ⟨tracker, events⟩
  rw [← tracker, ← events]
  cases stride with
  | quiet hq =>
    cases hq with
    | post => exact ⟨rfl, rfl⟩
    | record happening quiet =>
      refine ⟨rfl, transitionEvents_snoc _ _ ?_⟩
      rintro event rfl
      cases quiet
  | off | connecting | connected | reaffirmed => exact ⟨rfl, transitionEvents_snoc _ _ nofun⟩

/-- The device being connected, if a transition to the destination takes its audio for what it waits
for. -/
def RouteState.takenFor (s : RouteState) (destination : AudioRoute) : Option Address :=
  match s with
  | .connecting attempted =>
    if destination.address.all (· = attempted) then some attempted else none
  | _ => none

namespace Phone

variable {p : Phone} {pauses : Pauses} {target : Address}

theorem startConnect_started {asked : Address} {attempt : Nat}
    (h : ((startConnect asked attempt p).finish pauses).value = .started target) :
    asked = target ∧
      ((startConnect asked attempt p).finish pauses).phone.machine.state = .connecting target := by
  rw [startConnect_eq, Job.finish_bind] at h ⊢
  generalize (requestAudio asked (p.isSwitching asked) p).finish pauses = answer at h ⊢
  obtain ⟨value, q, rest⟩ := answer
  cases value with
  | error failure => cases h
  | ok =>
    obtain rfl := ConnectOutcome.started.inj h
    exact ⟨rfl, congrArg Route.state ((q.tell (.audioConnecting asked)).route_moveTo _)⟩

/-- A connect that is started leaves the machine connecting to a device that was not live. -/
theorem connect_started {address : Option Address} {attempt : Nat}
    (h : ((connect address attempt p).finish pauses).value = .started target) :
    ((connect address attempt p).finish pauses).phone.machine.state = .connecting target ∧
      p.machine.state.liveAddress ≠ some target := by
  let q := p.requested attempt
  have same : q.machine.state = p.machine.state := (p.requested_same attempt).2.1
  rw [connect_finish] at h ⊢
  rw [← same]
  cases found : q.registry.connectTarget address q.machine.recent with
  | none =>
    rw [found] at h
    cases h
  | some asked =>
    rw [found] at h
    rcases q.machine.state.live_cases asked with connected | connecting | other
    · rw [connectEnds_connected connected] at h
      cases h
    · rw [connectEnds_connecting connecting] at h
      cases h
    · rw [connectEnds_other other] at h ⊢
      obtain ⟨rfl, state⟩ := startConnect_started h
      exact ⟨state, other⟩

/-- What a transition that waits for audio makes of a connect to another device. -/
theorem view_onStateChanged_connecting {id : TransitionId} {destination : AudioRoute}
    (h : p.tracker.AwaitsAudio id destination) (hs : p.machine.state = .connecting target)
    {before : RouteState} (other : before.liveAddress ≠ some target) :
    (p.onStateChanged before).view = match before.takenFor destination with
      | some attempted => p.view.tracked (·.fail (some attempted))
      | none => p.view := by
  have changed : before ≠ p.machine.state := by
    rw [hs]
    rintro rfl
    exact other rfl
  have entered (q : Phone) : q.confirmEntered (.connecting target) = q := rfl
  unfold onStateChanged
  dsimp only
  rw [if_neg changed, hs, entered]
  cases before with
  | audioOff => rfl
  | connected address =>
    -- Audio that leaves another device confirms nothing that is waited for.
    change (p.confirm .bluetoothAudioDisconnected address).view = p.view
    rcases p.confirm_view .bluetoothAudioDisconnected address with hv | ⟨id', hv⟩
    · exact hv
    · rw [hv]
      exact RouteView.tracked_of_unchanged (h.confirm_eq id' (some address))
  | connecting attempted =>
    -- An attempt that is given up counts as failed, if audio there would have been confirmed.
    have awaiting : p.tracker.isAwaiting ⟨.bluetoothAudioConnected, some attempted⟩ =
        destination.address.all (· = attempted) := h.isAwaiting_eq attempted
    change (if RouteState.connecting target ≠ .connected attempted ∧
        p.tracker.isAwaiting ⟨.bluetoothAudioConnected, some attempted⟩ = true then
      p.track fun t => t.fail (some attempted) else p).view =
        match (if destination.address.all (· = attempted) = true then some attempted else none) with
        | some attempted => p.view.tracked (·.fail (some attempted))
        | none => p.view
    rw [awaiting]
    by_cases taken : destination.address.all (· = attempted) = true
    · rw [if_pos ⟨nofun, taken⟩, if_pos taken]
      exact p.view_track _
    · rw [if_neg fun h => taken h.2, if_neg taken]

/-- The end of the begin adds nothing as long as the transition waits, or once it is over. -/
theorem view_concluded (h : p.tracker.pending = none ∨
      ∃ id destination, p.tracker.AwaitsAudio id destination) (ticket : Ticket) (id : TransitionId) :
    (p.concluded ticket id).view = p.view := by
  have settled : p.tracker.settle = (none, p.tracker) := by
    rcases h with none | ⟨id, destination, awaits⟩
    · unfold TransitionTracker.settle
      rw [none]
    · exact awaits.settle_eq
  have track : p.track TransitionTracker.settle = p := track_of_unchanged settled
  unfold concluded
  rw [clearStaleDeadline_view, view_answer, track]

/-- When the transition has begun and its connect has ended, it waits for audio, and nothing was announced
of any transition. -/
theorem performed_awaitsAudio {origin destination : AudioRoute} (ticket : Ticket)
    (connects : .connectBluetooth destination.address ∈ (p.tracker.begin origin destination true).2.1) :
    let message : Message := .beginTransition origin destination true ticket
    let begun := (p.record (.handled message)).prepared origin destination true
    let connected := (connect destination.address 0 begun).finish pauses
    let performed := connected.phone.record (.performed (.connectBluetooth destination.address))
    performed.tracker.AwaitsAudio p.tracker.nextId destination ∧
      Bench.transitionEvents performed.journal = Bench.transitionEvents p.journal := by
  intro message begun connected performed
  have view : begun.view = (p.view.recorded (.handled message)).begun origin destination true :=
    view_startDeadline _ _
  -- From the begin on only the machine acts, which is nothing to the transition.
  obtain ⟨tracker, events⟩ : performed.tracker = begun.tracker ∧
      Bench.transitionEvents performed.journal = Bench.transitionEvents begun.journal := by
    have way : Via MachineStride begun connected.phone :=
      (Step.Along.finish (begun.connect_along destination.address 0) pauses).1
    exact (way.trans (Via.record (fun _ _ => .quiet) _ rfl)).transitions
  constructor
  · have started : begun.tracker = (p.tracker.begin origin destination true).2.2 :=
      congrArg RouteView.tracker view
    rw [tracker, started]
    exact TransitionTracker.awaitsAudio_begin connects
  · have journal : begun.journal = (p.journal ++ [⟨.handled message, p.machine.state⟩]) ++
        [⟨.begun p.tracker.nextId (p.tracker.begin origin destination true).2.1, p.machine.state⟩] :=
      congrArg RouteView.journal view
    rw [events, journal, transitionEvents_snoc, transitionEvents_snoc] <;> nofun

/-- Once the machine is connecting to another device, the transition that waits for audio still does, or
the device that was being connected is taken for the destination, and then the transition has failed. -/
theorem concluded_pending_iff {id : TransitionId} {destination : AudioRoute}
    (awaits : p.tracker.AwaitsAudio id destination) (hs : p.machine.state = .connecting target)
    {before : RouteState} (other : before.liveAddress ≠ some target) (ticket : Ticket) :
    let after := (p.onStateChanged before).concluded ticket id
    (after.tracker.pending.map PendingTransition.id = some id ↔ before.takenFor destination = none) ∧
      Bench.transitionEvents after.journal = Bench.transitionEvents p.journal ++
        ((before.takenFor destination).map fun attempted => .switchToBaseline (some attempted)).toList := by
  intro after
  have changed := view_onStateChanged_connecting awaits hs other
  have told {v : RouteView} (h : after.view = v) :
      after.tracker = v.tracker ∧ after.journal = v.journal :=
    ⟨congrArg RouteView.tracker h, congrArg RouteView.journal h⟩
  cases taken : before.takenFor destination with
  | none =>
    rw [taken] at changed
    have still : (p.onStateChanged before).tracker = p.tracker := congrArg RouteView.tracker changed
    have kept : after.view = p.view :=
      (view_concluded (Or.inr ⟨_, _, still ▸ awaits⟩) ticket id).trans changed
    obtain ⟨tracker, journal⟩ := told kept
    rw [tracker, journal]
    exact ⟨iff_of_true awaits.pending_id rfl, (List.append_nil _).symm⟩
  | some attempted =>
    rw [taken] at changed
    obtain ⟨ended, heard⟩ := p.view.fail_tracked (some attempted)
    have failed : (p.onStateChanged before).tracker.pending = none :=
      (congrArg (fun v => v.tracker.pending) changed).trans ended
    have kept : after.view = p.view.tracked (·.fail (some attempted)) :=
      (view_concluded (Or.inl failed) ticket id).trans changed
    obtain ⟨tracker, journal⟩ := told kept
    obtain ⟨T, speaker, pending, -⟩ := awaits
    rw [tracker, journal, ended, heard T pending]
    exact ⟨iff_of_false nofun nofun, List.filterMap_append⟩

end Phone

/-- The begin of a transition to Bluetooth whose connect is started leaves the transition pending exactly
if the device that was being connected is not taken for the destination; if it is, the transition falls
back to the baseline at once. -/
theorem begun_transition_pending_iff (p : Phone) (origin destination : AudioRoute) (ticket : Ticket)
    (pauses : Pauses) (target : Address) :
    let message : Message := .beginTransition origin destination true ticket
    let begun := (p.record (.handled message)).prepared origin destination true
    let after := p.handled message pauses
    let taken := p.machine.state.takenFor destination
    .connectBluetooth destination.address ∈ (p.tracker.begin origin destination true).2.1 →
      ((Phone.connect destination.address 0 begun).finish pauses).value = .started target →
      (after.tracker.pending.map PendingTransition.id = some p.tracker.nextId ↔ taken = none) ∧
        Bench.transitionEvents after.journal = Bench.transitionEvents p.journal ++
          (taken.map fun attempted => .switchToBaseline (some attempted)).toList := by
  intro message begun after taken connects started
  let connected := (Phone.connect destination.address 0 begun).finish pauses
  let performed := connected.phone.record (.performed (.connectBluetooth destination.address))
  have value : connected.value = .started target := started
  have ends : after = (performed.onStateChanged p.machine.state).concluded ticket p.tracker.nextId := by
    have outcome : performed.onConnectOutcome connected.value = performed := by
      rw [value]
      rfl
    change p.handled message pauses = _
    rw [p.handled_begin_connect pauses ticket connects]
    exact congrArg (fun q => Phone.concluded _ _ (q.onStateChanged p.machine.state)) outcome
  have before : begun.machine.state = p.machine.state :=
    congrArg Machine.state ((p.record (.handled message)).begun_same origin destination true).2.1
  obtain ⟨state, other⟩ := Phone.connect_started started
  rw [before] at other
  obtain ⟨awaits, heard⟩ : performed.tracker.AwaitsAudio p.tracker.nextId destination ∧
      Bench.transitionEvents performed.journal = Bench.transitionEvents p.journal :=
    Phone.performed_awaitsAudio ticket connects
  have fate := Phone.concluded_pending_iff awaits state other ticket
  rw [heard] at fate
  rw [ends]
  exact fate

/-- A transition to the only headset there is, while audio is off. -/
theorem begun_transition_pending_iff_of_headset :
    let headset : Address := ⟨10, 0, 0, 0, 0, 1⟩
    let destination : AudioRoute := ⟨.bluetoothSco, none⟩
    let moves : List ThreadMove := [.start,
      .outside (.post (.deviceAdded ⟨headset, .audioSink⟩ .classicHeadset)), .handle]
    let p := ((Thread.fresh {} [.classicHeadset]).run moves).phone
    let pauses : Pauses := fun _ => ⟨true, []⟩
    let message : Message := .beginTransition ⟨.earpiece, none⟩ destination true 0
    let begun := (p.record (.handled message)).prepared ⟨.earpiece, none⟩ destination true
    let after := p.handled message pauses
    .connectBluetooth destination.address ∈ (p.tracker.begin ⟨.earpiece, none⟩ destination true).2.1 ∧
      ((Phone.connect destination.address 0 begun).finish pauses).value = .started headset ∧
      p.machine.state.takenFor destination = none ∧
      (after.tracker.pending.map PendingTransition.id = some p.tracker.nextId ↔
        p.machine.state.takenFor destination = none) := by
  intro headset destination moves p pauses message begun after
  have connects : .connectBluetooth destination.address ∈
      (p.tracker.begin ⟨.earpiece, none⟩ destination true).2.1 := by decide
  have started : ((Phone.connect destination.address 0 begun).finish pauses).value =
      .started headset := by decide
  have untaken : p.machine.state.takenFor destination = none := by decide
  -- What is known of the phone is enough, so that nothing needs to be computed to apply the theorem.
  clear_value p
  have main := begun_transition_pending_iff p ⟨.earpiece, none⟩ destination 0 pauses headset connects
    started
  exact ⟨connects, started, untaken, main.1⟩

/-- While one headset is being connected a transition to any device goes to another one, which is
active. Its connect is started, and the end of the earlier attempt fails it all the same. -/
theorem begun_transition_falls_back :
    let headset : Address := ⟨10, 0, 0, 0, 0, 1⟩
    let other : Address := ⟨10, 0, 0, 0, 0, 2⟩
    let moves : List ThreadMove := [.start,
      .outside (.post (.deviceAdded ⟨headset, .audioSink⟩ .classicHeadset)), .handle,
      .outside (.post (.deviceAdded ⟨other, .audioSink⟩ .classicHeadset)), .handle,
      .outside (.post (.connect (some headset))), .handle,
      .outside (.post (.activeDeviceChanged .classicHeadset (some other))), .handle,
      .outside (.post (.beginTransition ⟨.earpiece, none⟩ ⟨.bluetoothSco, none⟩ true 0))]
    let before := (Thread.fresh {} [.classicHeadset]).run moves
    let after := before.move .handle
    before.isIdle = true ∧ before.phone.machine.state = .connecting headset ∧
      after.isIdle = true ∧ after.phone.machine.state = .connecting other ∧
      Bench.routeEvents after.phone.journal =
        Bench.routeEvents before.phone.journal ++ [.audioConnecting other] ∧
      after.phone.tracker.pending = none ∧
      Bench.transitionEvents after.phone.journal = [.switchToBaseline (some headset)] := by
  decide

end CallAudio

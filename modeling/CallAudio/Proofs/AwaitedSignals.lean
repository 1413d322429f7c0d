import CallAudio.Proofs.AwaitedRetry
import CallAudio.Proofs.Signals

/-! What a transition waits for between messages. It is the plan of its begin without all that was given from
the begin on. What held before the begin counts only if the connect of the begin, or a later one, finds
audio on the device already. -/
namespace CallAudio

namespace Progress

variable {v : Progress} {T : PendingTransition}

/-- An attempt that is given up changes nothing for a transition that stays pending. -/
theorem gaveUp_of_pending {attempt : Option Address}
    (h : (v.gaveUp attempt).tracker.pending = some T) : v.gaveUp attempt = v := by
  cases attempt with
  | none => rfl
  | some attempted =>
    by_cases awaited : v.tracker.isAwaiting ⟨.bluetoothAudioConnected, some attempted⟩ = true
    · have failed : v.gaveUp (some attempted) = v.tracked (·.fail (some attempted)) := if_pos awaited
      have ended : (v.gaveUp (some attempted)).tracker.pending = none := by
        rw [failed]
        exact TransitionTracker.fail_pending _ _
      cases ended.symm.trans h
    · exact if_neg awaited

theorem gaveUp_of_unawaited
    (h : ∀ address, v.tracker.isAwaiting ⟨.bluetoothAudioConnected, some address⟩ = false)
    {attempt : Option Address} : v.gaveUp attempt = v := by
  cases attempt with
  | none => rfl
  | some attempted => exact if_neg (by rw [h]; exact Bool.false_ne_true)

theorem gaveUp_of_none (h : v.tracker.pending = none) {attempt : Option Address} :
    v.gaveUp attempt = v := by
  apply gaveUp_of_unawaited
  intro address
  unfold TransitionTracker.isAwaiting
  rw [h]
  rfl

theorem settle_of_pending (h : (v.tracked TransitionTracker.settle).tracker.pending = some T) :
    v.tracked TransitionTracker.settle = v := by
  rcases v.tracker.settle_cases with same | ⟨T', -, -, resolved⟩
  · exact tracked_of_unchanged same
  · have ended : (v.tracked TransitionTracker.settle).tracker.pending = none := by
      change v.tracker.settle.2.pending = none
      rw [resolved]
    cases ended.symm.trans h

/-- What a message orders besides a begin leaves alone whatever stays pending. -/
theorem ordered_of_pending {message : Message}
    (simple : ∀ origin destination destinationActive ticket,
      message ≠ .beginTransition origin destination destinationActive ticket)
    (h : (v.ordered message).tracker.pending = some T) : v.ordered message = v := by
  cases message with
  | beginTransition => exact absurd rfl (simple _ _ _ _)
  | transitionFailed failed =>
    have ended : (v.ordered (.transitionFailed failed)).tracker.pending = none :=
      TransitionTracker.fail_pending _ _
    cases ended.symm.trans h
  | transitionTimeout id =>
    rcases v.tracker.timeOut_cases id with same | ⟨T', -, -, failed⟩
    · have unchanged : v.tracked (·.timeOut id) = v := tracked_of_unchanged same
      exact unchanged
    · have ended : (v.ordered (.transitionTimeout id)).tracker.pending = none := by
        change (v.tracker.timeOut id).2.pending = none
        rw [failed]
        exact TransitionTracker.fail_pending _ _
      cases ended.symm.trans h
  | switchToBaseline exclude => cases h
  | _ => rfl

/-- What is pending once confirmations were heard was pending before. -/
theorem heard_of_pending {cs : List Confirmation} (h : (v.heard cs).tracker.pending = some T) :
    ∃ T', v.tracker.pending = some T' ∧ (T'.Distinct → T'.Remains cs T) := by
  cases hp : v.tracker.pending with
  | none =>
    rw [heard_of_none hp, hp] at h
    cases h
  | some T' =>
    refine ⟨T', rfl, fun distinct => ?_⟩
    rcases heard_cases hp distinct cs with resolves | ⟨-, T'', hp', remains⟩
    · cases resolves.ended.symm.trans h
    · obtain rfl := Option.some.inj (hp'.symm.trans h)
      exact remains

end Progress

/-- The transition that a begin makes pending, with all that its plan has to wait for. -/
def TransitionTracker.planned (t : TransitionTracker) (origin destination : AudioRoute)
    (destinationActive : Bool) : PendingTransition :=
  let plan := TransitionPlan.between t.active origin destination destinationActive
  ⟨t.nextId, origin, destination, destinationActive, plan.tokens, plan.communicationKind⟩

theorem TransitionTracker.planned_distinct (t : TransitionTracker) (origin destination : AudioRoute)
    (destinationActive : Bool) : (t.planned origin destination destinationActive).Distinct :=
  TransitionPlan.between_distinct _ _ _ _

def Message.isBegin : Message → Bool
  | .beginTransition .. => true
  | _ => false

theorem Message.ne_of_isBegin {message : Message} (h : message.isBegin = false)
    (origin destination : AudioRoute) (destinationActive : Bool) (ticket : Ticket) :
    message ≠ .beginTransition origin destination destinationActive ticket := by
  rintro rfl
  cases h

namespace Phone

/-- The confirmations that a turn gives. -/
def givenBy (p : Phone) : Turn → List Confirmation
  | .outside _ => []
  | .handle pauses =>
    match p.inbox with
    | [] => []
    | message :: rest => ({ p with inbox := rest } : Phone).given pauses message

/-- The confirmations that turns give one after the other. -/
def givenAlong (p : Phone) : List Turn → List Confirmation
  | [] => []
  | turn :: rest => p.givenBy turn ++ (p.turn turn).givenAlong rest

section
variable {p : Phone} {T : PendingTransition}

theorem givenBy_handle {message : Message} {rest : List Message} (h : p.inbox = message :: rest)
    (pauses : Pauses) :
    p.givenBy (.handle pauses) = ({ p with inbox := rest } : Phone).given pauses message := by
  simp only [givenBy, h]

theorem givenBy_handle_nil (h : p.inbox = []) (pauses : Pauses) : p.givenBy (.handle pauses) = [] := by
  simp only [givenBy, h]

/-- A transition that is pending after another message than a begin was pending before, and waits for what
the message does not give. -/
theorem handled_remains {message : Message} {pauses : Pauses}
    (simple : ∀ origin destination destinationActive ticket,
      message ≠ .beginTransition origin destination destinationActive ticket)
    (h : (p.handled message pauses).tracker.pending = some T) :
    ∃ T', p.tracker.pending = some T' ∧ (T'.Distinct → T'.Remains (p.given pauses message) T) := by
  have progress := p.progress_handled pauses simple
  have pending : (p.handled message pauses).progress.tracker.pending = some T := h
  rw [progress] at pending
  rw [Progress.gaveUp_of_pending pending] at pending
  obtain ⟨T', hp, remains⟩ := Progress.heard_of_pending pending
  rw [Progress.ordered_of_pending simple hp] at hp
  exact ⟨T', hp, remains⟩

/-- A transition that is pending after its begin waits for what its plan needs and the begin does not
give. -/
theorem handled_begin_remains {origin destination : AudioRoute} {destinationActive : Bool}
    {ticket : Ticket} {pauses : Pauses}
    (h : (p.handled (.beginTransition origin destination destinationActive ticket)
      pauses).tracker.pending = some T) :
    (p.tracker.planned origin destination destinationActive).Remains
      (p.given pauses (.beginTransition origin destination destinationActive ticket)) T := by
  let message : Message := .beginTransition origin destination destinationActive ticket
  let planned := p.tracker.planned origin destination destinationActive
  have begun : (p.progress.ordered message).tracker.pending = some planned := rfl
  have pending : (p.handled message pauses).progress.tracker.pending = some T := h
  by_cases connects : .connectBluetooth destination.address ∈
      (p.tracker.begin origin destination destinationActive).2.1
  · -- Whatever could end the transition has not, so only its confirmations count.
    have progress := p.progress_begin_connect pauses ticket connects
    rw [progress] at pending
    rw [Progress.settle_of_pending pending] at pending
    rw [Progress.gaveUp_of_pending pending] at pending
    obtain ⟨T', hp, remains⟩ := Progress.heard_of_pending pending
    obtain rfl := Option.some.inj (begun.symm.trans hp)
    exact remains (p.tracker.planned_distinct origin destination destinationActive)
  · rw [given_begin_quiet connects]
    rcases p.progress_begin_quiet pauses ticket connects with settled | failed
    · rw [settled] at pending
      rw [Progress.settle_of_pending pending] at pending
      obtain rfl := Option.some.inj (begun.symm.trans pending)
      exact .refl planned
    · rw [failed] at pending
      cases (TransitionTracker.fail_pending _ none).symm.trans pending

theorem turn_remains {turn : Turn} (simple : p.handles Message.isBegin turn = false)
    (h : (p.turn turn).tracker.pending = some T) :
    ∃ T', p.tracker.pending = some T' ∧ (T'.Distinct → T'.Remains (p.givenBy turn) T) := by
  cases turn with
  | outside o =>
    have same : (p.outside o).tracker = p.tracker := (p.outside_undisturbed o).tracker
    refine ⟨T, ?_, fun _ => .refl T⟩
    rw [← same]
    exact h
  | handle pauses =>
    cases hi : p.inbox with
    | nil =>
      rw [turn_handle_nil hi] at h
      rw [givenBy_handle_nil hi]
      exact ⟨T, h, fun _ => .refl T⟩
    | cons message rest =>
      rw [turn_handle hi] at h
      rw [givenBy_handle hi]
      have other : message.isBegin = false := handles_of_queued hi simple
      exact handled_remains (p := { p with inbox := rest }) (Message.ne_of_isBegin other) h

/-- A transition that is pending after turns without another begin was pending before them. -/
theorem turns_remains {turns : List Turn} (simple : p.handlesNone Message.isBegin turns = true)
    (h : (p.turns turns).tracker.pending = some T) :
    ∃ T', p.tracker.pending = some T' ∧ (T'.Distinct → T'.Remains (p.givenAlong turns) T) := by
  induction turns generalizing p with
  | nil => exact ⟨T, h, fun _ => .refl T⟩
  | cons turn rest ih =>
    obtain ⟨first, later⟩ := handlesNone_cons.mp simple
    obtain ⟨T₁, hp₁, remains₁⟩ := ih later h
    obtain ⟨T₀, hp₀, remains₀⟩ := turn_remains first hp₁
    refine ⟨T₀, hp₀, fun distinct => ?_⟩
    -- What the later turns leave is part of what the first one has left.
    have left := remains₀ distinct
    exact left.trans (remains₁ (left.distinct distinct))

/-- A transition that is pending some time after its begin waits for what its plan needs and was not given
since. -/
theorem begun_remains {origin destination : AudioRoute} {destinationActive : Bool} {ticket : Ticket}
    {rest : List Message} {pauses : Pauses} {later : List Turn}
    (queued : p.inbox = .beginTransition origin destination destinationActive ticket :: rest)
    (simple : (p.turn (.handle pauses)).handlesNone Message.isBegin later = true)
    (h : ((p.turn (.handle pauses)).turns later).tracker.pending = some T) :
    (p.tracker.planned origin destination destinationActive).Remains
      (p.givenAlong (.handle pauses :: later)) T := by
  obtain ⟨T₁, hp₁, remains⟩ := turns_remains simple h
  rw [turn_handle queued] at hp₁
  have first := handled_begin_remains hp₁
  rw [← givenBy_handle queued] at first
  exact first.trans (remains (first.distinct (p.tracker.planned_distinct _ _ _)))

end
end Phone

/-- A token that is confirmed for any transition is given to every one. -/
theorem ConfirmationToken.gives_untagged (token : ConfirmationToken) (id : TransitionId) :
    token.untagged.Gives id token :=
  ⟨nofun, by simp [untagged, isSatisfiedBy]⟩

theorem RouteState.mem_signalsTo {before : RouteState} {address : Address}
    (h : before ≠ .connected address) :
    ⟨.bluetoothAudioConnected, some address⟩ ∈ before.signalsTo (.connected address) := by
  have moved : before.signalsTo (.connected address) = _ := if_neg h
  rw [moved]
  exact List.mem_append_right _ List.mem_cons_self

namespace Phone

section
variable {p : Phone} {id : TransitionId} {address : Address}

theorem untagged_mem_given {pauses : Pauses} {message : Message} {token : ConfirmationToken}
    (h : token ∈ p.reaffirmed (p.cue pauses message) ∨
      token ∈ p.machine.state.signalsTo (p.machine.state.after (p.cue pauses message))) :
    token.untagged ∈ p.given pauses message :=
  List.mem_append_right _ (List.mem_map_of_mem (List.mem_append.mpr h))

/-- Audio that came to a device in a turn that does not tell the transition so was there before. -/
theorem turn_untold {turn : Turn}
    (untold : ∀ c ∈ p.givenBy turn, ¬c.Gives id ⟨.bluetoothAudioConnected, some address⟩)
    (h : (p.turn turn).machine.state = .connected address) : p.machine.state = .connected address := by
  rcases p.turn_obeys turn with same | ⟨pauses, message, rest, rfl, queued, obeys⟩
  · exact same.symm.trans h
  let q : Phone := { p with inbox := rest }
  have state : q.machine.state.after (q.cue pauses message) = .connected address :=
    obeys.state.symm.trans h
  rw [givenBy_handle queued] at untold
  by_contra other
  have told : ⟨.bluetoothAudioConnected, some address⟩ ∈
      q.machine.state.signalsTo (q.machine.state.after (q.cue pauses message)) := by
    rw [state]
    exact RouteState.mem_signalsTo other
  exact untold _ (untagged_mem_given (Or.inr told)) (ConfirmationToken.gives_untagged _ id)

/-- Audio that is on a device after turns that did not tell the transition so was there all along. -/
theorem turns_untold {turns : List Turn}
    (untold : ∀ c ∈ p.givenAlong turns, ¬c.Gives id ⟨.bluetoothAudioConnected, some address⟩)
    (h : (p.turns turns).machine.state = .connected address) :
    p.machine.state = .connected address ∧ p.Stays turns := by
  induction turns generalizing p with
  | nil => exact ⟨h, p.stays_nil⟩
  | cons turn rest ih =>
    obtain ⟨first, later⟩ := List.forall_mem_append.mp untold
    obtain ⟨next, stays⟩ := ih later h
    have state : p.machine.state = .connected address := turn_untold first next
    refine ⟨state, fun past way => ?_⟩
    cases past with
    | nil => rfl
    | cons turn' past =>
      obtain ⟨rfl, way'⟩ := List.cons_prefix_cons.mp way
      exact (stays past way').trans (next.trans state.symm)

end
end Phone

/-- While audio is on its device, a transition still waits for a signal of its plan exactly if nothing gave
that signal from the begin on. It waits for the audio itself only if the audio was there all along and the
begin connected to something else. -/
theorem signal_awaited_iff (p : Phone) (origin destination : AudioRoute) (destinationActive : Bool)
    (ticket : Ticket) (rest : List Message) (pauses : Pauses) (later : List Turn) (address : Address)
    (T : PendingTransition) :
    let message : Message := .beginTransition origin destination destinationActive ticket
    let plan := TransitionPlan.between p.tracker.active origin destination destinationActive
    let begun := p.turn (.handle pauses)
    let q := begun.turns later
    let given := p.givenAlong (.handle pauses :: later)
    p.inbox = message :: rest →
      begun.handlesNone Message.isBegin later = true → q.tracker.pending = some T →
      q.machine.state = .connected address →
      (∀ signal, ⟨signal, some address⟩ ∈ T.outstanding ↔ ⟨signal, some address⟩ ∈ plan.tokens ∧
          ∀ c ∈ given, ¬c.Gives T.id ⟨signal, some address⟩) ∧
        (⟨.bluetoothAudioConnected, some address⟩ ∈ T.outstanding →
          p.machine.state = .connected address ∧ p.Stays (.handle pauses :: later) ∧
            ∀ accepted, ({ p with inbox := rest } : Phone).cue pauses message ≠
              .connect (some address) accepted) := by
  intro message plan begun q given queued simple pending state
  have remains : (p.tracker.planned origin destination destinationActive).Remains given T :=
    Phone.begun_remains queued simple pending
  have awaited (signal : Signal) : ⟨signal, some address⟩ ∈ T.outstanding ↔
      ⟨signal, some address⟩ ∈ plan.tokens ∧ ∀ c ∈ given, ¬c.Gives T.id ⟨signal, some address⟩ := by
    rw [remains.id_eq]
    exact remains.awaited _
  refine ⟨awaited, fun audio => ?_⟩
  have untold := ((awaited .bluetoothAudioConnected).mp audio).2
  obtain ⟨before, stays⟩ := Phone.turns_untold untold state
  refine ⟨before, stays, fun accepted cue => ?_⟩
  -- A connect that finds audio on the device takes the signal from that.
  let r : Phone := { p with inbox := rest }
  have reaffirmed : ⟨.bluetoothAudioConnected, some address⟩ ∈ r.reaffirmed (r.cue pauses message) := by
    rw [cue]
    change _ ∈ if p.machine.state = .connected address then _ else []
    rw [if_pos before]
    exact List.mem_cons_self
  have mem : ConfirmationToken.untagged ⟨.bluetoothAudioConnected, some address⟩ ∈ given := by
    refine List.mem_append_left _ ?_
    rw [Phone.givenBy_handle queued]
    exact Phone.untagged_mem_given (Or.inl reaffirmed)
  exact untold _ mem (ConfirmationToken.gives_untagged _ _)

/-- Audio comes to the headset of a transition that was begun while the headset was being connected. -/
theorem signal_awaited_iff_on_headset :
    let headset : Address := ⟨10, 0, 0, 0, 0, 1⟩
    let route : AudioRoute := ⟨.bluetoothSco, some headset⟩
    let message : Message := .beginTransition ⟨.earpiece, none⟩ route true 0
    let pauses : Pauses := fun _ => ⟨true, []⟩
    let past : List Turn := [.outside (.post (.deviceAdded ⟨headset, .audioSink⟩ .classicHeadset)),
      .handle pauses, .outside (.post (.connect (some headset))), .handle pauses,
      .outside (.post message)]
    let later : List Turn := [.outside (.post (.audioOn headset)), .handle pauses]
    let p := (Phone.start {} [.classicHeadset]).turns past
    let q := (p.turn (.handle pauses)).turns later
    let T : PendingTransition := ⟨⟨0⟩, ⟨.earpiece, none⟩, route, true,
      [⟨.communicationDeviceChanged, some headset⟩], some .bluetoothSco⟩
    let given := p.givenAlong (.handle pauses :: later)
    p.inbox = [message] ∧ (p.turn (.handle pauses)).handlesNone Message.isBegin later = true ∧
      q.tracker.pending = some T ∧ q.machine.state = .connected headset ∧
      ∀ signal, ⟨signal, some headset⟩ ∈ T.outstanding ↔
        ⟨signal, some headset⟩ ∈
            (TransitionPlan.between p.tracker.active ⟨.earpiece, none⟩ route true).tokens ∧
          ∀ c ∈ given, ¬c.Gives T.id ⟨signal, some headset⟩ := by
  intro headset route message pauses past later p q T given
  have queued : p.inbox = [message] := by decide
  have simple : (p.turn (.handle pauses)).handlesNone Message.isBegin later = true := by decide
  have pending : q.tracker.pending = some T := by decide
  have state : q.machine.state = .connected headset := by decide
  -- What is known of the phone is enough, so that nothing needs to be computed to apply the theorem.
  clear_value p
  have main := signal_awaited_iff p ⟨.earpiece, none⟩ route true 0 [] pauses later headset T queued simple
    pending state
  exact ⟨queued, simple, pending, state, main.1⟩

/-- The headset becomes the communication device while it is being connected, and a transition to it is begun
only then. Its begin connects to what is being connected already, which gives nothing, and so the
transition goes on waiting for the communication device when audio has come to the headset. -/
theorem communication_device_awaited_in_vain :
    let headset : Address := ⟨10, 0, 0, 0, 0, 1⟩
    let route : AudioRoute := ⟨.bluetoothSco, some headset⟩
    let device : CommunicationDevice := ⟨2, .bluetoothSco, some headset⟩
    let moves : List ThreadMove := [.start,
      .outside (.event (.event (.connectionChanged .classicHeadset ⟨headset, .audioSink⟩ .connected))),
      .handle, .outside (.platform { audio := { available := [device] } }),
      .outside (.post (.connect (some headset))), .handle,
      .outside (.event (.communicationDeviceChanged (some device))), .handle,
      .outside (.post (.beginTransition ⟨.earpiece, none⟩ route true 0)), .handle,
      .outside (.event (.event (.scoChanged headset .connected))), .handle]
    let t := (Thread.fresh {} [.classicHeadset]).run moves
    t.isIdle = true ∧ t.inbox = [] ∧ t.phone.machine.state = .connected headset ∧
      t.phone.registry.communication = some (headset, .bluetoothSco) ∧
      t.phone.platform.audio.current = some device ∧
      t.phone.dispatcher.communicationKind = some .bluetoothSco ∧
      t.phone.tracker.pending = some ⟨⟨0⟩, ⟨.earpiece, none⟩, route, true,
        [⟨.communicationDeviceChanged, some headset⟩], some .bluetoothSco⟩ := by
  decide

end CallAudio
